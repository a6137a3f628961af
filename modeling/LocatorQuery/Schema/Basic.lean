import LocatorQuery.Json.Basic

/-! Schemas: how the values of a type are laid out in a document. One schema of a type serves to
write it and to read it from each format. -/
namespace LocatorQuery

/-- What a field is called, and when it need not be there. -/
structure Label (α : Type) where
  name : String
  /-- Another name that readers accept. -/
  otherName : Option String := none
  /-- The value of a field that is not there. -/
  absent : Option α := none
  /-- Whether it may also be left out at the end of a record given as a list. -/
  omissible : Bool := true
  /-- Values that are not written. -/
  hidden : α → Bool := fun _ => false

def Label.accepts {α : Type} (l : Label α) (name : String) : Bool :=
  l.name == name || l.otherName == some name

mutual

inductive Schema : Type → Type 1
  | word : Schema UInt64
  | text : Schema String
  | flag : Schema Bool
  /-- One of some constants, each given by its name. -/
  | choice {α : Type} (options : List (String × α)) (name : α → String) : Schema α
  /-- A value or null. -/
  | optional {α : Type} (item : Schema α) : Schema (Option α)
  | list {α : Type} (item : Schema α) : Schema (List α)
  /-- A structure, taken apart into its fields and put together from them. -/
  | record {α β : Type} (name : String) (fields : Fields β) (ofFields : β → α) (toFields : α → β) :
      Schema α
  /-- Any value of at most so many levels. -/
  | json (levels : Nat) : Schema Json

/-- The fields of a record in their order. -/
inductive Fields : Type → Type 1
  | nil : Fields Unit
  | cons {α β : Type} (label : Label α) (schema : Schema α) (rest : Fields β) : Fields (α × β)

end

namespace Fields

def size {α : Type} : Fields α → Nat
  | nil => 0
  | cons _ _ rest => rest.size + 1

/-- The values found so far while the members of a record are read. -/
def Draft {α : Type} : Fields α → Type
  | nil => Unit
  | cons (α := β) _ _ rest => Option β × rest.Draft

def blank {α : Type} : (fs : Fields α) → fs.Draft
  | nil => ()
  | cons _ _ rest => (none, rest.blank)

end Fields

mutual

/-- The value as JSON, the members in the order of the fields. -/
def Schema.write {α : Type} : Schema α → α → Json
  | .word, n => .natural n.toNat
  | .text, s => .string s
  | .flag, b => .bool b
  | .choice _ name, a => .string (name a)
  | .optional item, v => .ofOption (v.map item.write)
  | .list item, vs => .array (vs.map item.write)
  | .record _ fields _ toFields, v => .object (fields.write (toFields v))
  | .json _, j => j

def Fields.write {α : Type} : Fields α → α → List (String × Json)
  | .nil, _ => []
  | .cons label schema rest, v =>
    if label.hidden v.1 then rest.write v.2
    else (label.name, schema.write v.1) :: rest.write v.2

end

end LocatorQuery
