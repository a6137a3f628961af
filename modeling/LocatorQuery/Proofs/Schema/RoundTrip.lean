import LocatorQuery.Schema.FromJson
import LocatorQuery.Proofs.Json.Tree
import LocatorQuery.Proofs.Outcome

/-! Values that are written by a schema are read back by it. A schema is lawful when writing and
reading agree on the names of fields, on what is left out and on what stands for it. -/
namespace LocatorQuery
open Json (Tree)
open Outcome

def Fields.names {α : Type} : Fields α → List String
  | .nil => []
  | .cons label _ rest => label.name :: rest.names

mutual

/-- Every value comes back from what is written for it. -/
def Schema.Lawful {α : Type} : Schema α → Prop
  | .word => True
  | .text => True
  | .flag => True
  | .choice options name => ∀ a, options.lookup (name a) = some a
  | .optional item => item.Lawful ∧ ∀ v, item.write v ≠ .null
  | .list item => item.Lawful
  | .record _ fields ofFields toFields => fields.Lawful ∧ ∀ v, ofFields (toFields v) = v
  | .json _ => False

/-- A value that is not written is the one of an absent field, and no field takes the members of
those behind it. -/
def Fields.Lawful {α : Type} : Fields α → Prop
  | .nil => True
  | .cons label schema rest =>
    (schema.Lawful ∧ rest.Lawful) ∧ (∀ v, label.hidden v = true → label.absent = some v) ∧
      ∀ name ∈ rest.names, label.accepts name = false

end

namespace Fields

section Members
variable {α β : Type} {origin : Origin} {label : Label α} {schema : Schema α} {rest : Fields β}

/-- A draft by its first field. -/
def pair (label : Label α) (schema : Schema α) (first : Option α) (draft : rest.Draft) :
    (Fields.cons label schema rest).Draft := (first, draft)

theorem put_pair_own {v : α} {t : Tree} (h : schema.read origin t = .ok v) (draft : rest.Draft) :
    put origin (.cons label schema rest) (pair label schema none draft) label.name t =
      .ok (pair label schema (some v) draft) := by
  have hname : label.accepts label.name = true := by simp [Label.accepts]
  rw [put]
  refine (if_pos hname).trans ?_
  change (schema.read origin t >>= fun v => .ok (pair label schema (some v) draft)) = _
  rw [h]
  rfl

theorem put_pair_other {name : String} (h : label.accepts name = false) (first : Option α)
    (draft : rest.Draft) (t : Tree) :
    put origin (.cons label schema rest) (pair label schema first draft) name t =
      (rest.put origin draft name t).map (pair label schema first) := by
  rw [put]
  refine (if_neg (by simp [h])).trans ?_
  change (rest.put origin draft name t >>= fun draft => .ok (pair label schema first draft)) = _
  cases rest.put origin draft name t <;> rfl

/-- A draft with the members of a document added. -/
def putAll (origin : Origin) (fs : Fields α) (draft : fs.Draft)
    (members : List (Option String × Tree)) : Except DataFault fs.Draft :=
  members.foldlM (fun draft (name, t) =>
    match name with
    | some name => fs.put origin draft name t
    | none => .error .illegible) draft

theorem putAll_ofMembers_cons (fs : Fields α) (draft : fs.Draft) (m : String × Json)
    (ms : List (String × Json)) :
    fs.putAll origin draft (Tree.ofMembers (m :: ms)) =
      fs.put origin draft m.1 (Tree.ofJson m.2) >>= fun draft =>
        fs.putAll origin draft (Tree.ofMembers ms) := rfl

/-- Members that a field does not take go to the fields behind it. -/
theorem putAll_pair {ms : List (String × Json)} (h : ∀ m ∈ ms, label.accepts m.1 = false)
    (first : Option α) (draft : rest.Draft) :
    putAll origin (.cons label schema rest) (pair label schema first draft) (Tree.ofMembers ms) =
      (rest.putAll origin draft (Tree.ofMembers ms)).map (pair label schema first) := by
  induction ms generalizing draft with
  | nil => rfl
  | cons m ms ih =>
    rw [List.forall_mem_cons] at h
    rw [putAll_ofMembers_cons, putAll_ofMembers_cons, put_pair_other h.1]
    cases rest.put origin draft m.1 (Tree.ofJson m.2) with
    | error e => rfl
    | ok draft => exact ih h.2 draft

theorem putAll_member {j : Json} {v : α} {ms : List (String × Json)} {draft : rest.Draft}
    (hown : schema.read origin (Tree.ofJson j) = .ok v)
    (hrest : rest.putAll origin rest.blank (Tree.ofMembers ms) = .ok draft)
    (hothers : ∀ m ∈ ms, label.accepts m.1 = false) :
    putAll origin (.cons label schema rest) (blank (.cons label schema rest))
        (Tree.ofMembers ((label.name, j) :: ms)) =
      .ok (pair label schema (some v) draft) := by
  have hblank : blank (.cons label schema rest) = pair label schema none rest.blank := rfl
  rw [hblank, putAll_ofMembers_cons, put_pair_own hown]
  exact (putAll_pair hothers _ _).trans (by rw [hrest]; rfl)

end Members

/-- The draft once all members are read that are written for some values. -/
def filled {α : Type} : (fs : Fields α) → α → fs.Draft
  | .nil, _ => ()
  | .cons label schema rest, v =>
    pair label schema (if label.hidden v.1 then none else some v.1) (rest.filled v.2)

theorem complete_filled {α : Type} : (fs : Fields α) → fs.Lawful → ∀ v : α,
    fs.complete (fs.filled v) = .ok v
  | .nil, _, _ => rfl
  | .cons label schema rest, h, v => by
    obtain ⟨⟨-, hrest⟩, hhidden, -⟩ := h
    have hfirst : (if label.hidden v.1 then none else some v.1).or label.absent = some v.1 := by
      split
      · next hv => exact hhidden v.1 hv
      · rfl
    rw [complete, filled, pair]
    dsimp only
    rw [hfirst, complete_filled rest hrest v.2]
    rfl

theorem mem_names_of_mem_write {α : Type} {m : String × Json} : (fs : Fields α) → ∀ v : α,
    m ∈ fs.write v → m.1 ∈ fs.names
  | .cons label _ rest, v, h => by
    rw [write] at h
    split at h
    · exact List.mem_cons_of_mem _ (mem_names_of_mem_write rest v.2 h)
    · rcases List.mem_cons.mp h with rfl | h
      · exact List.mem_cons_self
      · exact List.mem_cons_of_mem _ (mem_names_of_mem_write rest v.2 h)

/-- What is written for the fields is read, each member into its field. -/
theorem putAll_write_cons {α β : Type} {origin : Origin} {label : Label α} {schema : Schema α}
    {rest : Fields β} {v : α × β}
    (hown : schema.read origin (Tree.ofJson (schema.write v.1)) = .ok v.1)
    (hrest : rest.putAll origin rest.blank (Tree.ofMembers (rest.write v.2)) =
      .ok (rest.filled v.2))
    (hnames : ∀ name ∈ rest.names, label.accepts name = false) :
    putAll origin (.cons label schema rest) (blank (.cons label schema rest))
        (Tree.ofMembers (write (.cons label schema rest) v)) =
      .ok (filled (.cons label schema rest) v) := by
  have hothers : ∀ m ∈ rest.write v.2, label.accepts m.1 = false :=
    fun m hm => hnames m.1 (mem_names_of_mem_write rest v.2 hm)
  rw [write, filled]
  split
  · exact (putAll_pair hothers _ _).trans (by rw [hrest]; rfl)
  · exact putAll_member hown hrest hothers

end Fields

theorem Json.Tree.ofItems_eq_map (js : List Json) : Tree.ofItems js = js.map Tree.ofJson := by
  induction js with
  | nil => rfl
  | cons j js ih => rw [Tree.ofItems, ih, List.map_cons]

/-- One of the constants is read from its name. -/
theorem readChoice_name {α : Type} (origin : Origin) {options : List (String × α)} {name : String}
    {a : α} (h : options.lookup name = some a) :
    readChoice origin options (.string name) = .ok a := by
  rw [readChoice, choose, h]

theorem Json.Tree.ofJson_ne_null {j : Json} (h : j ≠ .null) : Tree.ofJson j ≠ .null := by
  cases j with
  | null => exact absurd rfl h
  | _ => nofun

namespace Schema

theorem read_word (origin : Origin) (n : UInt64) :
    Schema.word.read origin (Tree.ofJson (Schema.word.write n)) = .ok n := by
  rw [write, Json.natural, Tree.ofJson, read, if_pos (Int.natCast_nonneg _), Int.toNat_natCast, UInt64.ofNat_toNat]

theorem read_optional {α : Type} {origin : Origin} {item : Schema α} {t : Tree} (h : t ≠ .null) :
    (Schema.optional item).read origin t = (item.read origin t).map some := by
  rw [read]
  · cases item.read origin t <;> rfl
  · exact h

theorem read_list {α : Type} {origin : Origin} {item : Schema α} {js : List Json} {vs : List α}
    (h : List.Forall₂ (fun j v => item.read origin (Tree.ofJson j) = .ok v) js vs) :
    (Schema.list item).read origin (Tree.ofJson (.array js)) = .ok vs := by
  have hitems : (js.map Tree.ofJson).mapM (item.read origin) = .ok vs := by
    rw [mapM_eq_ok_iff, List.forall₂_map_left_iff]
    exact h
  rw [Tree.ofJson, read, Json.Tree.ofItems_eq_map, hitems]
  rfl

theorem read_record {α β : Type} {origin : Origin} {name : String} {fields : Fields β}
    {ofFields : β → α} {toFields : α → β} {v : α} {draft : fields.Draft}
    {ms : List (String × Json)}
    (hdraft : fields.putAll origin fields.blank (Tree.ofMembers ms) = .ok draft)
    (hvalue : fields.complete draft = .ok (toFields v)) (h : ofFields (toFields v) = v) :
    (Schema.record name fields ofFields toFields).read origin (Tree.ofJson (.object ms)) =
      .ok v := by
  rw [Tree.ofJson, read]
  change (fields.putAll origin fields.blank (Tree.ofMembers ms) >>= fun draft =>
    fields.complete draft >>= fun v => .ok (ofFields v)) = _
  rw [hdraft]
  change (fields.complete draft >>= fun v => .ok (ofFields v)) = _
  rw [hvalue]
  exact congrArg Except.ok h

end Schema

mutual

theorem Schema.read_write {α : Type} (origin : Origin) : (s : Schema α) → s.Lawful → ∀ v : α,
    s.read origin (Tree.ofJson (s.write v)) = .ok v
  | .word, _, n => Schema.read_word origin n
  | .text, _, _ => rfl
  | .flag, _, _ => rfl
  | .choice _ _, h, a => readChoice_name origin (h a)
  | .optional item, h, v => by
    obtain ⟨hitem, hnull⟩ := h
    cases v with
    | none => rfl
    | some v =>
      change (Schema.optional item).read origin (Tree.ofJson (item.write v)) = _
      rw [Schema.read_optional (Json.Tree.ofJson_ne_null (hnull v)), item.read_write origin hitem v]
      rfl
  | .list item, h, vs => by
    refine Schema.read_list ?_
    rw [List.forall₂_map_left_iff, List.forall₂_same]
    exact fun v _ => item.read_write origin h v
  | .record _ fields _ toFields, h, v => by
    obtain ⟨hfields, hvalue⟩ := h
    exact Schema.read_record (fields.putAll_write origin hfields (toFields v))
      (fields.complete_filled hfields (toFields v)) (hvalue v)
  | .json _, h, _ => False.elim h

theorem Fields.putAll_write {α : Type} (origin : Origin) : (fs : Fields α) → fs.Lawful → ∀ v : α,
    fs.putAll origin fs.blank (Tree.ofMembers (fs.write v)) = .ok (fs.filled v)
  | .nil, _, _ => rfl
  | .cons _ schema rest, h, v => by
    obtain ⟨⟨hschema, hrest⟩, -, hnames⟩ := h
    exact Fields.putAll_write_cons (schema.read_write origin hschema v.1)
      (rest.putAll_write origin hrest v.2) hnames

end

mutual

/-- Only integers of 64 bits are written. -/
theorem Schema.isIntegral_write {α : Type} : (s : Schema α) → s.Lawful → ∀ v : α,
    (s.write v).IsIntegral
  | .word, _, n => by
    have hn := n.toNat_lt
    exact ⟨by unfold Text.signedBound; omega, by unfold Text.unsignedBound; omega⟩
  | .text, _, _ => True.intro
  | .flag, _, _ => True.intro
  | .choice _ _, _, _ => True.intro
  | .optional item, h, v => by
    cases v with
    | none => exact True.intro
    | some v => exact item.isIntegral_write h.1 v
  | .list item, h, vs => by
    change Json.IntegralItems (vs.map item.write)
    induction vs with
    | nil => exact True.intro
    | cons v vs ih => exact ⟨item.isIntegral_write h v, ih⟩
  | .record _ fields _ toFields, h, v => fields.integralMembers_write h.1 (toFields v)
  | .json _, h, _ => False.elim h

theorem Fields.integralMembers_write {α : Type} : (fs : Fields α) → fs.Lawful → ∀ v : α,
    Json.IntegralMembers (fs.write v)
  | .nil, _, _ => True.intro
  | .cons _ schema rest, h, v => by
    rw [Fields.write]
    split
    · exact rest.integralMembers_write h.1.2 v.2
    · exact ⟨schema.isIntegral_write h.1.1 v.1, rest.integralMembers_write h.1.2 v.2⟩

end

/-- A text holds the value of its tree. -/
theorem Schema.ofText_of_tree {α : Type} {s : Schema α} {text : String} {t : Tree} {v : α}
    (ht : Tree.ofText text = (t, true)) (hread : s.read .text t = .ok v) : s.ofText text = .ok v := by
  rw [ofText, ht]
  dsimp only
  rw [hread]
  rfl

/-- The text of a value, in either layout, holds that value. -/
theorem Schema.ofText_write {α : Type} {s : Schema α} (h : s.Lawful) (v : α) :
    s.ofText (s.write v).compact = .ok v ∧ s.ofText (s.write v).indented = .ok v := by
  have hread : s.read .text (Json.reread (s.write v)) = .ok v := by
    rw [Json.reread_of_isIntegral (s.isIntegral_write h v)]
    exact s.read_write .text h v
  exact ⟨ofText_of_tree (Tree.ofText_compact _) hread, ofText_of_tree (Tree.ofText_indented _) hread⟩

end LocatorQuery
