import LocatorQuery.Proofs.Locator.Reading
import LocatorQuery.Proofs.Locator.Grammar

/-! The locators that can arise: one that is read from a text, made of pairs or empty, then changed by
any sequence of operations. All names in them are names of the grammar. -/
namespace LocatorQuery.Locator
open Outcome

/-- The changes that a caller can make to a locator. -/
inductive Operation
  | add (name value : String)
  | erase (name : String)
  | lone
  | value (name : String)
  | values (name : String)
  | natural (name : String)
  | integer (name : String)
  | flag (name : String)
  deriving DecidableEq, Repr

/-- A refused addition changes nothing; a failed conversion leaves its value taken. -/
def Operation.apply (l : Locator) : Operation → Locator
  | .add name v =>
    match l.add name v with
    | .ok l' => l'
    | .error _ => l
  | .erase name => l.erase name
  | .lone => (Reading.lone.run l).2
  | .value name => ((Reading.value name).run l).2
  | .values name => ((Reading.values name).run l).2
  | .natural name => ((Reading.natural name).run l).2
  | .integer name => ((Reading.integer name).run l).2
  | .flag name => ((Reading.flag name).run l).2

def run (ops : List Operation) (l : Locator) : Locator := ops.foldl Operation.apply l

/-- What a history starts from. -/
inductive Origin : Locator → Prop
  | parse {text : String} {l : Locator} (h : parse text = .ok l) : Origin l
  | ofPairs {pairs : List (String × String)} {l : Locator} (h : ofPairs pairs = .ok l) : Origin l
  | empty : Origin .empty

def Named (l : Locator) : Prop := ∀ p ∈ l.pairs, Dimension.isName p.1.toList = true

theorem add_eq_ok_iff {l l' : Locator} {name value : String} :
    l.add name value = .ok l' ↔ Dimension.isName name.toList = true ∧
      ∃ ds, l = .dimensions ds ∧ l' = .dimensions (ds ++ [({ name, value } : Dimension)]) := by
  unfold add
  constructor
  · intro h
    split at h
    · next hname =>
      cases l with
      | single v t => cases h
      | dimensions ds =>
        cases h
        exact ⟨hname, ds, rfl, rfl⟩
    · cases h
  · rintro ⟨hname, ds, rfl, rfl⟩
    rw [if_pos hname]

/-- The dimensions of some names and values, with nothing taken. -/
def ofList (pairs : List (String × String)) : Locator :=
  .dimensions (pairs.map fun p => { name := p.1, value := p.2 })

theorem foldlM_add_eq {pairs : List (String × String)}
    (names : ∀ p ∈ pairs, Dimension.isName p.1.toList = true) (ds : List Dimension) :
    pairs.foldlM (fun l (name, value) => l.add name value) (dimensions ds) =
      .ok (.dimensions (ds ++ pairs.map fun p => { name := p.1, value := p.2 })) := by
  induction pairs generalizing ds with
  | nil =>
    rw [List.map_nil, List.append_nil]
    rfl
  | cons p pairs ih =>
    rw [List.forall_mem_cons] at names
    have hadd : (dimensions ds).add p.1 p.2 =
        .ok (.dimensions (ds ++ [{ name := p.1, value := p.2 }])) :=
      add_eq_ok_iff.mpr ⟨names.1, ds, rfl, rfl⟩
    have hrest := ih names.2 (ds ++ [{ name := p.1, value := p.2 }])
    rw [List.append_assoc] at hrest
    rw [List.foldlM_cons]
    change (dimensions ds).add p.1 p.2 >>= _ = _
    rw [hadd]
    exact hrest

theorem ofPairs_eq {pairs : List (String × String)}
    (names : ∀ p ∈ pairs, Dimension.isName p.1.toList = true) :
    ofPairs pairs = .ok (ofList pairs) :=
  foldlM_add_eq names []

theorem Named.add {l l' : Locator} {name value : String} (hl : Named l)
    (h : l.add name value = .ok l') : Named l' := by
  obtain ⟨hname, ds, rfl, rfl⟩ := add_eq_ok_iff.mp h
  intro p hp
  simp only [pairs, items, List.map_append, List.map_cons, List.map_nil, List.mem_append,
    List.mem_singleton] at hp
  rcases hp with hp | rfl
  · exact hl p hp
  · exact hname

theorem Named.erase {l : Locator} (hl : Named l) (name : String) : Named (l.erase name) := by
  cases l with
  | single v t => exact hl
  | dimensions ds =>
    intro p hp
    obtain ⟨d, hd, rfl⟩ := List.mem_map.mp hp
    exact hl _ (List.mem_map_of_mem (List.mem_of_mem_filter hd))

theorem Named.take {l : Locator} (hl : Named l) (name : String) : Named (l.take name).2 := by
  rw [Named, pairs_take]
  exact hl

theorem Named.takeAll {l : Locator} (hl : Named l) (name : String) :
    Named (l.takeAll name).2 := by
  rw [Named, pairs_takeAll]
  exact hl

theorem named_empty : Named empty := nofun

theorem isName_of_writes {parts : List (List Char)} {items : List Dimension}
    (h : List.Forall₂ Dimension.Writes parts items) :
    ∀ d ∈ items, Dimension.isName d.name.toList = true := by
  induction h with
  | nil => exact nofun
  | cons hd _ ih =>
    obtain ⟨raw, -, hname, -⟩ := hd
    rw [List.forall_mem_cons]
    exact ⟨Dimension.isName_iff.mpr hname, ih⟩

theorem named_of_parse {text : String} {l : Locator} (h : parse text = .ok l) : Named l := by
  rcases writes_of_parse h with ⟨ds, rfl, parts, -, -, hw⟩ | ⟨value, rfl, -⟩
  · intro p hp
    obtain ⟨d, hd, rfl⟩ := List.mem_map.mp hp
    exact isName_of_writes hw d hd
  · exact nofun

/-- What every addition keeps holds of a locator made of pairs. -/
theorem foldlM_add_induction {P : Locator → Prop}
    (step : ∀ l l' name value, P l → l.add name value = .ok l' → P l')
    {pairs : List (String × String)} {l l' : Locator} (hl : P l)
    (h : pairs.foldlM (fun l (name, value) => l.add name value) l = .ok l') : P l' := by
  induction pairs generalizing l with
  | nil =>
    cases h
    exact hl
  | cons p pairs ih =>
    rw [List.foldlM_cons, bind_eq_ok_iff] at h
    obtain ⟨m, hm, h⟩ := h
    exact ih (step l m p.1 p.2 hl hm) h

theorem Origin.named {l : Locator} (h : Origin l) : Named l := by
  cases h with
  | parse h => exact named_of_parse h
  | ofPairs h => exact foldlM_add_induction (fun _ _ _ _ => Named.add) named_empty h
  | empty => exact named_empty

/-- One operation keeps the names valid. -/
theorem Named.apply {l : Locator} (hl : Named l) (op : Operation) : Named (op.apply l) := by
  cases op with
  | add name value =>
    rw [Operation.apply]
    cases h : l.add name value with
    | ok l' => exact hl.add h
    | error e => exact hl
  | erase name => exact Named.erase hl name
  | lone =>
    rw [Operation.apply, Reading.run_lone]
    cases l with
    | single v t => exact nofun
    | dimensions ds => exact hl
  | value name =>
    rw [Operation.apply, Reading.run_value]
    exact hl.take name
  | values name =>
    rw [Operation.apply, Reading.run_values]
    exact hl.takeAll name
  | natural name =>
    rw [Operation.apply, Reading.run_natural]
    exact hl.take name
  | integer name =>
    rw [Operation.apply, Reading.run_integer]
    exact hl.take name
  | flag name =>
    rw [Operation.apply, Reading.run_flag]
    exact hl.take name

/-- So does every history. -/
theorem Named.run {l : Locator} (hl : Named l) (ops : List Operation) :
    Named (Locator.run ops l) := by
  induction ops generalizing l with
  | nil => exact hl
  | cons op ops ih => exact ih (hl.apply op)

end LocatorQuery.Locator
