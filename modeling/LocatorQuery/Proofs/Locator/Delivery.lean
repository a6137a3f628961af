import LocatorQuery.Proofs.FirstSeen
import LocatorQuery.Proofs.Locator.RoundTrip

/-! Delivery: what a history of reads and additions takes out of a locator. Under each name the values
come out once each, in the order of the locator, and the reports on taken and untaken names are exact. -/
namespace LocatorQuery

namespace Dimension

/-- Untaken names that are first seen in some order have their first open dimensions in that order. -/
theorem findIdx_isOpen_lt {ds : List Dimension} {a b : String}
    (h : ((ds.filter fun d => !d.taken).map name).idxOf a <
      ((ds.filter fun d => !d.taken).map name).idxOf b) :
    ds.findIdx (isOpen a) < ds.findIdx (isOpen b) := by
  induction ds with
  | nil => exact absurd h (Nat.lt_irrefl _)
  | cons d ds ih =>
    rw [List.findIdx_cons, List.findIdx_cons]
    cases ht : d.taken with
    | true =>
      have hclosed : ∀ n, d.isOpen n = false := fun n => by rw [isOpen, ht]; rfl
      rw [List.filter_cons_of_neg (by simp [ht])] at h
      rw [hclosed a, hclosed b]
      exact Nat.succ_lt_succ (ih h)
    | false =>
      have hopen : ∀ n, d.isOpen n = (d.name == n) := fun n => by rw [isOpen, ht]; rfl
      rw [List.filter_cons_of_pos (by simp [ht]), List.map_cons, List.idxOf_cons,
        List.idxOf_cons] at h
      rw [hopen a, hopen b]
      cases ha : d.name == a with
      | true =>
        cases hb : d.name == b with
        | true => simp [ha, hb] at h
        | false => exact Nat.succ_pos _
      | false =>
        cases hb : d.name == b with
        | true => simp [hb] at h
        | false =>
          simp only [ha, hb, cond_false, Nat.add_lt_add_iff_right] at h
          exact Nat.succ_lt_succ (ih h)

end Dimension

namespace Locator
open Dimension

theorem untaken_empty : empty.Untaken := nofun

theorem untaken_of_writes {parts : List (List Char)} {items : List Dimension}
    (h : List.Forall₂ Dimension.Writes parts items) : ∀ d ∈ items, d.taken = false := by
  induction h with
  | nil => exact nofun
  | cons hd _ ih =>
    obtain ⟨raw, -, -, -, htaken⟩ := hd
    rw [List.forall_mem_cons]
    exact ⟨htaken, ih⟩

theorem Untaken.add {l l' : Locator} {name value : String} (hl : l.Untaken)
    (h : l.add name value = .ok l') : l'.Untaken := by
  obtain ⟨-, ds, rfl, rfl⟩ := add_eq_ok_iff.mp h
  intro d hd
  rcases List.mem_append.mp hd with hd | hd
  · exact hl d hd
  · rw [List.mem_singleton.mp hd]

theorem Origin.untaken {l : Locator} (h : Origin l) : l.Untaken := by
  cases h with
  | parse h =>
    rcases writes_of_parse h with ⟨ds, rfl, parts, -, -, hw⟩ | ⟨value, rfl, -⟩
    · exact untaken_of_writes hw
    · exact nofun
  | ofPairs h => exact foldlM_add_induction (fun _ _ _ _ => Untaken.add) untaken_empty h
  | empty => exact untaken_empty

/-- What an operation hands out under a name. A getter that converts has its value before it fails. -/
def Operation.handed (name : String) (l : Locator) : Operation → List String
  | .value n | .natural n | .integer n | .flag n => if name = n then (l.take n).1.toList else []
  | .values n => if name = n then (l.takeAll n).1 else []
  | .add .. | .erase _ | .lone => []

/-- All that a history hands out under a name, in the order of the calls. -/
def handedOut (name : String) : List Operation → Locator → List String
  | [], _ => []
  | op :: ops, l => op.handed name l ++ handedOut name ops (op.apply l)

/-- A read of one value takes the first open one, whether or not it is one that converts, and a read
of all values takes all open ones. -/
theorem handed_eq (name : String) (l : Locator) :
    (∀ op ∈ [Operation.value name, .natural name, .integer name, .flag name],
      op.handed name l = (l.openValues name).head?.toList) ∧
    (Operation.values name).handed name l = l.openValues name := by
  simp only [List.forall_mem_cons, Operation.handed, if_true, (take_eq name l).1,
    (takeAll_eq name l).1, true_and, and_true]
  exact List.forall_mem_nil _

/-- What a getter answers is what it hands out, converted if it converts. -/
theorem answer_eq_handed (name : String) (l : Locator) :
    (Reading.value name).answer l = .ok ((Operation.value name).handed name l).head? ∧
    (Reading.values name).answer l = .ok ((Operation.values name).handed name l) ∧
    (Reading.natural name).answer l =
      Reading.ofFirst (Reading.naturalOf name) ((Operation.natural name).handed name l) ∧
    (Reading.integer name).answer l =
      Reading.ofFirst (Reading.integerOf name) ((Operation.integer name).handed name l) ∧
    (Reading.flag name).answer l =
      Reading.ofFirst (flag? name) ((Operation.flag name).handed name l) := by
  obtain ⟨hone, hall⟩ := handed_eq name l
  simp only [List.forall_mem_cons] at hone
  obtain ⟨hvalue, hnatural, hinteger, hflag, -⟩ := hone
  rw [hvalue, hall, hnatural, hinteger, hflag]
  simp only [Reading.answer, Reading.run_value, Reading.run_values, Reading.run_natural,
    Reading.run_integer, Reading.run_flag]
  cases l.openValues name with
  | nil => exact ⟨rfl, trivial, rfl, rfl, rfl⟩
  | cons v vs => exact ⟨rfl, trivial, rfl, rfl, rfl⟩

/-- An operation that takes values and neither adds nor drops any. -/
def Operation.IsRead : Operation → Prop
  | .add .. | .erase _ => False
  | .lone | .value _ | .values _ | .natural _ | .integer _ | .flag _ => True

/-- The values handed out so far and those still open make up all values of a name. -/
def Divides (name : String) (handed : List String) (l : Locator) : Prop :=
  handed ++ l.openValues name = l.valuesOf name

theorem divides_of_untaken {l : Locator} (h : l.Untaken) (name : String) : Divides name [] l := by
  rw [Divides, openValues_of_untaken h, List.nil_append]

theorem valuesOf_eq_of_pairs {l l' : Locator} (h : l.pairs = l'.pairs) (name : String) :
    l.valuesOf name = l'.valuesOf name := by
  have hvalues : ∀ l : Locator,
      l.valuesOf name = (l.pairs.filter fun p => p.1 == name).map Prod.snd := by
    intro l
    rw [valuesOf, pairs, List.filter_map, List.map_map]
    rfl
  rw [hvalues, hvalues, h]

theorem Divides.take {name : String} {handed : List String} {l : Locator}
    (h : Divides name handed l) (other : String) :
    Divides name (handed ++ if name = other then (l.take other).1.toList else [])
      (l.take other).2 := by
  rw [Divides, valuesOf_eq_of_pairs (pairs_take other l), ← h, openValues_take, (take_eq other l).1]
  split
  · next he =>
    subst he
    rw [List.append_assoc]
    cases l.openValues name with
    | nil => rfl
    | cons v vs => rfl
  · rw [List.append_nil]

theorem Divides.takeAll {name : String} {handed : List String} {l : Locator}
    (h : Divides name handed l) (other : String) :
    Divides name (handed ++ if name = other then (l.takeAll other).1 else [])
      (l.takeAll other).2 := by
  rw [Divides, valuesOf_eq_of_pairs (pairs_takeAll other l), ← h, openValues_takeAll,
    (takeAll_eq other l).1]
  split
  · next he => rw [he, List.append_nil]
  · rw [List.append_nil]

theorem Divides.add {name : String} {handed : List String} {l l' : Locator} {n v : String}
    (h : Divides name handed l) (hadd : l.add n v = .ok l') : Divides name handed l' := by
  obtain ⟨-, ds, rfl, rfl⟩ := add_eq_ok_iff.mp hadd
  have hopen : Dimension.openValues name [({ name := n, value := v } : Dimension)] =
      ([({ name := n, value := v } : Dimension)].filter fun d => d.name == name).map value := rfl
  have hvalues : (dimensions (ds ++ [{ name := n, value := v }])).valuesOf name =
      (dimensions ds).valuesOf name ++
        ([({ name := n, value := v } : Dimension)].filter fun d => d.name == name).map value := by
    simp only [valuesOf, items, List.filter_append, List.map_append]
  rw [Divides, hvalues, ← h, ← hopen, List.append_assoc]
  exact congrArg (handed ++ ·) (openValues_append name ds _)

/-- What a read can do: give the lone value, take one value of a name, or take all of them. -/
theorem Operation.apply_of_isRead {op : Operation} (h : op.IsRead) (l : Locator) :
    (op.apply l = l.takeValue.2 ∧ ∀ name, op.handed name l = []) ∨
    (∃ n, op.apply l = (l.take n).2 ∧
      ∀ name, op.handed name l = if name = n then (l.take n).1.toList else []) ∨
    ∃ n, op.apply l = (l.takeAll n).2 ∧
      ∀ name, op.handed name l = if name = n then (l.takeAll n).1 else [] := by
  cases op with
  | add n v => exact h.elim
  | erase n => exact h.elim
  | lone => exact .inl ⟨rfl, fun _ => rfl⟩
  | value n => exact .inr (.inl ⟨n, rfl, fun _ => rfl⟩)
  | values n => exact .inr (.inr ⟨n, rfl, fun _ => rfl⟩)
  | natural n => exact .inr (.inl ⟨n, by rw [Operation.apply, Reading.run_natural], fun _ => rfl⟩)
  | integer n => exact .inr (.inl ⟨n, by rw [Operation.apply, Reading.run_integer], fun _ => rfl⟩)
  | flag n => exact .inr (.inl ⟨n, by rw [Operation.apply, Reading.run_flag], fun _ => rfl⟩)

/-- An operation adds, drops or reads. -/
theorem Operation.add_or_erase_or_isRead (op : Operation) :
    (∃ n v, op = .add n v) ∨ (∃ n, op = .erase n) ∨ op.IsRead := by
  cases op with
  | add n v => exact .inl ⟨n, v, rfl⟩
  | erase n => exact .inr (.inl ⟨n, rfl⟩)
  | lone | value | values | natural | integer | flag => exact .inr (.inr trivial)

/-- One operation hands out the values that it takes off the open ones. -/
theorem Divides.apply {name : String} {handed : List String} {l : Locator}
    (h : Divides name handed l) {op : Operation} (keeps : ∀ n, op ≠ .erase n) :
    Divides name (handed ++ op.handed name l) (op.apply l) := by
  rcases op.add_or_erase_or_isRead with ⟨n, v, rfl⟩ | ⟨n, rfl⟩ | hread
  · rw [Operation.handed, List.append_nil, Operation.apply]
    cases hadd : l.add n v with
    | ok l' => exact h.add hadd
    | error e => exact h
  · exact absurd rfl (keeps n)
  · rcases Operation.apply_of_isRead hread l with ⟨ha, hh⟩ | ⟨n, ha, hh⟩ | ⟨n, ha, hh⟩
    · rw [ha, hh, List.append_nil]
      cases l with
      | single v t => exact h
      | dimensions ds => exact h
    · rw [ha, hh]
      exact h.take n
    · rw [ha, hh]
      exact h.takeAll n

theorem Divides.run {name : String} {handed : List String} {l : Locator}
    (h : Divides name handed l) {ops : List Operation}
    (keeps : ∀ op ∈ ops, ∀ n, op ≠ .erase n) :
    Divides name (handed ++ handedOut name ops l) (Locator.run ops l) := by
  induction ops generalizing l handed with
  | nil =>
    rw [handedOut, List.append_nil]
    exact h
  | cons op ops ih =>
    rw [List.forall_mem_cons] at keeps
    have hrest := ih (h.apply keeps.1) keeps.2
    rwa [List.append_assoc] at hrest

/-- As many values have been handed out as are marked taken. -/
theorem Divides.length {name : String} {handed : List String} {l : Locator}
    (h : Divides name handed l) :
    handed.length = (l.items.filter fun d => d.taken && d.name == name).length := by
  have hsplit : (l.valuesOf name).length =
      (l.items.filter fun d => d.taken && d.name == name).length +
        (l.openValues name).length := by
    rw [valuesOf, openValues, Dimension.openValues, List.length_map, List.length_map]
    induction l.items with
    | nil => rfl
    | cons d ds ih =>
      rw [List.filter_cons, List.filter_cons, List.filter_cons, isOpen]
      cases d.taken <;> cases d.name == name <;> simp [ih] <;> omega
  rw [← h, List.length_append] at hsplit
  omega

theorem fresh_take (name : String) (l : Locator) : (l.take name).2.fresh = l.fresh := by
  cases l with
  | single v t => rfl
  | dimensions ds => rw [take_dimensions, fresh, fresh, map_markFirst _ (fun _ => rfl)]

theorem fresh_takeAll (name : String) (l : Locator) : (l.takeAll name).2.fresh = l.fresh := by
  cases l with
  | single v t => rfl
  | dimensions ds =>
    change fresh (.dimensions (markAll name ds)) = _
    rw [fresh, fresh, map_markAll _ (fun _ => rfl)]

/-- A read changes at most what is marked taken. -/
theorem fresh_apply {op : Operation} (h : op.IsRead) (l : Locator) :
    (op.apply l).fresh = l.fresh := by
  rcases Operation.apply_of_isRead h l with ⟨ha, -⟩ | ⟨n, ha, -⟩ | ⟨n, ha, -⟩
  · rw [ha]
    cases l with
    | single v t => rfl
    | dimensions ds => rfl
  · rw [ha, fresh_take]
  · rw [ha, fresh_takeAll]

theorem render_fresh (l : Locator) : l.fresh.render = l.render := by
  cases l with
  | single v t => rfl
  | dimensions ds =>
    rw [fresh, render, render, List.map_map]
    rfl

theorem peek?_fresh (name : String) (l : Locator) : l.fresh.peek? name = l.peek? name := by
  cases l with
  | single v t => rfl
  | dimensions ds =>
    rw [peek?, peek?, fresh, items, List.find?_map, Option.map_map]
    rfl

theorem isPresent_fresh (name : String) (l : Locator) :
    l.fresh.isPresent name = l.isPresent name := by
  cases l with
  | single v t => rfl
  | dimensions ds =>
    rw [isPresent, isPresent, fresh, items, List.any_map]
    rfl

theorem isSingle_fresh (l : Locator) : l.fresh.isSingle = l.isSingle := by
  cases l with
  | single v t => rfl
  | dimensions ds => rfl

theorem isSingle_apply (op : Operation) (l : Locator) : (op.apply l).isSingle = l.isSingle := by
  rcases op.add_or_erase_or_isRead with ⟨n, v, rfl⟩ | ⟨n, rfl⟩ | hread
  · rw [Operation.apply]
    cases hadd : l.add n v with
    | ok l' =>
      obtain ⟨-, ds, rfl, rfl⟩ := add_eq_ok_iff.mp hadd
      rfl
    | error e => rfl
  · cases l with
    | single v t => rfl
    | dimensions ds => rfl
  · rw [← isSingle_fresh, fresh_apply hread, isSingle_fresh]

theorem isSingle_run (ops : List Operation) (l : Locator) : (run ops l).isSingle = l.isSingle := by
  induction ops generalizing l with
  | nil => rfl
  | cons op ops ih => exact (ih (op.apply l)).trans (isSingle_apply op l)

theorem run_concat (ops : List Operation) (op : Operation) (l : Locator) :
    run (ops ++ [op]) l = op.apply (run ops l) := List.foldl_concat ..

theorem mem_eraseDups_names_iff {p : Dimension → Bool} {ds : List Dimension} {name : String} :
    name ∈ ((ds.filter p).map Dimension.name).eraseDups ↔ ∃ d ∈ ds, d.name = name ∧ p d = true := by
  rw [List.mem_eraseDups, List.mem_map]
  refine exists_congr fun d => ?_
  rw [List.mem_filter, and_assoc, and_comm (a := p d = true)]

theorem mem_unused_iff {ds : List Dimension} {name : String} :
    name ∈ (dimensions ds).unused ↔ ∃ d ∈ ds, d.name = name ∧ d.taken = false := by
  rw [unused, mem_eraseDups_names_iff]
  simp only [Bool.not_eq_true']

theorem mem_used_iff {l : Locator} {name : String} :
    name ∈ l.used ↔ ∃ d ∈ l.items, d.name = name ∧ d.taken = true :=
  mem_eraseDups_names_iff

theorem finish_eq_ok_iff {l : Locator} {supported : List String} :
    l.finish supported = .ok () ↔ l.unused = [] := by
  rw [finish, ← List.isEmpty_iff]
  split
  · next h => simp [h]
  · next h => simp [h]

/-- What a history has handed out, and what the locator that it leaves reports. -/
structure Delivery (ops : List Operation) (l : Locator) : Prop where
  inOrder : ∀ name, handedOut name ops l <+: (run ops l).valuesOf name
  /-- Behind what was handed out stand just the open values, so each value comes out once. -/
  rest : ∀ name, handedOut name ops l ++ (run ops l).openValues name = (run ops l).valuesOf name
  /-- A read of one value hands out the first open value of its name, and one of all values the rest. -/
  first : ∀ name,
    (∀ op ∈ [Operation.value name, .natural name, .integer name, .flag name],
      op.handed name (run ops l) = ((run ops l).openValues name).head?.toList) ∧
    (Operation.values name).handed name (run ops l) = (run ops l).openValues name
  answers : ∀ name,
    (Reading.value name).answer (run ops l) =
      .ok ((Operation.value name).handed name (run ops l)).head? ∧
    (Reading.values name).answer (run ops l) =
      .ok ((Operation.values name).handed name (run ops l)) ∧
    (Reading.natural name).answer (run ops l) =
      Reading.ofFirst (Reading.naturalOf name)
        ((Operation.natural name).handed name (run ops l)) ∧
    (Reading.integer name).answer (run ops l) =
      Reading.ofFirst (Reading.integerOf name)
        ((Operation.integer name).handed name (run ops l)) ∧
    (Reading.flag name).answer (run ops l) =
      Reading.ofFirst (flag? name) ((Operation.flag name).handed name (run ops l))
  takesAll : ∀ name, ∀ d ∈ (run (ops ++ [.values name]) l).items, d.name = name → d.taken = true
  nodup_unused : (run ops l).unused.Nodup
  mem_unused : ∀ name, name ∈ (run ops l).unused ↔
    ∃ d ∈ (run ops l).items, d.name = name ∧ d.taken = false
  unused_order : (run ops l).unused.Pairwise fun a b =>
    (run ops l).items.findIdx (isOpen a) < (run ops l).items.findIdx (isOpen b)
  mem_used : ∀ name, name ∈ (run ops l).used ↔
    ∃ d ∈ (run ops l).items, d.name = name ∧ d.taken = true
  /-- A name is reported as used just when a value was handed out under it. -/
  used_iff : ∀ name, name ∈ (run ops l).used ↔ handedOut name ops l ≠ []
  finish : (run ops l).finish [] = .ok () ↔ ∀ d ∈ (run ops l).items, d.taken = true
  /-- No read changes what the locator says. -/
  reads : ∀ op : Operation, op.IsRead →
    (op.apply (run ops l)).render = (run ops l).render ∧
    (∀ other, (op.apply (run ops l)).same other = (run ops l).same other) ∧
    (∀ name, (op.apply (run ops l)).peek? name = (run ops l).peek? name) ∧
    ∀ name, (op.apply (run ops l)).isPresent name = (run ops l).isPresent name

theorem reads_of_fresh {l l' : Locator} (h : l'.fresh = l.fresh) :
    l'.render = l.render ∧ (∀ other, l'.same other = l.same other) ∧
      (∀ name, l'.peek? name = l.peek? name) ∧
      ∀ name, l'.isPresent name = l.isPresent name := by
  refine ⟨?_, fun other => ?_, fun name => ?_, fun name => ?_⟩
  · rw [← render_fresh, h, render_fresh]
  · rw [same, h, same]
  · rw [← peek?_fresh, h, peek?_fresh]
  · rw [← isPresent_fresh, h, isPresent_fresh]

/-- Whatever is read and added, in whatever order, a list of dimensions hands out each value once and
in order, and its reports say what is left. -/
theorem run_delivers {l : Locator} (origin : Origin l) (list : l.isSingle = false)
    {ops : List Operation} (keeps : ∀ op ∈ ops, ∀ name, op ≠ .erase name) : Delivery ops l := by
  have hdiv : ∀ name, Divides name (handedOut name ops l) (run ops l) := fun name =>
    (divides_of_untaken origin.untaken name).run keeps
  have hrun : (run ops l).isSingle = false := (isSingle_run ops l).trans list
  obtain ⟨ds, hds⟩ : ∃ ds, run ops l = .dimensions ds := by
    cases h : run ops l with
    | single v t => rw [h] at hrun; cases hrun
    | dimensions ds => exact ⟨ds, rfl⟩
  have hunused : ∀ name, name ∈ (run ops l).unused ↔
      ∃ d ∈ (run ops l).items, d.name = name ∧ d.taken = false := by
    intro name
    rw [hds]
    exact mem_unused_iff
  refine ⟨fun name => ⟨_, hdiv name⟩, hdiv, fun name => handed_eq name _,
    fun name => answer_eq_handed name _, fun name => ?_, ?_, hunused, ?_, fun _ => mem_used_iff, fun name => ?_, ?_,
    fun op hop => reads_of_fresh (fresh_apply hop _)⟩
  · rw [run_concat, Operation.apply, Reading.run_values]
    exact openValues_eq_nil_iff.mp ((openValues_takeAll name name _).trans (if_pos rfl))
  · rw [hds]
    exact nodup_eraseDups _
  · rw [hds]
    exact (pairwise_eraseDups _).imp findIdx_isOpen_lt
  · rw [mem_used_iff, ← List.length_pos_iff, (hdiv name).length, List.length_pos_iff_exists_mem]
    simp only [List.mem_filter, Bool.and_eq_true, beq_iff_eq, and_comm]
  · rw [finish_eq_ok_iff, List.eq_nil_iff_forall_not_mem]
    simp only [hunused, not_exists, not_and, Bool.not_eq_false]
    exact ⟨fun h d hd => h d.name d hd rfl, fun h _ d hd _ => h d hd⟩

theorem run_delivers_of_mixed_reads :
    let l := Locator.dimensions [{ name := "a", value := "1" }, { name := "b", value := "x" },
      { name := "a", value := "(2)" }, { name := "c", value := "" }, { name := "a", value := "3" }]
    let ops := [Operation.natural "b", .flag "a", .add "b" "no", .value "a", .add "a:" "4",
      .integer "z", .add "a" "5"]
    Origin l ∧ l.isSingle = false ∧ (∀ op ∈ ops, ∀ name, op ≠ .erase name) ∧ Delivery ops l := by
  intro l ops
  have origin : Origin l :=
    .ofPairs (show ofPairs [("a", "1"), ("b", "x"), ("a", "(2)"), ("c", ""), ("a", "3")] = .ok l by rfl)
  have keeps : ∀ op ∈ ops, ∀ name, op ≠ .erase name := by simp [ops]
  exact ⟨origin, rfl, keeps, run_delivers origin rfl keeps⟩

/-- A failed conversion and a refused addition: the value is gone, the name was never there. -/
example :
    let l := Locator.dimensions [{ name := "a", value := "1" }, { name := "b", value := "x" },
      { name := "a", value := "(2)" }, { name := "c", value := "" }, { name := "a", value := "3" }]
    let ops := [Operation.natural "b", .flag "a", .add "b" "no", .value "a", .add "a:" "4",
      .integer "z", .add "a" "5"]
    handedOut "a" ops l = ["1", "(2)"] ∧ (run ops l).openValues "a" = ["3", "5"] ∧
      (run ops l).unused = ["c", "a", "b"] ∧ (run ops l).used = ["a", "b"] := by
  decide

end Locator

end LocatorQuery
