import LocatorQuery.Query.Condition
import LocatorQuery.Proofs.Locator.Delivery
import LocatorQuery.Proofs.Locator.Distinct
import LocatorQuery.Proofs.Locator.Surplus
import LocatorQuery.Proofs.Query.Refusal
import LocatorQuery.Proofs.Text.Numeral

/-! The forms of conditions. A value is a condition when it is a number, the word for no condition, or a list
of an operand and at most one comparison. Any other value is blamed as a whole, whatever is wrong inside. -/
namespace LocatorQuery
open Outcome Reading

/-- The words for a comparison, the long one and the short one. -/
def Comparison.words : Comparison → List String
  | equals => ["equals", "eq"]
  | doesNotEqual => ["does-not-equal", "ne"]
  | moreThan => ["more-than", "gt"]
  | noMoreThan => ["no-more-than", "le"]
  | lessThan => ["less-than", "lt"]
  | noLessThan => ["no-less-than", "ge"]

/-- A word names a comparison in either form and in any case. -/
def Comparison.IsNamed (c : Comparison) (word : String) : Prop := word.toLower ∈ c.words

theorem Comparison.ofName?_eq_some_iff {word : String} {c : Comparison} :
    ofName? word = some c ↔ c.IsNamed word := by
  have hwords : ∀ c : Comparison, c.words = [c.name, c.shortName] := by
    intro c
    cases c <;> rfl
  rw [ofName?, IsNamed, hwords, List.mem_pair]
  constructor
  · intro h
    have hfound := List.find?_some h
    rw [Bool.or_eq_true, beq_iff_eq, beq_iff_eq] at hfound
    exact hfound.imp Eq.symm Eq.symm
  · have hname : (all.find? fun d => d.name == c.name || d.shortName == c.name) = some c := by
      cases c <;> decide
    have hshort :
        (all.find? fun d => d.name == c.shortName || d.shortName == c.shortName) = some c := by
      cases c <;> decide
    rintro (h | h)
    · rwa [h]
    · rwa [h]

namespace Condition

section Steps

/-- What is wrong inside a condition, as a fault of its whole text. -/
def wrapped (dimension raw : String) (e : LocatorError) : LocatorError :=
  .badValue dimension raw (.nested e.message)

/-- What a condition takes. -/
def demands : List Demand := [{ name := "condition" }, { name := "value" }]

def comparisonOf (dimension raw : String) : List String → Except LocatorError Comparison
  | [] => .ok .equals
  | word :: _ =>
    match Comparison.ofName? word with
    | some c => .ok c
    | none =>
      .error (.badValue dimension raw
        (.unknownComparison word (Comparison.all.map Comparison.name)))

def operandOf (dimension raw : String) (values : List String) : Except LocatorError Int :=
  (ofFirst (integerOf "value") values).mapError (wrapped dimension raw) >>= fun
    | some n => .ok n
    | none => .error (.badValue dimension raw .noOperand)

/-- The condition that the open values spell, whatever else is there. -/
def partsOf (dimension raw : String) (o : String → List String) :
    Except LocatorError Condition := do
  let comparison ← comparisonOf dimension raw (o "condition")
  let operand ← operandOf dimension raw (o "value")
  .ok ⟨comparison, operand⟩

def readComparison (dimension raw : String) : Reading Comparison := do
  match ← Reading.value "condition" with
  | none => pure .equals
  | some name =>
    match Comparison.ofName? name with
    | some c => pure c
    | none =>
      throw (.badValue dimension raw
        (.unknownComparison name (Comparison.all.map Comparison.name)))

def readOperand (dimension raw : String) : Reading Int := do
  match ← ofDimensions.reporting dimension raw (Reading.integer "value") with
  | some n => pure n
  | none => throw (.badValue dimension raw .noOperand)

def readParts (dimension raw : String) : Reading Condition := do
  let comparison ← readComparison dimension raw
  let operand ← readOperand dimension raw
  Reading.ofExcept (.ok ⟨comparison, operand⟩)

theorem run_reporting {α : Type} (dimension raw : String) (r : Reading α) (l : Locator) :
    (ofDimensions.reporting dimension raw r).run l =
      ((r.answer l).mapError (wrapped dimension raw), (r.run l).2) := by
  rw [ofDimensions.reporting, run_tryCatch, Reading.answer]
  cases r.run l with
  | mk answer left =>
    cases answer with
    | ok a => rfl
    | error e => rfl

theorem ofDimensions_eq (dimension raw : String) :
    ofDimensions dimension raw = (do
      let condition ← readParts dimension raw
      ofDimensions.reporting dimension raw (Reading.finish ["condition", "value"])
      return condition) := by
  rw [ofDimensions, readParts, bind_assoc, readComparison, bind_assoc]
  refine bind_congr fun name => ?_
  extract_lets withOperand
  have hoperand : ∀ comparison, withOperand comparison =
      ((readOperand dimension raw >>= fun operand =>
        Reading.ofExcept (.ok ⟨comparison, operand⟩)) >>= fun condition => do
          ofDimensions.reporting dimension raw (Reading.finish ["condition", "value"])
          return condition) := by
    intro comparison
    rw [bind_assoc, readOperand, bind_assoc]
    refine bind_congr fun n => ?_
    cases n with
    | none => rfl
    | some n => rfl
  cases name with
  | none => exact hoperand .equals
  | some name =>
    dsimp only
    cases Comparison.ofName? name with
    | none => rfl
    | some comparison => exact hoperand comparison

theorem reads_readComparison (dimension raw : String) :
    Reads (readComparison dimension raw) [{ name := "condition" }] fun o =>
      comparisonOf dimension raw (o "condition") := by
  refine reads_of_run fun l => ?_
  rw [readComparison, run_bind, run_value]
  cases l.openValues "condition" with
  | nil => rfl
  | cons word rest =>
    dsimp only [List.head?_cons, comparisonOf]
    cases Comparison.ofName? word with
    | none => rfl
    | some c => rfl

theorem reads_readOperand (dimension raw : String) :
    Reads (readOperand dimension raw) [{ name := "value" }] fun o =>
      operandOf dimension raw (o "value") := by
  refine reads_of_run fun l => ?_
  rw [readOperand, run_bind, run_reporting, Reading.answer, run_integer, operandOf]
  cases ofFirst (integerOf "value") (l.openValues "value") with
  | error e => rfl
  | ok n =>
    cases n with
    | none => rfl
    | some n => rfl

theorem reads_readParts (dimension raw : String) :
    Reads (readParts dimension raw) demands (partsOf dimension raw) :=
  (reads_readComparison dimension raw).bind [{ name := "value" }] (fun comparison =>
    (reads_readOperand dimension raw).convert fun operand =>
      .ok (⟨comparison, operand⟩ : Condition)) (by decide)

/-- A condition is what its open values spell, provided that nothing is left over. -/
theorem answer_ofDimensions (dimension raw : String) (l : Locator) :
    (ofDimensions dimension raw).answer l = (do
      let condition ← partsOf dimension raw l.openValues
      ((l.serveAll demands).finish ["condition", "value"]).mapError (wrapped dimension raw)
      return condition) := by
  have hcheck : ∀ l,
      (ofDimensions.reporting dimension raw (Reading.finish ["condition", "value"])).answer l =
        (l.finish ["condition", "value"]).mapError (wrapped dimension raw) := by
    intro l
    rw [Reading.answer, run_reporting, Reading.answer, run_finish]
  rw [ofDimensions_eq, (reads_readParts dimension raw).answer_checked hcheck]

end Steps

section Blame
variable (dimension raw : String)

/-- An error about a value of a dimension. -/
def Blames (e : LocatorError) : Prop := ∃ fault, e = .badValue dimension raw fault

/-- Whatever is wrong inside a condition is reported as a bad value. -/
theorem blames_mapError {α : Type} (x : Except LocatorError α) :
    Outcome.FailsOnly (Blames dimension raw) (x.mapError (wrapped dimension raw)) := by
  have hany : Outcome.FailsOnly (fun _ => True) x := fun _ _ => trivial
  exact hany.mapError fun _ _ => ⟨_, rfl⟩

theorem blames_comparisonOf (values : List String) :
    Outcome.FailsOnly (Blames dimension raw) (comparisonOf dimension raw values) := by
  cases values with
  | nil => exact .ok _
  | cons word rest =>
    rw [comparisonOf]
    cases Comparison.ofName? word with
    | none => exact .error ⟨_, rfl⟩
    | some c => exact .ok c

theorem blames_operandOf (values : List String) :
    Outcome.FailsOnly (Blames dimension raw) (operandOf dimension raw values) := by
  refine (blames_mapError dimension raw _).bind fun n => ?_
  cases n with
  | none => exact .error ⟨_, rfl⟩
  | some n => exact .ok n

theorem blames_ofDimensions :
    Reading.FailsOnly (Blames dimension raw) (ofDimensions dimension raw) := by
  intro l
  rw [answer_ofDimensions]
  refine .bind ?_ fun condition => (blames_mapError dimension raw _).bind fun _ => .ok condition
  exact (blames_comparisonOf dimension raw _).bind fun comparison =>
    (blames_operandOf dimension raw _).bind fun operand => .ok _

/-- A condition that cannot be read is blamed on the dimension and the value it stands for. -/
theorem blames_parse : Outcome.FailsOnly (Blames dimension raw) (parse dimension raw) := by
  rw [parse]
  split
  · exact .ok none
  · split
    · exact .ok _
    · split
      · exact .error ⟨_, rfl⟩
      · exact .error ⟨_, rfl⟩
      · exact (blames_ofDimensions dimension raw _).map some

theorem refuses_parse : Outcome.FailsOnly LocatorError.IsRefusal (parse dimension raw) := by
  intro e h
  obtain ⟨fault, rfl⟩ := blames_parse dimension raw e h
  rfl

end Blame

section Lists
variable {dimension raw : String} {ds : List Dimension} {condition : Condition}

theorem answer_ofDimensions_eq_ok_iff {l : Locator} :
    (ofDimensions dimension raw).answer l = .ok condition ↔
      partsOf dimension raw l.openValues = .ok condition ∧ (l.serveAll demands).unused = [] := by
  rw [answer_ofDimensions, checked_eq_ok_iff, mapError_eq_ok_iff, Locator.finish_eq_ok_iff]

theorem comparisonOf_eq_ok_iff {values : List String} {c : Comparison} :
    comparisonOf dimension raw values = .ok c ↔
      (values.head? = none ∧ c = .equals) ∨ ∃ word, values.head? = some word ∧ c.IsNamed word := by
  cases values with
  | nil => simp [comparisonOf, eq_comm]
  | cons word rest =>
    simp only [List.head?_cons, Option.some.injEq, exists_eq_left', ← Comparison.ofName?_eq_some_iff,
      comparisonOf]
    cases Comparison.ofName? word with
    | none => simp
    | some c' => simp

theorem operandOf_eq_ok_iff {values : List String} {n : Int} :
    operandOf dimension raw values = .ok n ↔
      ∃ text, values.head? = some text ∧ Text.WritesInteger text.toList n := by
  constructor
  · intro h
    cases values with
    | nil => cases h
    | cons text rest =>
      refine ⟨text, rfl, Text.integer?_eq_some_iff.mp ?_⟩
      rw [operandOf, ofFirst, integerOf] at h
      cases hn : Text.integer? text.toList with
      | none =>
        rw [hn] at h
        cases h
      | some m =>
        rw [hn] at h
        cases h
        rfl
  · rintro ⟨text, htext, number⟩
    obtain ⟨rest, rfl⟩ := List.head?_eq_some_iff.mp htext
    rw [operandOf, ofFirst, integerOf, Text.integer?_eq_some_iff.mpr number]
    rfl

theorem partsOf_eq_ok_iff {o : String → List String} :
    partsOf dimension raw o = .ok condition ↔
      comparisonOf dimension raw (o "condition") = .ok condition.comparison ∧
        operandOf dimension raw (o "value") = .ok condition.operand := by
  rw [partsOf, bind_eq_ok_iff]
  constructor
  · rintro ⟨comparison, hcomparison, h⟩
    obtain ⟨operand, hoperand, hcondition⟩ := bind_eq_ok_iff.mp h
    cases hcondition
    exact ⟨hcomparison, hoperand⟩
  · rintro ⟨hcomparison, hoperand⟩
    exact ⟨_, hcomparison, bind_eq_ok_iff.mpr ⟨_, hoperand, rfl⟩⟩

def comparisonItem (word : String) : Dimension := { name := "condition", value := word }

def operandItem (text : String) : Dimension := { name := "value", value := text }

/-- The dimensions of a condition, in either order. Without a comparison it is one for equality. -/
inductive Lists : List Dimension → Condition → Prop
  | operand {text : String} {n : Int} (number : Text.WritesInteger text.toList n) :
      Lists [operandItem text] ⟨.equals, n⟩
  | compared {ds : List Dimension} {word text : String} {c : Comparison} {n : Int}
      (order : ds.Perm [comparisonItem word, operandItem text]) (named : c.IsNamed word)
      (number : Text.WritesInteger text.toList n) : Lists ds ⟨c, n⟩

theorem nodup_items (word text : String) :
    ([comparisonItem word, operandItem text].map Dimension.name).Nodup :=
  (by decide : ["condition", "value"].Nodup)

theorem lists_of_partsOf (untaken : (Locator.dimensions ds).Untaken)
    (once : (ds.map Dimension.name).Nodup) (known : ∀ d ∈ ds, d.name ∈ demands.map Demand.name)
    (h : partsOf dimension raw (Locator.dimensions ds).valuesOf = .ok condition) :
    Lists ds condition := by
  obtain ⟨hcomparison, hoperand⟩ := partsOf_eq_ok_iff.mp h
  obtain ⟨text, htext, number⟩ := operandOf_eq_ok_iff.mp hoperand
  rw [Locator.head?_valuesOf_of_untaken once untaken] at htext
  rcases comparisonOf_eq_ok_iff.mp hcomparison with ⟨hnone, hequals⟩ | ⟨word, hword, named⟩
  · -- Every dimension has the name of the operand.
    have hperm : ds.Perm [operandItem text] := by
      refine perm_of_keys once (List.nodup_singleton _)
        (List.cons_subset.mpr ⟨htext, List.nil_subset ds⟩) fun d hd => ?_
      refine (List.mem_cons.mp (known d hd)).resolve_left fun hname => ?_
      have hhead := (Locator.head?_valuesOf_eq_some_iff once).mpr ⟨d, hd, hname, rfl⟩
      rw [hnone] at hhead
      cases hhead
    obtain ⟨comparison, n⟩ := condition
    cases hequals
    exact List.perm_singleton.mp hperm ▸ .operand number
  · rw [Locator.head?_valuesOf_of_untaken once untaken] at hword
    have hperm : ds.Perm [comparisonItem word, operandItem text] :=
      perm_of_keys once (.of_map Dimension.name (nodup_items word text))
        (List.cons_subset.mpr ⟨hword, List.cons_subset.mpr ⟨htext, List.nil_subset ds⟩⟩) known
    exact .compared hperm named number

theorem Lists.partsOf (h : Lists ds condition) :
    partsOf dimension raw (Locator.dimensions ds).valuesOf = .ok condition ∧
      (∀ d ∈ ds, d.name ∈ demands.map Demand.name) ∧ (ds.map Dimension.name).Nodup := by
  cases h with
  | operand number =>
    refine ⟨partsOf_eq_ok_iff.mpr ⟨?_, ?_⟩, ?_, List.nodup_singleton _⟩
    · exact comparisonOf_eq_ok_iff.mpr (.inl ⟨rfl, rfl⟩)
    · exact operandOf_eq_ok_iff.mpr ⟨_, rfl, number⟩
    · simp [operandItem, demands]
  | @compared ds word text c n order named number =>
    have once := nodup_items word text
    rw [Locator.valuesOf_of_perm once order]
    refine ⟨partsOf_eq_ok_iff.mpr ⟨?_, ?_⟩, fun d hd => ?_, (order.map _).nodup_iff.mpr once⟩
    · exact comparisonOf_eq_ok_iff.mpr (.inr ⟨word, rfl, named⟩)
    · exact operandOf_eq_ok_iff.mpr ⟨text, rfl, number⟩
    · exact List.mem_map_of_mem (f := Dimension.name) (order.mem_iff.mp hd)

/-- A list of dimensions that nobody has taken from is a condition just when it lists one. -/
theorem answer_eq_ok_iff (untaken : (Locator.dimensions ds).Untaken) :
    (ofDimensions dimension raw).answer (.dimensions ds) = .ok condition ↔ Lists ds condition := by
  rw [answer_ofDimensions_eq_ok_iff, Locator.openValues_of_untaken untaken,
    Locator.unused_serveAll_eq_nil_iff untaken (by decide) (by decide)]
  constructor
  · rintro ⟨hparts, known, once⟩
    exact lists_of_partsOf untaken once known hparts
  · exact Lists.partsOf

end Lists

section Spells
variable {dimension raw : String} {condition : Condition}

/-- Nothing but the word for no condition reads as none. -/
theorem parse_eq_ok_none_iff :
    parse dimension raw = .ok none ↔ raw.toLower = "any" := by
  rw [parse]
  split
  · next hany => simp [hany]
  · next hother =>
    refine iff_of_false ?_ hother
    split
    · exact nofun
    · split
      · exact nofun
      · exact nofun
      · rw [map_eq_ok_iff]
        exact nofun

/-- What a text spells: a number that it writes, or the condition that its dimensions list. -/
inductive Spells (raw : String) : Condition → Prop
  | number {n : Int} (number : Text.WritesInteger raw.toList n) : Spells raw ⟨.equals, n⟩
  | list {ds : List Dimension} {condition : Condition}
      (read : Locator.parse raw = .ok (.dimensions ds)) (lists : Lists ds condition) :
      Spells raw condition

/-- Characters ahead of the letters have no case. -/
theorem toLower_of_lt {c : Char} (h : c.val < 'A'.val) : c.toLower = c :=
  dif_neg fun hupper => UInt32.not_le.mpr h hupper.1

theorem ne_any_of_mem {c : Char} (hc : c ∈ raw.toList) (h : c.val < 'A'.val) :
    raw.toLower ≠ "any" := by
  intro hany
  have hlist : raw.toList.map Char.toLower = ['a', 'n', 'y'] := by
    rw [← String.toList_map]
    exact congrArg String.toList hany
  have hmem : c.toLower ∈ ['a', 'n', 'y'] := hlist ▸ List.mem_map_of_mem hc
  have hletters : (['a', 'n', 'y'].all fun d => decide ('A'.val ≤ d.val)) = true := by decide
  rw [toLower_of_lt h] at hmem
  exact UInt32.not_le.mpr h (of_decide_eq_true (List.all_eq_true.mp hletters c hmem))

theorem colon_mem_of_parse {ds : List Dimension}
    (h : Locator.parse raw = .ok (.dimensions ds)) : ':' ∈ raw.toList := by
  rcases Locator.writes_of_parse h with ⟨items, -, hw⟩ | ⟨value, hsingle, -⟩
  · exact hw.colon_mem
  · cases hsingle

/-- The word for no condition spells none. -/
theorem Spells.ne_any (h : Spells raw condition) : raw.toLower ≠ "any" := by
  cases h with
  | number number =>
    obtain ⟨c, hc⟩ := List.exists_mem_of_ne_nil _ number.ne_nil
    refine ne_any_of_mem hc ?_
    rcases number.mem hc with hdigit | rfl | rfl
    · have hnine : c.val ≤ '9'.val := of_decide_eq_true (Bool.and_eq_true_iff.mp hdigit).2
      exact UInt32.lt_of_le_of_lt hnine (by decide)
    · decide
    · decide
  | list read lists => exact ne_any_of_mem (colon_mem_of_parse read) (by decide)

/-- A number has no colon, so it spells nothing else. -/
theorem spells_iff_of_number {n : Int} (number : Text.WritesInteger raw.toList n) :
    Spells raw condition ↔ condition = ⟨.equals, n⟩ := by
  constructor
  · intro h
    cases h with
    | number number' =>
      have hn := Text.integer?_eq_some_iff.mpr number
      rw [Text.integer?_eq_some_iff.mpr number', Option.some.injEq] at hn
      rw [hn]
    | list read lists =>
      rcases number.mem (colon_mem_of_parse read) with h | h | h
      · exact absurd h (by decide)
      · exact absurd h (by decide)
      · exact absurd h (by decide)
  · rintro rfl
    exact .number number

theorem spells_iff_of_no_number (h : Text.integer? raw.toList = none) :
    Spells raw condition ↔ ∃ ds, Locator.parse raw = .ok (.dimensions ds) ∧ Lists ds condition := by
  constructor
  · intro hspells
    cases hspells with
    | number number =>
      rw [Text.integer?_eq_some_iff.mpr number] at h
      cases h
    | list read lists => exact ⟨_, read, lists⟩
  · rintro ⟨ds, read, lists⟩
    exact .list read lists

theorem parse_eq_ok_some_iff :
    parse dimension raw = .ok (some condition) ↔ Spells raw condition := by
  rw [parse]
  split
  · next hany => exact iff_of_false nofun fun h => h.ne_any hany
  · split
    · next n hn =>
      rw [Except.ok.injEq, Option.some.injEq, eq_comm,
        spells_iff_of_number (Text.integer?_eq_some_iff.mp hn)]
    · next hn =>
      rw [spells_iff_of_no_number hn]
      cases hread : Locator.parse raw with
      | error e => simp
      | ok l =>
        cases l with
        | single value taken => simp
        | dimensions ds =>
          have untaken := (Locator.Origin.parse hread).untaken
          simp [map_eq_ok_iff, answer_eq_ok_iff untaken]

end Spells

/-- A value is read as none, as a number or as a list of dimensions just when it spells one of them, and
otherwise it is refused as a whole under the name of its dimension. -/
theorem parse_accepts_forms (dimension raw : String) :
    (parse dimension raw = .ok none ↔ raw.toLower = "any") ∧
      (∀ condition, parse dimension raw = .ok (some condition) ↔ Spells raw condition) ∧
      (raw.toLower = "any" ∨ (∃ condition, Spells raw condition) ∨
        ∃ fault, parse dimension raw = .error (.badValue dimension raw fault)) := by
  refine ⟨parse_eq_ok_none_iff, fun condition => parse_eq_ok_some_iff, ?_⟩
  cases h : parse dimension raw with
  | error e =>
    obtain ⟨fault, rfl⟩ := blames_parse dimension raw e h
    exact .inr (.inr ⟨fault, rfl⟩)
  | ok found =>
    cases found with
    | none => exact .inl (parse_eq_ok_none_iff.mp h)
    | some condition => exact .inr (.inl ⟨condition, parse_eq_ok_some_iff.mp h⟩)

/-- An operand ahead of its comparison is read, a second operand is refused. -/
example : parse "failed" "value:-5,condition:GT" = .ok (some ⟨.moreThan, -5⟩) ∧
    parse "failed" "value:5,value:5" = .error (.badValue "failed" "value:5,value:5"
      (.nested "unknown locator dimension: value (supported: condition, value)")) := by
  decide +kernel

end Condition

end LocatorQuery
