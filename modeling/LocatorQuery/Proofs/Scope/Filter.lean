import Mathlib.Data.List.ReduceOption
import LocatorQuery.Scope.Filter
import LocatorQuery.Proofs.Locator.Remaining

/-! Scope filters in closed form: the level, the key and the conditions of a list of dimensions as
functions of its open values, and what is refused as left over. -/
namespace LocatorQuery
open Outcome Reading

namespace ScopeFilter

def levelOf : List String → Except LocatorError (Option ScopeLevel)
  | [] => .ok none
  | raw :: _ => (ScopeLevel.parse raw).map some

/-- The condition on one counter; `any` and no value at all impose none. -/
def conditionOf (text : String) (counter : Counter) :
    List String → Except LocatorError (Option (Counter × Condition))
  | [] => .ok none
  | raw :: _ =>
    match Condition.parse counter.name raw with
    | .ok condition => .ok (condition.map (counter, ·))
    | .error e => .error (.badFilter text (.nested e.message))

def conditionsOf (text : String) (counters : List Counter) (o : String → List String) :
    Except LocatorError (List (Counter × Condition)) :=
  (counters.mapM fun counter => conditionOf text counter (o counter.name)).map List.reduceOption

/-- The filter that the open values spell, whatever else is there. -/
def partsOf (text : String) (o : String → List String) : Except LocatorError ScopeFilter := do
  let level ← levelOf (o typeName)
  let conditions ← conditionsOf text Counter.all o
  .ok { level, value := (o valueName).head?, conditions }

def leftover (text : String) (unused : List String) : Except LocatorError Unit :=
  if unused.isEmpty then .ok ()
  else .error (.badFilter text
    (.leftover (unused.partition names.contains).2 (unused.partition names.contains).1 names))

def counterDemands (counters : List Counter) : List Demand :=
  counters.map fun counter => { name := counter.name }

/-- What a filter takes behind its level. -/
def plainDemands : List Demand := { name := valueName } :: counterDemands Counter.all

section Steps

def readLevel : Reading (Option ScopeLevel) := do
  let some raw ← Reading.value typeName | return none
  some <$> Reading.ofExcept (ScopeLevel.parse raw)

def readCondition (text : String) (counter : Counter) :
    Reading (Option (Counter × Condition)) := do
  let some raw ← Reading.value counter.name | return none
  match Condition.parse counter.name raw with
  | .ok condition => return condition.map (counter, ·)
  | .error e => throw (.badFilter text (.nested e.message))

def readParts (text : String) : Reading ScopeFilter := do
  let level ← readLevel
  let value ← Reading.value valueName
  let conditions ← readConditions text Counter.all
  return { level, value, conditions }

theorem readConditions_cons (text : String) (counter : Counter) (counters : List Counter) :
    readConditions text (counter :: counters) = (do
      let found ← readCondition text counter
      let rest ← readConditions text counters
      Reading.ofExcept (.ok (found.toList ++ rest))) := by
  rw [readConditions, readCondition, bind_assoc]
  refine bind_congr fun raw => ?_
  cases raw with
  | none => rfl
  | some raw =>
    dsimp only
    cases Condition.parse counter.name raw with
    | error e => rfl
    | ok condition => rfl

theorem ofDimensions_eq (text : String) :
    ofDimensions text = (do
      let filter ← readParts text
      checkLeftover text
      return filter) := by
  simp only [ofDimensions, readParts, readLevel, bind_assoc, pure_bind]
  refine bind_congr fun raw => ?_
  cases raw with
  | none => rfl
  | some raw => rfl

end Steps

theorem reads_readLevel :
    Reads readLevel [{ name := typeName }] fun o => levelOf (o typeName) := by
  refine reads_of_run fun l => ?_
  rw [readLevel, run_bind, run_value]
  cases l.openValues typeName with
  | nil => rfl
  | cons raw rest =>
    dsimp only [List.head?_cons, levelOf]
    cases ScopeLevel.parse raw with
    | error e => rfl
    | ok level => rfl

theorem reads_readCondition (text : String) (counter : Counter) :
    Reads (readCondition text counter) [{ name := counter.name }] fun o =>
      conditionOf text counter (o counter.name) := by
  refine reads_of_run fun l => ?_
  rw [readCondition, run_bind, run_value]
  cases l.openValues counter.name with
  | nil => rfl
  | cons raw rest =>
    dsimp only [List.head?_cons, conditionOf]
    cases Condition.parse counter.name raw with
    | error e => rfl
    | ok condition => rfl

theorem conditionsOf_cons (text : String) (counter : Counter) (counters : List Counter)
    (o : String → List String) :
    conditionsOf text (counter :: counters) o = (do
      let found ← conditionOf text counter (o counter.name)
      let rest ← conditionsOf text counters o
      .ok (found.toList ++ rest)) := by
  rw [conditionsOf, List.mapM_cons]
  cases conditionOf text counter (o counter.name) with
  | error e => rfl
  | ok found =>
    rw [conditionsOf]
    cases counters.mapM fun counter => conditionOf text counter (o counter.name) with
    | error e => rfl
    | ok rest =>
      cases found with
      | none => rfl
      | some condition => rfl

theorem reads_readConditions (text : String) {counters : List Counter}
    (distinct : (counters.map Counter.name).Nodup) :
    Reads (readConditions text counters) (counterDemands counters)
      (conditionsOf text counters) := by
  induction counters with
  | nil => exact reads_pure []
  | cons counter counters ih =>
    rw [List.map_cons, List.nodup_cons] at distinct
    have hresult : conditionsOf text (counter :: counters) = fun o =>
        conditionOf text counter (o counter.name) >>= fun found =>
          conditionsOf text counters o >>= fun rest => .ok (found.toList ++ rest) :=
      funext (conditionsOf_cons text counter counters)
    rw [hresult, readConditions_cons]
    refine (reads_readCondition text counter).bind (counterDemands counters)
      (fun found => (ih distinct.2).convert fun rest => .ok (found.toList ++ rest)) ?_
    intro e he hmem
    obtain ⟨other, hother, rfl⟩ := List.mem_map.mp he
    have hname : other.name = counter.name := List.mem_singleton.mp hmem
    exact distinct.1 (hname ▸ List.mem_map_of_mem hother)

theorem reads_readParts (text : String) :
    Reads (readParts text) ({ name := typeName } :: plainDemands) (partsOf text) := by
  have hconditions := @reads_readConditions text Counter.all (by decide)
  refine reads_readLevel.bind plainDemands (fun level => ?_) (by decide)
  exact (reads_value valueName).bind (counterDemands Counter.all)
    (fun value => hconditions.convert fun conditions =>
      .ok ({ level, value, conditions } : ScopeFilter))
    (by decide)

theorem run_checkLeftover (text : String) (l : Locator) :
    (checkLeftover text).run l = (leftover text l.unused, l) := by
  rw [checkLeftover, run_bind, run_whole, leftover]
  dsimp only
  cases l.unused.isEmpty with
  | true => rfl
  | false => rfl

theorem leftover_eq_ok_iff {text : String} {unused : List String} :
    leftover text unused = .ok () ↔ unused = [] := by
  rw [leftover, ← List.isEmpty_iff]
  split
  · next h => simp [h]
  · next h => simp [h]

/-- A filter is what its open values spell, provided that nothing is left over. -/
theorem answer_ofDimensions (text : String) (l : Locator) :
    (ofDimensions text).answer l = (do
      let filter ← partsOf text l.openValues
      leftover text (l.serveAll ({ name := typeName } :: plainDemands)).unused
      return filter) := by
  have hcheck : ∀ l, (checkLeftover text).answer l = leftover text l.unused := by
    intro l
    rw [Reading.answer, run_checkLeftover]
  rw [ofDimensions_eq, (reads_readParts text).answer_checked hcheck]

theorem partsOf_eq_ok_iff {text : String} {o : String → List String} {filter : ScopeFilter} :
    partsOf text o = .ok filter ↔ levelOf (o typeName) = .ok filter.level ∧
      conditionsOf text Counter.all o = .ok filter.conditions ∧
      (o valueName).head? = filter.value := by
  rw [partsOf, bind_eq_ok_iff]
  constructor
  · rintro ⟨level, hlevel, h⟩
    obtain ⟨conditions, hconditions, hfilter⟩ := bind_eq_ok_iff.mp h
    cases hfilter
    exact ⟨hlevel, hconditions, rfl⟩
  · rintro ⟨hlevel, hconditions, hvalue⟩
    refine ⟨filter.level, hlevel, bind_eq_ok_iff.mpr ⟨filter.conditions, hconditions, ?_⟩⟩
    rw [hvalue]

theorem answer_ofDimensions_eq_ok_iff {text : String} {l : Locator} {filter : ScopeFilter} :
    (ofDimensions text).answer l = .ok filter ↔ partsOf text l.openValues = .ok filter ∧
      (l.serveAll ({ name := typeName } :: plainDemands)).unused = [] := by
  rw [answer_ofDimensions, checked_eq_ok_iff, leftover_eq_ok_iff]

/-- The text of a filter shows in its errors only. -/
theorem conditionOf_of_ok {text text' : String} {counter : Counter} {values : List String}
    {found : Option (Counter × Condition)} (h : conditionOf text counter values = .ok found) :
    conditionOf text' counter values = .ok found := by
  cases values with
  | nil => exact h
  | cons raw rest =>
    rw [conditionOf] at h ⊢
    cases hraw : Condition.parse counter.name raw with
    | error e => rw [hraw] at h; cases h
    | ok condition => rwa [hraw] at h

theorem conditionsOf_of_ok {text text' : String} {counters : List Counter}
    {o : String → List String} {conditions : List (Counter × Condition)}
    (h : conditionsOf text counters o = .ok conditions) :
    conditionsOf text' counters o = .ok conditions := by
  obtain ⟨found, hfound, hconditions⟩ := map_eq_ok_iff.mp h
  refine map_eq_ok_iff.mpr ⟨found, ?_, hconditions⟩
  rw [mapM_eq_ok_iff] at hfound ⊢
  exact hfound.imp fun _ _ => conditionOf_of_ok

/-- The dimension that gives a level. -/
def levelItem (level : ScopeLevel) : Dimension := { name := typeName, value := level.name }

theorem parse_name (level : ScopeLevel) : ScopeLevel.parse level.name = .ok level := by
  cases level with
  | package => decide +kernel
  | suite => decide +kernel
  | testClass => decide +kernel

section Level
variable {level : ScopeLevel} {ds : List Dimension}

theorem openValues_levelItem {name : String} (h : name ≠ typeName) :
    (Locator.dimensions (levelItem level :: ds)).openValues name =
      (Locator.dimensions ds).openValues name := by
  have hclosed : ¬ (levelItem level).isOpen name = true := by
    rw [Dimension.isOpen_iff]
    exact fun ⟨_, hname⟩ => h hname.symm
  exact (Dimension.openValues_cons name _ ds).trans (if_neg hclosed)

variable (plain : ∀ d ∈ ds, d.name ≠ typeName)
include plain

theorem openValues_typeName : (Locator.dimensions ds).openValues typeName = [] :=
  Dimension.openValues_of_forall_ne plain

theorem partsOf_levelItem {text text' : String} {filter : ScopeFilter} :
    partsOf text (Locator.dimensions (levelItem level :: ds)).openValues = .ok filter ↔
      partsOf text' (Locator.dimensions ds).openValues = .ok { filter with level := none } ∧
        filter.level = some level := by
  have hlevel : (Locator.dimensions (levelItem level :: ds)).openValues typeName = [level.name] :=
    (Dimension.openValues_cons typeName _ ds).trans
      (congrArg (level.name :: ·) (openValues_typeName plain))
  have hrest : ∀ text, conditionsOf text Counter.all
      (Locator.dimensions (levelItem level :: ds)).openValues =
        conditionsOf text Counter.all (Locator.dimensions ds).openValues := by
    intro text
    refine (@reads_readConditions text Counter.all (by decide)).footprint _ _ fun d hd => ?_
    refine openValues_levelItem ?_
    revert d
    decide
  rw [partsOf_eq_ok_iff, partsOf_eq_ok_iff, hlevel, hrest, openValues_typeName plain,
    openValues_levelItem (by decide), levelOf, levelOf, parse_name]
  constructor
  · rintro ⟨hl, hconditions, hvalue⟩
    exact ⟨⟨rfl, conditionsOf_of_ok hconditions, hvalue⟩, (Except.ok.inj hl).symm⟩
  · rintro ⟨⟨-, hconditions, hvalue⟩, hl⟩
    exact ⟨congrArg Except.ok hl.symm, conditionsOf_of_ok hconditions, hvalue⟩

theorem unused_levelItem (demands : List Demand) :
    ((Locator.dimensions (levelItem level :: ds)).serveAll
        ({ name := typeName } :: demands)).unused =
      ((Locator.dimensions ds).serveAll ({ name := typeName } :: demands)).unused := by
  have htaken : ((Locator.dimensions (levelItem level :: ds)).take typeName).2.remaining =
      (Locator.dimensions ds).remaining :=
    @Locator.remaining_take_append typeName [] nofun (levelItem level) rfl ds
  have hserved : ((Locator.dimensions (levelItem level :: ds)).serve { name := typeName }).remaining =
      ((Locator.dimensions ds).serve { name := typeName }).remaining :=
    htaken.trans (congrArg Locator.remaining
      (Locator.take_of_openValues_nil (openValues_typeName plain)).symm)
  rw [← Locator.unused_remaining, ← Locator.unused_remaining ((Locator.dimensions ds).serveAll _)]
  exact congrArg Locator.unused (Locator.remaining_serveAll hserved demands)

/-- A level in front of the other dimensions of a filter sets the level and nothing else. -/
theorem answer_levelItem {text text' : String} {filter : ScopeFilter} :
    (ofDimensions text).answer (.dimensions (levelItem level :: ds)) = .ok filter ↔
      (ofDimensions text').answer (.dimensions ds) = .ok { filter with level := none } ∧
        filter.level = some level := by
  rw [answer_ofDimensions_eq_ok_iff, answer_ofDimensions_eq_ok_iff,
    @partsOf_levelItem level ds plain text text', unused_levelItem plain, and_right_comm]

end Level

end ScopeFilter

end LocatorQuery
