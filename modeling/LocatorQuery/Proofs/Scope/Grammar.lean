import LocatorQuery.Proofs.Locator.Surplus
import LocatorQuery.Proofs.Query.ByKey
import LocatorQuery.Proofs.Query.Condition
import LocatorQuery.Proofs.Scope.Agreement
import LocatorQuery.Proofs.Scope.RollUp

/-! The grammar of scope filters. A list of dimensions is a filter when it repeats no name, has no other names
than those of a filter, and each of its values can be read. In which order it lists them does not matter. -/
namespace LocatorQuery
open Outcome

theorem ScopeLevel.parse_eq_ok_iff {raw : String} {level : ScopeLevel} :
    parse raw = .ok level ↔ (Text.trimmed raw).toLower = level.name := by
  have distinct : (all.map name).Nodup := by decide
  have hfind : all.find? (fun level => level.name == (Text.trimmed raw).toLower) = some level ↔
      (Text.trimmed raw).toLower = level.name := by
    rw [find?_key_eq_some_iff distinct, eq_comm, and_iff_right_iff_imp]
    intro _
    cases level <;> decide
  rw [parse, ← hfind]
  split
  · next found hfound => rw [hfound, Except.ok.injEq, Option.some.injEq]
  · next hnone => simp [hnone]

namespace ScopeFilter

/-- All that a filter takes. -/
def filterDemands : List Demand := { name := typeName } :: plainDemands

theorem names_eq : names = filterDemands.map Demand.name := rfl

/-- The dimensions that make up a filter. -/
structure Grammatical (ds : List Dimension) : Prop where
  known : ∀ d ∈ ds, d.name ∈ names
  once : (ds.map Dimension.name).Nodup
  level : ∀ d ∈ ds, d.name = typeName →
    ∃ level : ScopeLevel, (Text.trimmed d.value).toLower = level.name
  conditions : ∀ counter : Counter, ∀ d ∈ ds, d.name = counter.name →
    ∃ condition, Condition.parse counter.name d.value = .ok condition

/-- Whether a key and counts are what dimensions ask for. The value is the key, and each counter that is not
set to `any` satisfies its condition. -/
def Meets (ds : List Dimension) (key : String) (count : Counter → Int) : Prop :=
  (∀ d ∈ ds, d.name = valueName → d.value = key) ∧
    ∀ counter : Counter, ∀ d ∈ ds, d.name = counter.name → d.value.toLower ≠ "any" →
      ∃ condition, Condition.parse counter.name d.value = .ok (some condition) ∧
        condition.comparison.holds (count counter) condition.operand

theorem exists_levelOf_iff {values : List String} :
    (∃ level, levelOf values = .ok level) ↔
      ∀ raw, values.head? = some raw → ∃ level, ScopeLevel.parse raw = .ok level := by
  cases values with
  | nil => exact iff_of_true ⟨none, rfl⟩ nofun
  | cons raw rest => simp [levelOf, map_eq_ok_iff]

theorem exists_conditionOf_iff {text : String} {counter : Counter} {values : List String} :
    (∃ found, conditionOf text counter values = .ok found) ↔
      ∀ raw, values.head? = some raw → ∃ condition, Condition.parse counter.name raw = .ok condition := by
  cases values with
  | nil => exact iff_of_true ⟨none, rfl⟩ nofun
  | cons raw rest =>
    simp only [conditionOf, List.head?_cons, Option.some.injEq, forall_eq']
    cases Condition.parse counter.name raw with
    | error e => simp
    | ok condition => simp

theorem mem_all (counter : Counter) : counter ∈ Counter.all := by
  cases counter <;> decide

theorem exists_partsOf_iff {text : String} {o : String → List String} :
    (∃ filter, partsOf text o = .ok filter) ↔ (∃ level, levelOf (o typeName) = .ok level) ∧
      ∀ counter : Counter, ∃ found, conditionOf text counter (o counter.name) = .ok found := by
  constructor
  · rintro ⟨filter, h⟩
    obtain ⟨hlevel, hconditions, -⟩ := partsOf_eq_ok_iff.mp h
    obtain ⟨found, hfound, -⟩ := map_eq_ok_iff.mp hconditions
    exact ⟨⟨_, hlevel⟩, fun counter => exists_of_mapM_eq_ok hfound (mem_all counter)⟩
  · rintro ⟨⟨level, hlevel⟩, hconditions⟩
    have hread : ∀ counter ∈ Counter.all,
        ∃ found, conditionOf text counter (o counter.name) = .ok found :=
      fun counter _ => hconditions counter
    obtain ⟨found, hfound⟩ := exists_mapM_eq_ok hread
    exact ⟨{ level, value := _, conditions := _ }, partsOf_eq_ok_iff.mpr
      ⟨hlevel, map_eq_ok_iff.mpr ⟨found, hfound, rfl⟩, rfl⟩⟩

section Once
variable {ds : List Dimension} (once : (ds.map Dimension.name).Nodup)
include once

theorem exists_levelOf_valuesOf_iff :
    (∃ level, levelOf ((Locator.dimensions ds).valuesOf typeName) = .ok level) ↔
      ∀ d ∈ ds, d.name = typeName →
        ∃ level : ScopeLevel, (Text.trimmed d.value).toLower = level.name := by
  rw [exists_levelOf_iff, Locator.forall_head?_valuesOf_iff once]
  simp only [ScopeLevel.parse_eq_ok_iff]

theorem exists_conditionOf_valuesOf_iff {text : String} {counter : Counter} :
    (∃ found, conditionOf text counter ((Locator.dimensions ds).valuesOf counter.name) = .ok found) ↔
      ∀ d ∈ ds, d.name = counter.name →
        ∃ condition, Condition.parse counter.name d.value = .ok condition := by
  rw [exists_conditionOf_iff, Locator.forall_head?_valuesOf_iff once]

end Once

theorem mem_of_conditionOf {text : String} {first : Counter} {values : List String}
    {found : Option (Counter × Condition)} (h : conditionOf text first values = .ok found)
    {counter : Counter} {condition : Condition} :
    (counter, condition) ∈ found.toList ↔ counter = first ∧
      ∃ raw, values.head? = some raw ∧ Condition.parse first.name raw = .ok (some condition) := by
  cases values with
  | nil =>
    cases h
    simp
  | cons raw rest =>
    rw [conditionOf] at h
    simp only [List.head?_cons, Option.some.injEq, exists_eq_left']
    cases hparse : Condition.parse first.name raw with
    | error e =>
      rw [hparse] at h
      cases h
    | ok parsed =>
      rw [hparse] at h
      cases h
      cases parsed with
      | none => simp
      | some parsed => simp [eq_comm]

/-- The conditions of a filter are those that its counters give. -/
theorem mem_conditionsOf_iff {text : String} {counters : List Counter} {o : String → List String}
    {conditions : List (Counter × Condition)} (h : conditionsOf text counters o = .ok conditions)
    {counter : Counter} {condition : Condition} :
    (counter, condition) ∈ conditions ↔ counter ∈ counters ∧
      ∃ raw, (o counter.name).head? = some raw ∧
        Condition.parse counter.name raw = .ok (some condition) := by
  induction counters generalizing conditions with
  | nil =>
    cases h
    simp
  | cons first counters ih =>
    rw [conditionsOf_cons] at h
    obtain ⟨found, hfound, h⟩ := bind_eq_ok_iff.mp h
    obtain ⟨rest, hrest, h⟩ := bind_eq_ok_iff.mp h
    cases h
    rw [List.mem_append, mem_of_conditionOf hfound, ih hrest, List.mem_cons, or_and_right]
    refine or_congr_left (and_congr_right ?_)
    rintro rfl
    rfl

section Read
variable {text : String} {ds : List Dimension} (h : Locator.parse text = .ok (.dimensions ds))
include h

/-- A text of dimensions is the filter that its values spell, provided that nothing is left over. -/
theorem parse_eq : parse text = (do
    let filter ← partsOf text (Locator.dimensions ds).valuesOf
    leftover text ((Demand.restAll filterDemands ds).map Dimension.name).eraseDups
    return filter) := by
  have untaken : (Locator.dimensions ds).Untaken := (Locator.Origin.parse h).untaken
  rw [parse_of_dimensions h, answer_ofDimensions, Locator.openValues_of_untaken untaken,
    Locator.unused_serveAll_of_untaken untaken]
  rfl

theorem parse_eq_ok_iff {filter : ScopeFilter} :
    parse text = .ok filter ↔ partsOf text (Locator.dimensions ds).valuesOf = .ok filter ∧
      (∀ d ∈ ds, d.name ∈ names) ∧ (ds.map Dimension.name).Nodup := by
  have hrest : ((Demand.restAll filterDemands ds).map Dimension.name).eraseDups = [] ↔
      (∀ d ∈ ds, d.name ∈ names) ∧ (ds.map Dimension.name).Nodup := by
    have untaken : (Locator.dimensions ds).Untaken := (Locator.Origin.parse h).untaken
    rw [names_eq, ← Locator.unused_serveAll_of_untaken untaken]
    exact Locator.unused_serveAll_eq_nil_iff untaken (by decide) (by decide)
  rw [parse_eq h, checked_eq_ok_iff, leftover_eq_ok_iff, hrest]

theorem exists_parse_iff : (∃ filter, parse text = .ok filter) ↔ Grammatical ds := by
  constructor
  · rintro ⟨filter, hfilter⟩
    obtain ⟨hfound, hknown, once⟩ := (parse_eq_ok_iff h).mp hfilter
    obtain ⟨hlevel, hconditions⟩ := exists_partsOf_iff.mp ⟨filter, hfound⟩
    exact ⟨hknown, once, (exists_levelOf_valuesOf_iff once).mp hlevel,
      fun counter => (exists_conditionOf_valuesOf_iff once).mp (hconditions counter)⟩
  · rintro ⟨hknown, once, hlevel, hconditions⟩
    obtain ⟨filter, hfound⟩ := exists_partsOf_iff.mpr ⟨(exists_levelOf_valuesOf_iff once).mpr hlevel,
      fun counter => (exists_conditionOf_valuesOf_iff once).mpr (hconditions counter)⟩
    exact ⟨filter, (parse_eq_ok_iff h).mpr ⟨hfound, hknown, once⟩⟩

theorem parse_of_perm {text' : String} {ds' : List Dimension}
    (h' : Locator.parse text' = .ok (.dimensions ds')) (hperm : ds'.Perm ds) {filter : ScopeFilter}
    (hfilter : parse text = .ok filter) : parse text' = .ok filter := by
  obtain ⟨hfound, hknown, once⟩ := (parse_eq_ok_iff h).mp hfilter
  obtain ⟨hlevel, hconditions, hvalue⟩ := partsOf_eq_ok_iff.mp hfound
  refine (parse_eq_ok_iff h').mpr ⟨?_, fun d hd => hknown d (hperm.mem_iff.mp hd), ?_⟩
  · rw [Locator.valuesOf_of_perm once hperm]
    exact partsOf_eq_ok_iff.mpr ⟨hlevel, conditionsOf_of_ok hconditions, hvalue⟩
  · exact (hperm.map Dimension.name).nodup_iff.mpr once

theorem accepts_iff {filter : ScopeFilter} (hfilter : parse text = .ok filter) (key : String)
    (counters : Counters) :
    filter.accepts key counters = true ↔
      Meets ds key fun counter => Text.signed (counter.read counters) := by
  obtain ⟨hfound, -, once⟩ := (parse_eq_ok_iff h).mp hfilter
  obtain ⟨-, hconditions, hvalue⟩ := partsOf_eq_ok_iff.mp hfound
  have hkey : filter.value.all (· == key) = true ↔ ∀ d ∈ ds, d.name = valueName → d.value = key := by
    rw [← hvalue, Option.all_eq_true, Locator.forall_head?_valuesOf_iff once]
    simp only [beq_iff_eq]
  have hcounters : (∀ p ∈ filter.conditions, p.2.accepts (Text.signed (p.1.read counters)) = true) ↔
      ∀ counter : Counter, ∀ d ∈ ds, d.name = counter.name → d.value.toLower ≠ "any" →
        ∃ condition, Condition.parse counter.name d.value = .ok (some condition) ∧
          condition.comparison.holds (Text.signed (counter.read counters)) condition.operand := by
    constructor
    · intro hall counter d hd hname hany
      have hhead := (Locator.head?_valuesOf_eq_some_iff once).mpr ⟨d, hd, hname, rfl⟩
      obtain ⟨-, hreads⟩ := exists_partsOf_iff.mp ⟨filter, hfound⟩
      obtain ⟨parsed, hparsed⟩ := (exists_conditionOf_valuesOf_iff once).mp (hreads counter) d hd hname
      cases parsed with
      | none => exact absurd (Condition.parse_eq_ok_none_iff.mp hparsed) hany
      | some condition =>
        have hmem := (mem_conditionsOf_iff hconditions).mpr ⟨mem_all counter, d.value, hhead, hparsed⟩
        exact ⟨condition, hparsed, of_decide_eq_true (hall (counter, condition) hmem)⟩
    · rintro hall ⟨counter, condition⟩ hmem
      obtain ⟨-, raw, hhead, hparsed⟩ := (mem_conditionsOf_iff hconditions).mp hmem
      obtain ⟨d, hd, hname, rfl⟩ := (Locator.head?_valuesOf_eq_some_iff once).mp hhead
      have hany : d.value.toLower ≠ "any" := by
        intro hany
        rw [Condition.parse_eq_ok_none_iff.mpr hany] at hparsed
        cases hparsed
      obtain ⟨condition', hparsed', hholds⟩ := hall counter d hd hname hany
      cases hparsed.symm.trans hparsed'
      exact decide_eq_true hholds
  rw [accepts, Bool.and_eq_true, List.all_eq_true, hkey]
  exact and_congr_right' hcounters

/-- A text of dimensions is a filter just when they are grammatical, whatever their order, and the filter
accepts what they ask for. Counters are compared as signed numbers, which they are as long as there are fewer
than 2⁶³ runs. -/
theorem parse_iff_grammatical :
    ((∃ filter, parse text = .ok filter) ↔ Grammatical ds) ∧
      (∀ text' ds', Locator.parse text' = .ok (.dimensions ds') → ds'.Perm ds →
        ∀ filter, parse text' = .ok filter ↔ parse text = .ok filter) ∧
      ∀ filter, parse text = .ok filter → ∀ key,
        (∀ counters, filter.accepts key counters = true ↔
          Meets ds key fun counter => Text.signed (counter.read counters)) ∧
        ∀ runs : List TestRun, runs.length < Text.signedBound →
          (filter.accepts key (.ofRuns runs) = true ↔
            Meets ds key fun counter => (counter.read (.ofRuns runs) : Nat)) := by
  refine ⟨exists_parse_iff h, ?_, fun filter hfilter key => ⟨accepts_iff h hfilter key, ?_⟩⟩
  · intro text' ds' h' hperm filter
    exact ⟨parse_of_perm h' h hperm.symm, parse_of_perm h h' hperm⟩
  · intro runs hruns
    have hread : (fun counter : Counter => Text.signed (counter.read (.ofRuns runs))) =
        fun counter => ((counter.read (.ofRuns runs) : Nat) : Int) := by
      funext counter
      exact Text.signed_of_lt (Nat.lt_of_le_of_lt (counter.read_ofRuns_le runs) hruns)
    rw [accepts_iff h hfilter, hread]

end Read

/-- A level and two counters in either order, on a bucket with one failure and one with none. -/
theorem parse_iff_grammatical_of_reordered :
    let text := "type:Suite,muted:ANY,failed:(condition:more-than,value:0)"
    let ds : List Dimension := [{ name := "type", value := "Suite" }, { name := "muted", value := "ANY" },
      { name := "failed", value := "condition:more-than,value:0" }]
    let run (status : Status) : TestRun := { id := 1, testId := 1, name := "x", buildId := 1, status }
    Grammatical ds ∧
      (∀ filter, parse "failed:(condition:more-than,value:0),type:Suite,muted:ANY" = .ok filter ↔
        parse text = .ok filter) ∧
      Meets ds "unit" (fun counter => (counter.read (.ofRuns [run .failure]) : Nat)) ∧
      ¬ Meets ds "unit" fun counter => (counter.read (.ofRuns [run .success]) : Nat) := by
  intro text ds run
  have h : Locator.parse text = .ok (.dimensions ds) := by decide +kernel
  have hfilter : parse text =
      .ok { level := some .suite, conditions := [(.failed, ⟨.moreThan, 0⟩)] } := by decide +kernel
  obtain ⟨haccepted, horder, hbuckets⟩ := parse_iff_grammatical h
  have hbucket := (hbuckets _ hfilter "unit").2
  refine ⟨haccepted.mp ⟨_, hfilter⟩, ?_, ?_, ?_⟩
  · exact horder _ [{ name := "failed", value := "condition:more-than,value:0" },
      { name := "type", value := "Suite" }, { name := "muted", value := "ANY" }]
      (by decide +kernel) (by decide)
  · exact (hbucket [run .failure] (by decide)).mp (by decide)
  · exact mt (hbucket [run .success] (by decide)).mpr (by decide)

/-- What each comparison with one failure accepts of buckets that have none, one and two. -/
example : Comparison.all.map (fun c => [0, 1, 2].filter fun n =>
      accepts { conditions := [(.failed, ⟨c, 1⟩)] } "unit" { total := 2, failed := n }) =
    [[1], [0, 2], [2], [0, 1], [0], [1, 2]] := by
  decide

end ScopeFilter

end LocatorQuery
