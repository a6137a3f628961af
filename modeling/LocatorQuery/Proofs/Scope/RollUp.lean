import LocatorQuery.Proofs.Scope.Grouping
import Mathlib.Algebra.GroupWithZero.Nat

/-! Scope levels roll up: the scopes of a level, taken together below each scope of the level around
it, hold its runs and add up to its counts. -/
namespace LocatorQuery

/-- Distinct keys that cover a list divide it, each part in its order. -/
theorem flatMap_filter_perm {α β : Type} [BEq β] [LawfulBEq β] {key : α → β} {keys : List β}
    {as : List α} (hn : keys.Nodup) (h : ∀ a ∈ as, key a ∈ keys) :
    (keys.flatMap fun k => as.filter fun a => key a == k).Perm as := by
  induction keys generalizing as with
  | nil =>
    have hnil : as = [] := List.eq_nil_iff_forall_not_mem.mpr fun a ha => nomatch h a ha
    rw [hnil]
    rfl
  | cons k keys ih =>
    rw [List.nodup_cons] at hn
    -- The other keys divide what the first one leaves over.
    have hrest : ∀ a ∈ as.filter (fun a => !(key a == k)), key a ∈ keys := by
      intro a ha
      obtain ⟨ha, hne⟩ := List.mem_filter.mp ha
      exact (List.mem_cons.mp (h a ha)).resolve_left (by simpa using hne)
    have hkeep : ∀ k' ∈ keys, (as.filter fun a => !(key a == k)).filter (fun a => key a == k') =
        as.filter fun a => key a == k' := by
      intro k' hk'
      rw [List.filter_filter]
      refine List.filter_congr fun a _ => ?_
      by_cases hk : key a = k'
      · have hne : k' ≠ k := fun he => hn.1 (he ▸ hk')
        simp [hk, hne]
      · simp [hk]
    have hperm := ih hn.2 hrest
    rw [List.flatMap_congr hkeep] at hperm
    rw [List.flatMap_cons]
    exact (hperm.append_left _).trans (List.filter_append_perm _ as)

/-- Of blocks that carry distinct marks, a mark selects its own. -/
theorem filter_flatMap_of_mem {α β γ : Type} [BEq γ] [LawfulBEq γ] {block : α → List β}
    {mark : α → γ} {markOf : β → γ} {as : List α} (hn : (as.map mark).Nodup)
    (hblock : ∀ a, ∀ b ∈ block a, markOf b = mark a) {a : α} (ha : a ∈ as) :
    (as.flatMap block).filter (fun b => markOf b == mark a) = block a := by
  induction as with
  | nil => cases ha
  | cons first rest ih =>
    rw [List.map_cons, List.nodup_cons] at hn
    rw [List.flatMap_cons, List.filter_append]
    by_cases hmem : a ∈ rest
    · have hne : mark first ≠ mark a := fun he => hn.1 (he ▸ List.mem_map_of_mem hmem)
      have hnone : (block first).filter (fun b => markOf b == mark a) = [] := by
        rw [List.filter_eq_nil_iff]
        intro b hb
        rw [hblock first b hb]
        simpa using hne
      rw [hnone, List.nil_append, ih hn.2 hmem]
    · obtain rfl := (List.mem_cons.mp ha).resolve_right hmem
      have hall : (block a).filter (fun b => markOf b == mark a) = block a := by
        rw [List.filter_eq_self]
        intro b hb
        simp [hblock a b hb]
      have hnone : (rest.flatMap block).filter (fun b => markOf b == mark a) = [] := by
        rw [List.filter_eq_nil_iff]
        intro b hb
        obtain ⟨c, hc, hb⟩ := List.mem_flatMap.mp hb
        have hne : mark c ≠ mark a := fun he => hn.1 (he ▸ List.mem_map_of_mem hc)
        simpa [hblock c b hb] using hne
      rw [hall, hnone, List.append_nil]

/-- Whether a run counts in a counter. -/
def Counter.counts : Counter → TestRun → Bool
  | total, _ => true
  | passed, run => run.status == .success
  | failed, run => run.status == .failure && !run.muted
  | ignored, run => run.status == .unknown
  | muted, run => run.status == .failure && run.muted

theorem Counter.read_ofRuns (counter : Counter) (runs : List TestRun) :
    counter.read (.ofRuns runs) = runs.countP counter.counts := by
  cases counter with
  | total => exact (congrFun List.countP_true runs).symm
  | _ => rfl

theorem Counter.read_ofRuns_le (counter : Counter) (runs : List TestRun) :
    counter.read (.ofRuns runs) ≤ runs.length := by
  rw [counter.read_ofRuns]
  exact List.countP_le_length

/-- Every run counts once besides the total. -/
theorem Counters.total_ofRuns (runs : List TestRun) :
    let c := Counters.ofRuns runs
    c.total = c.passed + c.failed + c.ignored + c.muted := by
  induction runs with
  | nil => rfl
  | cons run runs ih =>
    dsimp only [ofRuns] at ih ⊢
    simp only [List.length_cons, List.countP_cons]
    cases run.status <;> cases run.muted <;> simp <;> omega

namespace Scope

section Collect
variable {path : List String} {key : TestRun → String} {runs : List TestRun}

theorem path_of_mem_collect {s : Scope} (h : s ∈ collect path key runs) : s.path = path := by
  rw [collect_eq] at h
  obtain ⟨k, -, rfl⟩ := List.mem_map.mp h
  rfl

theorem members_of_mem_collect {s : Scope} (h : s ∈ collect path key runs) :
    s.members = runs.filter fun run => key run == s.key := by
  rw [collect_eq] at h
  obtain ⟨k, -, rfl⟩ := List.mem_map.mp h
  rfl

theorem collect_ne_nil (h : runs ≠ []) : collect path key runs ≠ [] := by
  obtain ⟨run, rest, rfl⟩ := List.exists_cons_of_ne_nil h
  rw [collect_eq, List.map_cons, List.eraseDups_cons, List.map_cons]
  exact List.cons_ne_nil _ _

/-- One pass divides the runs. -/
theorem flatMap_members_collect_perm (path : List String) (key : TestRun → String)
    (runs : List TestRun) : ((collect path key runs).flatMap members).Perm runs := by
  rw [collect_eq, List.flatMap_map]
  refine flatMap_filter_perm (nodup_eraseDups _) fun run hrun => ?_
  rw [List.mem_eraseDups]
  exact List.mem_map_of_mem hrun

/-- Its scopes count every run once. -/
theorem sum_counters_collect (path : List String) (key : TestRun → String) (runs : List TestRun)
    (counter : Counter) :
    ((collect path key runs).map fun s => counter.read s.counters).sum =
      counter.read (.ofRuns runs) := by
  have hread : (collect path key runs).map (fun s => counter.read s.counters) =
      (collect path key runs).map (List.countP counter.counts ∘ members) := by
    refine List.map_congr_left fun s hs => ?_
    rw [collect_eq] at hs
    obtain ⟨k, -, rfl⟩ := List.mem_map.mp hs
    exact counter.read_ofRuns _
  rw [hread, ← List.countP_flatMap, counter.read_ofRuns]
  exact (flatMap_members_collect_perm path key runs).countP_eq _

end Collect

/-- The scopes of a level are made by one more pass over those of the level around it. -/
theorem group_finer {level next : ScopeLevel} (h : next.outer = level.passes)
    (runs : List TestRun) :
    group next {} runs =
      (group level {} runs).flatMap fun s => collect s.vector next.runKey s.members := by
  rw [group, group, filter_accepts_empty, filter_accepts_empty, h, ScopeLevel.passes, frontier,
    List.foldl_concat, List.flatMap_assoc, List.flatMap_assoc]
  refine List.flatMap_congr fun part _ => ?_
  obtain ⟨path, members⟩ := part
  rw [List.flatMap_map]
  rfl

/-- The scopes directly below a scope, among those of a finer level. -/
def below (s : Scope) (finer : List Scope) : List Scope :=
  finer.filter fun t => t.path == s.vector

/-- Each scope of a level is the sum of the scopes below it, by a key, at the next finer level. -/
structure RollsUp (runs : List TestRun) (key : TestRun → String) (scopes finer : List Scope) :
    Prop where
  /-- One block below each scope, in the order of these, is all of the finer level. -/
  blocks : scopes.flatMap (fun s => s.below finer) = finer
  nonempty : ∀ s ∈ scopes, s.below finer ≠ []
  counters : ∀ s ∈ scopes, ∀ counter : Counter,
    ((s.below finer).map fun t => counter.read t.counters).sum = counter.read s.counters
  members : ∀ s ∈ scopes, ((s.below finer).flatMap members).Perm s.members
  /-- The runs of one scope stay in their order. -/
  stable : ∀ s ∈ scopes, s.members.Sublist runs ∧
    ∀ t ∈ s.below finer, t.members = s.members.filter fun run => key run == t.key

theorem rollsUp_group {level next : ScopeLevel} (h : next.outer = level.passes)
    (runs : List TestRun) :
    RollsUp runs next.runKey (group level {} runs) (group next {} runs) := by
  have hparts := partitions_group level runs
  have hbelow : ∀ s ∈ group level {} runs,
      s.below (group next {} runs) = collect s.vector next.runKey s.members := by
    intro s hs
    rw [below, group_finer h]
    exact filter_flatMap_of_mem hparts.unique (fun _ _ => path_of_mem_collect) hs
  refine ⟨?_, ?_, ?_, ?_, ?_⟩
  · rw [List.flatMap_congr hbelow]
    exact (group_finer h runs).symm
  · intro s hs
    rw [hbelow s hs]
    exact collect_ne_nil (hparts.nonempty s hs)
  · intro s hs counter
    rw [hbelow s hs, sum_counters_collect, hparts.counters s hs]
  · intro s hs
    rw [hbelow s hs]
    exact flatMap_members_collect_perm _ _ _
  · intro s hs
    constructor
    · rw [hparts.members s hs]
      exact List.filter_sublist
    · intro t ht
      rw [hbelow s hs] at ht
      exact members_of_mem_collect ht

/-- Packages are the sums of their suites and suites those of their classes, and at every level each
run of a scope counts once in the total and once elsewhere. -/
theorem levels_roll_up (runs : List TestRun) :
    RollsUp runs (fun run => run.testName.suite) (group .package {} runs) (group .suite {} runs) ∧
    RollsUp runs (fun run => run.testName.className) (group .suite {} runs)
      (group .testClass {} runs) ∧
    ∀ level, ∀ s ∈ group level {} runs,
      s.counters.total =
        s.counters.passed + s.counters.failed + s.counters.ignored + s.counters.muted ∧
      s.counters.total = s.members.length := by
  have suites := @rollsUp_group .package .suite rfl runs
  have classes := @rollsUp_group .suite .testClass rfl runs
  refine ⟨suites, classes, fun level s hs => ?_⟩
  rw [(partitions_group level runs).counters s hs]
  exact ⟨Counters.total_ofRuns s.members, rfl⟩

/-- Two packages share the name of a suite, and their runs alternate. -/
theorem levels_roll_up_of_shared_suite :
    let run (id : UInt64) (name : String) (status : Status) (muted : Bool) : TestRun :=
      { id, testId := id, name, buildId := 1, status, muted }
    let runs := [run 1 "unit: b.Zeta.x" .success true, run 2 "unit: a.Alpha.x" .failure true,
      run 3 "it: b.Zeta.y" .unknown false, run 4 "unit: b.Beta.x" .failure false]
    let scope : Scope :=
      { key := "unit", path := ["b"]
        members := [run 1 "unit: b.Zeta.x" .success true, run 4 "unit: b.Beta.x" .failure false]
        counters := { total := 2, passed := 1, failed := 1 } }
    scope ∈ group .suite {} runs ∧
      RollsUp runs (fun run => run.testName.suite) (group .package {} runs) (group .suite {} runs) ∧
      scope.counters.total = scope.counters.passed + scope.counters.failed +
        scope.counters.ignored + scope.counters.muted ∧
      scope.counters.total = scope.members.length := by
  intro run runs scope
  have hscope : scope ∈ group .suite {} runs := by decide +kernel
  obtain ⟨suites, -, counts⟩ := levels_roll_up runs
  exact ⟨hscope, suites, counts .suite scope hscope⟩

end Scope

end LocatorQuery
