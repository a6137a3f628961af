import LocatorQuery.Scope.Grouping
import LocatorQuery.Proofs.FirstSeen

/-! Grouping is a stable nested partition: one scope for each vector of keys that occurs, holding the
runs of that vector in their order, and the scopes ordered level by level by first occurrence. -/
namespace LocatorQuery

/-- The counts over some runs. -/
def Counters.ofRuns (runs : List TestRun) : Counters where
  total := runs.length
  passed := runs.countP fun run => run.status == .success
  failed := runs.countP fun run => run.status == .failure && !run.muted
  ignored := runs.countP fun run => run.status == .unknown
  muted := runs.countP fun run => run.status == .failure && run.muted

theorem Counters.ofRuns_concat (runs : List TestRun) (run : TestRun) :
    ofRuns (runs ++ [run]) = (ofRuns runs).record run.status run.muted := by
  have hcount (p : TestRun → Bool) :
      (runs ++ [run]).countP p = runs.countP p + if p run then 1 else 0 := by
    rw [List.countP_append, List.countP_singleton]
  simp only [ofRuns, hcount, List.length_append, List.length_singleton]
  cases run.status with
  | success => rfl
  | failure => cases run.muted <;> rfl
  | unknown => rfl

namespace Scope

section Collect

variable (path : List String) (key : TestRun → String)

/-- The scope of a key among some runs. -/
def ofKey (runs : List TestRun) (k : String) : Scope where
  key := k
  path
  members := runs.filter fun run => key run == k
  counters := .ofRuns (runs.filter fun run => key run == k)

/-- That scope as it stands while it is filled, its members latest first. -/
def filling (seen : List TestRun) (k : String) : Scope :=
  { ofKey path key seen k with members := (ofKey path key seen k).members.reverse }

variable {path key}

theorem add_filling (seen : List TestRun) (run : TestRun) :
    add run (filling path key seen (key run)) = filling path key (seen ++ [run]) (key run) := by
  have hfilter : (seen ++ [run]).filter (fun r => key r == key run) =
      seen.filter (fun r => key r == key run) ++ [run] := by
    rw [List.filter_append, List.filter_cons_of_pos (by simp), List.filter_nil]
  simp only [add, filling, ofKey, hfilter, Counters.ofRuns_concat, List.reverse_concat]

theorem filling_concat_of_ne {k : String} (seen : List TestRun) {run : TestRun}
    (h : key run ≠ k) : filling path key (seen ++ [run]) k = filling path key seen k := by
  have hfilter : (seen ++ [run]).filter (fun r => key r == k) =
      seen.filter fun r => key r == k := by
    rw [List.filter_append, List.filter_cons_of_neg (by simpa using h), List.filter_nil,
      List.append_nil]
  simp only [filling, ofKey, hfilter]

/-- A run of a key that has a scope goes into that scope and changes no other. -/
theorem insert_of_mem {ks : List String} {run : TestRun} (seen : List TestRun) (hn : ks.Nodup)
    (h : key run ∈ ks) :
    insert path (key run) run (ks.map (filling path key seen)) =
      ks.map (filling path key (seen ++ [run])) := by
  induction ks with
  | nil => cases h
  | cons k ks ih =>
    rw [List.nodup_cons] at hn
    rw [List.map_cons, List.map_cons, insert]
    change (if k = key run then _ else _) = _
    split
    · next hk =>
      subst hk
      -- The keys are distinct, so no scope behind this one changes.
      rw [add_filling]
      congr 1
      refine List.map_congr_left fun k' hk' => (filling_concat_of_ne seen ?_).symm
      rintro rfl
      exact hn.1 hk'
    · next hk =>
      have hrest : key run ∈ ks := by
        rcases List.mem_cons.mp h with he | he
        · exact absurd he.symm hk
        · exact he
      rw [ih hn.2 hrest, filling_concat_of_ne seen (Ne.symm hk)]

/-- A run of a new key gets a scope of its own behind the others. -/
theorem insert_of_notMem {ks : List String} {run : TestRun} {seen : List TestRun}
    (hseen : ∀ r ∈ seen, key r ≠ key run) (h : key run ∉ ks) :
    insert path (key run) run (ks.map (filling path key seen)) =
      (ks ++ [key run]).map (filling path key (seen ++ [run])) := by
  induction ks with
  | nil =>
    have hempty : seen.filter (fun r => key r == key run) = [] := by
      rw [List.filter_eq_nil_iff]
      intro r hr
      simpa using hseen r hr
    have hnew : filling path key seen (key run) =
        { key := key run, path, members := [], counters := {} } := by
      simp only [filling, ofKey, hempty]
      rfl
    rw [List.map_nil, insert, ← hnew, add_filling]
    rfl
  | cons k ks ih =>
    rw [List.mem_cons, not_or] at h
    rw [List.map_cons, List.cons_append, List.map_cons, insert]
    change (if k = key run then _ else _) = _
    rw [if_neg (Ne.symm h.1), ih h.2, filling_concat_of_ne seen h.1]

theorem insert_filling (seen : List TestRun) (run : TestRun) :
    insert path (key run) run ((seen.map key).eraseDups.map (filling path key seen)) =
      ((seen ++ [run]).map key).eraseDups.map (filling path key (seen ++ [run])) := by
  rw [List.map_append, List.map_singleton]
  by_cases h : key run ∈ seen.map key
  · rw [eraseDups_concat_of_mem h]
    exact insert_of_mem seen (nodup_eraseDups _) (List.mem_eraseDups.mpr h)
  · rw [eraseDups_concat_of_notMem h]
    refine insert_of_notMem (fun r hr he => h ?_) (by rwa [List.mem_eraseDups])
    exact he ▸ List.mem_map_of_mem hr

theorem foldl_insert (seen runs : List TestRun) :
    runs.foldl (fun scopes run => insert path (key run) run scopes)
        ((seen.map key).eraseDups.map (filling path key seen)) =
      ((seen ++ runs).map key).eraseDups.map (filling path key (seen ++ runs)) := by
  induction runs generalizing seen with
  | nil => rw [List.append_nil]; rfl
  | cons run runs ih =>
    rw [List.foldl_cons, insert_filling, ih, List.append_assoc, List.singleton_append]

theorem collect_eq (runs : List TestRun) :
    collect path key runs = (runs.map key).eraseDups.map (ofKey path key runs) := by
  have hfold : runs.foldl (fun scopes run => insert path (key run) run scopes) [] =
      (runs.map key).eraseDups.map (filling path key runs) := foldl_insert [] runs
  rw [collect, hfold, List.map_map]
  refine List.map_congr_left fun k _ => ?_
  rw [Function.comp_apply, filling, List.reverse_reverse]

end Collect

/-- The keys of a run, outermost first. -/
def keyVector (keys : List (TestRun → String)) (run : TestRun) : List String :=
  keys.map fun key => key run

/-- The keys that lead to a scope, its own last. -/
def vector (s : Scope) : List String := s.path ++ [s.key]

/-- The vectors that occur among some runs, those with the same beginning side by side. -/
def vectors : List (TestRun → String) → List TestRun → List (List String)
  | [], _ => [[]]
  | key :: keys, runs =>
    (runs.map key).eraseDups.flatMap fun k =>
      (vectors keys (runs.filter fun run => key run == k)).map (k :: ·)

/-- The scope of a vector below a path. -/
def ofVector (path : List String) (keys : List (TestRun → String)) (runs : List TestRun)
    (v : List String) : Scope where
  key := (path ++ v).getLast?.getD ""
  path := (path ++ v).dropLast
  members := runs.filter fun run => keyVector keys run == v
  counters := .ofRuns (runs.filter fun run => keyVector keys run == v)

theorem ofVector_cons (path : List String) (key : TestRun → String)
    (keys : List (TestRun → String)) (runs : List TestRun) (k : String) (v : List String) :
    ofVector path (key :: keys) runs (k :: v) =
      ofVector (path ++ [k]) keys (runs.filter fun run => key run == k) v := by
  have hpath : path ++ k :: v = path ++ [k] ++ v := List.append_cons path k v
  have hfilter : runs.filter (fun run => keyVector (key :: keys) run == k :: v) =
      (runs.filter fun run => key run == k).filter fun run => keyVector keys run == v := by
    rw [List.filter_filter]
    refine List.filter_congr fun run _ => ?_
    rw [keyVector, List.map_cons, List.cons_beq_cons, Bool.and_comm]
    rfl
  simp only [ofVector, hpath, hfilter]

theorem ofVector_singleton (path : List String) (key : TestRun → String) (runs : List TestRun)
    (k : String) : ofVector path [key] runs [k] = ofKey path key runs k := by
  have hfilter : runs.filter (fun run => keyVector [key] run == [k]) =
      runs.filter fun run => key run == k := by
    refine List.filter_congr fun run _ => ?_
    simp [keyVector]
  simp only [ofVector, hfilter, List.getLast?_concat, List.dropLast_concat]
  rfl

/-- One pass makes the scopes of the vectors of its key alone. -/
theorem collect_eq_vectors (path : List String) (key : TestRun → String) (runs : List TestRun) :
    collect path key runs = (vectors [key] runs).map (ofVector path [key] runs) := by
  have hvectors : vectors [key] runs = (runs.map key).eraseDups.map fun k => [k] := by
    rw [List.map_eq_flatMap]
    rfl
  rw [collect_eq, hvectors, List.map_map]
  exact List.map_congr_left fun k _ => (ofVector_singleton path key runs k).symm

end Scope

def ScopeLevel.runKey (level : ScopeLevel) (run : TestRun) : String := level.key run.testName

namespace Scope

/-- The passes over the outer levels and the last one together make the scopes of all vectors. -/
theorem flatMap_foldl_collect (last : TestRun → String) (levels : List ScopeLevel)
    (groups : List (List String × List TestRun)) :
    ((levels.foldl (fun groups level =>
        groups.flatMap fun (path, members) =>
          (collect path (fun run => level.key run.testName) members).map fun s =>
            (s.path ++ [s.key], s.members)) groups).flatMap fun (path, members) =>
      collect path last members) =
    groups.flatMap fun (path, members) =>
      (vectors (levels.map ScopeLevel.runKey ++ [last]) members).map
        (ofVector path (levels.map ScopeLevel.runKey ++ [last]) members) := by
  induction levels generalizing groups with
  | nil => exact List.flatMap_congr fun g _ => collect_eq_vectors g.1 last g.2
  | cons level levels ih =>
    -- The first pass turns a group into one for each of its keys, and the rest treats these alike.
    rw [List.foldl_cons, ih, List.flatMap_assoc]
    refine List.flatMap_congr fun (path, members) _ => ?_
    dsimp only
    rw [collect_eq, List.map_map, List.flatMap_map, List.map_cons, List.cons_append, vectors,
      List.map_flatMap]
    refine List.flatMap_congr fun k _ => ?_
    rw [List.map_map]
    exact List.map_congr_left fun v _ => (ofVector_cons path _ _ members k v).symm

/-- The keys by which a level divides the runs, outermost first: parts of the parsed name. -/
def levelKeys : ScopeLevel → List (TestRun → String)
  | .package => [fun run => run.testName.package]
  | .suite => [fun run => run.testName.package, fun run => run.testName.suite]
  | .testClass =>
    [fun run => run.testName.package, fun run => run.testName.suite,
      fun run => run.testName.className]

theorem map_runKey_passes (level : ScopeLevel) :
    level.passes.map ScopeLevel.runKey = levelKeys level := by
  cases level with
  | package => rfl
  | suite => rfl
  | testClass => rfl

theorem group_eq (level : ScopeLevel) (filter : ScopeFilter) (runs : List TestRun) :
    group level filter runs =
      ((vectors (levelKeys level) runs).map (ofVector [] (levelKeys level) runs)).filter fun s =>
        filter.accepts s.key s.counters := by
  rw [group, frontier, flatMap_foldl_collect, ← map_runKey_passes, ScopeLevel.passes,
    List.map_append, List.map_singleton, List.flatMap_singleton]
  rfl

/-- A vector comes before another if, at the first level where they differ, its key is seen first
among the runs of the keys that they share. -/
inductive Precedes : List (TestRun → String) → List TestRun → List String → List String → Prop
  | here {key keys runs a b v w} (h : (runs.map key).idxOf a < (runs.map key).idxOf b) :
      Precedes (key :: keys) runs (a :: v) (b :: w)
  | within {key keys runs a v w}
      (h : Precedes keys (runs.filter fun run => key run == a) v w) :
      Precedes (key :: keys) runs (a :: v) (a :: w)

/-- Scopes that divide some runs by their vectors. -/
structure Partitions (keys : List (TestRun → String)) (runs : List TestRun)
    (scopes : List Scope) : Prop where
  occurs : ∀ s ∈ scopes, ∃ run ∈ runs, keyVector keys run = s.vector
  total : ∀ run ∈ runs, ∃ s ∈ scopes, keyVector keys run = s.vector
  unique : (scopes.map vector).Nodup
  ordered : (scopes.map vector).Pairwise (Precedes keys runs)
  members : ∀ s ∈ scopes, s.members = runs.filter fun run => keyVector keys run == s.vector
  nonempty : ∀ s ∈ scopes, s.members ≠ []
  counters : ∀ s ∈ scopes, s.counters = .ofRuns s.members

theorem Precedes.ne {keys : List (TestRun → String)} {runs : List TestRun} {v w : List String}
    (h : Precedes keys runs v w) : v ≠ w := by
  induction h with
  | here h =>
    rintro heq
    rw [(List.cons.inj heq).1] at h
    exact Nat.lt_irrefl _ h
  | within _ ih =>
    intro heq
    exact ih (List.cons.inj heq).2

theorem pairwise_vectors (keys : List (TestRun → String)) (runs : List TestRun) :
    (vectors keys runs).Pairwise (Precedes keys runs) := by
  induction keys generalizing runs with
  | nil => exact List.pairwise_singleton _ _
  | cons key keys ih =>
    rw [vectors, List.pairwise_flatMap]
    constructor
    · intro k _
      rw [List.pairwise_map]
      exact (ih _).imp .within
    · refine (pairwise_eraseDups _).imp fun hlt v hv w hw => ?_
      obtain ⟨v, -, rfl⟩ := List.mem_map.mp hv
      obtain ⟨w, -, rfl⟩ := List.mem_map.mp hw
      exact .here hlt

/-- Just the vectors of the runs are listed; without keys there is one vector, even of no runs. -/
theorem mem_vectors_iff {keys : List (TestRun → String)} {runs : List TestRun} {v : List String}
    (h : keys ≠ [] ∨ runs ≠ []) :
    v ∈ vectors keys runs ↔ ∃ run ∈ runs, keyVector keys run = v := by
  induction keys generalizing runs v with
  | nil =>
    have hruns : runs ≠ [] := h.resolve_left (· rfl)
    obtain ⟨run, rest, rfl⟩ := List.exists_cons_of_ne_nil hruns
    rw [vectors, List.mem_singleton]
    constructor
    · rintro rfl
      exact ⟨run, List.mem_cons_self, rfl⟩
    · rintro ⟨run, -, rfl⟩
      rfl
  | cons key keys ih =>
    -- A key is listed because a run has it, so there are runs below it.
    have hinner {run : TestRun} (hrun : run ∈ runs) (v : List String) :
        v ∈ vectors keys (runs.filter fun r => key r == key run) ↔
          ∃ r ∈ runs.filter (fun r => key r == key run), keyVector keys r = v :=
      ih (.inr (List.ne_nil_of_mem (List.mem_filter.mpr ⟨hrun, beq_self_eq_true (key run)⟩)))
    rw [vectors, List.mem_flatMap]
    constructor
    · rintro ⟨k, hk, hv⟩
      rw [List.mem_eraseDups, List.mem_map] at hk
      obtain ⟨first, hfirst, rfl⟩ := hk
      obtain ⟨w, hw, rfl⟩ := List.mem_map.mp hv
      obtain ⟨run, hrun, rfl⟩ := (hinner hfirst w).mp hw
      obtain ⟨hrun, hkey⟩ := List.mem_filter.mp hrun
      refine ⟨run, hrun, ?_⟩
      rw [← eq_of_beq hkey]
      rfl
    · rintro ⟨run, hrun, rfl⟩
      refine ⟨key run, List.mem_eraseDups.mpr (List.mem_map_of_mem hrun), ?_⟩
      refine List.mem_map_of_mem ((hinner hrun _).mpr ⟨run, ?_, rfl⟩)
      exact List.mem_filter.mpr ⟨hrun, beq_self_eq_true _⟩

theorem vector_ofVector {keys : List (TestRun → String)} {runs : List TestRun} {v : List String}
    (h : v ≠ []) : (ofVector [] keys runs v).vector = v := by
  rw [vector, ofVector, List.nil_append, List.getLast?_eq_getLast_of_ne_nil h, Option.getD_some]
  exact List.dropLast_append_getLast h

theorem ne_nil_of_mem_vectors {keys : List (TestRun → String)} {runs : List TestRun}
    {v : List String} (hkeys : keys ≠ []) (h : v ∈ vectors keys runs) : v ≠ [] := by
  obtain ⟨run, -, rfl⟩ := (mem_vectors_iff (.inl hkeys)).mp h
  rwa [keyVector, Ne, List.map_eq_nil_iff]

theorem partitions_vectors {keys : List (TestRun → String)} (hkeys : keys ≠ [])
    (runs : List TestRun) :
    Partitions keys runs ((vectors keys runs).map (ofVector [] keys runs)) := by
  have hmem {v : List String} :
      v ∈ vectors keys runs ↔ ∃ run ∈ runs, keyVector keys run = v := mem_vectors_iff (.inl hkeys)
  have hvector {v : List String} (hv : v ∈ vectors keys runs) :
      (ofVector [] keys runs v).vector = v :=
    vector_ofVector (ne_nil_of_mem_vectors hkeys hv)
  have hall : ((vectors keys runs).map (ofVector [] keys runs)).map vector = vectors keys runs := by
    rw [List.map_map]
    exact (List.map_congr_left fun v hv => hvector hv).trans (List.map_id' _)
  have hordered := pairwise_vectors keys runs
  refine ⟨?_, ?_, ?_, ?_, ?_, ?_, ?_⟩
  · intro s hs
    obtain ⟨v, hv, rfl⟩ := List.mem_map.mp hs
    rw [hvector hv]
    exact hmem.mp hv
  · intro run hrun
    have hv := hmem.mpr ⟨run, hrun, rfl⟩
    exact ⟨_, List.mem_map_of_mem hv, (hvector hv).symm⟩
  · rw [hall]
    exact hordered.imp Precedes.ne
  · rw [hall]
    exact hordered
  · intro s hs
    obtain ⟨v, hv, rfl⟩ := List.mem_map.mp hs
    rw [hvector hv]
    rfl
  · intro s hs
    obtain ⟨v, hv, rfl⟩ := List.mem_map.mp hs
    obtain ⟨run, hrun, hkey⟩ := hmem.mp hv
    exact List.ne_nil_of_mem (List.mem_filter.mpr ⟨hrun, beq_iff_eq.mpr hkey⟩)
  · intro s hs
    obtain ⟨v, hv, rfl⟩ := List.mem_map.mp hs
    rfl

theorem groupBy_eq (key : TestRun → String) (filter : ScopeFilter) (runs : List TestRun) :
    groupBy key filter runs =
      ((vectors [key] runs).map (ofVector [] [key] runs)).filter fun s =>
        filter.accepts s.key s.counters := by
  rw [groupBy, collect_eq_vectors]

/-- The filter that asks for nothing removes nothing. -/
theorem filter_accepts_empty (scopes : List Scope) :
    (scopes.filter fun s => ScopeFilter.accepts {} s.key s.counters) = scopes :=
  List.filter_eq_self.mpr fun _ _ => rfl

theorem partitions_group (level : ScopeLevel) (runs : List TestRun) :
    Partitions (levelKeys level) runs (group level {} runs) := by
  rw [group_eq, filter_accepts_empty]
  refine partitions_vectors ?_ runs
  cases level <;> exact List.cons_ne_nil _ _

theorem partitions_groupBy (key : TestRun → String) (runs : List TestRun) :
    Partitions [key] runs (groupBy key {} runs) := by
  rw [groupBy_eq, filter_accepts_empty]
  exact partitions_vectors (List.cons_ne_nil _ _) runs

/-- Grouping at a level, or by any one key, is a partition in order of first occurrence, of which a
filter keeps the scopes that it accepts. -/
theorem group_partitions (runs : List TestRun) :
    (∀ level, Partitions (levelKeys level) runs (group level {} runs) ∧
      ∀ filter, group level filter runs =
        (group level {} runs).filter fun s => filter.accepts s.key s.counters) ∧
    ∀ key, Partitions [key] runs (groupBy key {} runs) ∧
      ∀ filter, groupBy key filter runs =
        (groupBy key {} runs).filter fun s => filter.accepts s.key s.counters := by
  constructor
  · intro level
    refine ⟨partitions_group level runs, fun filter => ?_⟩
    rw [group_eq, group_eq, filter_accepts_empty]
  · intro key
    refine ⟨partitions_groupBy key runs, fun filter => ?_⟩
    rw [groupBy_eq, groupBy_eq, filter_accepts_empty]

/-- The runs of two packages alternate, and both packages have a suite of the same name. -/
theorem group_partitions_of_alternating_packages :
    let run (id : UInt64) (name : String) (status : Status) (muted : Bool) : TestRun :=
      { id, testId := id, name, buildId := 1, status, muted }
    let first := run 1 "unit: b.Zeta.x" .success false
    let second := run 2 "unit: a.Alpha.x" .failure true
    let third := run 3 "it: b.Zeta.y" .unknown false
    let fourth := run 4 "unit: b.Beta.x" .failure false
    let fifth := run 5 "unit: b.Zeta.z" .failure false
    let runs := [first, second, third, fourth, fifth]
    let zeta : Scope := { key := "Zeta", path := ["b", "unit"], members := [first, fifth],
                          counters := { total := 2, passed := 1, failed := 1 } }
    let beta : Scope := { key := "Beta", path := ["b", "unit"], members := [fourth],
                          counters := { total := 1, failed := 1 } }
    let other : Scope := { key := "Zeta", path := ["b", "it"], members := [third],
                           counters := { total := 1, ignored := 1 } }
    let alpha : Scope := { key := "Alpha", path := ["a", "unit"], members := [second],
                           counters := { total := 1, muted := 1 } }
    let unit : Scope := { key := "unit", path := [], members := [first, second, fourth, fifth],
                          counters := { total := 4, passed := 1, failed := 2, muted := 1 } }
    let it : Scope := { key := "it", path := [], members := [third],
                        counters := { total := 1, ignored := 1 } }
    let suite (run : TestRun) : String := run.testName.suite
    (group .testClass {} runs = [zeta, beta, other, alpha] ∧
        Partitions (levelKeys .testClass) runs [zeta, beta, other, alpha] ∧
        group .testClass .failedOnly runs = [zeta, beta]) ∧
      groupBy suite {} runs = [unit, it] ∧ Partitions [suite] runs [unit, it] ∧
        groupBy suite .failedOnly runs = [unit] := by
  intro run first second third fourth fifth runs zeta beta other alpha unit it suite
  have hclasses : group .testClass {} runs = [zeta, beta, other, alpha] := by decide +kernel
  have hsuites : groupBy suite {} runs = [unit, it] := by decide +kernel
  obtain ⟨ofLevel, ofKey⟩ := group_partitions runs
  obtain ⟨hclassParts, hclassFilter⟩ := ofLevel .testClass
  obtain ⟨hsuiteParts, hsuiteFilter⟩ := ofKey suite
  rw [hclasses] at hclassParts
  rw [hsuites] at hsuiteParts
  refine ⟨⟨hclasses, hclassParts, ?_⟩, hsuites, hsuiteParts, ?_⟩
  · rw [hclassFilter, hclasses]
    decide
  · rw [hsuiteFilter, hsuites]
    decide

end Scope

end LocatorQuery
