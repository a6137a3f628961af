import LocatorQuery.Proofs.Catalog.Completeness
import LocatorQuery.Proofs.Query.Narrowing

/-! Builds nested in a query. A build dimension keeps those items that belong to a build which its own
locator selects, whatever else the query asks for. If that locator has no answer, neither has the query,
for the same reason. -/
namespace LocatorQuery
open Outcome Reading

namespace Finder

/-- All builds that a nested locator selects. -/
def nestedBuilds (builds : Finder Build) (text : String) : Except LocatorError (Page Build) := do
  (builds.evaluateWith none).answer (← Locator.parse text)

section Nested
variable {α : Type} {f : Finder α} {builds : Finder Build} {c : Criterion α} {owner : α → UInt64}
  (distinct : f.supported.Nodup) (hc : c ∈ f.criteria)
  (test : ∀ raw, c.test raw = do
    let ids ← builds.buildIds (← Locator.parse raw)
    return some fun item => ids.contains (owner item))
  {before after : List (String × String)}
  (others : ∀ p ∈ before ++ after, p.1 ∉ [c.name, startName, countName])

include test in
theorem test_eq_map (raw : String) :
    c.test raw = (builds.nestedBuilds raw).map fun found =>
      some fun item => found.entries.any fun b => b.id == owner item := by
  rw [test, nestedBuilds]
  cases Locator.parse raw with
  | error e => rfl
  | ok l =>
    change (builds.buildIds l >>= _) = ((builds.evaluateWith none).answer l).map _
    rw [buildIds]
    cases (builds.evaluateWith none).answer l with
    | error e => rfl
    | ok found =>
      refine congrArg (fun test => Except.ok (some test)) (funext fun item => ?_)
      rw [Bool.eq_iff_iff, List.contains_iff_mem, List.mem_map, List.any_eq_true]
      simp only [beq_iff_eq]

include distinct hc test others in
/-- A nested locator joins a query whose own answer has no window: its error is the error, and of its
builds those are kept that own an item. -/
theorem answer_nested (text : String) {page : Page α}
    (hpage : (f.evaluateWith none).answer (Locator.ofList (before ++ after)) = .ok page) :
    (∀ e, builds.nestedBuilds text = .error e →
        (f.evaluateWith none).answer (Locator.ofList (before ++ (c.name, text) :: after)) = .error e) ∧
      ∀ found, builds.nestedBuilds text = .ok found →
        (f.evaluateWith none).answer (Locator.ofList (before ++ (c.name, text) :: after)) =
          .ok (page.keep fun item => found.entries.any fun b => b.id == owner item) := by
  simp only [List.mem_cons, List.not_mem_nil, not_or, or_false] at others
  have hname : ∀ p ∈ before ++ after, p.1 ≠ c.name := fun p hp => (others p hp).1
  have hgiven : (Locator.ofList (before ++ (c.name, text) :: after)).openValues c.name = [text] :=
    Locator.openValues_inserted hname
  have hrest : (Locator.ofList (before ++ (c.name, text) :: after)).erase c.name =
      Locator.ofList (before ++ after) := Locator.erase_inserted hname
  have hrequired : f.required (Locator.ofList (before ++ (c.name, text) :: after)) = .ok () := by
    refine @required_of_erase α f c.name _ ?_
    rw [hrest]
    exact required_of_ok distinct hpage
  constructor
  · intro e he
    refine answer_eq_error_of_test distinct hc hgiven hrequired (hrest.symm ▸ hpage) ?_
    rw [test_eq_map test, he]
    rfl
  · intro found hfound
    have htest : c.test text = .ok (some fun item => found.entries.any fun b => b.id == owner item) := by
      rw [test_eq_map test, hfound]
      rfl
    have hstart : (Locator.ofList (before ++ after)).openValues startName = [] :=
      Dimension.openValues_of_forall_ne (List.forall_mem_map.mpr fun p hp => (others p hp).2.1)
    have hcount : (Locator.ofList (before ++ after)).openValues countName = [] :=
      Dimension.openValues_of_forall_ne (List.forall_mem_map.mpr fun p hp => (others p hp).2.2)
    exact answer_keep_of_narrows distinct (Locator.untaken_ofList _) (Locator.untaken_ofList _)
      (narrows_inserted distinct hc htest hname) (fun _ => windowOf_eq_of_unpaged hstart hcount)
      hrequired hpage

end Nested

/-- A build dimension joins a query for runs or problems that would be answered without it. Either the
nested locator has no answer and its error is the error, or the entries are those of the other dimensions
that belong to one of its builds. -/
theorem build_dimension_semijoins (d : Dataset) (settings : Settings) (text : String)
    {before after : List (String × String)}
    (others : ∀ p ∈ before ++ after, p.1 ∉ ["build", startName, countName]) :
    let c := Catalog.ofDataset d settings
    let rest := Locator.ofList (before ++ after)
    let whole := Locator.ofList (before ++ ("build", text) :: after)
    (∀ page, (c.testRuns.evaluateWith none).answer rest = .ok page →
      (∀ e, c.builds.nestedBuilds text = .error e →
          (c.testRuns.evaluateWith none).answer whole = .error e) ∧
        ∀ found, c.builds.nestedBuilds text = .ok found →
          (c.testRuns.evaluateWith none).answer whole =
            .ok (page.keep fun run => found.entries.any fun b => b.id == run.buildId)) ∧
      ∀ page, (c.problems.evaluateWith none).answer rest = .ok page →
        (∀ e, c.builds.nestedBuilds text = .error e →
            (c.problems.evaluateWith none).answer whole = .error e) ∧
          ∀ found, c.builds.nestedBuilds text = .ok found →
            (c.problems.evaluateWith none).answer whole =
              .ok (page.keep fun problem => found.entries.any fun b => b.id == problem.buildId) := by
  intro c rest whole
  have hruns : TestRun.inBuild c.builds ∈ c.testRuns.criteria := by
    change _ ∈ TestRun.criteria c.builds
    simp [TestRun.criteria]
  have hproblems : Problem.inBuild c.builds ∈ c.problems.criteria := by
    change _ ∈ Problem.criteria c.builds
    simp [Problem.criteria]
  refine ⟨fun page hpage => ?_, fun page hpage => ?_⟩
  · exact answer_nested (distinct_testRuns d settings) hruns (fun _ => rfl) others text hpage
  · exact answer_nested (distinct_problems d settings) hproblems (fun _ => rfl) others text hpage

theorem build_dimension_semijoins_of_threeBuilds :
    let other : TestRun :=
      { id := 11, testId := 1, name := "s: p.C.m", buildId := 1, status := .failure }
    let d := { threeBuilds with testRuns := other :: threeBuilds.testRuns }
    let c := Catalog.ofDataset d {}
    let before := [("status", "failed")]
    let after := [("muted", "no"), ("lookupLimit", "5")]
    let whole := fun text => Locator.ofList (before ++ ("build", text) :: after)
    let ofType := fun text => Locator.ofList ([] ++ ("build", text) :: [("type", "T")])
    let runs : Page TestRun :=
      { entries := other :: threeBuilds.testRuns, start := 0, count := none, examined := 2,
        matched := 2, nextStart := none, lookupLimit := some 5, lookupLimitReached := false }
    let problems : Page Problem :=
      { entries := threeBuilds.problems, start := 0, count := none, examined := 1, matched := 1,
        nextStart := none, lookupLimit := none, lookupLimitReached := false }
    let found : Page Build :=
      { entries := threeBuilds.builds.drop 2, start := 2, count := none, examined := 3, matched := 3,
        nextStart := none, lookupLimit := none, lookupLimitReached := false }
    let strange : LocatorError := .unusedDimensions ["shape"] c.builds.supported
    (∀ p ∈ before ++ after, p.1 ∉ ["build", startName, countName]) ∧
      (∀ p ∈ [] ++ [("type", "T")], p.1 ∉ ["build", startName, countName]) ∧
      (c.testRuns.evaluateWith none).answer (Locator.ofList (before ++ after)) = .ok runs ∧
      (c.problems.evaluateWith none).answer (Locator.ofList ([] ++ [("type", "T")])) = .ok problems ∧
      c.builds.nestedBuilds "branch:default,start:2" = .ok found ∧
      c.builds.nestedBuilds "branch:default,shape:2" = .error strange ∧
      (c.testRuns.evaluateWith none).answer (whole "branch:default,start:2") =
        .ok (runs.keep fun run => found.entries.any fun b => b.id == run.buildId) ∧
      (c.testRuns.evaluateWith none).answer (whole "branch:default,shape:2") = .error strange ∧
      (c.problems.evaluateWith none).answer (ofType "branch:default,start:2") =
        .ok (problems.keep fun problem => found.entries.any fun b => b.id == problem.buildId) ∧
      (c.problems.evaluateWith none).answer (ofType "branch:default,shape:2") = .error strange := by
  intro other d c before after whole ofType runs problems found strange
  have hbuild : ∀ p ∈ before ++ after, p.1 ∉ ["build", startName, countName] := by decide
  have htype : ∀ p ∈ [] ++ [("type", "T")], p.1 ∉ ["build", startName, countName] := by decide
  have hruns : (c.testRuns.evaluateWith none).answer (Locator.ofList (before ++ after)) = .ok runs := by
    decide +kernel
  have hproblems : (c.problems.evaluateWith none).answer (Locator.ofList ([] ++ [("type", "T")])) =
      .ok problems := by
    decide +kernel
  have hfound : c.builds.nestedBuilds "branch:default,start:2" = .ok found := by decide +kernel
  have hstrange : c.builds.nestedBuilds "branch:default,shape:2" = .error strange := by decide +kernel
  refine ⟨hbuild, htype, hruns, hproblems, hfound, hstrange, ?_, ?_, ?_, ?_⟩
  · exact ((build_dimension_semijoins d {} "branch:default,start:2" hbuild).1 runs hruns).2 found hfound
  · exact ((build_dimension_semijoins d {} "branch:default,shape:2" hbuild).1 runs hruns).1 _ hstrange
  · exact ((build_dimension_semijoins d {} _ htype).2 problems hproblems).2 found hfound
  · exact ((build_dimension_semijoins d {} _ htype).2 problems hproblems).1 _ hstrange

end Finder

end LocatorQuery
