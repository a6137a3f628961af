import LocatorQuery.Catalog.Basic
import LocatorQuery.Proofs.Locator.Delivery
import LocatorQuery.Proofs.Query.Limit

/-! Complete answers. A page that did not reach its lookup limit is complete when the queries for
builds nested in its locator did not reach theirs; the page itself does not tell about those. -/
namespace LocatorQuery
open Outcome

def Settings.unlimited (settings : Settings) : Settings := { settings with lookupLimit := none }

/-- Three builds of two configurations; a run and a problem in the last. -/
def threeBuilds : Dataset where
  builds :=
    [{ id := 1, buildType := "Ui", number := "a", status := .success },
      { id := 2, buildType := "Ui", number := "b", status := .success },
      { id := 3, buildType := "Core", number := "c", status := .failure }]
  testRuns := [{ id := 10, testId := 1, name := "s: p.C.m", buildId := 3, status := .failure }]
  problems := [{ id := 20, buildId := 3, type := "T", identity := "i" }]

namespace Finder

/-- A query for builds that is answered is answered within the lookup limit. -/
def Within (builds : Finder Build) (l : Locator) : Prop :=
  ∀ page, (builds.evaluateWith none).answer l = .ok page → page.lookupLimitReached = false

/-- The query that the first value of a name stands for, if any, is within the limit. -/
def NestedWithin (builds : Finder Build) (name : String)
    (locate : String → Except LocatorError Locator) (l : Locator) : Prop :=
  ∀ raw nested, l.peek? name = some raw → locate raw = .ok nested → builds.Within nested

theorem nestedWithin_of_answer {builds : Finder Build} {name raw : String}
    {locate : String → Except LocatorError Locator} {l nested : Locator} {page : Page Build}
    (hraw : l.peek? name = some raw) (hnested : locate raw = .ok nested)
    (hpage : (builds.evaluateWith none).answer nested = .ok page)
    (unreached : page.lookupLimitReached = false) : builds.NestedWithin name locate l := by
  intro raw' nested' hraw' hnested' page' hpage'
  cases hraw.symm.trans hraw'
  cases hnested.symm.trans hnested'
  cases hpage.symm.trans hpage'
  exact unreached

/-- The query for the builds of a configuration. -/
def ofBuildType (raw : String) : Except LocatorError Locator :=
  Locator.ofPairs [("buildType", raw), ("finished", "any")]

/-- Two criteria that look for the builds of a nested query build the same tests if the second finds
the builds that the first finds. -/
theorem carries_of_buildIds {α : Type} {builds builds' : Finder Build} {o : String → List String}
    {c c' : Criterion α} {locate : String → Except LocatorError Locator}
    {member : List UInt64 → α → Bool} (name : c'.name = c.name)
    (repeatable : c'.repeatable = c.repeatable)
    (found : ∀ raw ∈ c.chosen (o c.name), ∀ l, locate raw = .ok l →
      ∀ ids, builds.buildIds l = .ok ids → builds'.buildIds l = .ok ids)
    (test : ∀ raw, c.test raw = do return some (member (← builds.buildIds (← locate raw))))
    (test' : ∀ raw, c'.test raw = do return some (member (← builds'.buildIds (← locate raw)))) :
    c.Carries o c' := by
  refine ⟨name, repeatable, fun raw hraw built h => ?_⟩
  rw [test, bind_eq_ok_iff] at h
  obtain ⟨l, hl, h⟩ := h
  obtain ⟨ids, hids, hbuilt⟩ := bind_eq_ok_iff.mp h
  rw [test', bind_eq_ok_iff]
  exact ⟨l, hl, bind_eq_ok_iff.mpr ⟨ids, found raw hraw l hl ids hids, hbuilt⟩⟩

section Builds
variable {α : Type} {source : List Build} {settings : Settings}

theorem lifted_ofBuilds (o : String → List String) :
    Lifted o (ofBuilds source settings) (ofBuilds source settings.unlimited) :=
  ⟨rfl, rfl, List.forall₂_same.mpr fun c _ => c.carries_refl o, rfl, rfl, rfl, rfl⟩

theorem distinct_ofBuilds : (ofBuilds source settings).supported.Nodup :=
  show (ofBuilds [] {}).supported.Nodup by decide

theorem buildIds_unlimited {l : Locator} (within : (ofBuilds source settings).Within l)
    {ids : List UInt64} (h : (ofBuilds source settings).buildIds l = .ok ids) :
    (ofBuilds source settings.unlimited).buildIds l = .ok ids := by
  obtain ⟨page, hpage, hids⟩ := bind_eq_ok_iff.mp h
  obtain ⟨limit, hfree⟩ :=
    (lifted_ofBuilds l.openValues).answer distinct_ofBuilds hpage (within page hpage)
  cases hids
  exact bind_eq_ok_iff.mpr ⟨_, hfree, rfl⟩

/-- Criteria that look for the builds of a nested query build the same tests without the limit. -/
theorem carries_of_within {l : Locator} (untaken : l.Untaken) {c c' : Criterion α}
    {locate : String → Except LocatorError Locator} {member : List UInt64 → α → Bool}
    (within : (ofBuilds source settings).NestedWithin c.name locate l)
    (name : c'.name = c.name) (single : c.repeatable = false) (single' : c'.repeatable = false)
    (test : ∀ raw, c.test raw = do
      return some (member (← (ofBuilds source settings).buildIds (← locate raw))))
    (test' : ∀ raw, c'.test raw = do
      return some (member (← (ofBuilds source settings.unlimited).buildIds (← locate raw)))) :
    c.Carries l.openValues c' := by
  refine carries_of_buildIds name (single'.trans single.symm) (fun raw hraw nested hnested _ => ?_)
    test test'
  have hpeek : l.peek? c.name = some raw := by
    rw [Locator.peek?_of_untaken untaken]
    rw [Criterion.chosen, single, if_neg Bool.false_ne_true, Option.mem_toList] at hraw
    exact hraw
  exact buildIds_unlimited (within raw nested hpeek hnested)

end Builds

theorem carries_testRuns {o : String → List String} {builds builds' : Finder Build}
    (build : (TestRun.inBuild builds).Carries o (TestRun.inBuild builds'))
    (buildType : (TestRun.inBuildType builds).Carries o (TestRun.inBuildType builds')) :
    List.Forall₂ (Criterion.Carries o) (TestRun.criteria builds) (TestRun.criteria builds') := by
  have hshared : ∀ c : Criterion TestRun, c.Carries o c := Criterion.carries_refl o
  simp only [TestRun.criteria, List.forall₂_cons, hshared, build, buildType, List.Forall₂.nil,
    and_self]

theorem carries_problems {o : String → List String} {builds builds' : Finder Build}
    (build : (Problem.inBuild builds).Carries o (Problem.inBuild builds')) :
    List.Forall₂ (Criterion.Carries o) (Problem.criteria builds) (Problem.criteria builds') := by
  have hshared : ∀ c : Criterion Problem, c.Carries o c := Criterion.carries_refl o
  simp only [Problem.criteria, List.forall₂_cons, hshared, build, List.Forall₂.nil, and_self]

section Settings
variable {d : Dataset} {settings settings' : Settings} {o : String → List String}

-- The sides are spelled out: a bare `rfl` would compare the two finders criterion by criterion.
theorem carries_ofTestRuns
    (build : (TestRun.inBuild (Catalog.ofDataset d settings).builds).Carries o
      (TestRun.inBuild (Catalog.ofDataset d settings').builds))
    (buildType : (TestRun.inBuildType (Catalog.ofDataset d settings).builds).Carries o
      (TestRun.inBuildType (Catalog.ofDataset d settings').builds)) :
    Carries o (Catalog.ofDataset d settings).testRuns (Catalog.ofDataset d settings').testRuns :=
  ⟨Eq.refl d.testRuns, Eq.refl fun r : TestRun => toString r.id, carries_testRuns build buildType,
    Eq.refl []⟩

theorem carries_ofProblems
    (build : (Problem.inBuild (Catalog.ofDataset d settings).builds).Carries o
      (Problem.inBuild (Catalog.ofDataset d settings').builds)) :
    Carries o (Catalog.ofDataset d settings).problems (Catalog.ofDataset d settings').problems :=
  ⟨Eq.refl d.problems, Eq.refl fun p : Problem => toString p.id, carries_problems build,
    Eq.refl ["build", "problem", "type", "identity"]⟩

end Settings

section Catalog
variable {d : Dataset} {settings : Settings} {l : Locator} (untaken : l.Untaken)
  (build : (Catalog.ofDataset d settings).builds.NestedWithin "build" Locator.parse l)
include untaken build

theorem lifted_testRuns
    (buildType : (Catalog.ofDataset d settings).builds.NestedWithin "buildType" ofBuildType l) :
    Lifted l.openValues (Catalog.ofDataset d settings).testRuns
      (Catalog.ofDataset d settings.unlimited).testRuns := by
  have h : Carries l.openValues (Catalog.ofDataset d settings).testRuns
      (Catalog.ofDataset d settings.unlimited).testRuns := by
    apply carries_ofTestRuns
    · exact carries_of_within untaken build rfl rfl rfl (fun _ => rfl) fun _ => rfl
    · exact carries_of_within untaken buildType rfl rfl rfl (fun _ => rfl) fun _ => rfl
  exact ⟨h.source, h.key, h.criteria, h.requiredAny, Eq.refl settings.pageSize,
    Eq.refl settings.strict, rfl⟩

theorem lifted_problems :
    Lifted l.openValues (Catalog.ofDataset d settings).problems
      (Catalog.ofDataset d settings.unlimited).problems := by
  have h : Carries l.openValues (Catalog.ofDataset d settings).problems
      (Catalog.ofDataset d settings.unlimited).problems := by
    apply carries_ofProblems
    exact carries_of_within untaken build rfl rfl rfl (fun _ => rfl) fun _ => rfl
  exact ⟨h.source, h.key, h.criteria, h.requiredAny, Eq.refl settings.pageSize,
    Eq.refl settings.strict, rfl⟩

end Catalog

theorem supported_testRuns (d : Dataset) (settings : Settings) :
    (Catalog.ofDataset d settings).testRuns.supported =
      ["id", "status", "muted", "ignored", "newFailure", "name", "test", "duration", "build",
        "buildType", "start", "count", "lookupLimit"] := rfl

theorem supported_problems (d : Dataset) (settings : Settings) :
    (Catalog.ofDataset d settings).problems.supported =
      ["id", "type", "identity", "muted", "problem", "build", "start", "count", "lookupLimit"] := rfl

theorem distinct_testRuns (d : Dataset) (settings : Settings) :
    (Catalog.ofDataset d settings).testRuns.supported.Nodup := by
  rw [supported_testRuns]
  decide

theorem distinct_problems (d : Dataset) (settings : Settings) :
    (Catalog.ofDataset d settings).problems.supported.Nodup := by
  rw [supported_problems]
  decide

/-- An answer that did not reach the lookup limit of the settings is the one without that limit, if
the builds it asks for were found within the limit too. -/
theorem findMany_complete (d : Dataset) (settings : Settings) {text : String}
    (build : ∀ l, Locator.parse text = .ok l →
      (Catalog.ofDataset d settings).builds.NestedWithin "build" Locator.parse l) :
    ((∀ l, Locator.parse text = .ok l →
        (Catalog.ofDataset d settings).builds.NestedWithin "buildType" ofBuildType l) →
      ∀ page, (Catalog.ofDataset d settings).testRuns.findMany (some text) = .ok page →
        page.lookupLimitReached = false →
        ∃ limit, (Catalog.ofDataset d settings.unlimited).testRuns.findMany (some text) =
          .ok { page with lookupLimit := limit }) ∧
      ∀ page, (Catalog.ofDataset d settings).problems.findMany (some text) = .ok page →
        page.lookupLimitReached = false →
        ∃ limit, (Catalog.ofDataset d settings.unlimited).problems.findMany (some text) =
          .ok { page with lookupLimit := limit } := by
  refine ⟨fun buildType page hpage unreached => ?_, fun page hpage unreached => ?_⟩
  · have hlifted : ∀ l, Locator.parse text = .ok l → Lifted l.openValues
        (Catalog.ofDataset d settings).testRuns (Catalog.ofDataset d settings.unlimited).testRuns :=
      fun l hl => lifted_testRuns (Locator.Origin.parse hl).untaken (build l hl) (buildType l hl)
    exact Lifted.findMany (distinct_testRuns d settings) hlifted hpage unreached
  · have hlifted : ∀ l, Locator.parse text = .ok l → Lifted l.openValues
        (Catalog.ofDataset d settings).problems (Catalog.ofDataset d settings.unlimited).problems :=
      fun l hl => lifted_problems (Locator.Origin.parse hl).untaken (build l hl)
    exact Lifted.findMany (distinct_problems d settings) hlifted hpage unreached

theorem findMany_complete_of_threeBuilds :
    let settings : Settings := { lookupLimit := some 4, strict := false }
    let catalog := Catalog.ofDataset threeBuilds settings
    let unlimited := Catalog.ofDataset threeBuilds settings.unlimited
    let text := "build:(number:c),buildType:Core"
    let runs : Page TestRun :=
      { entries := threeBuilds.testRuns, start := 0, count := some 100, examined := 1, matched := 1,
        nextStart := none, lookupLimit := some 4, lookupLimitReached := false }
    let problems : Page Problem :=
      { entries := threeBuilds.problems, start := 0, count := some 100, examined := 1, matched := 1,
        nextStart := none, lookupLimit := some 4, lookupLimitReached := false }
    (∀ l, Locator.parse text = .ok l → catalog.builds.NestedWithin "build" Locator.parse l) ∧
      (∀ l, Locator.parse text = .ok l → catalog.builds.NestedWithin "buildType" ofBuildType l) ∧
      catalog.testRuns.findMany (some text) = .ok runs ∧
      catalog.problems.findMany (some text) = .ok problems ∧
      (∃ limit, unlimited.testRuns.findMany (some text) =
        .ok { runs with lookupLimit := limit }) ∧
      ∃ limit, unlimited.problems.findMany (some text) =
        .ok { problems with lookupLimit := limit } := by
  intro settings catalog unlimited text runs problems
  have hparse : Locator.parse "build:(number:c),buildType:Core" = .ok (.dimensions
      [{ name := "build", value := "number:c" }, { name := "buildType", value := "Core" }]) := by
    decide +kernel
  have build : ∀ l, Locator.parse text = .ok l →
      catalog.builds.NestedWithin "build" Locator.parse l := by
    intro l hl
    cases hparse.symm.trans hl
    have hnested : Locator.parse "number:c" =
        .ok (.dimensions [{ name := "number", value := "c" }]) := by rfl
    have hpage : (catalog.builds.evaluateWith none).answer
        (.dimensions [{ name := "number", value := "c" }]) = .ok
          { entries := threeBuilds.builds.drop 2, start := 0, count := none, examined := 3,
            matched := 1, nextStart := none, lookupLimit := some 4, lookupLimitReached := false } := by
      rfl
    exact nestedWithin_of_answer rfl hnested hpage rfl
  have buildType : ∀ l, Locator.parse text = .ok l →
      catalog.builds.NestedWithin "buildType" ofBuildType l := by
    intro l hl
    cases hparse.symm.trans hl
    have hnested : ofBuildType "Core" = .ok (.dimensions
        [{ name := "buildType", value := "Core" }, { name := "finished", value := "any" }]) := by
      rfl
    have hpage : (catalog.builds.evaluateWith none).answer (.dimensions
        [{ name := "buildType", value := "Core" }, { name := "finished", value := "any" }]) = .ok
          { entries := threeBuilds.builds.drop 2, start := 0, count := none, examined := 3,
            matched := 1, nextStart := none, lookupLimit := some 4, lookupLimitReached := false } := by
      decide +kernel
    exact nestedWithin_of_answer rfl hnested hpage rfl
  have hruns : catalog.testRuns.findMany (some text) = .ok runs :=
    findMany_eq_ok_iff.mpr ⟨_, hparse, by decide +kernel⟩
  have hproblems : catalog.problems.findMany (some text) = .ok problems :=
    findMany_eq_ok_iff.mpr ⟨_, hparse, by decide +kernel⟩
  obtain ⟨ofRuns, ofProblems⟩ := findMany_complete threeBuilds settings build
  exact ⟨build, buildType, hruns, hproblems, ofRuns buildType runs hruns rfl,
    ofProblems problems hproblems rfl⟩

/-- The nested query stops ahead of the build that it looks for, and the page of the runs, which looks
at a single run, does not say so. -/
theorem findMany_incomplete_of_nested_limit :
    let limited := Catalog.ofDataset threeBuilds { lookupLimit := some 2 }
    let unlimited := Catalog.ofDataset threeBuilds { lookupLimit := none }
    limited.testRuns.findMany (some "build:(id:3)") =
        .ok { entries := [], start := 0, count := some 100, examined := 1, matched := 0,
              nextStart := none, lookupLimit := some 2, lookupLimitReached := false } ∧
      unlimited.testRuns.findMany (some "build:(id:3)") =
        .ok { entries := threeBuilds.testRuns, start := 0, count := some 100, examined := 1,
              matched := 1, nextStart := none, lookupLimit := none, lookupLimitReached := false } := by
  intro limited unlimited
  have hparse : Locator.parse "build:(id:3)" =
      .ok (.dimensions [{ name := "build", value := "id:3" }]) := by rfl
  constructor
  · exact findMany_eq_ok_iff.mpr ⟨_, hparse, by decide +kernel⟩
  · exact findMany_eq_ok_iff.mpr ⟨_, hparse, by decide +kernel⟩

end Finder

end LocatorQuery
