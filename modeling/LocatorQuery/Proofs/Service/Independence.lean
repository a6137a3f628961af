import LocatorQuery.Service.Handler
import LocatorQuery.Proofs.Catalog.Completeness
import LocatorQuery.Proofs.Query.Independence

/-! Requests over different data. Catalogs with the same settings, whatever their items, refuse the same
requests for the same reason. Only looking for one item depends on what there is to find. -/
namespace LocatorQuery
open Outcome Reading

namespace Finder

section Builds
variable {source source' : List Build} {settings : Settings}

theorem akin_ofBuilds : Akin (ofBuilds source settings) (ofBuilds source' settings) :=
  ⟨List.forall₂_same.mpr fun c _ => .refl c, rfl, rfl, rfl⟩

theorem failsAlike_buildIds (l : Locator) :
    FailsAlike ((ofBuilds source settings).buildIds l) ((ofBuilds source' settings).buildIds l) :=
  (akin_ofBuilds.evaluateWith distinct_ofBuilds none l).bind fun _ _ => .ok _ _

/-- Criteria that look for the builds of a nested query understand the same values, whatever is
found. -/
theorem akin_of_buildIds {α : Type} {c c' : Criterion α}
    {locate : String → Except LocatorError Locator} {member : List UInt64 → α → Bool}
    (name : c.name = c'.name) (repeatable : c.repeatable = c'.repeatable)
    (test : ∀ raw, c.test raw = do
      return some (member (← (ofBuilds source settings).buildIds (← locate raw))))
    (test' : ∀ raw, c'.test raw = do
      return some (member (← (ofBuilds source' settings).buildIds (← locate raw)))) : c.Akin c' := by
  refine ⟨name, repeatable, fun raw => ?_⟩
  rw [test, test']
  exact .bind_same (locate raw) fun l => (failsAlike_buildIds l).bind fun _ _ => .ok _ _

end Builds

section Catalog
variable (d d' : Dataset) (settings : Settings)

theorem akin_testRuns :
    Akin (Catalog.ofDataset d settings).testRuns (Catalog.ofDataset d' settings).testRuns := by
  have hshared : ∀ c : Criterion TestRun, c.Akin c := .refl
  have hbuild : (TestRun.inBuild (ofBuilds d.builds settings)).Akin
      (TestRun.inBuild (ofBuilds d'.builds settings)) :=
    akin_of_buildIds rfl rfl (fun _ => rfl) fun _ => rfl
  have hbuildType : (TestRun.inBuildType (ofBuilds d.builds settings)).Akin
      (TestRun.inBuildType (ofBuilds d'.builds settings)) :=
    akin_of_buildIds rfl rfl (fun _ => rfl) fun _ => rfl
  refine ⟨?_, rfl, rfl, rfl⟩
  change List.Forall₂ _ (TestRun.criteria _) (TestRun.criteria _)
  simp only [TestRun.criteria, List.forall₂_cons, hshared, hbuild, hbuildType, List.Forall₂.nil,
    and_self]

theorem akin_problems :
    Akin (Catalog.ofDataset d settings).problems (Catalog.ofDataset d' settings).problems := by
  have hshared : ∀ c : Criterion Problem, c.Akin c := .refl
  have hbuild : (Problem.inBuild (ofBuilds d.builds settings)).Akin
      (Problem.inBuild (ofBuilds d'.builds settings)) :=
    akin_of_buildIds rfl rfl (fun _ => rfl) fun _ => rfl
  refine ⟨?_, rfl, rfl, rfl⟩
  change List.Forall₂ _ (Problem.criteria _) (Problem.criteria _)
  simp only [Problem.criteria, List.forall₂_cons, hshared, hbuild, List.Forall₂.nil, and_self]

end Catalog

end Finder

namespace Catalog

section Requests
variable (d d' : Dataset) (settings : Settings)

theorem findMany_fails_alike (kind : FinderKind) (text : Option String) :
    FailsAlike ((ofDataset d settings).findMany kind text)
      ((ofDataset d' settings).findMany kind text) := by
  cases kind with
  | builds => exact (Finder.akin_ofBuilds.findMany Finder.distinct_ofBuilds text).map _ _
  | testRuns =>
    have distinct := Finder.distinct_testRuns d settings
    exact ((Finder.akin_testRuns d d' settings).findMany distinct text).map _ _
  | problems =>
    have distinct := Finder.distinct_problems d settings
    exact ((Finder.akin_problems d d' settings).findMany distinct text).map _ _

/-- Every request but that for one item is refused for reasons of its own. -/
theorem answer_fails_alike {method : Method} (h : method ≠ .findOne) (params : Json) :
    FailsAlike ((ofDataset d settings).answer method params)
      ((ofDataset d' settings).answer method params) := by
  have hruns := Finder.akin_testRuns d d' settings
  have distinct := Finder.distinct_testRuns d settings
  cases method with
  | findOne => exact absurd rfl h
  | help => exact .ok _ _
  | listMethods => exact .refl _
  | parseLocator => exact .refl _
  | findMany =>
    refine .bind_same _ fun (finder, text, _) => .bind_same _ fun kind => ?_
    exact (findMany_fails_alike d d' settings kind text).mapError _
  | groupInto =>
    refine .bind_same _ fun (level, locator, filter, _) => ?_
    exact ((hruns.groupInto distinct level locator filter).map _ _).mapError _
  | testScopes =>
    refine .bind_same _ fun (text, _) => ?_
    exact ((hruns.testScopes distinct text).map _ _).mapError _

end Requests

/-- A collection query is answered over both of two datasets, or fails over both with the same error. -/
theorem queries_fail_alike (settings : Settings) (d d' : Dataset) :
    let c := ofDataset d settings
    let c' := ofDataset d' settings
    (∀ text, FailsAlike (c.builds.findMany text) (c'.builds.findMany text)) ∧
      (∀ text, FailsAlike (c.testRuns.findMany text) (c'.testRuns.findMany text)) ∧
      (∀ text, FailsAlike (c.problems.findMany text) (c'.problems.findMany text)) ∧
      (∀ text, FailsAlike (c.testRuns.testScopes text) (c'.testRuns.testScopes text)) ∧
      (∀ level locator filter, FailsAlike (c.testRuns.groupInto level locator filter)
        (c'.testRuns.groupInto level locator filter)) ∧
      ∀ params, FailsAlike (c.answer .groupInto params) (c'.answer .groupInto params) := by
  intro c c'
  have hruns := Finder.akin_testRuns d d' settings
  have distinct := Finder.distinct_testRuns d settings
  refine ⟨?_, ?_, ?_, ?_, ?_, ?_⟩
  · exact Finder.akin_ofBuilds.findMany Finder.distinct_ofBuilds
  · exact hruns.findMany distinct
  · exact (Finder.akin_problems d d' settings).findMany (Finder.distinct_problems d settings)
  · exact hruns.testScopes distinct
  · exact hruns.groupInto distinct
  · exact answer_fails_alike d d' settings (by decide)

/-- One item is found or missed according to the data. -/
example :
    let build : Build := { id := 1, buildType := "Core", number := "1", status := .success }
    (ofDataset {} {}).builds.findOne "1" = .error (.notFound "1") ∧
      (ofDataset { builds := [build] } {}).builds.findOne "1" = .ok build := by
  decide +kernel

end Catalog

end LocatorQuery
