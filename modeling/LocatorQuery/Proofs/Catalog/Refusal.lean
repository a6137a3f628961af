import LocatorQuery.Catalog.Basic
import LocatorQuery.Proofs.Query.Condition

/-! The criteria of the three finders only refuse. A nested query that selects no build is answered like any
other, so nothing is ever missing inside a dimension. -/
namespace LocatorQuery
open Outcome

namespace Criterion

variable {α : Type}

theorem refuses_text (name summary : String) (get : α → String) :
    (text name summary get).OnlyRefuses := fun _ => .ok _

theorem refuses_status (name : String) (get : α → Status) : (status name get).OnlyRefuses := by
  intro raw
  dsimp only [status]
  split
  · exact .ok _
  · exact .error rfl

theorem refuses_flag (name : String) (get : α → Bool) : (flag name get).OnlyRefuses := by
  intro raw
  have hflag : FailsOnly LocatorError.IsRefusal (flag? name raw) := by
    rw [flag?]
    split
    · exact .ok (some true)
    · exact .ok (some true)
    · exact .ok (some false)
    · exact .ok (some false)
    · exact .ok none
    · exact .error rfl
  refine hflag.bind fun b => ?_
  cases b with
  | none => exact .ok none
  | some b => exact .ok _

end Criterion

theorem TestRun.refuses_testParts : Reading.FailsOnly LocatorError.IsRefusal testParts := by
  refine .bind (.step _) fun text => ?_
  extract_lets withId
  have hid : ∀ id, Reading.FailsOnly LocatorError.IsRefusal (withId id) := fun id =>
    .bind (.step _) fun name => (Reading.refuses_finish _).bind fun _ => .pure (id, name)
  cases text with
  | none => exact .bind (.pure none) hid
  | some text =>
    dsimp only
    cases Text.word? text.toList with
    | some id => exact .bind (.pure (some id)) hid
    | none => exact .bind (.throw rfl) hid

theorem Problem.refuses_kindParts : Reading.FailsOnly LocatorError.IsRefusal kindParts :=
  .bind (.step _) fun type => .bind (.step _) fun identity =>
    (Reading.refuses_finish _).bind fun _ => .pure (type, identity)

namespace Finder

theorem refuses_ofBuilds (source : List Build) (settings : Settings) :
    (ofBuilds source settings).OnlyRefuses := by
  have htagged : Build.tagged.OnlyRefuses := fun _ => .ok _
  change ∀ c ∈ Build.criteria, c.OnlyRefuses
  simp only [Build.criteria, List.forall_mem_cons, Criterion.refuses_text,
    Criterion.refuses_status, Criterion.refuses_flag, htagged, true_and]
  exact List.forall_mem_nil _

section Nested
variable {builds : Finder Build} (h : builds.OnlyRefuses)
include h

/-- A test by the builds that a nested locator selects. -/
theorem OnlyRefuses.nested {α : Type} {locate : Except LocatorError Locator}
    (hlocate : FailsOnly LocatorError.IsRefusal locate) (test : List UInt64 → α → Bool) :
    FailsOnly LocatorError.IsRefusal (do
      let ids ← builds.buildIds (← locate)
      return some (test ids)) := by
  have hids : ∀ l, FailsOnly LocatorError.IsRefusal (builds.buildIds l) := fun l =>
    (h.evaluateWith none l).bind fun _ => .ok _
  exact hlocate.bind fun l => (hids l).bind fun ids => .ok _

theorem refuses_ofTestRuns (source : List TestRun) (settings : Settings) :
    (ofTestRuns source builds settings).OnlyRefuses := by
  have htest : TestRun.ofTest.OnlyRefuses := by
    intro raw
    dsimp only [TestRun.ofTest]
    split
    · exact .ok _
    · refine (Locator.refuses_parse raw).bind fun l => ?_
      cases l with
      | single v t => exact .error rfl
      | dimensions ds => exact (TestRun.refuses_testParts _).bind fun _ => .ok _
  have hlasting : TestRun.lasting.OnlyRefuses := by
    intro raw
    refine (Condition.refuses_parse "duration" raw).bind fun condition => ?_
    cases condition with
    | none => exact .ok none
    | some condition => exact .ok _
  have hbuild : (TestRun.inBuild builds).OnlyRefuses := fun raw =>
    h.nested (Locator.refuses_parse raw) _
  have hbuildType : (TestRun.inBuildType builds).OnlyRefuses := fun raw =>
    h.nested (Locator.refuses_ofPairs _) _
  change ∀ c ∈ TestRun.criteria builds, c.OnlyRefuses
  simp only [TestRun.criteria, List.forall_mem_cons, Criterion.refuses_text,
    Criterion.refuses_status, Criterion.refuses_flag, htest, hlasting, hbuild, hbuildType, true_and]
  exact List.forall_mem_nil _

theorem refuses_ofProblems (source : List Problem) (settings : Settings) :
    (ofProblems source builds settings).OnlyRefuses := by
  have hkind : Problem.ofKind.OnlyRefuses := by
    intro raw
    refine (Locator.refuses_parse raw).bind fun l => ?_
    cases l with
    | single v t => exact .error rfl
    | dimensions ds =>
      refine (Problem.refuses_kindParts _).bind fun (type, identity) => ?_
      dsimp only
      split
      · exact .ok none
      · exact .ok _
  have hbuild : (Problem.inBuild builds).OnlyRefuses := fun raw =>
    h.nested (Locator.refuses_parse raw) _
  change ∀ c ∈ Problem.criteria builds, c.OnlyRefuses
  simp only [Problem.criteria, List.forall_mem_cons, Criterion.refuses_text,
    Criterion.refuses_flag, hkind, hbuild, true_and]
  exact List.forall_mem_nil _

end Nested

end Finder

/-- No criterion of a finder says that something is missing. -/
structure Catalog.OnlyRefuses (c : Catalog) : Prop where
  builds : c.builds.OnlyRefuses
  testRuns : c.testRuns.OnlyRefuses
  problems : c.problems.OnlyRefuses

theorem Catalog.refuses_ofDataset (d : Dataset) (settings : Settings) :
    (ofDataset d settings).OnlyRefuses := by
  have hbuilds := Finder.refuses_ofBuilds d.builds settings
  exact ⟨hbuilds, Finder.refuses_ofTestRuns hbuilds d.testRuns settings,
    Finder.refuses_ofProblems hbuilds d.problems settings⟩

end LocatorQuery
