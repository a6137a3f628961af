import LocatorQuery.Proofs.Catalog.Completeness
import LocatorQuery.Proofs.Query.Narrowing

/-! Spellings of a query. A configuration, a test name and a kind of problem may be given flat, or nested in
the dimension for builds, tests or problems. Whatever else a query says, both spellings are answered alike. -/
namespace LocatorQuery
open Outcome Reading

theorem Locator.isPresent_ofList {name value : String} {pairs : List (String × String)}
    (h : (name, value) ∈ pairs) : (ofList pairs).isPresent name = true :=
  List.any_eq_true.mpr ⟨_, List.mem_map_of_mem h, beq_self_eq_true name⟩

namespace Finder

variable {α : Type} {f : Finder α}

theorem required_of_free (h : f.requiredAny = []) (l : Locator) : f.required l = .ok () := by
  rw [required, h]
  rfl

theorem required_of_mem {name value : String} {pairs : List (String × String)}
    (h : name ∈ f.requiredAny) (hmem : (name, value) ∈ pairs) :
    f.required (Locator.ofList pairs) = .ok () := by
  have hany : f.requiredAny.any (Locator.ofList pairs).isPresent = true :=
    List.any_eq_true.mpr ⟨name, h, Locator.isPresent_ofList hmem⟩
  rw [required, hany, Bool.or_true]
  rfl

/-- Locators that are answered alike are answered alike in writing. -/
theorem findMany_render_congr {pairs more more' : List (String × String)} (hne : more ≠ [])
    (hne' : more' ≠ []) (names : ∀ p ∈ pairs, Dimension.isName p.1.toList = true)
    (hmore : ∀ p ∈ more, Dimension.isName p.1.toList = true)
    (hmore' : ∀ p ∈ more', Dimension.isName p.1.toList = true)
    (same : ∀ defaultCount, (f.evaluateWith defaultCount).answer (Locator.ofList (pairs ++ more)) =
      (f.evaluateWith defaultCount).answer (Locator.ofList (pairs ++ more'))) :
    f.findMany (some (Locator.ofList (pairs ++ more)).render) =
      f.findMany (some (Locator.ofList (pairs ++ more')).render) := by
  have hparse : ∀ more : List (String × String), more ≠ [] →
      (∀ p ∈ more, Dimension.isName p.1.toList = true) →
      f.findMany (some (Locator.ofList (pairs ++ more)).render) =
        (f.evaluateWith f.settings.pageSize).answer (Locator.ofList (pairs ++ more)) := by
    intro more hne hmore
    rw [findMany_eq]
    change Locator.parse _ >>= _ = _
    rw [Locator.parse_render_ofList (List.append_ne_nil_of_right_ne_nil pairs hne)
      (List.forall_mem_append.mpr ⟨names, hmore⟩)]
    rfl
  rw [hparse more hne hmore, hparse more' hne' hmore', same]

/-- Where two criteria build the same test, each from its own value, either dimension may be given. -/
theorem answer_respelled (distinct : f.supported.Nodup) (free : f.requiredAny = [])
    {c c' : Criterion α} (hc : c ∈ f.criteria) (hc' : c' ∈ f.criteria) {raw raw' : String}
    {test test' : α → Bool} (htest : c.test raw = .ok (some test))
    (htest' : c'.test raw' = .ok (some test')) (same : ∀ item, test' item = test item)
    {pairs : List (String × String)} (others : ∀ p ∈ pairs, p.1 ∉ [c.name, c'.name])
    (defaultCount : Option Nat) :
    (f.evaluateWith defaultCount).answer (Locator.ofList (pairs ++ [(c'.name, raw')])) =
      (f.evaluateWith defaultCount).answer (Locator.ofList (pairs ++ [(c.name, raw)])) := by
  simp only [List.mem_cons, List.not_mem_nil, not_or, or_false] at others
  have h := narrows_concat distinct hc htest fun p hp => (others p hp).1
  have h' := narrows_concat distinct hc' htest' fun p hp => (others p hp).2
  exact answer_eq_of_narrows distinct (Locator.untaken_ofList _) (Locator.untaken_ofList _) h h' same
    (by rw [required_of_free free, required_of_free free]) defaultCount

/-- Where one criterion builds the test that two others build together, its dimension may be given for
theirs. -/
theorem answer_joined (distinct : f.supported.Nodup) {c c₁ c₂ : Criterion α} (hc : c ∈ f.criteria)
    (hc₁ : c₁ ∈ f.criteria) (hc₂ : c₂ ∈ f.criteria) {raw raw₁ raw₂ : String}
    {test test₁ test₂ : α → Bool} (htest : c.test raw = .ok (some test))
    (htest₁ : c₁.test raw₁ = .ok (some test₁)) (htest₂ : c₂.test raw₂ = .ok (some test₂))
    (same : ∀ item, test item = (test₁ item && test₂ item)) (ne : c₁.name ≠ c₂.name)
    {pairs : List (String × String)} (others : ∀ p ∈ pairs, p.1 ∉ [c₁.name, c₂.name, c.name])
    (required : f.required (Locator.ofList (pairs ++ [(c.name, raw)])) =
      f.required (Locator.ofList (pairs ++ [(c₁.name, raw₁), (c₂.name, raw₂)])))
    (defaultCount : Option Nat) :
    (f.evaluateWith defaultCount).answer (Locator.ofList (pairs ++ [(c.name, raw)])) =
      (f.evaluateWith defaultCount).answer
        (Locator.ofList (pairs ++ [(c₁.name, raw₁), (c₂.name, raw₂)])) := by
  simp only [List.mem_cons, List.not_mem_nil, not_or, or_false] at others
  have hone := narrows_concat distinct hc htest fun p hp => (others p hp).2.2
  have hfirst := narrows_concat distinct hc₁ htest₁ fun p hp => (others p hp).1
  have hothers : ∀ p ∈ pairs ++ [(c₁.name, raw₁)], p.1 ≠ c₂.name := by
    rw [List.forall_mem_append, List.forall_mem_singleton]
    exact ⟨fun p hp => (others p hp).2.1, ne⟩
  have hsecond := narrows_concat distinct hc₂ htest₂ hothers
  rw [List.append_assoc] at hsecond
  exact answer_eq_of_narrows distinct (Locator.untaken_ofList _) (Locator.untaken_ofList _)
    (hfirst.trans hsecond) hone same required defaultCount

theorem exists_answer_buildType (source : List Build) (settings : Settings) (buildType : String) :
    ∃ page, ((ofBuilds source settings).evaluateWith none).answer
      (Locator.ofList [("buildType", buildType)]) = .ok page := by
  obtain ⟨pageSize, lookupLimit, strict⟩ := settings
  -- Strict or not, nothing is left over that could be refused.
  cases strict with
  | false => exact ⟨_, rfl⟩
  | true => exact ⟨_, rfl⟩

/-- That builds need not be finished goes without saying once a query has a locator. -/
theorem answer_buildType_finished (source : List Build) (settings : Settings) (buildType : String) :
    ((ofBuilds source settings).evaluateWith none).answer
        (Locator.ofList [("buildType", buildType), ("finished", "any")]) =
      ((ofBuilds source settings).evaluateWith none).answer
        (Locator.ofList [("buildType", buildType)]) := by
  have hany : flag? "finished" "any" = .ok none := by decide +kernel
  have htest : (Criterion.flag "finished" Build.finished).test "any" = .ok none := by
    change (flag? "finished" "any" >>= _) = _
    rw [hany]
    rfl
  have hc : Criterion.flag "finished" Build.finished ∈ (ofBuilds source settings).criteria := by
    change _ ∈ Build.criteria
    simp [Build.criteria]
  have hfree : (ofBuilds source settings).requiredAny = [] := rfl
  have h := @narrows_concat _ _ _ _ _ distinct_ofBuilds hc htest [("buildType", buildType)]
    (List.forall_mem_singleton.mpr (show "buildType" ≠ "finished" by decide))
  refine answer_eq_of_narrows distinct_ofBuilds (Locator.untaken_ofList _)
    (Locator.untaken_ofList _) (Narrows.refl _ _) h (fun _ => rfl) ?_ none
  rw [required_of_free hfree, required_of_free hfree]

/-- The runs of a configuration are those of the builds that a nested query for it finds. -/
theorem exists_test_ofBuildType (source : List Build) (settings : Settings) (buildType : String) :
    ∃ test, (TestRun.inBuildType (ofBuilds source settings)).test buildType = .ok (some test) ∧
      (TestRun.inBuild (ofBuilds source settings)).test
        (Locator.ofList [("buildType", buildType)]).render = .ok (some test) := by
  obtain ⟨page, hpage⟩ := exists_answer_buildType source settings buildType
  have hfinished := (answer_buildType_finished source settings buildType).trans hpage
  have hpairs : Locator.ofPairs [("buildType", buildType), ("finished", "any")] =
      .ok (Locator.ofList [("buildType", buildType), ("finished", "any")]) :=
    Locator.ofPairs_eq (by simp +decide)
  have hparse : Locator.parse (Locator.ofList [("buildType", buildType)]).render =
      .ok (Locator.ofList [("buildType", buildType)]) :=
    Locator.parse_render_ofList (List.cons_ne_nil _ _) (by simp +decide)
  refine ⟨fun r => (page.entries.map Build.id).contains r.buildId, ?_, ?_⟩
  · exact bind_eq_ok_iff.mpr ⟨_, hpairs, bind_eq_ok_iff.mpr
      ⟨_, bind_eq_ok_iff.mpr ⟨_, hfinished, rfl⟩, rfl⟩⟩
  · exact bind_eq_ok_iff.mpr ⟨_, hparse, bind_eq_ok_iff.mpr
      ⟨_, bind_eq_ok_iff.mpr ⟨_, hpage, rfl⟩, rfl⟩⟩

theorem word?_render_name (name : String) :
    Text.word? (Locator.ofList [("name", name)]).render.toList = none := by
  have hrender : (Locator.ofList [("name", name)]).render.toList =
      "name".toList ++ ':' :: Value.wrap name.toList := by
    rw [Locator.ofList, Locator.render, String.toList_ofList, List.map_singleton,
      List.map_singleton, List.intercalate_singleton, Dimension.chars]
  rw [hrender]
  rfl

theorem test_ofTest_name (name : String) :
    TestRun.ofTest.test (Locator.ofList [("name", name)]).render =
      .ok (some fun r => r.name == name) := by
  have hparse : Locator.parse (Locator.ofList [("name", name)]).render =
      .ok (Locator.ofList [("name", name)]) :=
    Locator.parse_render_ofList (List.cons_ne_nil _ _) (by simp +decide)
  have hparts : TestRun.testParts.answer (Locator.ofList [("name", name)]) =
      .ok (none, some name) := rfl
  -- A number would be the id of a test, but a written dimension starts with a letter.
  rw [TestRun.ofTest]
  simp only [word?_render_name]
  exact bind_eq_ok_iff.mpr ⟨_, hparse, bind_eq_ok_iff.mpr ⟨_, hparts, rfl⟩⟩

theorem test_ofKind (type identity : String) :
    Problem.ofKind.test (Locator.ofList [("type", type), ("identity", identity)]).render =
      .ok (some fun p => p.type == type && p.identity == identity) := by
  have hparse : Locator.parse (Locator.ofList [("type", type), ("identity", identity)]).render =
      .ok (Locator.ofList [("type", type), ("identity", identity)]) :=
    Locator.parse_render_ofList (List.cons_ne_nil _ _) (by simp +decide)
  have hparts : Problem.kindParts.answer (Locator.ofList [("type", type), ("identity", identity)]) =
      .ok (some type, some identity) := rfl
  exact bind_eq_ok_iff.mpr ⟨_, hparse, bind_eq_ok_iff.mpr ⟨_, hparts, rfl⟩⟩

section Catalog
variable (d : Dataset) (settings : Settings) {pairs : List (String × String)}

theorem answer_runs_ofBuildType (buildType : String)
    (others : ∀ p ∈ pairs, p.1 ∉ ["buildType", "build"]) (defaultCount : Option Nat) :
    ((Catalog.ofDataset d settings).testRuns.evaluateWith defaultCount).answer
        (Locator.ofList (pairs ++ [("build", (Locator.ofList [("buildType", buildType)]).render)])) =
      ((Catalog.ofDataset d settings).testRuns.evaluateWith defaultCount).answer
        (Locator.ofList (pairs ++ [("buildType", buildType)])) := by
  obtain ⟨test, hflat, hnested⟩ := exists_test_ofBuildType d.builds settings buildType
  have hc : TestRun.inBuildType (ofBuilds d.builds settings) ∈
      TestRun.criteria (ofBuilds d.builds settings) := by simp [TestRun.criteria]
  have hc' : TestRun.inBuild (ofBuilds d.builds settings) ∈
      TestRun.criteria (ofBuilds d.builds settings) := by simp [TestRun.criteria]
  exact answer_respelled (distinct_testRuns d settings) rfl hc hc' hflat hnested (fun _ => rfl)
    others defaultCount

theorem answer_runs_ofName (name : String) (others : ∀ p ∈ pairs, p.1 ∉ ["name", "test"])
    (defaultCount : Option Nat) :
    ((Catalog.ofDataset d settings).testRuns.evaluateWith defaultCount).answer
        (Locator.ofList (pairs ++ [("test", (Locator.ofList [("name", name)]).render)])) =
      ((Catalog.ofDataset d settings).testRuns.evaluateWith defaultCount).answer
        (Locator.ofList (pairs ++ [("name", name)])) := by
  have hc : Criterion.text "name" "full test name" TestRun.name ∈
      TestRun.criteria (ofBuilds d.builds settings) := by simp [TestRun.criteria]
  have hc' : TestRun.ofTest ∈ TestRun.criteria (ofBuilds d.builds settings) := by
    simp [TestRun.criteria]
  exact answer_respelled (distinct_testRuns d settings) rfl hc hc' rfl (test_ofTest_name name)
    (fun _ => rfl) others defaultCount

theorem answer_problems_ofKind (type identity : String)
    (others : ∀ p ∈ pairs, p.1 ∉ ["type", "identity", "problem"]) (defaultCount : Option Nat) :
    ((Catalog.ofDataset d settings).problems.evaluateWith defaultCount).answer
        (Locator.ofList (pairs ++
          [("problem", (Locator.ofList [("type", type), ("identity", identity)]).render)])) =
      ((Catalog.ofDataset d settings).problems.evaluateWith defaultCount).answer
        (Locator.ofList (pairs ++ [("type", type), ("identity", identity)])) := by
  have hkind : Problem.ofKind ∈ Problem.criteria (ofBuilds d.builds settings) := by
    simp [Problem.criteria]
  have htype : Criterion.text "type" "problem type, e.g. TC_COMPILATION_ERROR" Problem.type ∈
      Problem.criteria (ofBuilds d.builds settings) := by simp [Problem.criteria]
  have hidentity : Criterion.text "identity" "problem identity within its type" Problem.identity ∈
      Problem.criteria (ofBuilds d.builds settings) := by simp [Problem.criteria]
  refine answer_joined (distinct_problems d settings) hkind htype hidentity (test_ofKind type identity)
    rfl rfl (fun _ => rfl) (show "type" ≠ "identity" by decide) others ?_ defaultCount
  have hrequired : (Catalog.ofDataset d settings).problems.requiredAny =
      ["build", "problem", "type", "identity"] := rfl
  have hproblem : "problem" ∈ (Catalog.ofDataset d settings).problems.requiredAny := by
    simp [hrequired]
  have hnamed : "type" ∈ (Catalog.ofDataset d settings).problems.requiredAny := by
    simp [hrequired]
  exact (required_of_mem hproblem List.mem_concat_self).trans
    (required_of_mem hnamed (List.mem_append_right _ List.mem_cons_self)).symm

/-- A query gives the same page, or fails with the same error, whether it asks for a configuration, a
test name, or a type and an identity of a problem in dimensions of their own or in a nested locator. -/
theorem findMany_flat_eq_nested (names : ∀ p ∈ pairs, Dimension.isName p.1.toList = true) :
    let c := Catalog.ofDataset d settings
    let written := fun more => some (Locator.ofList (pairs ++ more)).render
    let nested := fun inner => (Locator.ofList inner).render
    ((∀ p ∈ pairs, p.1 ∉ ["buildType", "build"]) → ∀ buildType,
        c.testRuns.findMany (written [("buildType", buildType)]) =
          c.testRuns.findMany (written [("build", nested [("buildType", buildType)])])) ∧
      ((∀ p ∈ pairs, p.1 ∉ ["name", "test"]) → ∀ name,
        c.testRuns.findMany (written [("name", name)]) =
          c.testRuns.findMany (written [("test", nested [("name", name)])])) ∧
      ((∀ p ∈ pairs, p.1 ∉ ["type", "identity", "problem"]) → ∀ type identity,
        c.problems.findMany (written [("type", type), ("identity", identity)]) =
          c.problems.findMany
            (written [("problem", nested [("type", type), ("identity", identity)])])) := by
  intro c written nested
  refine ⟨fun others buildType => ?_, fun others name => ?_, fun others type identity => ?_⟩
  · refine findMany_render_congr (List.cons_ne_nil _ _) (List.cons_ne_nil _ _) names
      (by simp +decide) (by simp +decide) fun defaultCount => ?_
    exact (answer_runs_ofBuildType d settings buildType others defaultCount).symm
  · refine findMany_render_congr (List.cons_ne_nil _ _) (List.cons_ne_nil _ _) names
      (by simp +decide) (by simp +decide) fun defaultCount => ?_
    exact (answer_runs_ofName d settings name others defaultCount).symm
  · refine findMany_render_congr (List.cons_ne_nil _ _) (List.cons_ne_nil _ _) names
      (by simp +decide) (by simp +decide) fun defaultCount => ?_
    exact (answer_problems_ofKind d settings type identity others defaultCount).symm

theorem findMany_flat_eq_nested_of_threeBuilds :
    let c := Catalog.ofDataset threeBuilds {}
    let pairs := [("muted", "no"), ("count", "-1")]
    let written := fun more => some (Locator.ofList (pairs ++ more)).render
    let nested := fun inner => (Locator.ofList inner).render
    (∀ p ∈ pairs, Dimension.isName p.1.toList = true) ∧
      (∀ p ∈ pairs, p.1 ∉ ["buildType", "build"]) ∧
      (∀ p ∈ pairs, p.1 ∉ ["name", "test"]) ∧
      (∀ p ∈ pairs, p.1 ∉ ["type", "identity", "problem"]) ∧
      c.testRuns.findMany (written [("buildType", "Core")]) = .ok
        { entries := threeBuilds.testRuns, start := 0, count := none, examined := 1, matched := 1,
          nextStart := none, lookupLimit := none, lookupLimitReached := false } ∧
      c.testRuns.findMany (written [("buildType", "Core")]) =
        c.testRuns.findMany (written [("build", nested [("buildType", "Core")])]) ∧
      c.testRuns.findMany (written [("name", "s: (p,")]) =
        c.testRuns.findMany (written [("test", nested [("name", "s: (p,")])]) ∧
      c.problems.findMany (written [("type", "T"), ("identity", "i")]) =
        c.problems.findMany (written [("problem", nested [("type", "T"), ("identity", "i")])]) := by
  intro c pairs written nested
  have names : ∀ p ∈ pairs, Dimension.isName p.1.toList = true := by decide
  have hbuild : ∀ p ∈ pairs, p.1 ∉ ["buildType", "build"] := by decide
  have htest : ∀ p ∈ pairs, p.1 ∉ ["name", "test"] := by decide
  have hproblem : ∀ p ∈ pairs, p.1 ∉ ["type", "identity", "problem"] := by decide
  have h := findMany_flat_eq_nested threeBuilds {} names
  exact ⟨names, hbuild, htest, hproblem, by decide +kernel, h.1 hbuild "Core",
    h.2.1 htest "s: (p,", h.2.2 hproblem "T" "i"⟩

end Catalog

end Finder

end LocatorQuery
