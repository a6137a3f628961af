import LocatorQuery.Proofs.Catalog.Completeness
import LocatorQuery.Proofs.Query.Leniency
import LocatorQuery.Proofs.Scope.Agreement

/-! Leniency over a dataset. Strictness is a setting of all finders of a catalog, so a query that a strict
catalog answers is answered alike by the lenient one, whatever it asks of the finder of builds. -/
namespace LocatorQuery
open Outcome Reading

def Settings.withStrict (settings : Settings) (strict : Bool) : Settings := { settings with strict }

namespace Finder

section Catalog
variable {d : Dataset} {settings : Settings}

theorem relaxed_builds (o : String → List String) :
    Relaxed o (Catalog.ofDataset d (settings.withStrict true)).builds
      (Catalog.ofDataset d (settings.withStrict false)).builds :=
  ⟨⟨rfl, rfl, List.forall₂_same.mpr fun c _ => c.carries_refl o, rfl⟩, rfl, rfl, rfl, rfl⟩

theorem buildIds_relaxed {l : Locator} {ids : List UInt64}
    (h : (Catalog.ofDataset d (settings.withStrict true)).builds.buildIds l = .ok ids) :
    (Catalog.ofDataset d (settings.withStrict false)).builds.buildIds l = .ok ids := by
  obtain ⟨page, hpage, hids⟩ := bind_eq_ok_iff.mp h
  exact bind_eq_ok_iff.mpr
    ⟨page, (relaxed_builds l.openValues).answer distinct_ofBuilds hpage, hids⟩

theorem relaxed_testRuns (o : String → List String) :
    Relaxed o (Catalog.ofDataset d (settings.withStrict true)).testRuns
      (Catalog.ofDataset d (settings.withStrict false)).testRuns := by
  have h : Carries o (Catalog.ofDataset d (settings.withStrict true)).testRuns
      (Catalog.ofDataset d (settings.withStrict false)).testRuns := by
    apply carries_ofTestRuns
    · exact carries_of_buildIds rfl rfl (fun _ _ _ _ _ => buildIds_relaxed) (fun _ => rfl) fun _ => rfl
    · exact carries_of_buildIds rfl rfl (fun _ _ _ _ _ => buildIds_relaxed) (fun _ => rfl) fun _ => rfl
  exact ⟨h, Eq.refl none, Eq.refl settings.pageSize, Eq.refl settings.lookupLimit, rfl⟩

theorem relaxed_problems (o : String → List String) :
    Relaxed o (Catalog.ofDataset d (settings.withStrict true)).problems
      (Catalog.ofDataset d (settings.withStrict false)).problems := by
  have h : Carries o (Catalog.ofDataset d (settings.withStrict true)).problems
      (Catalog.ofDataset d (settings.withStrict false)).problems := by
    apply carries_ofProblems
    exact carries_of_buildIds rfl rfl (fun _ _ _ _ _ => buildIds_relaxed) (fun _ => rfl) fun _ => rfl
  exact ⟨h, Eq.refl none, Eq.refl settings.pageSize, Eq.refl settings.lookupLimit, rfl⟩

end Catalog

theorem openValues_of_readScopes {f : Finder TestRun} {l : Locator} {scopes : List Scope}
    (h : f.readScopes.answer l = .ok scopes) : ∃ text, l.openValues scopeName = [text] := by
  rw [readScopes, answer_bind, Reading.answer, run_values] at h
  cases hvalues : l.openValues scopeName with
  | nil =>
    rw [hvalues] at h
    cases h
  | cons text rest =>
    cases rest with
    | nil => exact ⟨text, rfl⟩
    | cons other rest =>
      rw [hvalues] at h
      cases h

theorem Relaxed.readScopes {f g : Finder TestRun} (h : ∀ o, Relaxed o f g)
    (distinct : f.supported.Nodup) {l : Locator} {scopes : List Scope}
    (hscopes : f.readScopes.answer l = .ok scopes) : g.readScopes.answer l = .ok scopes := by
  obtain ⟨text, htext⟩ := openValues_of_readScopes hscopes
  rw [answer_readScopes f htext, bind_eq_ok_iff] at hscopes
  rw [answer_readScopes g htext, bind_eq_ok_iff]
  obtain ⟨filter, hfilter, hscopes⟩ := hscopes
  refine ⟨filter, hfilter, ?_⟩
  cases hlevel : filter.level with
  | none =>
    rw [hlevel] at hscopes
    cases hscopes
  | some level =>
    rw [hlevel] at hscopes
    obtain ⟨page, hpage, hscopes⟩ := bind_eq_ok_iff.mp hscopes
    exact bind_eq_ok_iff.mpr ⟨page, (h _).answer distinct hpage, hscopes⟩

/-- Whatever a strict catalog answers, the lenient one answers alike. A lenient finder answers a list of
dimensions as it answers those that it understands, unless all names there that it requires are beyond
what it supports; and what it understands the finder made strict answers like it. -/
theorem lenient_agrees_strict (d : Dataset) (settings : Settings) :
    let strict := Catalog.ofDataset d (settings.withStrict true)
    let lenient := Catalog.ofDataset d (settings.withStrict false)
    ((∀ text page, strict.builds.findMany text = .ok page →
          lenient.builds.findMany text = .ok page) ∧
        (∀ text page, strict.testRuns.findMany text = .ok page →
          lenient.testRuns.findMany text = .ok page) ∧
        (∀ text page, strict.problems.findMany text = .ok page →
          lenient.problems.findMany text = .ok page) ∧
        ∀ text scopes, strict.testRuns.testScopes text = .ok scopes →
          lenient.testRuns.testScopes text = .ok scopes) ∧
      ∀ {α : Type} (f : Finder α) (defaultCount : Option Nat) (ds : List Dimension),
        f.settings.strict = false → f.supported.Nodup → (Locator.dimensions ds).Untaken →
        (f.RequiredKnown (.dimensions ds) →
          (f.evaluateWith defaultCount).answer (.dimensions ds) =
            (f.evaluateWith defaultCount).answer (.dimensions (f.understood ds))) ∧
        (f.strict.evaluateWith defaultCount).answer (.dimensions (f.understood ds)) =
          (f.evaluateWith defaultCount).answer (.dimensions (f.understood ds)) := by
  intro strict lenient
  refine ⟨⟨?_, ?_, ?_, ?_⟩, ?_⟩
  · intro text page hpage
    exact Relaxed.findMany relaxed_builds distinct_ofBuilds hpage
  · intro text page hpage
    exact Relaxed.findMany relaxed_testRuns (distinct_testRuns d _) hpage
  · intro text page hpage
    exact Relaxed.findMany relaxed_problems (distinct_problems d _) hpage
  · intro text scopes hscopes
    obtain ⟨l, hl, hscopes⟩ := bind_eq_ok_iff.mp hscopes
    have hlenient := Relaxed.readScopes relaxed_testRuns (distinct_testRuns d _) hscopes
    exact bind_eq_ok_iff.mpr ⟨l, hl, hlenient⟩
  · intro α f defaultCount ds lenient distinct untaken
    exact ⟨fun known => answer_understood untaken distinct lenient known defaultCount,
      answer_strict_understood untaken distinct defaultCount⟩

theorem lenient_agrees_strict_of_threeBuilds :
    let settings : Settings := { pageSize := some 2 }
    let strict := Catalog.ofDataset threeBuilds (settings.withStrict true)
    let lenient := Catalog.ofDataset threeBuilds (settings.withStrict false)
    let builds : Page Build :=
      { entries := threeBuilds.builds.take 2, start := 0, count := some 2, examined := 3,
        matched := 3, nextStart := some 2, lookupLimit := none, lookupLimitReached := false }
    let runs : Page TestRun :=
      { entries := threeBuilds.testRuns, start := 0, count := some 2, examined := 1, matched := 1,
        nextStart := none, lookupLimit := none, lookupLimitReached := false }
    let problems : Page Problem :=
      { entries := threeBuilds.problems, start := 0, count := some 2, examined := 1, matched := 1,
        nextStart := none, lookupLimit := none, lookupLimitReached := false }
    let scopes : List Scope :=
      [{ key := "s", path := ["p"], members := threeBuilds.testRuns,
         counters := { total := 1, failed := 1 } }]
    let f := lenient.problems
    let ds : List Dimension := [{ name := "type", value := "T" }, { name := "bogus", value := "1" },
      { name := "type", value := "U" }, { name := "start", value := "0" }]
    let kept : List Dimension :=
      [{ name := "type", value := "T" }, { name := "start", value := "0" }]
    (strict.builds.findMany none = .ok builds ∧ lenient.builds.findMany none = .ok builds) ∧
      (strict.testRuns.findMany (some "build:(number:c)") = .ok runs ∧
        lenient.testRuns.findMany (some "build:(number:c)") = .ok runs) ∧
      (strict.problems.findMany (some "build:(number:c)") = .ok problems ∧
        lenient.problems.findMany (some "build:(number:c)") = .ok problems) ∧
      (strict.testRuns.testScopes "scope:(type:suite)" = .ok scopes ∧
        lenient.testRuns.testScopes "scope:(type:suite)" = .ok scopes) ∧
      f.settings.strict = false ∧ f.supported.Nodup ∧ (Locator.dimensions ds).Untaken ∧
      f.RequiredKnown (.dimensions ds) ∧ f.understood ds = kept ∧
      (f.evaluateWith none).answer (.dimensions ds) =
        (f.evaluateWith none).answer (.dimensions (f.understood ds)) ∧
      (f.strict.evaluateWith none).answer (.dimensions (f.understood ds)) =
        (f.evaluateWith none).answer (.dimensions (f.understood ds)) := by
  intro settings strict lenient builds runs problems scopes f ds kept
  have hbuilds : strict.builds.findMany none = .ok builds := by decide +kernel
  have hruns : strict.testRuns.findMany (some "build:(number:c)") = .ok runs := by decide +kernel
  have hproblems : strict.problems.findMany (some "build:(number:c)") = .ok problems := by
    decide +kernel
  have hscopes : strict.testRuns.testScopes "scope:(type:suite)" = .ok scopes := by decide +kernel
  have distinct : f.supported.Nodup := distinct_problems threeBuilds (settings.withStrict false)
  have untaken : (Locator.dimensions ds).Untaken := by decide
  have known : f.RequiredKnown (.dimensions ds) := by
    refine requiredKnown_of_supported ?_ (.dimensions ds)
    rw [show f.supported = _ from supported_problems threeBuilds (settings.withStrict false)]
    decide
  obtain ⟨⟨ofBuilds, ofRuns, ofProblems, ofScopes⟩, ofDimensions⟩ :=
    lenient_agrees_strict threeBuilds settings
  obtain ⟨hlenient, hstrict⟩ := ofDimensions f none ds rfl distinct untaken
  exact ⟨⟨hbuilds, ofBuilds none builds hbuilds⟩, ⟨hruns, ofRuns _ runs hruns⟩,
    ⟨hproblems, ofProblems _ problems hproblems⟩, ⟨hscopes, ofScopes _ scopes hscopes⟩, rfl,
    distinct, untaken, known, by decide +kernel, hlenient known, hstrict⟩

/-- A required name that is not supported counts where it is there, but goes with what is not understood.
And a catalog made strict is strict about nested locators too, so the same dimensions may fail there,
although all of them are understood. -/
theorem lenient_differs_strict :
    let f : Finder Build := { Finder.ofBuilds [] { strict := false } with requiredAny := ["project"] }
    let ds : List Dimension := [{ name := "project", value := "p" }]
    let lenient := (Catalog.ofDataset {} (Settings.withStrict {} false)).testRuns
    let strict := (Catalog.ofDataset {} (Settings.withStrict {} true)).testRuns
    let nested : List Dimension := [{ name := "build", value := "bogus:1" }]
    (f.settings.strict = false ∧ f.supported.Nodup ∧ (Locator.dimensions ds).Untaken ∧
        ¬f.RequiredKnown (.dimensions ds) ∧ f.understood ds = [] ∧
        (f.evaluateWith none).answer (.dimensions ds) = .ok (.ofItems []) ∧
        (f.evaluateWith none).answer (.dimensions (f.understood ds)) =
          .error (.missingDimension ["project"])) ∧
      strict.supported = lenient.supported ∧ lenient.understood nested = nested ∧
        (lenient.evaluateWith none).answer (.dimensions nested) = .ok (.ofItems []) ∧
        (strict.evaluateWith none).answer (.dimensions nested) =
          .error (.unusedDimensions ["bogus"]
            (Catalog.ofDataset {} (Settings.withStrict {} true)).builds.supported) := by
  decide +kernel

end Finder

end LocatorQuery
