import LocatorQuery.Catalog.Basic
import LocatorQuery.Scope.Query
import LocatorQuery.Proofs.Locator.Erasure
import LocatorQuery.Proofs.Locator.RoundTrip
import LocatorQuery.Proofs.Query.Selection
import LocatorQuery.Proofs.Scope.Filter

/-! Two ways to ask for scopes. A locator may carry a scope dimension among its others, or the runs are
asked for without it and then grouped. Both give the same scopes, and one succeeds when the other
does. -/
namespace LocatorQuery
open Outcome Reading

namespace ScopeFilter

/-- The filter of an optional text. -/
def given : Option String → Except LocatorError ScopeFilter
  | some text => parse text
  | none => .ok {}

theorem parse_of_dimensions {text : String} {ds : List Dimension}
    (h : Locator.parse text = .ok (.dimensions ds)) :
    parse text = (ofDimensions text).answer (.dimensions ds) := by
  have hblank : ¬ Text.isBlankText text = true := by
    intro hb
    rw [Locator.parse, if_pos hb] at h
    cases h
  rw [parse, if_neg hblank, h]

theorem given_written {filter : List (String × String)}
    (names : ∀ p ∈ filter, Dimension.isName p.1.toList = true) :
    given (Locator.written filter) =
      (ofDimensions (Locator.ofList filter).render).answer (Locator.ofList filter) := by
  cases filter with
  | nil => rfl
  | cons p filter =>
    exact parse_of_dimensions (Locator.parse_render_ofList (List.cons_ne_nil p filter) names)

section Written
variable {filter : List (String × String)}
  (names : ∀ p ∈ filter, Dimension.isName p.1.toList = true ∧ p.1 ≠ typeName)
include names

theorem level_of_given {found : ScopeFilter} (h : given (Locator.written filter) = .ok found) :
    found.level = none := by
  rw [given_written fun p hp => (names p hp).1, answer_ofDimensions_eq_ok_iff,
    partsOf_eq_ok_iff] at h
  have hopen : (Locator.ofList filter).openValues typeName = [] :=
    Dimension.openValues_of_forall_ne (List.forall_mem_map.mpr fun p hp => (names p hp).2)
  rw [hopen] at h
  exact (Except.ok.inj h.1.1).symm

/-- A filter with its level written in front reads as the filter with that level. -/
theorem parse_levelPair {level : ScopeLevel} {found : ScopeFilter} :
    parse (Locator.ofList ((typeName, level.name) :: filter)).render = .ok found ↔
      given (Locator.written filter) = .ok { found with level := none } ∧
        found.level = some level := by
  have hnames : ∀ p ∈ (typeName, level.name) :: filter, Dimension.isName p.1.toList = true := by
    rw [List.forall_mem_cons]
    exact ⟨show Dimension.isName typeName.toList = true by decide, fun p hp => (names p hp).1⟩
  rw [given_written fun p hp => (names p hp).1,
    parse_of_dimensions (Locator.parse_render_ofList (List.cons_ne_nil _ filter) hnames)]
  exact answer_levelItem (List.forall_mem_map.mpr fun p hp => (names p hp).2)

end Written

end ScopeFilter

namespace Scope

/-- Runs are grouped with a filter that names no level of its own. -/
theorem groupInto_of_plain {level : ScopeLevel} {text : Option String} {runs : List TestRun}
    (plain : ∀ filter, ScopeFilter.given text = .ok filter → filter.level = none) :
    groupInto level.name text runs =
      (ScopeFilter.given text).map fun filter => group level filter runs := by
  rw [groupInto, ScopeFilter.parse_name]
  cases text with
  | none => rfl
  | some text =>
    change (ScopeFilter.parse text >>= _) = (ScopeFilter.parse text).map _
    cases h : ScopeFilter.parse text with
    | error e => rfl
    | ok filter =>
      obtain ⟨named, value, conditions⟩ := filter
      have hnamed : named = none := plain _ h
      rw [hnamed]
      rfl

end Scope

namespace Finder

theorem answer_readScopes (f : Finder TestRun) {l : Locator} {text : String}
    (h : l.openValues scopeName = [text]) :
    f.readScopes.answer l = (do
      let filter ← ScopeFilter.parse text
      match filter.level with
      | none => .error (.badFilter text (.noType ScopeLevel.names))
      | some level =>
        let page ← (f.evaluateWith none).answer (l.takeAll scopeName).2
        return Scope.group level filter page.entries) := by
  rw [readScopes, answer_bind, Reading.answer, run_values, h]
  change (Reading.ofExcept (ScopeFilter.parse text) >>= _).answer (l.takeAll scopeName).2 = _
  rw [answer_bind]
  cases hparse : ScopeFilter.parse text with
  | error e => rfl
  | ok filter =>
    obtain ⟨named, value, conditions⟩ := filter
    cases named with
    | none => rfl
    | some level => exact answer_bind (f.evaluateWith none) _ _

section Inserted
variable {f : Finder TestRun} {level : ScopeLevel} {before after filter : List (String × String)}

/-- The dimension that asks for scopes of a level. -/
def scopePair (level : ScopeLevel) (filter : List (String × String)) : String × String :=
  (scopeName, (Locator.ofList ((ScopeFilter.typeName, level.name) :: filter)).render)

/-- Once the scope dimension is taken, the rest is evaluated as if it had never been there. -/
theorem evaluateWith_takeAll_scope (free : f.requiredAny = [])
    (rest : ∀ p ∈ before ++ after, p.1 ≠ scopeName) (text : String) :
    (f.evaluateWith none).answer
        ((Locator.ofList (before ++ (scopeName, text) :: after)).takeAll scopeName).2 =
      (f.evaluateWith none).answer (Locator.ofList (before ++ after)) := by
  refine (blind_evaluateWith free none _ _ ?_).1
  rw [Locator.ofList, Locator.ofList, List.map_append, List.map_append, List.map_cons]
  refine Locator.remaining_takeAll_append ?_ rfl
  rw [← List.map_append]
  exact List.forall_mem_map.mpr rest

end Inserted

theorem groupInto_written (f : Finder TestRun) {pairs : List (String × String)}
    (names : ∀ p ∈ pairs, Dimension.isName p.1.toList = true) (levelName : String)
    (filterText : Option String) :
    f.groupInto levelName (Locator.written pairs) filterText = (do
      let l ← Locator.ofPairs pairs
      let page ← (f.evaluateWith none).answer l
      Scope.groupInto levelName filterText page.entries) := by
  cases pairs with
  | nil => rfl
  | cons p pairs =>
    rw [Locator.ofPairs_eq names, ← Locator.parse_render_ofList (List.cons_ne_nil p pairs) names]
    rfl

/-- Asking for scopes within a locator, wherever the scope dimension stands in it, and grouping the
runs of the locator without it succeed alike and give the same scopes. -/
theorem testScopes_agrees_groupInto (d : Dataset) (settings : Settings) (level : ScopeLevel)
    {before after filter : List (String × String)}
    (names : ∀ p ∈ before ++ after, Dimension.isName p.1.toList = true ∧ p.1 ≠ scopeName)
    (filterNames : ∀ p ∈ filter,
      Dimension.isName p.1.toList = true ∧ p.1 ≠ ScopeFilter.typeName) (scopes : List Scope) :
    let f := (Catalog.ofDataset d settings).testRuns
    let direct : Except LocatorError (List Scope) := do
      let l ← Locator.ofPairs (before ++ after)
      let page ← (f.evaluateWith none).answer l
      Scope.groupInto level.name (Locator.written filter) page.entries
    (f.testScopes (Locator.ofList (before ++ scopePair level filter :: after)).render = .ok scopes ↔
        direct = .ok scopes) ∧
      f.groupInto level.name (Locator.written (before ++ after)) (Locator.written filter) = direct := by
  intro f direct
  have hvalid : ∀ p ∈ before ++ after, Dimension.isName p.1.toList = true :=
    fun p hp => (names p hp).1
  have hrest : ∀ p ∈ before ++ after, p.1 ≠ scopeName := fun p hp => (names p hp).2
  have hplain : ∀ found, ScopeFilter.given (Locator.written filter) = .ok found →
      found.level = none := fun _ => ScopeFilter.level_of_given filterNames
  have hdirect : direct = (do
      let page ← (f.evaluateWith none).answer (Locator.ofList (before ++ after))
      (ScopeFilter.given (Locator.written filter)).map fun found =>
        Scope.group level found page.entries) := by
    change (Locator.ofPairs (before ++ after) >>= _) = _
    rw [Locator.ofPairs_eq hvalid]
    exact bind_congr fun page => Scope.groupInto_of_plain hplain
  refine ⟨?_, groupInto_written f hvalid level.name _⟩
  · have hwhole : ∀ p ∈ before ++ scopePair level filter :: after,
        Dimension.isName p.1.toList = true := by
      rw [List.forall_mem_append, List.forall_mem_cons]
      rw [List.forall_mem_append] at hvalid
      exact ⟨hvalid.1, show Dimension.isName scopeName.toList = true by decide, hvalid.2⟩
    rw [testScopes, Locator.parse_render_ofList (by simp) hwhole, hdirect]
    change f.readScopes.answer _ = _ ↔ _
    rw [scopePair, answer_readScopes f (Locator.openValues_inserted hrest),
      evaluateWith_takeAll_scope rfl hrest, bind_eq_ok_iff, bind_eq_ok_iff]
    constructor
    · rintro ⟨found, hparse, h⟩
      obtain ⟨hgiven, hlevel⟩ := (ScopeFilter.parse_levelPair filterNames).mp hparse
      rw [hlevel] at h
      obtain ⟨page, hpage, hscopes⟩ := bind_eq_ok_iff.mp h
      cases hscopes
      exact ⟨page, hpage, map_eq_ok_iff.mpr ⟨_, hgiven, rfl⟩⟩
    · rintro ⟨page, hpage, h⟩
      obtain ⟨found, hgiven, rfl⟩ := map_eq_ok_iff.mp h
      have hfound : ({ found with level := none } : ScopeFilter) = found := by
        rw [← hplain found hgiven]
      refine ⟨{ found with level := some level },
        (ScopeFilter.parse_levelPair filterNames).mpr
          ⟨hgiven.trans (congrArg Except.ok hfound.symm), rfl⟩, ?_⟩
      exact bind_eq_ok_iff.mpr ⟨page, hpage, rfl⟩

theorem testScopes_agrees_groupInto_of_marked_values :
    let run : TestRun :=
      { id := 1, testId := 7, name := "x): a.b.C.m(p, q)", buildId := 20, status := .failure }
    let other : TestRun :=
      { id := 2, testId := 8, name := "y: a.b.C.n", buildId := 20, status := .failure }
    let before := [("name", "x): a.b.C.m(p, q)")]
    let after := [("status", "failed"), ("count", "5")]
    let filter := [("value", "x)"), ("failed", "condition:more-than,value:1")]
    let f := (Catalog.ofDataset { testRuns := [run, other, run] } {}).testRuns
    let direct : Except LocatorError (List Scope) := do
      let l ← Locator.ofPairs (before ++ after)
      let page ← (f.evaluateWith none).answer l
      Scope.groupInto ScopeLevel.suite.name (Locator.written filter) page.entries
    let scopes : List Scope :=
      [{ key := "x)", path := ["a.b"], members := [run, run],
         counters := { total := 2, failed := 2 } }]
    (∀ p ∈ before ++ after, Dimension.isName p.1.toList = true ∧ p.1 ≠ scopeName) ∧
      (∀ p ∈ filter, Dimension.isName p.1.toList = true ∧ p.1 ≠ ScopeFilter.typeName) ∧
      direct = .ok scopes ∧
      (f.testScopes (Locator.ofList (before ++ scopePair .suite filter :: after)).render = .ok scopes ↔
        direct = .ok scopes) ∧
      f.groupInto ScopeLevel.suite.name (Locator.written (before ++ after))
        (Locator.written filter) = direct := by
  intro run other before after filter f direct scopes
  have names : ∀ p ∈ before ++ after, Dimension.isName p.1.toList = true ∧ p.1 ≠ scopeName := by
    decide
  have filterNames : ∀ p ∈ filter,
      Dimension.isName p.1.toList = true ∧ p.1 ≠ ScopeFilter.typeName := by
    decide
  exact ⟨names, filterNames, by decide +kernel,
    testScopes_agrees_groupInto { testRuns := [run, other, run] } {} .suite names filterNames scopes⟩

end Finder

end LocatorQuery
