import LocatorQuery.Proofs.Query.Leniency
import LocatorQuery.Proofs.Query.Reordering
import LocatorQuery.Proofs.Scope.Agreement

/-! Failing whatever the data. What is wrong with a locator is found out before an item is looked at, so
finders that differ in their items only find the same wrong with it. -/
namespace LocatorQuery
open Outcome Reading

variable {α : Type}

/-- Criteria of one dimension that understand the same values. What they make of a value may differ. -/
structure Criterion.Akin (c c' : Criterion α) : Prop where
  name : c.name = c'.name
  repeatable : c.repeatable = c'.repeatable
  test : ∀ raw, FailsAlike (c.test raw) (c'.test raw)

namespace Criterion.Akin

variable {c c' : Criterion α}

theorem refl (c : Criterion α) : c.Akin c := ⟨rfl, rfl, fun raw => .refl (c.test raw)⟩

theorem demand (h : c.Akin c') : c.demand = c'.demand := by
  rw [Criterion.demand, Criterion.demand, h.name, h.repeatable]

theorem testsOf (h : c.Akin c') (values : List String) :
    FailsAlike (c.testsOf values) (c'.testsOf values) := by
  have hchosen : c.chosen values = c'.chosen values := by
    rw [Criterion.chosen, Criterion.chosen, h.repeatable]
  rw [Criterion.testsOf, Criterion.testsOf, hchosen]
  exact (FailsAlike.mapM h.test _).map _ _

end Criterion.Akin

theorem Outcome.FailsAlike.fault_eq {β : Type} {x : Except LocatorError α} {y : Except LocatorError β}
    (h : FailsAlike x y) : fault x = fault y := by
  cases h with
  | ok a b => rfl
  | error e => rfl

theorem Outcome.Reports.failsAlike {β : Type} {x : Except LocatorError α} {y : Except LocatorError β}
    {faults : List LocatorError} (hx : Reports x faults) (hy : Reports y faults) :
    FailsAlike x y := by
  cases x with
  | error e =>
    rw [(hy e).mpr ((hx e).mp rfl)]
    exact .error e
  | ok a =>
    cases y with
    | error e => cases (hx e).mpr ((hy e).mp rfl)
    | ok b => exact .ok a b

namespace Finder

theorem faults_of_akin {cs cs' : List (Criterion α)} (h : List.Forall₂ Criterion.Akin cs cs')
    (o : String → List String) :
    (cs.flatMap fun c => fault (c.testsOf (o c.name))) =
      cs'.flatMap fun c => fault (c.testsOf (o c.name)) := by
  induction h with
  | nil => rfl
  | cons hc _ ih =>
    rw [List.flatMap_cons, List.flatMap_cons, ih, ← hc.name, (hc.testsOf _).fault_eq]

/-- Finders that differ in their items, and in what their criteria make of a value. -/
structure Akin (f g : Finder α) : Prop where
  criteria : List.Forall₂ Criterion.Akin f.criteria g.criteria
  requiredAny : f.requiredAny = g.requiredAny
  defaultLocator : f.defaultLocator = g.defaultLocator
  settings : f.settings = g.settings

theorem Akin.demands {f g : Finder α} (h : Akin f g) : f.demands = g.demands := by
  have hcriteria : f.criteria.map Criterion.demand = g.criteria.map Criterion.demand := by
    rw [← List.forall₂_eq_eq_eq, List.forall₂_map_left_iff, List.forall₂_map_right_iff]
    exact h.criteria.imp fun _ _ hc => hc.demand
  rw [Finder.demands, Finder.demands, testDemands, testDemands, hcriteria]

theorem Akin.supported {f g : Finder α} (h : Akin f g) : f.supported = g.supported := by
  have hcriteria : f.criteria.map Criterion.name = g.criteria.map Criterion.name := by
    rw [← List.forall₂_eq_eq_eq, List.forall₂_map_left_iff, List.forall₂_map_right_iff]
    exact h.criteria.imp fun _ _ hc => hc.name
  rw [Finder.supported, Finder.supported, hcriteria]

namespace Akin

variable {f g : Finder α} (h : Akin f g)
include h

/-- All that is wrong with a locator is the same for both. -/
theorem faults (defaultCount : Option Nat) (l : Locator) :
    f.faults defaultCount l = g.faults defaultCount l := by
  have hcriteria := faults_of_akin h.criteria l.openValues
  have hrequired : f.required l = g.required l := by
    rw [required, required, h.requiredAny]
  have hleftover : f.leftover l = g.leftover l := by
    rw [leftover, leftover, h.settings, h.demands, h.supported]
  rw [Finder.faults, Finder.faults, hcriteria, hrequired, hleftover, h.settings]

variable (distinct : f.supported.Nodup)
include distinct

theorem evaluateWith (defaultCount : Option Nat) (l : Locator) :
    FailsAlike ((f.evaluateWith defaultCount).answer l) ((g.evaluateWith defaultCount).answer l) := by
  cases l with
  | single key taken => exact .ok _ _
  | dimensions ds =>
    have hg := reports_evaluateWith (h.supported ▸ distinct) defaultCount ds
    rw [← h.faults] at hg
    exact (reports_evaluateWith distinct defaultCount ds).failsAlike hg

theorem findMany (text : Option String) : FailsAlike (f.findMany text) (g.findMany text) := by
  rw [findMany_eq, findMany_eq, evaluate, evaluate, h.defaultLocator, h.settings]
  exact .bind_same _ fun l => h.evaluateWith distinct g.settings.pageSize l

end Akin

end Finder

theorem Scope.failsAlike_groupInto (level : String) (filter : Option String) (runs runs' : List TestRun) :
    FailsAlike (Scope.groupInto level filter runs) (Scope.groupInto level filter runs') := by
  rw [Scope.groupInto, Scope.groupInto]
  refine .bind_same _ fun level => ?_
  cases filter with
  | none => exact .ok _ _
  | some text =>
    refine .bind_same (ScopeFilter.parse text) fun filter => ?_
    dsimp only
    cases filter.level with
    | none => exact .ok _ _
    | some requested =>
      by_cases hlevel : requested = level
      · simp only [if_pos hlevel]
        exact .ok _ _
      · simp only [if_neg hlevel]
        exact .error _

namespace Finder.Akin

variable {f g : Finder TestRun} (h : Akin f g) (distinct : f.supported.Nodup)
include h distinct

theorem groupInto (level : String) (locator filter : Option String) :
    FailsAlike (f.groupInto level locator filter) (g.groupInto level locator filter) := by
  have hrest : ∀ l, FailsAlike
      ((f.evaluateWith none).answer l >>= fun page => Scope.groupInto level filter page.entries)
      ((g.evaluateWith none).answer l >>= fun page => Scope.groupInto level filter page.entries) :=
    fun l => (h.evaluateWith distinct none l).bind fun page page' =>
      Scope.failsAlike_groupInto level filter page.entries page'.entries
  cases locator with
  | none => exact hrest .empty
  | some text => exact .bind_same (Locator.parse text) hrest

theorem testScopes (text : String) : FailsAlike (f.testScopes text) (g.testScopes text) := by
  rw [Finder.testScopes, Finder.testScopes]
  refine .bind_same _ fun l => ?_
  rcases hvalues : l.openValues scopeName with _ | ⟨text, _ | ⟨other, rest⟩⟩
  · rw [readScopes, readScopes, answer_bind, answer_bind, Reading.answer, run_values, hvalues]
    exact .error _
  -- The filter is read before the runs are asked for, and whatever they are, grouping them succeeds.
  · rw [answer_readScopes f hvalues, answer_readScopes g hvalues]
    refine .bind_same _ fun filter => ?_
    cases filter.level with
    | none => exact .error _
    | some level => exact (h.evaluateWith distinct none _).bind fun page page' => .ok _ _
  · rw [readScopes, readScopes, answer_bind, answer_bind, Reading.answer, run_values, hvalues,
      h.supported]
    exact .error _

end Finder.Akin

end LocatorQuery
