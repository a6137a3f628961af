import LocatorQuery.Scope.Query
import LocatorQuery.Proofs.Catalog.Refusal

/-! Grouping only refuses: a level, a filter or a scope that cannot be used is a fault of the request, and a
grouping of no runs is answered. -/
namespace LocatorQuery
open Outcome

theorem ScopeLevel.refuses_parse (raw : String) : FailsOnly LocatorError.IsRefusal (parse raw) := by
  rw [parse]
  split
  · exact .ok _
  · exact .error rfl

namespace ScopeFilter

theorem refuses_readConditions (text : String) (counters : List Counter) :
    Reading.FailsOnly LocatorError.IsRefusal (readConditions text counters) := by
  induction counters with
  | nil => exact .pure []
  | cons counter rest ih =>
    refine .bind (.step _) fun raw => ?_
    extract_lets withFound
    have hfound : ∀ found, Reading.FailsOnly LocatorError.IsRefusal (withFound found) :=
      fun found => ih.bind fun conditions => .pure _
    cases raw with
    | none => exact .bind (.pure none) hfound
    | some raw =>
      dsimp only
      cases Condition.parse counter.name raw with
      | ok condition => exact .bind (.pure _) hfound
      | error e => exact .bind (.throw rfl) hfound

theorem refuses_checkLeftover (text : String) :
    Reading.FailsOnly LocatorError.IsRefusal (checkLeftover text) := by
  refine .bind (.step _) fun l => ?_
  dsimp only
  split
  · exact .pure ()
  · exact .throw rfl

theorem refuses_ofDimensions (text : String) :
    Reading.FailsOnly LocatorError.IsRefusal (ofDimensions text) := by
  refine .bind (.step _) fun level => ?_
  extract_lets withLevel
  have hlevel : ∀ level, Reading.FailsOnly LocatorError.IsRefusal (withLevel level) := fun level =>
    .bind (.step _) fun value => (refuses_readConditions text _).bind fun conditions =>
      (refuses_checkLeftover text).bind fun _ => .pure _
  cases level with
  | none => exact .bind (.pure none) hlevel
  | some raw =>
    dsimp only
    refine .bind ?_ hlevel
    rw [← bind_pure_comp]
    exact .bind (.ofExcept (ScopeLevel.refuses_parse raw)) fun level => .pure (some level)

theorem refuses_parse (text : String) : FailsOnly LocatorError.IsRefusal (parse text) := by
  rw [parse]
  split
  · exact .ok _
  · split
    · exact .error rfl
    · exact .ok _
    · exact refuses_ofDimensions text _

end ScopeFilter

theorem Scope.refuses_groupInto (levelName : String) (filterText : Option String)
    (runs : List TestRun) : FailsOnly LocatorError.IsRefusal (groupInto levelName filterText runs) := by
  refine (ScopeLevel.refuses_parse levelName).bind fun level => ?_
  extract_lets withFilter
  have hfilter : ∀ filter, FailsOnly LocatorError.IsRefusal (withFilter filter) := by
    intro filter
    dsimp only [withFilter]
    cases filter.level with
    | none => exact .ok _
    | some requested =>
      dsimp only
      split
      · exact .ok _
      · exact .error rfl
  cases filterText with
  | some text => exact (ScopeFilter.refuses_parse text).bind hfilter
  | none => exact hfilter {}

namespace Finder

variable {f : Finder TestRun} (h : f.OnlyRefuses)
include h

theorem OnlyRefuses.groupInto (levelName : String) (locator filterText : Option String) :
    FailsOnly LocatorError.IsRefusal (f.groupInto levelName locator filterText) := by
  have hgroup : ∀ l, FailsOnly LocatorError.IsRefusal ((f.evaluateWith none).answer l >>= fun page =>
      Scope.groupInto levelName filterText page.entries) := fun l =>
    (h.evaluateWith none l).bind fun page => Scope.refuses_groupInto levelName filterText _
  cases locator with
  | some text => exact (Locator.refuses_parse text).bind hgroup
  | none => exact hgroup .empty

theorem OnlyRefuses.readScopes : Reading.FailsOnly LocatorError.IsRefusal f.readScopes := by
  refine .bind (.step _) fun texts => ?_
  match texts with
  | [] => exact .throw rfl
  | [text] =>
    refine .bind (.ofExcept (ScopeFilter.refuses_parse text)) fun filter => ?_
    cases filter.level with
    | none => exact .throw rfl
    | some level => exact (h.evaluateWith none).bind fun page => .pure _
  | _ :: _ :: _ => exact .throw rfl

theorem OnlyRefuses.testScopes (text : String) :
    FailsOnly LocatorError.IsRefusal (f.testScopes text) :=
  (Locator.refuses_parse text).bind fun l => h.readScopes l

end Finder

end LocatorQuery
