import LocatorQuery.Proofs.Locator.Remaining
import LocatorQuery.Proofs.Query.Evaluation

/-! What a finder sees of a locator. Its readings depend on what remains of it and on nothing else,
whatever the names of the criteria are; where no name is required, so does a whole evaluation. -/
namespace LocatorQuery
open Outcome Reading

variable {α : Type}

namespace Finder

theorem blind_readAllTests (f : Finder α) : Blind f.readAllTests :=
  (reads_value keyName).blind.bind fun _ =>
    (blind_mapM (fun c => (reads_readTests c).blind) f.criteria).bind fun _ => blind_pure _

theorem blind_selection (f : Finder α) : Blind f.selection := by
  refine f.blind_readAllTests.bind fun tests => ?_
  dsimp only
  split
  · exact (blind_finish f.supported).bind fun _ => blind_pure tests
  · exact blind_pure tests

theorem blind_checkRequired {f : Finder α} (h : f.requiredAny = []) : Blind f.checkRequired := by
  intro l l' hl
  rw [Reading.answer, Reading.answer, run_checkRequired, run_checkRequired, required, required, h]
  exact ⟨rfl, fun _ _ => hl⟩

/-- A finder that requires no name does not see what has been taken. -/
theorem blind_evaluateWith {f : Finder α} (h : f.requiredAny = []) (defaultCount : Option Nat) :
    Blind (f.evaluateWith defaultCount) := by
  refine blind_lone.bind fun key => ?_
  cases key with
  | some key => exact blind_pure _
  | none =>
    refine (reads_readWindow f defaultCount).blind.bind fun w => ?_
    refine (blind_checkRequired h).bind fun _ => ?_
    refine f.blind_readAllTests.bind fun tests => ?_
    dsimp only
    split
    · exact (blind_finish f.supported).bind fun _ => blind_pure _
    · exact blind_pure _

end Finder

end LocatorQuery
