import LocatorQuery.Catalog.Builds
import LocatorQuery.Proofs.Locator.Leftover
import LocatorQuery.Proofs.Query.Evaluation

/-! The order of dimensions. A finder goes by its own order: dimensions may be written in any order, as
long as those of one name keep theirs, and the answer stays the same. So does the error, which is the
first fault that the finder comes across. -/
namespace LocatorQuery
open Outcome Reading

variable {α β : Type}

/-- The same dimensions, those of each name in the same order. -/
structure Dimension.Reordered (ds ds' : List Dimension) : Prop where
  perm : ds.Perm ds'
  ofName : ∀ name, (ds.filter fun d => d.name == name) = ds'.filter fun d => d.name == name

namespace Dimension.Reordered

variable {ds ds' : List Dimension} (h : Reordered ds ds')
include h

theorem openValues : (Locator.dimensions ds).openValues = (Locator.dimensions ds').openValues := by
  funext name
  change Dimension.openValues name ds = Dimension.openValues name ds'
  rw [openValues_eq, openValues_eq, h.ofName]

theorem isPresent (name : String) :
    (Locator.dimensions ds).isPresent name = (Locator.dimensions ds').isPresent name := by
  have hvalues : (Locator.dimensions ds).valuesOf name = (Locator.dimensions ds').valuesOf name :=
    congrArg (List.map value) (h.ofName name)
  rw [Bool.eq_iff_iff, Locator.isPresent_iff, Locator.isPresent_iff, hvalues]

end Dimension.Reordered

instance (ds ds' : List Dimension) : Decidable (Dimension.Reordered ds ds') :=
  decidable_of_iff (ds.Perm ds' ∧ ∀ d ∈ ds,
      (ds.filter fun e => e.name == d.name) = ds'.filter fun e => e.name == d.name) <| by
    constructor
    · rintro ⟨perm, h⟩
      refine ⟨perm, fun name => ?_⟩
      by_cases hname : ∃ d ∈ ds, d.name = name
      · obtain ⟨d, hd, rfl⟩ := hname
        exact h d hd
      · -- A name that occurs in neither list selects nothing from both.
        have hnone : ∀ d ∈ ds, ¬ (d.name == name) = true := by
          intro d hd hn
          exact hname ⟨d, hd, beq_iff_eq.mp hn⟩
        rw [List.filter_eq_nil_iff.mpr hnone,
          List.filter_eq_nil_iff.mpr fun d hd => hnone d (perm.mem_iff.mpr hd)]
    · intro h
      exact ⟨h.perm, fun d _ => h.ofName d.name⟩

/-- The same error, up to the order in which it lists unused names. -/
inductive LocatorError.Alike : LocatorError → LocatorError → Prop
  | refl (e : LocatorError) : Alike e e
  | unused {names names' : List String} (perm : names.Perm names') (supported : List String) :
      Alike (.unusedDimensions names supported) (.unusedDimensions names' supported)

namespace Outcome

/-- Equal answers, or errors that are alike. -/
inductive Alike : Except LocatorError α → Except LocatorError α → Prop
  | ok (a : α) : Alike (.ok a) (.ok a)
  | error {e e' : LocatorError} (h : e.Alike e') : Alike (.error e) (.error e')

theorem Alike.refl (x : Except LocatorError α) : Alike x x := by
  cases x with
  | ok a => exact .ok a
  | error e => exact .error (.refl e)

theorem Alike.bind {x x' : Except LocatorError α} {f f' : α → Except LocatorError β}
    (h : Alike x x') (hf : ∀ a, Alike (f a) (f' a)) : Alike (x >>= f) (x' >>= f') := by
  cases h with
  | ok a => exact hf a
  | error h => exact .error h

def fault : Except LocatorError α → List LocatorError
  | .ok _ => []
  | .error e => [e]

theorem Alike.fault {x x' : Except LocatorError α} (h : Alike x x') :
    List.Forall₂ LocatorError.Alike (fault x) (fault x') := by
  cases h with
  | ok a => exact .nil
  | error h => exact .cons h .nil

/-- A run fails with the first of its faults, and has an answer when there is none. -/
def Reports (x : Except LocatorError α) (faults : List LocatorError) : Prop :=
  ∀ e, x = .error e ↔ faults.head? = some e

theorem reports_fault (x : Except LocatorError α) : Reports x (fault x) := by
  intro e
  cases x with
  | ok a => simp [fault]
  | error e' => simp [fault]

theorem Reports.bind {x : Except LocatorError α} {f : α → Except LocatorError β}
    {faults rest : List LocatorError} (h : Reports x faults)
    (hf : ∀ a, x = .ok a → Reports (f a) rest) : Reports (x >>= f) (faults ++ rest) := by
  intro e
  cases x with
  | error e' =>
    have hhead : faults.head? = some e' := (h e').mp rfl
    rw [List.head?_append, hhead]
    change Except.error e' = Except.error e ↔ some e' = some e
    rw [Except.error.injEq, Option.some.injEq]
  | ok a =>
    have hnil : faults = [] := by
      rw [← List.head?_eq_none_iff, Option.eq_none_iff_forall_ne_some]
      intro e hhead
      cases (h e).mpr hhead
    rw [hnil, List.nil_append]
    exact hf a rfl e

theorem Reports.then_ok {x : Except LocatorError α} {faults : List LocatorError}
    (h : Reports x faults) (g : α → β) : Reports (x >>= fun a => .ok (g a)) faults := by
  have hdone : Reports (x >>= fun a => .ok (g a)) (faults ++ []) :=
    h.bind fun a _ => reports_fault (.ok (g a))
  rwa [List.append_nil] at hdone

theorem reports_mapM (f : α → Except LocatorError β) (as : List α) :
    Reports (as.mapM f) (as.flatMap fun a => fault (f a)) := by
  induction as with
  | nil => exact reports_fault (.ok [])
  | cons a as ih =>
    rw [List.mapM_cons, List.flatMap_cons]
    exact (reports_fault (f a)).bind fun b _ => ih.then_ok (b :: ·)

end Outcome

namespace Finder

/-- What is wrong with a locator, in the order in which an evaluation comes across it: its window, what
it must name, the values of each criterion in table order, and last what nobody takes. -/
def faults (f : Finder α) (defaultCount : Option Nat) (l : Locator) : List LocatorError :=
  (fault (ofFirst (naturalOf startName) (l.openValues startName)) ++
    (fault (countOf defaultCount (l.openValues countName)) ++
      fault (limitOf f.settings.lookupLimit (l.openValues limitName)))) ++
    (fault (f.required l) ++
      ((f.criteria.flatMap fun c => fault (c.testsOf (l.openValues c.name))) ++
        fault (f.leftover l)))

/-- An evaluation ends with the first fault that it comes across. -/
theorem reports_evaluateWith {f : Finder α} (distinct : f.supported.Nodup)
    (defaultCount : Option Nat) (ds : List Dimension) :
    Reports ((f.evaluateWith defaultCount).answer (.dimensions ds))
      (f.faults defaultCount (.dimensions ds)) := by
  rw [answer_evaluateWith distinct, faults]
  refine Reports.bind ?_ fun w _ => ?_
  · refine (reports_fault _).bind fun start _ => ?_
    refine (reports_fault _).bind fun count _ => ?_
    exact (reports_fault _).then_ok fun limit => (⟨start.getD 0, count, limit⟩ : Window)
  · refine (reports_fault _).bind fun _ _ => ?_
    refine ((reports_mapM _ f.criteria).then_ok _).bind fun tests _ => ?_
    exact (reports_fault _).then_ok fun _ => _

section Reordered
variable {ds ds' : List Dimension} (h : Dimension.Reordered ds ds')
include h

theorem required_reordered (f : Finder α) :
    f.required (.dimensions ds) = f.required (.dimensions ds') :=
  required_congr f fun name _ => h.isPresent name

theorem leftover_reordered (f : Finder α) :
    Alike (f.leftover (.dimensions ds)) (f.leftover (.dimensions ds')) := by
  have hperm := Locator.unused_serveAll_perm h.openValues f.demands
  rw [leftover, leftover]
  split
  · rw [Locator.finish, Locator.finish, hperm.isEmpty_eq]
    split
    · exact .ok ()
    · exact .error (.unused hperm f.supported)
  · exact .ok ()

end Reordered

/-- However the dimensions are ordered, as long as those of one name keep their order, the answer is
the same, or the error up to the order of the names in it. A finder comes across the faults of a locator
in its own order, the same for both, and reports the first. -/
theorem evaluateWith_reordered {f : Finder α} (distinct : f.supported.Nodup)
    (defaultCount : Option Nat) {ds ds' : List Dimension} (h : Dimension.Reordered ds ds') :
    Alike ((f.evaluateWith defaultCount).answer (.dimensions ds))
        ((f.evaluateWith defaultCount).answer (.dimensions ds')) ∧
      List.Forall₂ LocatorError.Alike (f.faults defaultCount (.dimensions ds))
        (f.faults defaultCount (.dimensions ds')) ∧
      Reports ((f.evaluateWith defaultCount).answer (.dimensions ds))
        (f.faults defaultCount (.dimensions ds)) ∧
      Reports ((f.evaluateWith defaultCount).answer (.dimensions ds'))
        (f.faults defaultCount (.dimensions ds')) := by
  refine ⟨?_, ?_, reports_evaluateWith distinct defaultCount ds,
    reports_evaluateWith distinct defaultCount ds'⟩
  · rw [answer_evaluateWith distinct, answer_evaluateWith distinct, h.openValues,
      required_reordered h]
    refine (Alike.refl _).bind fun w => ?_
    refine (Alike.refl _).bind fun _ => ?_
    refine (Alike.refl _).bind fun tests => ?_
    exact (leftover_reordered h f).bind fun _ => .ok _
  · rw [faults, faults, h.openValues, required_reordered h]
    have hsame : ∀ errors : List LocatorError, List.Forall₂ LocatorError.Alike errors errors :=
      fun errors => List.forall₂_same.mpr fun e _ => .refl e
    refine List.rel_append (hsame _) (List.rel_append (hsame _) (List.rel_append (hsame _) ?_))
    exact (leftover_reordered h f).fault

theorem evaluateWith_reordered_of_unknown_names :
    let build : Build := { id := 1, buildType := "Core", number := "1", status := .success }
    let f := Finder.ofBuilds [build] {}
    let ds : List Dimension := [{ name := "tag", value := "a" }, { name := "bogus", value := "1" },
      { name := "count", value := "2" }, { name := "weird", value := "3" },
      { name := "tag", value := "b" }]
    let ds' : List Dimension := [{ name := "weird", value := "3" }, { name := "tag", value := "a" },
      { name := "tag", value := "b" }, { name := "bogus", value := "1" },
      { name := "count", value := "2" }]
    f.supported.Nodup ∧ Dimension.Reordered ds ds' ∧
      (f.evaluateWith none).answer (.dimensions ds) =
        .error (.unusedDimensions ["bogus", "weird"] f.supported) ∧
      (f.evaluateWith none).answer (.dimensions ds') =
        .error (.unusedDimensions ["weird", "bogus"] f.supported) ∧
      Alike ((f.evaluateWith none).answer (.dimensions ds))
        ((f.evaluateWith none).answer (.dimensions ds')) ∧
      List.Forall₂ LocatorError.Alike (f.faults none (.dimensions ds))
        (f.faults none (.dimensions ds')) ∧
      Reports ((f.evaluateWith none).answer (.dimensions ds)) (f.faults none (.dimensions ds)) ∧
      Reports ((f.evaluateWith none).answer (.dimensions ds')) (f.faults none (.dimensions ds')) := by
  intro build f ds ds'
  have distinct : f.supported.Nodup := by decide
  have h : Dimension.Reordered ds ds' := by decide
  exact ⟨distinct, h, by rfl, by rfl, evaluateWith_reordered distinct none h⟩

/-- Of two bad values the count is reported, wherever it stands: the window is read first. -/
example :
    let f := Finder.ofBuilds [] {}
    let status : Dimension := { name := "status", value := "broken" }
    let count : Dimension := { name := "count", value := "many" }
    (f.evaluateWith none).answer (.dimensions [status, count]) =
        .error (.badValue "count" "many" .notCount) ∧
      (f.evaluateWith none).answer (.dimensions [count, status]) =
        .error (.badValue "count" "many" .notCount) := by
  decide

end Finder

end LocatorQuery
