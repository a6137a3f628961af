import LocatorQuery.Locator.Reading
import LocatorQuery.Proofs.Outcome
import LocatorQuery.Proofs.Locator.Taking

/-! Running a reading: what its steps answer, and what they leave of the locator. -/
namespace LocatorQuery
open Outcome

namespace Reading

variable {α β : Type}

theorem run_step (f : Locator → α × Locator) (l : Locator) :
    (step f).run l = (.ok (f l).1, (f l).2) := rfl

theorem run_value (name : String) (l : Locator) :
    (value name).run l = (.ok (l.openValues name).head?, (l.take name).2) := by
  rw [value, run_step, (Locator.take_eq name l).1]

theorem run_values (name : String) (l : Locator) :
    (values name).run l = (.ok (l.openValues name), (l.takeAll name).2) := by
  rw [values, run_step, (Locator.takeAll_eq name l).1]

theorem run_lone (l : Locator) : lone.run l = (.ok l.takeValue.1, l.takeValue.2) := rfl

theorem run_whole (l : Locator) : whole.run l = (.ok l, l) := rfl

/-- A step ahead of others hands its answer and its locator on, or ends the run with its error. -/
theorem run_bind (r : Reading α) (f : α → Reading β) (l : Locator) :
    (r >>= f).run l =
      match r.run l with
      | (.ok a, left) => (f a).run left
      | (.error e, left) => (.error e, left) := by
  unfold run ExceptT.run StateT.run
  simp only [bind, ExceptT.bind, ExceptT.mk, StateT.bind, ExceptT.bindCont]
  cases r l with
  | mk answer left =>
    cases answer with
    | ok a => rfl
    | error e => rfl

/-- A handler goes on from what the failed reading left. -/
theorem run_tryCatch (r : Reading α) (handler : LocatorError → Reading α) (l : Locator) :
    (tryCatch r handler).run l =
      match r.run l with
      | (.ok a, left) => (.ok a, left)
      | (.error e, left) => (handler e).run left := by
  unfold run ExceptT.run StateT.run
  simp only [tryCatch, tryCatchThe, MonadExceptOf.tryCatch, ExceptT.tryCatch, ExceptT.mk, bind,
    StateT.bind]
  cases r l with
  | mk answer left =>
    cases answer with
    | ok a => rfl
    | error e => rfl

/-- What a conversion makes of the first of some values; without one there is nothing to convert. -/
def ofFirst (convert : String → Except LocatorError (Option β)) :
    List String → Except LocatorError (Option β)
  | [] => .ok none
  | v :: _ => convert v

def naturalOf (name raw : String) : Except LocatorError (Option Nat) :=
  match Text.natural? raw.toList with
  | some n => .ok (some n)
  | none => .error (.badValue name raw .notNatural)

def integerOf (name raw : String) : Except LocatorError (Option Int) :=
  match Text.integer? raw.toList with
  | some n => .ok (some n)
  | none => .error (.badValue name raw .notInteger)

theorem natural_of_first {name : String} {vs : List String} {n : Option Nat}
    (h : ofFirst (naturalOf name) vs = .ok n) :
    (vs.head? = none ∧ n = none) ∨
      ∃ raw m, vs.head? = some raw ∧ Text.natural? raw.toList = some m ∧ n = some m := by
  cases vs with
  | nil =>
    cases h
    exact .inl ⟨rfl, rfl⟩
  | cons raw rest =>
    rw [ofFirst, naturalOf] at h
    split at h
    · next m hm =>
      cases h
      exact .inr ⟨raw, m, rfl, hm, rfl⟩
    · cases h

/-- A getter that converts the value it takes. -/
theorem run_value_bind {name : String} {next : Option String → Reading (Option β)}
    {convert : String → Except LocatorError (Option β)} (absent : next none = pure none)
    (present : ∀ raw, next (some raw) = ofExcept (convert raw)) (l : Locator) :
    (value name >>= next).run l = (ofFirst convert (l.openValues name), (l.take name).2) := by
  rw [run_bind, run_value]
  cases l.openValues name with
  | nil =>
    dsimp only [List.head?_nil]
    rw [absent]
    rfl
  | cons raw rest =>
    dsimp only [List.head?_cons]
    rw [present]
    rfl

theorem run_natural (name : String) (l : Locator) :
    (natural name).run l = (ofFirst (naturalOf name) (l.openValues name), (l.take name).2) := by
  rw [natural]
  refine run_value_bind ?_ (fun raw => ?_) l
  · rfl
  · dsimp only [naturalOf]
    cases Text.natural? raw.toList with
    | none => rfl
    | some n => rfl

theorem run_integer (name : String) (l : Locator) :
    (integer name).run l = (ofFirst (integerOf name) (l.openValues name), (l.take name).2) := by
  rw [integer]
  refine run_value_bind ?_ (fun raw => ?_) l
  · rfl
  · dsimp only [integerOf]
    cases Text.integer? raw.toList with
    | none => rfl
    | some n => rfl

theorem run_flag (name : String) (l : Locator) :
    (flag name).run l = (ofFirst (flag? name) (l.openValues name), (l.take name).2) := by
  rw [flag]
  refine run_value_bind ?_ (fun raw => ?_) l
  · rfl
  · rfl

theorem run_finish (supported : List String) (l : Locator) :
    (finish supported).run l = (l.finish supported, l) := by
  rw [finish, run_bind, run_whole]
  rfl

end Reading

end LocatorQuery
