import LocatorQuery.Proofs.Locator.Grammar
import LocatorQuery.Proofs.Query.Leniency

/-! Refusals: errors that are the fault of a request, whatever there is to find. A query ends in no other
error as long as its criteria do not. -/
namespace LocatorQuery
open Outcome

variable {α β : Type}

namespace LocatorError

/-- An error that is not about what there is to find. -/
def IsRefusal (e : LocatorError) : Prop := e.kind = .badRequest

def IsMiss (e : LocatorError) : Prop := e.kind = .notFound

theorem IsRefusal.not_isMiss (e : LocatorError) (h : e.IsRefusal) : ¬ e.IsMiss := by
  rw [IsMiss, h]
  exact nofun

end LocatorError

namespace Reading

/-- Whatever the locator, an error of the reading satisfies a condition. -/
def FailsOnly (P : LocatorError → Prop) (r : Reading α) : Prop :=
  ∀ l, Outcome.FailsOnly P (r.answer l)

namespace FailsOnly

variable {P : LocatorError → Prop}

theorem pure (a : α) : FailsOnly P (Pure.pure a : Reading α) := fun _ => .ok a

theorem throw {e : LocatorError} (h : P e) : FailsOnly P (throw e : Reading α) := fun _ => .error h

theorem ofExcept {x : Except LocatorError α} (h : Outcome.FailsOnly P x) :
    FailsOnly P (Reading.ofExcept x) := fun _ => h

theorem step (f : Locator → α × Locator) : FailsOnly P (Reading.step f) := fun l => .ok (f l).1

theorem bind {r : Reading α} {f : α → Reading β} (hr : FailsOnly P r) (hf : ∀ a, FailsOnly P (f a)) :
    FailsOnly P (r >>= f) := by
  intro l
  rw [answer_bind]
  exact (hr l).bind fun a => hf a _

theorem mapM {f : α → Reading β} {as : List α} (h : ∀ a ∈ as, FailsOnly P (f a)) :
    FailsOnly P (as.mapM f) := by
  induction as with
  | nil => exact pure []
  | cons a as ih =>
    rw [List.forall_mem_cons] at h
    rw [List.mapM_cons]
    exact (h.1).bind fun b => (ih h.2).bind fun bs => pure (b :: bs)

end FailsOnly

theorem refuses_natural (name : String) : FailsOnly LocatorError.IsRefusal (natural name) := by
  refine .bind (.step _) fun raw => ?_
  cases raw with
  | none => exact .pure none
  | some raw =>
    dsimp only
    cases Text.natural? raw.toList with
    | none => exact .throw rfl
    | some n => exact .pure (some n)

theorem refuses_finish (supported : List String) :
    FailsOnly LocatorError.IsRefusal (finish supported) := by
  refine .bind (.step _) fun l => .ofExcept ?_
  rw [Locator.finish]
  split
  · exact .ok ()
  · exact .error rfl

end Reading

/-- A text that is no locator is refused. -/
theorem Locator.refuses_parse (text : String) :
    Outcome.FailsOnly LocatorError.IsRefusal (parse text) := by
  intro e h
  obtain ⟨fault, fragment, rfl, -⟩ := shows_of_parse h
  rfl

theorem Locator.refuses_ofPairs (pairs : List (String × String)) :
    Outcome.FailsOnly LocatorError.IsRefusal (ofPairs pairs) := by
  refine .foldlM (fun l (name, value) => ?_) pairs empty
  dsimp only
  cases l with
  | single v t =>
    rw [add]
    split
    · exact .error rfl
    · exact .error rfl
  | dimensions ds =>
    rw [add]
    split
    · exact .ok _
    · exact .error rfl

/-- No value of the dimension makes the criterion say that something is missing. -/
def Criterion.OnlyRefuses (c : Criterion α) : Prop :=
  ∀ raw, Outcome.FailsOnly LocatorError.IsRefusal (c.test raw)

namespace Finder
open Reading

def OnlyRefuses (f : Finder α) : Prop := ∀ c ∈ f.criteria, c.OnlyRefuses

theorem refuses_readCount (default : Option Nat) :
    Reading.FailsOnly LocatorError.IsRefusal (readCount default) := by
  refine .bind (.step _) fun raw => ?_
  cases raw with
  | none => exact .pure default
  | some raw =>
    dsimp only
    split
    · exact .pure none
    · split
      · exact .pure _
      · exact .throw rfl

theorem refuses_readLimit (default : Option Nat) :
    Reading.FailsOnly LocatorError.IsRefusal (readLimit default) := by
  refine (refuses_natural limitName).bind fun n => ?_
  split
  · exact .pure none
  · exact .pure _
  · exact .pure default

theorem refuses_readWindow (f : Finder α) (defaultCount : Option Nat) :
    Reading.FailsOnly LocatorError.IsRefusal (f.readWindow defaultCount) :=
  (refuses_natural startName).bind fun _ =>
    (refuses_readCount defaultCount).bind fun _ =>
      (refuses_readLimit f.settings.lookupLimit).bind fun _ => .pure _

theorem refuses_checkRequired (f : Finder α) :
    Reading.FailsOnly LocatorError.IsRefusal f.checkRequired := by
  refine .bind (.step _) fun l => ?_
  split
  · exact .pure ()
  · exact .throw rfl

theorem refuses_readTests {c : Criterion α} (h : c.OnlyRefuses) :
    Reading.FailsOnly LocatorError.IsRefusal (readTests c) := by
  have hvalues : Reading.FailsOnly LocatorError.IsRefusal (readValues c) := by
    rw [readValues]
    split
    · exact .step _
    · exact .bind (.step _) fun v => .pure v.toList
  refine hvalues.bind fun values => .bind (.ofExcept (.mapM fun raw _ => h raw)) fun tests => ?_
  exact .pure tests.reduceOption

/-- Nothing is said to be missing by an evaluation: where nothing matches, the page is empty. -/
theorem OnlyRefuses.evaluateWith {f : Finder α} (h : f.OnlyRefuses) (defaultCount : Option Nat) :
    Reading.FailsOnly LocatorError.IsRefusal (f.evaluateWith defaultCount) := by
  refine .bind (.step _) fun key => ?_
  cases key with
  | some key => exact .pure _
  | none =>
    refine (refuses_readWindow f defaultCount).bind fun w => ?_
    refine (refuses_checkRequired f).bind fun _ => ?_
    have htests : Reading.FailsOnly LocatorError.IsRefusal f.readAllTests :=
      .bind (.step _) fun key => .bind (.mapM fun c hc => refuses_readTests (h c hc)) fun tests =>
        .pure _
    refine htests.bind fun tests => ?_
    dsimp only
    split
    · exact (refuses_finish f.supported).bind fun _ => .pure _
    · exact .pure _

theorem OnlyRefuses.findMany {f : Finder α} (h : f.OnlyRefuses) (text : Option String) :
    Outcome.FailsOnly LocatorError.IsRefusal (f.findMany text) := by
  rw [findMany_eq]
  refine .bind ?_ fun l => h.evaluateWith f.settings.pageSize l
  cases text.or f.defaultLocator with
  | some text => exact Locator.refuses_parse text
  | none => exact .ok _

/-- Nothing that a locator asks for is there: no item has the key that it gives alone, or else its page
is empty. -/
def Misses (f : Finder α) (l : Locator) : Prop :=
  match loneKey? l with
  | some key => ∀ item ∈ f.source, f.key item ≠ key
  | none => ∃ page, (f.evaluateWith none).answer l = .ok page ∧ page.entries = []

theorem byKey?_eq_none_iff {f : Finder α} {key : String} :
    f.byKey? key = none ↔ ∀ item ∈ f.source, f.key item ≠ key := by
  simp [byKey?]

/-- Looking for one item fails as missing just where nothing is there. All its other errors are
refusals. -/
theorem OnlyRefuses.findOne {f : Finder α} (h : f.OnlyRefuses) (text : String) :
    FailsWith LocatorError.IsMiss (f.findOne text) ↔
      ∃ l, Locator.parse text = .ok l ∧ f.Misses l := by
  rw [Finder.findOne, (Locator.refuses_parse text).failsWith_bind_iff LocatorError.IsRefusal.not_isMiss]
  refine exists_congr fun l => and_congr_right fun _ => ?_
  rw [Misses]
  cases loneKey? l with
  | some key =>
    dsimp only
    rw [← byKey?_eq_none_iff]
    cases f.byKey? key with
    | none => exact iff_of_true (failsWith_error_iff.mpr rfl) rfl
    | some item => exact iff_of_false (not_failsWith_ok item) nofun
  | none =>
    have hrefuses := h.evaluateWith none l
    refine (hrefuses.failsWith_bind_iff LocatorError.IsRefusal.not_isMiss).trans ?_
    refine exists_congr fun page => and_congr_right fun _ => ?_
    obtain ⟨entries, start, count, examined, matched, nextStart, lookupLimit, reached⟩ := page
    match entries with
    | [] => exact iff_of_true (failsWith_error_iff.mpr rfl) rfl
    | [item] => exact iff_of_false (not_failsWith_ok item) nofun
    | _ :: _ :: _ => exact iff_of_false (failsWith_error_iff.not.mpr nofun) nofun

end Finder

end LocatorQuery
