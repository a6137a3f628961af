import LocatorQuery.Query.Finder
import LocatorQuery.Proofs.Locator.Demand
import LocatorQuery.Proofs.Query.Page

/-! Evaluation in closed form: the window, the required dimensions and the tests of a list of
dimensions as functions of its open values. -/
namespace LocatorQuery
open Outcome Reading

variable {α : Type}

namespace Criterion

def demand (c : Criterion α) : Demand := { name := c.name, all := c.repeatable }

/-- The values that reach a criterion, out of all that stand under its name. -/
def chosen (c : Criterion α) (values : List String) : List String :=
  if c.repeatable then values else values.head?.toList

def testsOf (c : Criterion α) (values : List String) : Except LocatorError (List (α → Bool)) :=
  ((c.chosen values).mapM c.test).map List.reduceOption

end Criterion

namespace Finder

def countOf (default : Option Nat) : List String → Except LocatorError (Option Nat)
  | [] => .ok default
  | raw :: _ =>
    if raw = "-1" then .ok none
    else match Text.natural? raw.toList with
      | some n => .ok (some n)
      | none => .error (.badValue countName raw .notCount)

def limitOf (default : Option Nat) (values : List String) : Except LocatorError (Option Nat) :=
  (ofFirst (naturalOf limitName) values).map fun
    | some 0 => none
    | some n => some n
    | none => default

def windowDemands : List Demand :=
  [{ name := startName }, { name := countName }, { name := limitName }]

def windowOf (f : Finder α) (defaultCount : Option Nat) (o : String → List String) :
    Except LocatorError Window := do
  let start ← ofFirst (naturalOf startName) (o startName)
  let count ← countOf defaultCount (o countName)
  let lookupLimit ← limitOf f.settings.lookupLimit (o limitName)
  return { start := start.getD 0, count, lookupLimit }

def testDemands (f : Finder α) : List Demand :=
  { name := keyName } :: f.criteria.map Criterion.demand

def testsFor (f : Finder α) (o : String → List String) :
    Except LocatorError (List (α → Bool)) := do
  let tests ← f.criteria.mapM fun c => c.testsOf (o c.name)
  return ((o keyName).head?.map fun k item => f.key item == k).toList ++ tests.flatten

def required (f : Finder α) (l : Locator) : Except LocatorError Unit :=
  if f.requiredAny.isEmpty || l.isPresent keyName || f.requiredAny.any l.isPresent then .ok ()
  else .error (.missingDimension f.requiredAny)

/-- Everything that an evaluation takes, in the order in which it is taken. -/
def demands (f : Finder α) : List Demand := windowDemands ++ f.testDemands

theorem reads_readCount (default : Option Nat) :
    Reads (readCount default) [{ name := countName }] fun o => countOf default (o countName) := by
  refine reads_of_run fun l => ?_
  rw [readCount, run_bind, run_value]
  cases l.openValues countName with
  | nil => rfl
  | cons raw rest =>
    dsimp only [List.head?_cons, countOf]
    split
    · rfl
    · cases Text.natural? raw.toList with
      | none => rfl
      | some n => rfl

theorem reads_readLimit (default : Option Nat) :
    Reads (readLimit default) [{ name := limitName }] fun o => limitOf default (o limitName) := by
  refine reads_of_run fun l => ?_
  rw [readLimit, run_bind, run_natural, limitOf]
  cases ofFirst (naturalOf limitName) (l.openValues limitName) with
  | error e => rfl
  | ok n =>
    rcases n with _ | _ | n
    · rfl
    · rfl
    · rfl

theorem reads_readWindow (f : Finder α) (defaultCount : Option Nat) :
    Reads (f.readWindow defaultCount) windowDemands (f.windowOf defaultCount) := by
  refine (reads_natural startName).bind [{ name := countName }, { name := limitName }]
    (fun start => ?_) (by decide)
  refine (reads_readCount defaultCount).bind [{ name := limitName }] (fun count => ?_) (by decide)
  exact (reads_readLimit f.settings.lookupLimit).convert fun lookupLimit =>
    .ok (⟨start.getD 0, count, lookupLimit⟩ : Window)

theorem reads_readTests (c : Criterion α) :
    Reads (readTests c) [c.demand] fun o => c.testsOf (o c.demand.name) := by
  have hvalues : Reads (readValues c) [c.demand] fun o => .ok (c.chosen (o c.name)) := by
    rw [readValues]
    split
    · next h =>
      rw [Criterion.demand, h]
      simp only [Criterion.chosen, h, if_true]
      exact reads_values c.name
    · next h =>
      rw [Bool.not_eq_true] at h
      rw [Criterion.demand, h]
      simp only [Criterion.chosen, h, Bool.false_eq_true, if_false]
      exact (reads_value c.name).convert fun v => .ok v.toList
  exact hvalues.bind [] (fun vs =>
    (reads_ofExcept (vs.mapM c.test)).convert fun tests => .ok tests.reduceOption) nofun

theorem distinct_criteria {f : Finder α} (distinct : f.supported.Nodup) :
    (f.criteria.map fun c => c.demand.name).Nodup ∧
      ∀ c ∈ f.criteria, c.name ∉ [keyName, startName, countName, limitName] := by
  rw [supported, List.nodup_append, List.nodup_cons] at distinct
  obtain ⟨⟨hkey, hnodup⟩, -, hpaging⟩ := distinct
  refine ⟨hnodup, fun c hc hmem => ?_⟩
  have hname : c.name ∈ f.criteria.map Criterion.name := List.mem_map_of_mem hc
  rw [List.mem_cons] at hmem
  rcases hmem with h | h
  · exact hkey (h ▸ hname)
  · exact hpaging _ (List.mem_cons_of_mem _ hname) _ h rfl

theorem reads_readAllTests {f : Finder α} (distinct : f.supported.Nodup) :
    Reads f.readAllTests f.testDemands f.testsFor := by
  obtain ⟨hnodup, hother⟩ := distinct_criteria distinct
  refine (reads_value keyName).bind (f.criteria.map Criterion.demand) (fun key =>
    (reads_mapM (fun c => reads_readTests c) hnodup).convert fun tests =>
      .ok ((key.map fun k item => f.key item == k).toList ++ tests.flatten)) ?_
  intro e he hmem
  obtain ⟨c, hc, rfl⟩ := List.mem_map.mp he
  exact hother c hc (List.mem_cons.mpr (.inl (List.mem_singleton.mp hmem)))

/-- What is required is a matter of whether one of the names is there. -/
theorem required_congr_iff (f : Finder α) {l l' : Locator}
    (h : (∃ name ∈ keyName :: f.requiredAny, l.isPresent name = true) ↔
      ∃ name ∈ keyName :: f.requiredAny, l'.isPresent name = true) :
    f.required l = f.required l' := by
  rw [← List.any_eq_true, ← List.any_eq_true, ← Bool.eq_iff_iff, List.any_cons,
    List.any_cons] at h
  rw [required, required, Bool.or_assoc, Bool.or_assoc, h]

theorem required_congr (f : Finder α) {l l' : Locator}
    (h : ∀ name ∈ keyName :: f.requiredAny, l.isPresent name = l'.isPresent name) :
    f.required l = f.required l' :=
  f.required_congr_iff <|
    exists_congr fun name => and_congr_right fun hname => by rw [h name hname]

theorem required_of_pairs (f : Finder α) {l l' : Locator} (h : l.pairs = l'.pairs) :
    f.required l = f.required l' := by
  refine required_congr f fun name _ => ?_
  have hpresent : ∀ l : Locator, l.isPresent name = l.pairs.any fun p => p.1 == name := by
    intro l
    rw [Locator.isPresent, Locator.pairs, List.any_map]
    rfl
  rw [hpresent, hpresent, h]

theorem run_checkRequired (f : Finder α) (l : Locator) :
    f.checkRequired.run l = (f.required l, l) := by
  rw [checkRequired, run_bind, run_whole, required]
  dsimp only
  split
  · rfl
  · rfl

theorem disjoint_demands {f : Finder α} (distinct : f.supported.Nodup) :
    ∀ d ∈ f.testDemands, d.name ∉ windowDemands.map Demand.name := by
  intro d hd
  rw [testDemands, List.mem_cons] at hd
  rcases hd with rfl | hd
  · decide
  · obtain ⟨c, hc, rfl⟩ := List.mem_map.mp hd
    intro hmem
    exact (distinct_criteria distinct).2 c hc (List.mem_cons_of_mem keyName hmem)

/-- Reading the window leaves the values of the tests alone. -/
theorem testsFor_served {f : Finder α} (distinct : f.supported.Nodup) (l : Locator) :
    f.testsFor (l.serveAll windowDemands).openValues = f.testsFor l.openValues :=
  (reads_readAllTests distinct).footprint _ _ fun d hd =>
    Locator.openValues_serveAll (disjoint_demands distinct d hd) l

/-- What is left over is refused by a strict finder only. -/
def leftover (f : Finder α) (l : Locator) : Except LocatorError Unit :=
  if f.settings.strict then (l.serveAll f.demands).finish f.supported else .ok ()

/-- The tests of a query, once a strict finder has refused what is left over. -/
def selection (f : Finder α) : Reading (List (α → Bool)) := do
  let tests ← f.readAllTests
  if f.settings.strict then Reading.finish f.supported
  return tests

/-- An evaluation as its window, the names it requires and its selection. -/
theorem answer_evaluateWith_selection (f : Finder α) (defaultCount : Option Nat)
    (ds : List Dimension) :
    (f.evaluateWith defaultCount).answer (.dimensions ds) = (do
      let w ← f.windowOf defaultCount (Locator.dimensions ds).openValues
      f.required (.dimensions ds)
      let tests ← f.selection.answer ((Locator.dimensions ds).serveAll windowDemands)
      return .ofScan w (fun item => tests.all fun test => test item) f.source) := by
  have hwindow := reads_readWindow f defaultCount
  rw [evaluateWith, answer_bind]
  -- A list of dimensions has no lone value, so the evaluation goes on with the window.
  change (f.readWindow defaultCount >>= _).answer (.dimensions ds) = _
  rw [answer_bind, hwindow.answer]
  refine bind_congr_of_ok fun w hw => ?_
  rw [hwindow.left _ w (by rw [hwindow.answer, hw]), answer_bind, Reading.answer,
    run_checkRequired, required_of_pairs f (Locator.pairs_serveAll windowDemands _)]
  refine bind_congr_of_ok fun _ _ => ?_
  rw [selection, answer_bind, answer_bind, bind_assoc]
  refine bind_congr fun tests => ?_
  split
  · rw [answer_bind, answer_bind, bind_assoc]
    rfl
  · rfl

theorem answer_selection {f : Finder α} (distinct : f.supported.Nodup) (l : Locator) :
    f.selection.answer (l.serveAll windowDemands) = (do
      let tests ← f.testsFor l.openValues
      f.leftover l
      return tests) := by
  have htests := reads_readAllTests distinct
  rw [selection, answer_bind, htests.answer, testsFor_served distinct]
  refine bind_congr_of_ok fun tests ht => ?_
  rw [htests.left _ tests (by rw [htests.answer, testsFor_served distinct, ht]),
    ← Locator.serveAll_append, leftover, demands]
  split
  · rw [answer_bind, Reading.answer, run_finish]
    rfl
  · rfl

/-- The steps of an evaluation, all read off the locator that it starts from. -/
theorem answer_evaluateWith {f : Finder α} (distinct : f.supported.Nodup)
    (defaultCount : Option Nat) (ds : List Dimension) :
    (f.evaluateWith defaultCount).answer (.dimensions ds) = (do
      let w ← f.windowOf defaultCount (Locator.dimensions ds).openValues
      f.required (.dimensions ds)
      let tests ← f.testsFor (Locator.dimensions ds).openValues
      f.leftover (.dimensions ds)
      return .ofScan w (fun item => tests.all fun test => test item) f.source) := by
  rw [answer_evaluateWith_selection, answer_selection distinct]
  simp only [bind_assoc, pure_bind]

/-- An evaluation that has an answer has taken what it demands. -/
theorem left_evaluateWith {f : Finder α} (distinct : f.supported.Nodup) {defaultCount : Option Nat}
    {ds : List Dimension} {page : Page α}
    (h : (f.evaluateWith defaultCount).answer (.dimensions ds) = .ok page) :
    ((f.evaluateWith defaultCount).run (.dimensions ds)).2 =
      (Locator.dimensions ds).serveAll f.demands := by
  have hwindow := reads_readWindow f defaultCount
  have htests := reads_readAllTests distinct
  rw [answer_evaluateWith distinct] at h
  obtain ⟨w, hw, h⟩ := bind_eq_ok_iff.mp h
  obtain ⟨⟨⟩, hrequired, h⟩ := bind_eq_ok_iff.mp h
  obtain ⟨tests, ht, h⟩ := bind_eq_ok_iff.mp h
  obtain ⟨⟨⟩, hleftover, -⟩ := bind_eq_ok_iff.mp h
  have hreadWindow : (f.readWindow defaultCount).answer (.dimensions ds) = .ok w := by
    rw [hwindow.answer, hw]
  have hchecked : f.checkRequired.answer ((Locator.dimensions ds).serveAll windowDemands) =
      .ok () := by
    rw [Reading.answer, run_checkRequired,
      required_of_pairs f (Locator.pairs_serveAll windowDemands _), hrequired]
  have hreadTests : f.readAllTests.answer ((Locator.dimensions ds).serveAll windowDemands) =
      .ok tests := by
    rw [htests.answer, testsFor_served distinct, ht]
  change ((f.readWindow defaultCount >>= _).run (.dimensions ds)).2 = _
  rw [left_bind hreadWindow, hwindow.left _ w hreadWindow, left_bind hchecked, run_checkRequired,
    left_bind hreadTests, htests.left _ tests hreadTests, ← Locator.serveAll_append]
  change _ = (Locator.dimensions ds).serveAll (windowDemands ++ f.testDemands)
  split
  · next strict =>
    rw [leftover, if_pos strict] at hleftover
    have hfinish : (Reading.finish f.supported).answer
        ((Locator.dimensions ds).serveAll (windowDemands ++ f.testDemands)) = .ok () := by
      rw [Reading.answer, run_finish]
      exact hleftover
    rw [left_bind hfinish, run_finish]
    rfl
  · rfl

end Finder

end LocatorQuery
