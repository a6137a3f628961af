import Mathlib.Data.List.ReduceOption
import LocatorQuery.Catalog.Builds
import LocatorQuery.Proofs.Query.Evaluation

/-! A reference for evaluation that reads off a locator what it asks for: the window, the items that
pass, and the page of them. -/
namespace LocatorQuery
open Outcome Reading

variable {α : Type}

/-- Whether an item passes the tests built from the values of one criterion. A value without a test
imposes nothing. -/
def Criterion.admits (c : Criterion α) (values : List String) (item : α) : Bool :=
  (c.chosen values).all fun raw =>
    match c.test raw with
    | .ok (some test) => test item
    | .ok none => true
    | .error _ => false

namespace Finder

def askedStart (l : Locator) : Option Nat :=
  match (l.valuesOf startName).head? with
  | none => some 0
  | some raw => Text.natural? raw.toList

def askedCount (defaultCount : Option Nat) (l : Locator) : Option (Option Nat) :=
  match (l.valuesOf countName).head? with
  | none => some defaultCount
  | some raw => if raw = "-1" then some none else (Text.natural? raw.toList).map some

def askedLimit (f : Finder α) (l : Locator) : Option (Option Nat) :=
  match (l.valuesOf limitName).head? with
  | none => some f.settings.lookupLimit
  | some raw => (Text.natural? raw.toList).map fun n => if n = 0 then none else some n

def passes (f : Finder α) (l : Locator) (item : α) : Bool :=
  ((l.valuesOf keyName).head?.all fun key => f.key item == key) &&
    f.criteria.all fun c => c.admits (l.valuesOf c.name) item

/-- The page that a locator asks for, unless its window cannot be read. -/
def reference (f : Finder α) (defaultCount : Option Nat) (l : Locator) : Option (Page α) := do
  let start ← askedStart l
  let count ← askedCount defaultCount l
  let lookupLimit ← f.askedLimit l
  let seen := match lookupLimit with
    | some limit => f.source.take limit
    | none => f.source
  let examined := match lookupLimit with
    | some limit => min limit f.source.length
    | none => f.source.length
  let found := seen.filter (f.passes l)
  let entries := match count with
    | some count => (found.drop start).take count
    | none => found.drop start
  return {
    entries, start, count, examined
    matched := found.length
    nextStart :=
      if start + entries.length < found.length then some (start + entries.length) else none
    lookupLimit
    lookupLimitReached := lookupLimit.any fun limit => decide (limit ≤ examined) }

theorem askedStart_of_ok {l : Locator} {n : Option Nat}
    (h : ofFirst (naturalOf startName) (l.valuesOf startName) = .ok n) :
    askedStart l = some (n.getD 0) := by
  rw [askedStart]
  rcases natural_of_first h with ⟨hv, rfl⟩ | ⟨raw, m, hv, hm, rfl⟩
  · rw [hv]
    rfl
  · rw [hv]
    exact hm

theorem askedCount_of_ok {l : Locator} {defaultCount count : Option Nat}
    (h : countOf defaultCount (l.valuesOf countName) = .ok count) :
    askedCount defaultCount l = some count := by
  rw [askedCount]
  cases hv : l.valuesOf countName with
  | nil =>
    rw [hv] at h
    cases h
    rfl
  | cons raw rest =>
    rw [hv, countOf] at h
    rw [List.head?_cons]
    dsimp only
    split at h
    · next hraw =>
      cases h
      rw [if_pos hraw]
    · next hraw =>
      rw [if_neg hraw]
      split at h
      · next m hm =>
        cases h
        rw [hm]
        rfl
      · cases h

theorem askedLimit_of_ok {f : Finder α} {l : Locator} {limit : Option Nat}
    (h : limitOf f.settings.lookupLimit (l.valuesOf limitName) = .ok limit) :
    f.askedLimit l = some limit := by
  rw [limitOf, map_eq_ok_iff] at h
  obtain ⟨n, hn, rfl⟩ := h
  rw [askedLimit]
  rcases natural_of_first hn with ⟨hv, rfl⟩ | ⟨raw, m, hv, hm, rfl⟩
  · rw [hv]
  · rw [hv]
    dsimp only
    rw [hm]
    cases m with
    | zero => rfl
    | succ m => rfl

/-- The tests that were built accept what their values admit. -/
theorem all_of_testsOf {c : Criterion α} {values : List String} {tests : List (α → Bool)}
    (h : c.testsOf values = .ok tests) (item : α) :
    (tests.all fun test => test item) = c.admits values item := by
  rw [Criterion.testsOf, map_eq_ok_iff] at h
  obtain ⟨built, hbuilt, rfl⟩ := h
  rw [mapM_eq_ok_iff] at hbuilt
  rw [Criterion.admits]
  generalize c.chosen values = raws at hbuilt ⊢
  induction hbuilt with
  | nil => rfl
  | @cons raw test _ _ hraw _ ih =>
    rw [List.all_cons, hraw, ← ih]
    cases test with
    | none => rw [List.reduceOption_cons_of_none, Bool.true_and]
    | some test => rw [List.reduceOption_cons_of_some, List.all_cons]

theorem all_of_mapM_testsOf {o : String → List String} {cs : List (Criterion α)}
    {tests : List (List (α → Bool))} (h : cs.mapM (fun c => c.testsOf (o c.name)) = .ok tests)
    (item : α) :
    (tests.flatten.all fun test => test item) = cs.all fun c => c.admits (o c.name) item := by
  rw [mapM_eq_ok_iff] at h
  induction h with
  | nil => rfl
  | cons hc _ ih => rw [List.flatten_cons, List.all_append, all_of_testsOf hc item, ih, List.all_cons]

theorem all_of_testsFor {f : Finder α} {l : Locator} {tests : List (α → Bool)}
    (h : f.testsFor l.valuesOf = .ok tests) (item : α) :
    (tests.all fun test => test item) = f.passes l item := by
  obtain ⟨built, hbuilt, h⟩ := bind_eq_ok_iff.mp h
  cases h
  rw [List.all_append, all_of_mapM_testsOf hbuilt item, passes]
  cases (l.valuesOf keyName).head? with
  | none => rfl
  | some key => simp

/-- The tests that an answered query needed could all be built. -/
theorem exists_of_testsFor {f : Finder α} {o : String → List String} {tests : List (α → Bool)}
    (h : f.testsFor o = .ok tests) :
    ∀ c ∈ f.criteria, ∀ raw ∈ c.chosen (o c.name), ∃ test, c.test raw = .ok test := by
  obtain ⟨built, hbuilt, -⟩ := bind_eq_ok_iff.mp h
  intro c hc raw hraw
  obtain ⟨ctests, hctests⟩ := exists_of_mapM_eq_ok hbuilt hc
  rw [Criterion.testsOf, map_eq_ok_iff] at hctests
  obtain ⟨_, hctests, -⟩ := hctests
  exact exists_of_mapM_eq_ok hctests hraw

theorem reference_eq {f : Finder α} {defaultCount : Option Nat} {l : Locator} {w : Window}
    (h : f.windowOf defaultCount l.valuesOf = .ok w) :
    f.reference defaultCount l = some (.ofScan w (f.passes l) f.source) := by
  obtain ⟨start, hstart, h⟩ := bind_eq_ok_iff.mp h
  obtain ⟨count, hcount, h⟩ := bind_eq_ok_iff.mp h
  obtain ⟨limit, hlimit, h⟩ := bind_eq_ok_iff.mp h
  cases h
  rw [reference, askedStart_of_ok hstart, askedCount_of_ok hcount, askedLimit_of_ok hlimit,
    Page.ofScan_eq, Window.length_reach]
  rfl

/-- An answer is the page of the reference, and every test that it needed could be built. -/
theorem evaluateWith_eq_reference {f : Finder α} (distinct : f.supported.Nodup)
    (defaultCount : Option Nat) {ds : List Dimension} (untaken : (Locator.dimensions ds).Untaken)
    {page : Page α} (h : (f.evaluateWith defaultCount).answer (.dimensions ds) = .ok page) :
    f.reference defaultCount (.dimensions ds) = some page ∧
      ∀ c ∈ f.criteria, ∀ raw ∈ c.chosen ((Locator.dimensions ds).valuesOf c.name),
        ∃ test, c.test raw = .ok test := by
  rw [answer_evaluateWith distinct, Locator.openValues_of_untaken untaken] at h
  obtain ⟨w, hw, h⟩ := bind_eq_ok_iff.mp h
  obtain ⟨_, _, h⟩ := bind_eq_ok_iff.mp h
  obtain ⟨tests, htests, h⟩ := bind_eq_ok_iff.mp h
  obtain ⟨_, _, h⟩ := bind_eq_ok_iff.mp h
  cases h
  refine ⟨?_, exists_of_testsFor htests⟩
  have hpasses : (fun item => tests.all fun test => test item) = f.passes (.dimensions ds) :=
    funext (all_of_testsFor htests)
  rw [reference_eq hw, hpasses]

theorem evaluateWith_eq_reference_of_builds :
    let first : Build := ⟨1, "main", "17", none, .success, true, ["a", "b"]⟩
    let second : Build := ⟨2, "main", "18", none, .failure, false, ["b", "c", "a"]⟩
    let third : Build := ⟨3, "main", "19", none, .success, true, ["a"]⟩
    let f := Finder.ofBuilds [first, third, second, first, second] {}
    let ds : List Dimension := [{ name := "tag", value := "a" },
      { name := "branch", value := "default" }, { name := "count", value := "1" },
      { name := "start", value := "1" }, { name := "tag", value := "b" },
      { name := "lookupLimit", value := "4" }]
    let page : Page Build :=
      { entries := [second], start := 1, count := some 1, examined := 4, matched := 3,
        nextStart := some 2, lookupLimit := some 4, lookupLimitReached := true }
    f.supported.Nodup ∧ (Locator.dimensions ds).Untaken ∧
      (f.evaluateWith none).answer (.dimensions ds) = .ok page ∧
      f.reference none (.dimensions ds) = some page ∧
      ∀ c ∈ f.criteria, ∀ raw ∈ c.chosen ((Locator.dimensions ds).valuesOf c.name),
        ∃ test, c.test raw = .ok test := by
  intro first second third f ds page
  have distinct : f.supported.Nodup := by decide
  have untaken : (Locator.dimensions ds).Untaken := by decide
  have h : (f.evaluateWith none).answer (.dimensions ds) = .ok page := by rfl
  exact ⟨distinct, untaken, h, evaluateWith_eq_reference distinct none untaken h⟩

end Finder

end LocatorQuery
