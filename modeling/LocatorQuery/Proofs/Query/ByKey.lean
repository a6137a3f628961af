import LocatorQuery.Catalog.Builds
import LocatorQuery.Proofs.Locator.Distinct
import LocatorQuery.Proofs.Locator.Remaining
import LocatorQuery.Proofs.Query.Evaluation

/-! Finding by key. A bare key goes past the window, what is required and the scan, while the same key
under its own name goes through all of them. With distinct keys both find the same item, as long as the
scan gets as far as the item. -/
namespace LocatorQuery
open Outcome Reading

variable {α : Type}

theorem Window.reach_sublist (w : Window) (source : List α) : (w.reach source).Sublist source := by
  rw [reach]
  cases w.lookupLimit with
  | none => exact .refl source
  | some limit => exact List.take_sublist limit source

/-- A window that starts at once and has room for an item keeps one. -/
theorem Window.cut_toList {w : Window} (start : w.start = 0) (room : ∀ n, w.count = some n → 1 ≤ n)
    (found : Option α) : w.cut found.toList = found.toList := by
  rw [cut, start, List.drop_zero]
  cases h : w.count with
  | none => rfl
  | some n => exact List.take_of_length_le (Nat.le_trans Option.length_toList_le (room n h))

/-- A scan for a key finds the item with that key just when it gets as far as the item. -/
theorem Page.entries_ofScan_key {key : α → String} {source : List α}
    (distinct : (source.map key).Nodup) {w : Window} (start : w.start = 0)
    (room : ∀ n, w.count = some n → 1 ≤ n) (k : String) :
    (ofScan w (fun item => key item == k) source).entries =
        (source.find? fun item => key item == k).toList ↔
      ∀ item ∈ source, key item = k → item ∈ w.reach source := by
  have hreach : ((w.reach source).map key).Nodup :=
    distinct.sublist ((w.reach_sublist source).map key)
  have hentries : (ofScan w (fun item => key item == k) source).entries =
      ((w.reach source).find? fun item => key item == k).toList := by
    rw [ofScan_eq, filter_key_eq hreach]
    exact Window.cut_toList start room _
  rw [hentries]
  constructor
  · intro h item hitem hk
    have hfound := (find?_key_eq_some_iff distinct).mpr ⟨hitem, hk⟩
    rw [← Option.mem_toList, ← h, Option.mem_toList] at hfound
    exact List.mem_of_find?_eq_some hfound
  · intro h
    congr 1
    ext item
    rw [find?_key_eq_some_iff hreach, find?_key_eq_some_iff distinct]
    exact and_congr_left fun hk => ⟨(w.reach_sublist source).mem, fun hitem => h item hitem hk⟩

namespace Finder

def keyed (k : String) : Locator := .dimensions [{ name := keyName, value := k }]

/-- Once nothing is open, the criteria find nothing to test. -/
theorem run_mapM_readTests {l : Locator} (closed : ∀ name, l.openValues name = [])
    (cs : List (Criterion α)) : (cs.mapM readTests).run l = (.ok (cs.map fun _ => []), l) := by
  have hrun : ∀ c : Criterion α, (readTests c).run l = (.ok [], l) := by
    intro c
    have htests : (readTests c).answer l = .ok [] := by
      rw [(reads_readTests c).answer, closed, Criterion.testsOf, Criterion.chosen]
      split
      · rfl
      · rfl
    have hleft := (reads_readTests c).left l [] htests
    rw [Locator.serveAll_of_openValues_nil closed] at hleft
    exact Prod.ext htests hleft
  induction cs with
  | nil => rfl
  | cons c cs ih =>
    rw [List.mapM_cons, run_bind, hrun]
    dsimp only
    rw [run_bind, ih]
    rfl

/-- A key alone is tested for, whatever the names of the criteria, and nothing is left over. -/
theorem answer_selection_keyed (f : Finder α) (k : String) :
    f.selection.answer (keyed k) = .ok [fun item => f.key item == k] := by
  -- The key is taken first. Then nothing is open any more, not even for a criterion of the same name.
  let taken := Locator.dimensions [{ name := keyName, value := k, taken := true }]
  have closed : ∀ name, taken.openValues name = [] := fun _ => rfl
  have hkey : (Reading.value keyName).run (keyed k) = (.ok (some k), taken) := by rfl
  have htests : f.readAllTests.run (keyed k) = (.ok [fun item => f.key item == k], taken) := by
    rw [readAllTests, run_bind, hkey]
    dsimp only
    rw [run_bind, run_mapM_readTests closed]
    dsimp only
    rw [List.flatten_eq_nil_iff.mpr (by simp)]
    rfl
  rw [selection, Reading.answer, run_bind, htests]
  dsimp only
  split
  · rw [run_bind, run_finish]
    rfl
  · rfl

theorem answer_keyed (f : Finder α) (defaultCount : Option Nat) (k : String) :
    (f.evaluateWith defaultCount).answer (keyed k) =
      .ok (.ofScan { count := defaultCount, lookupLimit := f.settings.lookupLimit }
        (fun item => f.key item == k) f.source) := by
  have hwindow : f.windowOf defaultCount (keyed k).openValues =
      .ok { count := defaultCount, lookupLimit := f.settings.lookupLimit } := by rfl
  have hrequired : f.required (keyed k) = .ok () := by
    rw [required, if_pos]
    simp [keyed, Locator.isPresent, Locator.items]
  rw [keyed, answer_evaluateWith_selection, ← keyed, hwindow, hrequired]
  have hserved : (keyed k).serveAll windowDemands = keyed k := by rfl
  have hpasses : (fun item => [fun item => f.key item == k].all fun test => test item) =
      fun item => f.key item == k := by
    funext item
    rw [List.all_cons, List.all_nil, Bool.and_true]
  rw [hserved, answer_selection_keyed]
  exact congrArg (fun passes => Except.ok (Page.ofScan _ passes f.source)) hpasses

/-- With distinct keys and room on a page, a bare key and the same key under its own name are both
answered. They find the same just when no item with the key lies behind the lookup limit. -/
theorem byKey_agrees_iff {f : Finder α} (distinct : (f.source.map f.key).Nodup)
    (room : ∀ n, f.settings.pageSize = some n → 1 ≤ n) (k : String) :
    ∃ found scanned, f.evaluate.answer (.ofValue k) = .ok found ∧
      f.evaluate.answer (keyed k) = .ok scanned ∧
      (scanned.entries = found.entries ↔
        ∀ limit, f.settings.lookupLimit = some limit →
          ∀ item ∈ f.source, f.key item = k → item ∈ f.source.take limit) := by
  refine ⟨.ofItems (f.byKey? k).toList, _, rfl, answer_keyed f f.settings.pageSize k, ?_⟩
  refine (Page.entries_ofScan_key distinct rfl room k).trans ?_
  rw [Window.reach]
  cases f.settings.lookupLimit with
  | none =>
    constructor
    · intro _ limit hlimit
      cases hlimit
    · intro _ item hitem _
      exact hitem
  | some limit => simp

theorem byKey_agrees_of_builds :
    let build : UInt64 → Build := fun id => { id, buildType := "Core", number := "1", status := .success }
    let f := Finder.ofBuilds [build 1, build 2, build 3] { pageSize := some 1, lookupLimit := some 2 }
    (f.source.map f.key).Nodup ∧ (∀ n, f.settings.pageSize = some n → 1 ≤ n) ∧
      ∃ found scanned, f.evaluate.answer (.ofValue "2") = .ok found ∧
        f.evaluate.answer (keyed "2") = .ok scanned ∧
        (scanned.entries = found.entries ↔
          ∀ limit, f.settings.lookupLimit = some limit →
            ∀ item ∈ f.source, f.key item = "2" → item ∈ f.source.take limit) := by
  intro build f
  have distinct : (f.source.map f.key).Nodup := by decide
  have room : ∀ n, f.settings.pageSize = some n → 1 ≤ n := by
    rintro n ⟨⟩
    exact Nat.le_refl 1
  exact ⟨distinct, room, byKey_agrees_iff distinct room "2"⟩

/-- A bare key finds its build, the scan for the same key stops ahead of it. -/
theorem byKey_found_behind_limit :
    let build : UInt64 → Build := fun id => { id, buildType := "Core", number := "1", status := .success }
    let f := Finder.ofBuilds [build 1, build 2, build 3] { lookupLimit := some 2 }
    (f.source.map f.key).Nodup ∧ f.settings.pageSize = some 100 ∧
      f.evaluate.answer (.ofValue "3") = .ok
        { entries := [build 3], start := 0, count := none, examined := 1, matched := 1,
          nextStart := none, lookupLimit := none, lookupLimitReached := false } ∧
      f.evaluate.answer (keyed "3") = .ok
        { entries := [], start := 0, count := some 100, examined := 2, matched := 0,
          nextStart := none, lookupLimit := some 2, lookupLimitReached := true } := by
  intro build f
  have distinct : (f.source.map f.key).Nodup := by decide
  exact ⟨distinct, rfl, by decide +kernel, by decide +kernel⟩

end Finder

end LocatorQuery
