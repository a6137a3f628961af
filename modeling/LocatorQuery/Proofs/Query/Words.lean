import LocatorQuery.Proofs.Query.Continuation

/-! Counting in words of 64 bits. Over a source that a word can count, no count and no sum of an evaluation
leaves the range of a word, however near the start is to its end, so words count as numbers do. -/
namespace LocatorQuery
open Outcome Reading

variable {α : Type}

/-- A scan with words for its counts, which start again at zero behind the largest one. -/
structure WordScan (α : Type) where
  kept : List α := []
  keptCount : UInt64 := 0
  examined : UInt64 := 0
  matched : UInt64 := 0

namespace WordScan

def step (w : Window) (passes : α → Bool) (s : WordScan α) (item : α) : WordScan α :=
  let s := { s with examined := s.examined + 1 }
  if passes item then
    let s := { s with matched := s.matched + 1 }
    if w.accepts s.matched.toNat s.keptCount.toNat then
      { s with kept := item :: s.kept, keptCount := s.keptCount + 1 }
    else s
  else s

def run (w : Window) (passes : α → Bool) (source : List α) : WordScan α :=
  (w.reach source).foldl (step w passes) {}

/-- The scan with the numbers that the words stand for. -/
def toScan (s : WordScan α) : Scan α where
  kept := s.kept
  keptCount := s.keptCount.toNat
  examined := s.examined.toNat
  matched := s.matched.toNat

end WordScan

/-- The page of a window over counts in words. The sum that it continues at is one of words. -/
def Page.ofWords (entries : List α) (w : Window) (keptCount examined matched : UInt64) : Page α :=
  let next := .ofNat w.start + keptCount
  { entries
    start := w.start
    count := w.count
    examined := examined.toNat
    matched := matched.toNat
    nextStart := if next < matched then some next.toNat else none
    lookupLimit := w.lookupLimit
    lookupLimitReached := w.lookupLimit.any fun limit => decide (limit ≤ examined.toNat) }

def Page.ofWordScan (w : Window) (passes : α → Bool) (source : List α) : Page α :=
  let s := WordScan.run w passes source
  Page.ofWords s.kept.reverse w s.keptCount s.examined s.matched

/-- An evaluation that does all its counting in words. -/
def Finder.evaluateInWords (f : Finder α) (defaultCount : Option Nat) : Reading (Page α) := do
  match ← Reading.lone with
  | some key =>
    let items := (f.byKey? key).toList
    let count := .ofNat items.length
    return .ofWords items {} count count count
  | none =>
    let window ← f.readWindow defaultCount
    f.checkRequired
    let tests ← f.readAllTests
    if f.settings.strict then Reading.finish f.supported
    return .ofWordScan window (fun item => tests.all fun test => test item) f.source

theorem Scan.Covers.counts_le {w : Window} {passes : α → Bool} {seen : List α} {s : Scan α}
    (h : Covers w passes seen s) :
    s.examined = seen.length ∧ s.matched ≤ seen.length ∧ s.keptCount ≤ s.matched := by
  refine ⟨h.examined, ?_, ?_⟩
  · rw [h.matched]
    exact List.length_filter_le passes seen
  · rw [h.keptCount, ← List.length_reverse, h.kept, h.matched, Window.length_cut]
    split
    · omega
    · omega

theorem toNat_add_one {n : UInt64} (h : n.toNat + 1 < Text.unsignedBound) :
    (n + 1).toNat = n.toNat + 1 := by
  rw [UInt64.toNat_add]
  exact Nat.mod_eq_of_lt h

namespace WordScan

variable {w : Window} {passes : α → Bool} {seen : List α}

/-- As long as a word can count the items, one more of them is counted as by numbers. -/
theorem toScan_step {s : WordScan α} (h : Scan.Covers w passes seen s.toScan)
    (room : seen.length + 1 < Text.unsignedBound) (item : α) :
    (s.step w passes item).toScan = s.toScan.step w passes item := by
  obtain ⟨hexamined, hmatched, hkept⟩ := h.counts_le
  dsimp only [toScan] at hexamined hmatched hkept
  have hexamined' : (s.examined + 1).toNat = s.examined.toNat + 1 := toNat_add_one (by omega)
  have hmatched' : (s.matched + 1).toNat = s.matched.toNat + 1 := toNat_add_one (by omega)
  have hkept' : (s.keptCount + 1).toNat = s.keptCount.toNat + 1 := toNat_add_one (by omega)
  rw [step, Scan.step]
  split
  · dsimp only [toScan]
    rw [hmatched']
    split
    · simp only [hexamined', hmatched', hkept']
    · simp only [hexamined', hmatched']
  · simp only [toScan, hexamined']

theorem toScan_foldl {s : WordScan α} (h : Scan.Covers w passes seen s.toScan) {items : List α}
    (room : seen.length + items.length < Text.unsignedBound) :
    (items.foldl (step w passes) s).toScan = items.foldl (Scan.step w passes) s.toScan := by
  induction items generalizing seen s with
  | nil => rfl
  | cons item items ih =>
    rw [List.length_cons] at room
    have hstep := toScan_step h (by omega) item
    have hcovers := h.step item
    rw [← hstep] at hcovers
    rw [List.foldl_cons, List.foldl_cons, ← hstep]
    refine ih hcovers ?_
    rw [List.length_append, List.length_singleton]
    omega

theorem toScan_run {source : List α} (small : source.length < Text.unsignedBound) :
    (run w passes source).toScan = Scan.run w passes source := by
  refine toScan_foldl (Scan.covers_nil w passes) ?_
  rw [List.length_nil, Nat.zero_add]
  exact Nat.lt_of_le_of_lt (w.length_reach_le source) small

end WordScan

namespace Page

/-- Entries that lie behind the start lie within the matches, and without any the sum is the start. -/
theorem start_add_length_lt {w : Window} {source : List α} (hstart : w.start < Text.unsignedBound)
    (small : source.length < Text.unsignedBound) (passes : α → Bool) :
    w.start + (w.cut ((w.reach source).filter passes)).length < Text.unsignedBound := by
  have hfound := w.length_filter_reach_le passes source
  rw [Window.length_cut]
  split
  · omega
  · omega

theorem ofWords_eq {w : Window} {entries : List α} {keptCount examined matched : UInt64}
    (hkept : keptCount.toNat = entries.length)
    (room : w.start + entries.length < Text.unsignedBound) :
    ofWords entries w keptCount examined matched =
      ofCounts entries w examined.toNat matched.toNat := by
  have hstart : (UInt64.ofNat w.start).toNat = w.start := by
    rw [UInt64.toNat_ofNat']
    exact Nat.mod_eq_of_lt (by unfold Text.unsignedBound at room; omega)
  have hnext : (UInt64.ofNat w.start + keptCount).toNat = w.start + entries.length := by
    rw [UInt64.toNat_add, hstart, hkept]
    exact Nat.mod_eq_of_lt room
  rw [ofWords, ofCounts]
  simp only [UInt64.lt_iff_toNat_lt, hnext]

/-- A page is the same whether its source is gone through in words or in numbers. -/
theorem ofWordScan_eq {w : Window} {source : List α} (hstart : w.start < Text.unsignedBound)
    (small : source.length < Text.unsignedBound) (passes : α → Bool) :
    ofWordScan w passes source = ofScan w passes source := by
  have hscan := @WordScan.toScan_run _ w passes source small
  have hcovers := Scan.covers_run w passes source
  rw [← hscan] at hcovers
  have hroom := start_add_length_lt hstart small passes
  rw [← hcovers.kept] at hroom
  have hkept := hcovers.keptCount
  rw [← List.length_reverse] at hkept
  rw [ofWordScan, ofScan, ← hscan]
  exact ofWords_eq hkept hroom

/-- The numbers of a page, the sum behind its entries among them, are ones of 64 bits, and where it
continues and whether it came to its limit is right for them as numbers. -/
structure InWords (p : Page α) : Prop where
  sum : p.start + p.entries.length < Text.unsignedBound
  examined : p.examined < Text.unsignedBound
  matched : p.matched < Text.unsignedBound
  nextStart : ∀ n, p.nextStart = some n ↔ n = p.start + p.entries.length ∧ n < p.matched
  lookupLimitReached :
    p.lookupLimitReached = true ↔ ∃ limit, p.lookupLimit = some limit ∧ limit ≤ p.examined

theorem inWords_ofCounts {entries : List α} {w : Window} {examined matched : Nat}
    (sum : w.start + entries.length < Text.unsignedBound) (hexamined : examined < Text.unsignedBound)
    (hmatched : matched < Text.unsignedBound) : (ofCounts entries w examined matched).InWords := by
  refine ⟨sum, hexamined, hmatched, fun n => ?_, ?_⟩
  · dsimp only [ofCounts]
    rw [Option.ite_none_right_eq_some, Option.some.injEq]
    constructor
    · rintro ⟨hmore, rfl⟩
      exact ⟨rfl, hmore⟩
    · rintro ⟨rfl, hmore⟩
      exact ⟨hmore, rfl⟩
  · dsimp only [ofCounts]
    simp only [Option.any_eq_true, decide_eq_true_eq]

theorem inWords_ofScan {w : Window} {source : List α} (hstart : w.start < Text.unsignedBound)
    (small : source.length < Text.unsignedBound) (passes : α → Bool) :
    (ofScan w passes source).InWords := by
  rw [ofScan_eq]
  refine inWords_ofCounts (start_add_length_lt hstart small passes) ?_ ?_
  · exact Nat.lt_of_le_of_lt (w.length_reach_le source) small
  · exact Nat.lt_of_le_of_lt (w.length_filter_reach_le passes source) small

end Page

namespace Finder

variable {f : Finder α} {defaultCount : Option Nat}

theorem start_lt_of_windowOf {o : String → List String} {w : Window}
    (h : f.windowOf defaultCount o = .ok w) : w.start < Text.unsignedBound := by
  obtain ⟨start, hstart, h⟩ := bind_eq_ok_iff.mp h
  obtain ⟨count, -, h⟩ := bind_eq_ok_iff.mp h
  obtain ⟨limit, -, h⟩ := bind_eq_ok_iff.mp h
  cases h
  rcases natural_of_first hstart with ⟨-, rfl⟩ | ⟨raw, n, -, hn, rfl⟩
  · exact (by decide : 0 < Text.unsignedBound)
  · exact Text.natural?_lt hn

theorem inWords_of_answer (small : f.source.length < Text.unsignedBound) {l : Locator} {page : Page α}
    (h : (f.evaluateWith defaultCount).answer l = .ok page) : page.InWords := by
  cases l with
  | single key taken =>
    cases h
    -- The key finds one item at most, on a page that starts at zero.
    have hlength : (f.byKey? key).toList.length < Text.unsignedBound :=
      Nat.lt_of_le_of_lt Option.length_toList_le (by decide)
    exact Page.inWords_ofCounts (by rwa [Nat.zero_add]) hlength hlength
  | dimensions ds =>
    obtain ⟨w, passes, hw, rfl⟩ := exists_window_of_answer h
    exact Page.inWords_ofScan (start_lt_of_windowOf hw) small passes

/-- Words suffice for an evaluation, whatever it answers and whatever it leaves. -/
theorem run_evaluateInWords (small : f.source.length < Text.unsignedBound) (l : Locator) :
    (f.evaluateInWords defaultCount).run l = (f.evaluateWith defaultCount).run l := by
  rw [evaluateInWords, evaluateWith, run_bind, run_bind]
  cases l with
  | single key taken =>
    change (Except.ok (Page.ofWords _ _ _ _ _), _) = (Except.ok (Page.ofItems _), _)
    rw [Page.ofItems]
    cases f.byKey? key with
    | none => rfl
    | some item => rfl
  | dimensions ds =>
    -- A list of dimensions has no lone value, so the evaluation goes on with the window.
    change (f.readWindow defaultCount >>= _).run (.dimensions ds) =
      (f.readWindow defaultCount >>= _).run (.dimensions ds)
    rw [run_bind, run_bind]
    cases hwindow : (f.readWindow defaultCount).run (.dimensions ds) with
    | mk answer left =>
      cases answer with
      | error e => rfl
      | ok w =>
        have hanswer : (f.readWindow defaultCount).answer (.dimensions ds) = .ok w := by
          rw [Reading.answer, hwindow]
        rw [(reads_readWindow f defaultCount).answer] at hanswer
        have hpage := @Page.ofWordScan_eq _ w f.source (start_lt_of_windowOf hanswer) small
        simp only [hpage]

/-- Over a source of fewer than 2⁶⁴ items, an evaluation whose counts wrap around at 2⁶⁴ does what one
does whose counts never do, and every page it answers is exact, wherever it starts. -/
theorem evaluateWith_inWords (small : f.source.length < Text.unsignedBound) (l : Locator) :
    (f.evaluateInWords defaultCount).run l = (f.evaluateWith defaultCount).run l ∧
      ∀ page, (f.evaluateWith defaultCount).answer l = .ok page → page.InWords :=
  ⟨run_evaluateInWords small l, fun _ => inWords_of_answer small⟩

/-- The last start there is, over one build. Added up in words with one more it would be zero. -/
theorem evaluateWith_inWords_of_last_start :
    let build : Build := { id := 1, buildType := "Core", number := "1", status := .success }
    let f := Finder.ofBuilds [build] {}
    let l := Locator.ofList [("start", "18446744073709551615"), ("count", "18446744073709551615")]
    let page : Page Build :=
      { entries := [], start := 18446744073709551615, count := some 18446744073709551615,
        examined := 1, matched := 1, nextStart := none, lookupLimit := none,
        lookupLimitReached := false }
    f.source.length < Text.unsignedBound ∧
      (f.evaluateWith f.settings.pageSize).answer l = .ok page ∧ page.InWords ∧
      (f.evaluateInWords f.settings.pageSize).run l = (f.evaluateWith f.settings.pageSize).run l := by
  intro build f l page
  have small : f.source.length < Text.unsignedBound := by decide
  have h : (f.evaluateWith f.settings.pageSize).answer l = .ok page := by rfl
  obtain ⟨hrun, hpages⟩ := @evaluateWith_inWords _ f f.settings.pageSize small l
  exact ⟨small, h, hpages page h, hrun⟩

end Finder

end LocatorQuery
