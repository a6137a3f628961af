import LocatorQuery.Query.Page

/-! One scan realises a page: the items up to the lookup limit, those of them that pass, and the slice
of these that the window asks for. -/
namespace LocatorQuery

variable {α : Type}

/-- The part of a source that a window looks at. -/
def Window.reach (w : Window) (source : List α) : List α :=
  match w.lookupLimit with
  | some limit => source.take limit
  | none => source

/-- The matches that a window keeps. -/
def Window.cut (w : Window) (found : List α) : List α :=
  match w.count with
  | some count => (found.drop w.start).take count
  | none => found.drop w.start

theorem Window.length_reach (w : Window) (source : List α) :
    (w.reach source).length =
      match w.lookupLimit with
      | some limit => min limit source.length
      | none => source.length := by
  rw [reach]
  cases w.lookupLimit with
  | none => rfl
  | some limit => exact List.length_take

theorem Window.length_reach_le (w : Window) (source : List α) :
    (w.reach source).length ≤ source.length := by
  rw [length_reach]
  split
  · exact Nat.min_le_right _ _
  · exact Nat.le_refl _

theorem Window.length_filter_reach_le (w : Window) (passes : α → Bool) (source : List α) :
    ((w.reach source).filter passes).length ≤ source.length :=
  Nat.le_trans (List.length_filter_le ..) (w.length_reach_le source)

theorem Window.cut_nil (w : Window) : w.cut ([] : List α) = [] := by
  rw [cut]
  cases w.count with
  | none => exact List.drop_nil
  | some count => simp only [List.drop_nil, List.take_nil]

/-- The test for keeping one more match is right when the matches before it were cut rightly. -/
theorem Window.cut_concat (w : Window) (found : List α) (item : α) :
    w.cut (found ++ [item]) =
      if w.accepts (found.length + 1) (w.cut found).length then w.cut found ++ [item]
      else w.cut found := by
  -- Behind the start the count decides; before it both cuts are empty.
  by_cases hs : w.start ≤ found.length
  · have hstart : decide (w.start < found.length + 1) = true := by
      rw [decide_eq_true_eq]
      omega
    rw [accepts, hstart, Bool.true_and, cut, cut, List.drop_append_of_le_length hs]
    cases w.count with
    | none => rfl
    | some count =>
      dsimp only
      rw [List.take_append, Option.all_some, List.length_take]
      by_cases hc : (found.drop w.start).length < count
      · have hmin : min count (found.drop w.start).length < count := by omega
        rw [decide_eq_true hmin, if_pos rfl,
          List.take_of_length_le (l := [item]) (by rw [List.length_singleton]; omega)]
      · have hmin : ¬ min count (found.drop w.start).length < count := by omega
        rw [decide_eq_false hmin, if_neg Bool.false_ne_true, Nat.sub_eq_zero_of_le (by omega),
          List.take_zero, List.append_nil]
  · have hstart : decide (w.start < found.length + 1) = false := by
      rw [decide_eq_false_iff_not]
      omega
    have hnil : found.drop w.start = [] := List.drop_of_length_le (by omega)
    have hnil' : (found ++ [item]).drop w.start = [] :=
      List.drop_of_length_le (by rw [List.length_append, List.length_singleton]; omega)
    rw [accepts, hstart, Bool.false_and, if_neg Bool.false_ne_true, cut, cut, hnil, hnil']

namespace Scan

/-- A scan agrees with the items it has gone through. -/
structure Covers (w : Window) (passes : α → Bool) (seen : List α) (s : Scan α) : Prop where
  examined : s.examined = seen.length
  matched : s.matched = (seen.filter passes).length
  kept : s.kept.reverse = w.cut (seen.filter passes)
  keptCount : s.keptCount = s.kept.length

theorem covers_nil (w : Window) (passes : α → Bool) : Covers w passes [] {} :=
  ⟨rfl, rfl, w.cut_nil.symm, rfl⟩

theorem Covers.step {w : Window} {passes : α → Bool} {seen : List α} {s : Scan α}
    (h : Covers w passes seen s) (item : α) :
    Covers w passes (seen ++ [item]) (s.step w passes item) := by
  have hkept : s.keptCount = (w.cut (seen.filter passes)).length := by
    rw [h.keptCount, ← h.kept, List.length_reverse]
  have hlen : (seen ++ [item]).length = seen.length + 1 := List.length_append
  dsimp only [Scan.step]
  split
  · next hp =>
    have hfilter : (seen ++ [item]).filter passes = seen.filter passes ++ [item] := by
      rw [List.filter_append, List.filter_cons_of_pos hp, List.filter_nil]
    have hcut := w.cut_concat (seen.filter passes) item
    rw [← hfilter, ← h.matched, ← hkept] at hcut
    split
    · next ha =>
      rw [if_pos ha] at hcut
      refine ⟨?_, ?_, ?_, ?_⟩
      · rw [hlen, h.examined]
      · rw [hfilter, List.length_append, List.length_singleton, h.matched]
      · rw [hcut, List.reverse_cons, h.kept]
      · rw [h.keptCount, List.length_cons]
    · next ha =>
      rw [if_neg ha] at hcut
      refine ⟨?_, ?_, ?_, h.keptCount⟩
      · rw [hlen, h.examined]
      · rw [hfilter, List.length_append, List.length_singleton, h.matched]
      · rw [hcut, h.kept]
  · next hp =>
    have hfilter : (seen ++ [item]).filter passes = seen.filter passes := by
      rw [List.filter_append, List.filter_cons_of_neg hp, List.filter_nil, List.append_nil]
    refine ⟨?_, ?_, ?_, h.keptCount⟩
    · rw [hlen, h.examined]
    · rw [hfilter, h.matched]
    · rw [hfilter, h.kept]

theorem Covers.foldl {w : Window} {passes : α → Bool} {seen : List α} {s : Scan α}
    (h : Covers w passes seen s) (items : List α) :
    Covers w passes (seen ++ items) (items.foldl (Scan.step w passes) s) := by
  induction items generalizing seen s with
  | nil =>
    rw [List.append_nil]
    exact h
  | cons item items ih =>
    have hstep := ih (h.step item)
    rwa [List.append_assoc, List.singleton_append] at hstep

theorem covers_run (w : Window) (passes : α → Bool) (source : List α) :
    Covers w passes (w.reach source) (run w passes source) := by
  have h := (covers_nil w passes).foldl (w.reach source)
  rwa [List.nil_append] at h

end Scan

theorem Page.ofScan_eq (w : Window) (passes : α → Bool) (source : List α) :
    ofScan w passes source =
      ofCounts (w.cut ((w.reach source).filter passes)) w (w.reach source).length
        ((w.reach source).filter passes).length := by
  have h := Scan.covers_run w passes source
  dsimp only [ofScan]
  rw [h.kept, h.examined, h.matched]

/-- The third and fourth of five matches, with two more source items beyond the lookup limit. -/
example : Page.ofScan { start := 2, count := some 2, lookupLimit := some 6 } (· % 2 == 1)
    [1, 3, 4, 5, 7, 9, 11, 13] =
      { entries := [5, 7], start := 2, count := some 2, examined := 6, matched := 5,
        nextStart := some 4, lookupLimit := some 6, lookupLimitReached := true } := by
  decide

end LocatorQuery
