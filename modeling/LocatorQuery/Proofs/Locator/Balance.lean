import LocatorQuery.Proofs.Locator.Partner
import LocatorQuery.Proofs.Locator.Segments

/-! Cuts of balanced texts, and where the balance of any other text is lost. A text is cut into segments just
when it is balanced. Otherwise the first parenthesis that closes too much is reported, and without one the
first that is never closed. -/
namespace LocatorQuery.Nesting
open Outcome

/-! Segments stand in the text where their offsets say. -/

/-- Segments as they stand ahead of others, a comma behind each. -/
def led (segs : List Segment) : List Char := segs.flatMap fun s => s.text ++ [',']

/-- What the segments of a text have to do with it. -/
structure Cuts (cs : List Char) (segs : List Segment) : Prop where
  joined : [','].intercalate (segs.map Segment.text) = cs
  placed : ∀ before s after, segs = before ++ s :: after →
    s.offset = Text.byteLength (led before) ∧ led before ++ s.text <+: cs
  closed : ∀ s ∈ segs, isBalanced s.text = true ∧ find? ',' s.text = none

theorem offset_of_layOut {pos : Nat} {parts : List (List Char)} {before after : List Segment} {s : Segment}
    (h : layOut pos parts = before ++ s :: after) :
    s.offset = pos + Text.byteLength (led before) := by
  induction before generalizing pos parts with
  | nil =>
    cases parts with
    | nil => cases h
    | cons part parts =>
      cases h
      rfl
  | cons first before ih =>
    cases parts with
    | nil => cases h
    | cons part parts =>
      rw [layOut, List.cons_append, List.cons.injEq] at h
      obtain ⟨rfl, h⟩ := h
      have hfirst : Text.byteLength [','] = 1 := by decide
      rw [ih h, led, led, List.flatMap_cons, Text.byteLength_append, Text.byteLength_append, hfirst]
      dsimp only
      omega

theorem led_prefix_intercalate (before after : List Segment) (s : Segment) :
    led before ++ s.text <+: [','].intercalate ((before ++ s :: after).map Segment.text) := by
  induction before with
  | nil =>
    cases after with
    | nil => simp [led]
    | cons next after => simp [led, List.intercalate_cons_cons]
  | cons first before ih =>
    obtain ⟨next, rest, hnext⟩ : ∃ next rest, (before ++ s :: after).map Segment.text = next :: rest := by
      cases before with
      | nil => exact ⟨_, _, rfl⟩
      | cons next before => exact ⟨_, _, rfl⟩
    rw [List.cons_append, List.map_cons, hnext, List.intercalate_cons_cons, ← hnext, led,
      List.flatMap_cons, List.append_assoc, List.prefix_append_right_inj]
    exact ih

theorem cuts_of_segments {cs : List Char} {segs : List Segment} (h : segments cs = .ok segs) :
    Cuts cs segs := by
  obtain ⟨parts, -, hclosed, hjoined, hlaid⟩ := segments_eq_ok_iff.mp h
  have hparts : [','].intercalate (segs.map Segment.text) = cs := by
    rw [hlaid, text_layOut, hjoined]
  refine ⟨hparts, fun before s after hsegs => ⟨?_, ?_⟩, fun s hs => ?_⟩
  · rw [offset_of_layOut (hlaid.symm.trans hsegs), Nat.zero_add]
  · rw [← hparts, hsegs]
    exact led_prefix_intercalate before after s
  · have hpart : Closed s.text := closed_layOut hclosed 0 s (hlaid ▸ hs)
    rw [isBalanced, hpart.depth, find?, hpart.noComma]
    exact ⟨rfl, rfl⟩

theorem balanced_intercalate {parts : List (List Char)} (h : ∀ p ∈ parts, Closed p) :
    Balanced ([','].intercalate parts) := by
  rw [balanced_iff_depth?]
  induction parts with
  | nil => rfl
  | cons part parts ih =>
    rw [List.forall_mem_cons] at h
    cases parts with
    | nil =>
      rw [List.intercalate_singleton]
      exact h.1.depth
    | cons next parts =>
      have hcomma : IsOrdinary ',' := ⟨by decide, by decide⟩
      rw [List.intercalate_cons_cons, List.append_assoc, depth?_append, h.1.depth, Option.bind_some,
        List.singleton_append, depth?_ordinary hcomma, ih h.2]

/-! The parenthesis at which a text loses its balance. -/

def Overcloses (cs : List Char) : Prop := cs.count '(' < cs.count ')'

/-- Ahead of the parenthesis at fault, the text from there, and the fault. Either it ends the shortest
beginning that closes more groups than it opens, or there is no such beginning and it is the first
parenthesis that nothing closes. -/
inductive LostAt : List Char → List Char → TextFault → Prop
  | close {ahead behind : List Char} :
    Overcloses (ahead ++ [')']) → (∀ p, p <+: ahead → ¬ Overcloses p) →
      LostAt ahead (')' :: behind) (.unexpectedClose (Text.byteLength ahead))
  | unclosed {ahead behind : List Char} :
    (∀ p, p <+: ahead ++ '(' :: behind → ¬ Overcloses p) → ¬ Closes behind →
      (∀ a b, ahead = a ++ '(' :: b → Closes (b ++ '(' :: behind)) →
        LostAt ahead ('(' :: behind) (.unclosedOpen (Text.byteLength ahead))

theorem not_overcloses_of_depth? {cs : List Char} {e : Nat} (h : depth? 0 cs = some e) :
    ∀ p, p <+: cs → ¬ Overcloses p := by
  intro p hp
  have hcount := (depth?_eq_some_iff.mp h).1 p hp
  rw [Nat.zero_add] at hcount
  exact Nat.not_lt.mpr hcount

theorem LostAt.not_balanced {ahead tail : List Char} {fault : TextFault} (h : LostAt ahead tail fault) :
    ¬ Balanced (ahead ++ tail) := by
  intro hbalanced
  cases h with
  | close hover _ =>
    refine not_overcloses_of_depth? (balanced_iff_depth?.mp hbalanced) _ ?_ hover
    simp
  | unclosed _ hopen _ => exact hopen hbalanced.closes

/-- Ahead of the place where balance is lost there is no other such place. -/
theorem LostAt.eq_nil_of_append {ahead between tail : List Char} {fault fault' : TextFault}
    (h : LostAt ahead (between ++ tail) fault) (h' : LostAt (ahead ++ between) tail fault') :
    between = [] := by
  cases between with
  | nil => rfl
  | cons c between =>
    rw [List.cons_append] at h
    exfalso
    cases h with
    | close hover _ =>
      cases h' with
      | close _ hfirst => exact hfirst _ (by simp) hover
      | unclosed hnone _ _ => exact hnone _ (by simp) hover
    | unclosed hnone hopen _ =>
      cases h' with
      | close hover _ => exact hnone _ (by simp) hover
      | unclosed _ _ hclosed => exact hopen (hclosed ahead between rfl)

theorem LostAt.unique {ahead ahead' tail tail' : List Char} {fault fault' : TextFault}
    (h : LostAt ahead tail fault) (h' : LostAt ahead' tail' fault')
    (he : ahead ++ tail = ahead' ++ tail') : tail = tail' ∧ fault = fault' := by
  obtain ⟨rfl, rfl⟩ : ahead = ahead' ∧ tail = tail' := by
    rcases List.append_eq_append_iff.mp he with ⟨between, rfl, rfl⟩ | ⟨between, rfl, rfl⟩
    · simp [h.eq_nil_of_append h']
    · simp [h'.eq_nil_of_append h]
  cases h with
  | close => cases h' with | close => exact ⟨rfl, rfl⟩
  | unclosed => cases h' with | unclosed => exact ⟨rfl, rfl⟩

/-- What a cut has gone through, with the parentheses that are open there. The outermost of them, the last in
the list, stands behind a balanced text, and between it and the current position the others were opened. -/
inductive Gone (rest : List Char) : List Char → List (Nat × List Char) → Prop
  | closed {seen : List Char} : Balanced seen → Gone rest seen []
  | opened {ahead inner : List Char} {stack : List (Nat × List Char)} :
    Balanced ahead → depth? 0 inner = some stack.length →
      Gone rest (ahead ++ '(' :: inner)
        (stack ++ [(Text.byteLength ahead, '(' :: (inner ++ rest))])

section Gone
variable {rest seen : List Char} {opened : List (Nat × List Char)}

theorem Gone.open (h : Gone ('(' :: rest) seen opened) :
    Gone rest (seen ++ ['(']) ((Text.byteLength seen, '(' :: rest) :: opened) := by
  cases h with
  | closed hseen => exact @Gone.opened _ seen [] [] hseen rfl
  | @opened ahead inner stack hahead hinner =>
    have hgone := @Gone.opened rest ahead (inner ++ ['('])
      ((Text.byteLength (ahead ++ '(' :: inner), '(' :: rest) :: stack) hahead
      (by simp [depth?_append, hinner])
    simpa using hgone

theorem Gone.close {o : Nat × List Char} (h : Gone (')' :: rest) seen (o :: opened)) :
    Gone rest (seen ++ [')']) opened := by
  generalize hstack : o :: opened = all at h
  cases h with
  | closed _ => cases hstack
  | @opened ahead inner stack hahead hinner =>
    cases stack with
    | nil =>
      cases hstack
      refine .closed ?_
      rw [balanced_iff_depth?] at hahead ⊢
      have hinner' := depth?_add hinner 1
      simp only [List.length_nil, Nat.zero_add] at hinner'
      simp [depth?_append, hahead, hinner']
    | cons p stack =>
      cases hstack
      have hgone := @Gone.opened rest ahead (inner ++ [')']) stack hahead
        (by simp [depth?_append, hinner])
      simpa using hgone

theorem Gone.ordinary {c : Char} (hc : IsOrdinary c) (h : Gone (c :: rest) seen opened) :
    Gone rest (seen ++ [c]) opened := by
  cases h with
  | closed hseen =>
    refine .closed ?_
    rw [balanced_iff_depth?] at hseen ⊢
    simp [depth?_append, hseen, depth?_ordinary hc]
  | @opened ahead inner stack hahead hinner =>
    have hgone := @Gone.opened rest ahead (inner ++ [c]) stack hahead
      (by simp [depth?_append, hinner, depth?_ordinary hc])
    simpa using hgone

/-- A parenthesis that closes nothing ends the shortest beginning that closes too much. -/
theorem Gone.lostAt_close (h : Gone (')' :: rest) seen []) :
    LostAt seen (')' :: rest) (.unexpectedClose (Text.byteLength seen)) := by
  generalize hstack : [] = opened at h
  cases h with
  | closed hseen =>
    refine .close ?_ (not_overcloses_of_depth? (balanced_iff_depth?.mp hseen))
    have hcount := hseen.2
    rw [Overcloses, List.count_append, List.count_append]
    simp [hcount]
  | opened => simp at hstack

/-- The outermost of the parentheses that are left open is the first that nothing closes. -/
theorem lostAt_unclosed {ahead inner : List Char} {k : Nat} (hahead : Balanced ahead)
    (hinner : depth? 0 inner = some k) :
    LostAt ahead ('(' :: inner) (.unclosedOpen (Text.byteLength ahead)) := by
  have hdepth : depth? 0 (ahead ++ '(' :: inner) = some (k + 1) := by
    rw [depth?_append, balanced_iff_depth?.mp hahead, Option.bind_some, depth?_open,
      depth?_add hinner 1]
  refine .unclosed (not_overcloses_of_depth? hdepth) ?_ ?_
  · rintro ⟨body, rest, hbody, rfl⟩
    rw [depth?_append, balanced_iff_depth?.mp hbody] at hinner
    cases hinner
  · rintro a b rfl
    exact hahead.closes.append _

end Gone

theorem lostAt_of_segmentsFrom {cs seen : List Char} {opened : List (Nat × List Char)} {e : LocatorError}
    (hgone : Gone cs seen opened)
    (h : segmentsFrom (Text.byteLength seen) opened cs = .error e) :
    ∃ ahead tail fault, seen ++ cs = ahead ++ tail ∧ LostAt ahead tail fault ∧
      e = .malformed fault (fragment tail) := by
  -- Each character moves from the rest to what has been gone through.
  induction cs generalizing seen opened with
  | nil =>
    cases hgone with
    | closed _ => cases h
    | @opened ahead inner stack hahead hinner =>
      simp only [segmentsFrom, List.getLast?_concat] at h
      cases h
      refine ⟨ahead, '(' :: inner, _, ?_, lostAt_unclosed hahead hinner, ?_⟩
      · rw [List.append_nil]
      · rw [List.append_nil]
  | cons c cs ih =>
    have hmove : seen ++ c :: cs = seen ++ [c] ++ cs := by simp
    have hpos : Text.byteLength seen + c.utf8Size = Text.byteLength (seen ++ [c]) := by
      rw [Text.byteLength_append]
      rfl
    rw [hmove]
    rcases char_cases c with rfl | rfl | hc
    · rw [segmentsFrom_open, map_eq_error_iff] at h
      exact ih hgone.open (hpos ▸ h)
    · cases opened with
      | nil =>
        cases h
        exact ⟨seen, ')' :: cs, _, hmove.symm, hgone.lostAt_close, rfl⟩
      | cons o opened =>
        rw [segmentsFrom_close, map_eq_error_iff] at h
        exact ih hgone.close (hpos ▸ h)
    · by_cases hcomma : c = ',' ∧ opened.length = 0
      · obtain ⟨rfl, hnil⟩ := hcomma
        rw [List.length_eq_zero_iff] at hnil
        subst hnil
        rw [segmentsFrom_comma, map_eq_error_iff] at h
        exact ih (hgone.ordinary hc) (hpos ▸ h)
      · rw [segmentsFrom_ordinary hc hcomma, map_eq_error_iff] at h
        exact ih (hgone.ordinary hc) (hpos ▸ h)

theorem lostAt_of_segments {cs : List Char} {e : LocatorError} (h : segments cs = .error e) :
    ∃ ahead tail fault, cs = ahead ++ tail ∧ LostAt ahead tail fault ∧
      e = .malformed fault (fragment tail) := by
  rcases bind_eq_error_iff.mp h with h | ⟨r, -, h⟩
  · exact @lostAt_of_segmentsFrom cs [] [] e (.closed (balanced_iff_depth?.mpr rfl)) h
  · cases h

theorem exists_segments_iff {cs : List Char} :
    (∃ segs, segments cs = .ok segs) ↔ isBalanced cs = true := by
  rw [isBalanced_iff]
  constructor
  · rintro ⟨segs, h⟩
    obtain ⟨parts, -, hclosed, rfl, -⟩ := segments_eq_ok_iff.mp h
    exact balanced_intercalate hclosed
  · intro hbalanced
    cases h : segments cs with
    | ok segs => exact ⟨segs, rfl⟩
    | error e =>
      obtain ⟨ahead, tail, fault, rfl, hlost, -⟩ := lostAt_of_segments h
      exact absurd hbalanced hlost.not_balanced

theorem segments_of_lostAt {ahead tail : List Char} {fault : TextFault} (h : LostAt ahead tail fault) :
    segments (ahead ++ tail) = .error (.malformed fault (fragment tail)) := by
  cases hsegs : segments (ahead ++ tail) with
  | ok segs => exact absurd (isBalanced_iff.mp (exists_segments_iff.mp ⟨segs, hsegs⟩)) h.not_balanced
  | error e =>
    obtain ⟨ahead', tail', fault', he, h', rfl⟩ := lostAt_of_segments hsegs
    obtain ⟨rfl, rfl⟩ := h.unique h' he
    rfl

/-- A text is cut just when it is balanced. Its segments are balanced, hold no comma at top level and make up
the text, each where its offset says. A text that is not balanced is reported from the one parenthesis on at
which its balance is lost. -/
theorem segments_cut_balanced (cs : List Char) :
    ((∃ segs, segments cs = .ok segs) ↔ isBalanced cs = true) ∧
    (∀ segs, segments cs = .ok segs → Cuts cs segs) ∧
    ∀ e, segments cs = .error e ↔ ∃ ahead tail fault, cs = ahead ++ tail ∧ LostAt ahead tail fault ∧
      e = .malformed fault (String.ofList (tail.take 32)) := by
  refine ⟨exists_segments_iff, fun _ => cuts_of_segments, fun e => ⟨lostAt_of_segments, ?_⟩⟩
  rintro ⟨ahead, tail, fault, rfl, hlost, rfl⟩
  exact segments_of_lostAt hlost

/-- Of two parentheses that are open at the end the outer one is reported, behind a group and a letter of two
bytes. -/
example : segments "é,(a),((b".toList = .error (.malformed (.unclosedOpen 7) "((b") := by decide

end LocatorQuery.Nesting
