import LocatorQuery.Proofs.Outcome
import LocatorQuery.Proofs.Locator.Nesting

/-! The cut of a text at its top-level commas: the parts joined again are the text, and a text that
is joined from closed parts is cut into them. -/
namespace LocatorQuery.Nesting
open Outcome

/-- A part holds whole groups only and no comma beside them. -/
structure Closed (part : List Char) : Prop where
  depth : depth? 0 part = some 0
  noComma : cut? ',' 0 part = none

/-- The parts as they stand in the text from a position on, a comma after each. -/
def layOut (pos : Nat) : List (List Char) → List Segment
  | [] => []
  | part :: parts => ⟨pos, part⟩ :: layOut (pos + Text.byteLength part + 1) parts

theorem text_layOut (pos : Nat) (parts : List (List Char)) :
    (layOut pos parts).map Segment.text = parts := by
  induction parts generalizing pos with
  | nil => rfl
  | cons part parts ih => rw [layOut, List.map_cons, ih]

theorem length_layOut (pos : Nat) (parts : List (List Char)) :
    (layOut pos parts).length = parts.length := by
  rw [← List.length_map, text_layOut]

theorem closed_layOut {parts : List (List Char)} (h : ∀ p ∈ parts, Closed p) (pos : Nat) :
    ∀ s ∈ layOut pos parts, Closed s.text := by
  intro s hs
  apply h
  rw [← text_layOut pos parts]
  exact List.mem_map_of_mem hs

/-- The current segment and the ones after it, with a text put ahead of the current one. -/
def prepend (ahead : List Char) (r : List Char × List Segment) : List Char × List Segment :=
  (ahead ++ r.1, r.2)

theorem segmentsFrom_open (pos : Nat) (opened : List (Nat × List Char)) (cs : List Char) :
    segmentsFrom pos opened ('(' :: cs) =
      (segmentsFrom (pos + 1) ((pos, '(' :: cs) :: opened) cs).map (prepend ['(']) := rfl

theorem segmentsFrom_close (pos : Nat) (o : Nat × List Char) (opened : List (Nat × List Char))
    (cs : List Char) :
    segmentsFrom pos (o :: opened) (')' :: cs) =
      (segmentsFrom (pos + 1) opened cs).map (prepend [')']) := rfl

theorem segmentsFrom_comma (pos : Nat) (cs : List Char) :
    segmentsFrom pos [] (',' :: cs) =
      (segmentsFrom (pos + 1) [] cs).map fun (text, rest) => ([], ⟨pos + 1, text⟩ :: rest) := by
  rfl

theorem segmentsFrom_ordinary {c : Char} (hc : IsOrdinary c) {opened : List (Nat × List Char)}
    (h : ¬ (c = ',' ∧ opened.length = 0)) (pos : Nat) (cs : List Char) :
    segmentsFrom pos opened (c :: cs) =
      (segmentsFrom (pos + c.utf8Size) opened cs).map (prepend [c]) := by
  have hif : ¬ (c = ',' ∧ opened.isEmpty = true) := by
    rwa [List.isEmpty_iff_length_eq_zero]
  rw [segmentsFrom]
  · simp only [hif, if_false]
    rfl
  · exact hc.1
  · exact hc.2

theorem prepend_comp (a b : List Char) : prepend a ∘ prepend b = prepend (a ++ b) := by
  funext r
  simp [prepend]

/-- A part without a comma at its own level stays whole, and leaves as many groups open as its depth
says. -/
theorem segmentsFrom_part {opened : List (Nat × List Char)} {part : List Char} {d : Nat}
    (hd : depth? opened.length part = some d) (hc : cut? ',' opened.length part = none) (pos : Nat)
    (rest : List Char) :
    ∃ opened', opened'.length = d ∧ segmentsFrom pos opened (part ++ rest) =
      (segmentsFrom (pos + Text.byteLength part) opened' rest).map (prepend part) := by
  induction part generalizing opened pos with
  | nil =>
    rw [depth?_nil] at hd
    cases hd
    refine ⟨opened, rfl, ?_⟩
    rw [List.nil_append, Text.byteLength, Nat.add_zero]
    cases segmentsFrom pos opened rest <;> rfl
  | cons c part ih =>
    rcases char_cases c with rfl | rfl | ho
    · rw [depth?_open] at hd
      rw [cut?_open, Option.map_eq_none_iff] at hc
      rw [← List.length_cons (a := (pos, '(' :: (part ++ rest)))] at hd hc
      obtain ⟨opened', hlen, h⟩ := ih hd hc (pos + 1)
      refine ⟨opened', hlen, ?_⟩
      rw [List.cons_append, segmentsFrom_open, h, map_map, prepend_comp, Nat.add_assoc]
      rfl
    · cases opened with
      | nil => cases hd
      | cons o opened =>
        rw [List.length_cons, depth?_close_succ] at hd
        rw [List.length_cons, cut?_close, Nat.add_sub_cancel, Option.map_eq_none_iff] at hc
        obtain ⟨opened', hlen, h⟩ := ih hd hc (pos + 1)
        refine ⟨opened', hlen, ?_⟩
        rw [List.cons_append, segmentsFrom_close, h, map_map, prepend_comp, Nat.add_assoc]
        rfl
    · rw [depth?_ordinary ho] at hd
      rw [cut?_ordinary ho] at hc
      split at hc
      · cases hc
      · next hcomma =>
        rw [Option.map_eq_none_iff] at hc
        obtain ⟨opened', hlen, h⟩ := ih hd hc (pos + c.utf8Size)
        refine ⟨opened', hlen, ?_⟩
        rw [List.cons_append, segmentsFrom_ordinary ho hcomma, h, map_map, prepend_comp,
          Nat.add_assoc]
        rfl

theorem segmentsFrom_closed {part : List Char} (h : Closed part) (pos : Nat) (rest : List Char) :
    segmentsFrom pos [] (part ++ rest) =
      (segmentsFrom (pos + Text.byteLength part) [] rest).map (prepend part) := by
  have hd : depth? ([] : List (Nat × List Char)).length part = some 0 := h.depth
  obtain ⟨opened', hlen, he⟩ := segmentsFrom_part hd h.noComma pos rest
  rw [List.length_eq_zero_iff] at hlen
  rw [he, hlen]

/-- A text that is joined from closed parts is cut into them. -/
theorem segmentsFrom_intercalate {part : List Char} {parts : List (List Char)} (hp : Closed part)
    (hs : ∀ p ∈ parts, Closed p) (pos : Nat) :
    segmentsFrom pos [] ([','].intercalate (part :: parts)) =
      .ok (part, layOut (pos + Text.byteLength part + 1) parts) := by
  induction parts generalizing part pos with
  | nil =>
    have h := segmentsFrom_closed hp pos []
    rw [List.append_nil] at h
    rw [List.intercalate_singleton, h]
    simp [segmentsFrom, Except.map, prepend, layOut]
  | cons next parts ih =>
    have hnext := hs next List.mem_cons_self
    have hrest := fun p hp => hs p (List.mem_cons_of_mem next hp)
    rw [List.intercalate_cons_cons, List.append_assoc, segmentsFrom_closed hp, List.singleton_append,
      segmentsFrom_comma, ih hnext hrest]
    simp [Except.map, prepend, layOut]

theorem segments_intercalate {parts : List (List Char)} (hne : parts ≠ [])
    (h : ∀ p ∈ parts, Closed p) :
    segments ([','].intercalate parts) = .ok (layOut 0 parts) := by
  cases parts with
  | nil => exact absurd rfl hne
  | cons part parts =>
    rw [List.forall_mem_cons] at h
    rw [segments, segmentsFrom_intercalate h.1 h.2]
    rfl

/-- What a cut from a position on, inside `d` groups, says about its result. -/
structure CutInto (pos d : Nat) (cs : List Char) (r : List Char × List Segment) : Prop where
  depth : depth? d r.1 = some 0
  noComma : cut? ',' d r.1 = none
  closed : ∀ s ∈ r.2, Closed s.text
  joined : cs = [','].intercalate (r.1 :: r.2.map Segment.text)
  laidOut : r.2 = layOut (pos + Text.byteLength r.1 + 1) (r.2.map Segment.text)

theorem cons_intercalate (c : Char) (part : List Char) (parts : List (List Char)) :
    c :: [','].intercalate (part :: parts) = [','].intercalate ((c :: part) :: parts) := by
  cases parts with
  | nil => simp
  | cons next parts => simp [List.intercalate_cons_cons]

theorem part_infix_intercalate {part : List Char} {parts : List (List Char)} (h : part ∈ parts)
    (between : List Char) : part <:+: between.intercalate parts := by
  induction parts with
  | nil => cases h
  | cons first parts ih =>
    cases parts with
    | nil =>
      have he : between.intercalate [first] = part := by
        rw [List.mem_singleton.mp h, List.intercalate_singleton]
      exact he ▸ List.infix_rfl
    | cons next parts =>
      rw [List.intercalate_cons_cons]
      rcases List.mem_cons.mp h with rfl | h
      · exact ((List.prefix_append _ _).trans (List.prefix_append _ _)).isInfix
      · exact (ih h).trans (List.suffix_append _ _).isInfix

/-- A character that does not cut joins the current segment. -/
theorem CutInto.cons {pos d d' : Nat} {c : Char} {cs : List Char} {r : List Char × List Segment}
    (h : CutInto (pos + c.utf8Size) d' cs r) (hd : depth? d (c :: r.1) = depth? d' r.1)
    (hc : cut? ',' d (c :: r.1) = none) : CutInto pos d (c :: cs) (prepend [c] r) where
  depth := hd.trans h.depth
  noComma := hc
  closed := h.closed
  joined := (congrArg (c :: ·) h.joined).trans (cons_intercalate ..)
  laidOut := by
    have hr := h.laidOut
    rw [Nat.add_assoc pos] at hr
    exact hr

theorem CutInto.comma {pos : Nat} {cs text : List Char} {rest : List Segment}
    (h : CutInto (pos + 1) 0 cs (text, rest)) :
    CutInto pos 0 (',' :: cs) ([], ⟨pos + 1, text⟩ :: rest) where
  depth := depth?_nil 0
  noComma := cut?_nil ',' 0
  closed := by
    rw [List.forall_mem_cons]
    exact ⟨⟨h.depth, h.noComma⟩, h.closed⟩
  joined := by
    rw [List.map_cons, List.intercalate_cons_cons, List.nil_append, ← h.joined]
    rfl
  laidOut := congrArg (⟨pos + 1, text⟩ :: ·) h.laidOut

theorem cutInto_of_segmentsFrom {pos : Nat} {opened : List (Nat × List Char)} {cs : List Char}
    {r : List Char × List Segment} (h : segmentsFrom pos opened cs = .ok r) :
    CutInto pos opened.length cs r := by
  -- The result for the rest is extended by one character. Only a comma outside all groups starts a
  -- new segment; any other character joins the current one.
  induction cs generalizing pos opened r with
  | nil =>
    cases ho : opened.getLast? with
    | some o => simp [segmentsFrom, ho] at h
    | none =>
      rw [List.getLast?_eq_none_iff] at ho
      subst ho
      cases h
      exact ⟨rfl, rfl, by simp, by simp, rfl⟩
  | cons c cs ih =>
    rcases char_cases c with rfl | rfl | hc
    · rw [segmentsFrom_open] at h
      obtain ⟨r', hr, rfl⟩ := map_eq_ok_iff.mp h
      have hcut := ih hr
      refine hcut.cons (depth?_open ..) ?_
      rw [cut?_open, Option.map_eq_none_iff]
      exact hcut.noComma
    · cases opened with
      | nil => cases h
      | cons o opened =>
        rw [segmentsFrom_close] at h
        obtain ⟨r', hr, rfl⟩ := map_eq_ok_iff.mp h
        have hcut := ih hr
        refine hcut.cons (depth?_close_succ ..) ?_
        rw [cut?_close, Option.map_eq_none_iff]
        exact hcut.noComma
    · by_cases hcomma : c = ',' ∧ opened.length = 0
      · obtain ⟨rfl, hnil⟩ := hcomma
        rw [List.length_eq_zero_iff] at hnil
        subst hnil
        rw [segmentsFrom_comma] at h
        obtain ⟨r', hr, rfl⟩ := map_eq_ok_iff.mp h
        exact (ih hr).comma
      · rw [segmentsFrom_ordinary hc hcomma] at h
        obtain ⟨r', hr, rfl⟩ := map_eq_ok_iff.mp h
        have hcut := ih hr
        refine hcut.cons (depth?_ordinary hc ..) ?_
        rw [cut?_ordinary hc, if_neg hcomma, Option.map_eq_none_iff]
        exact hcut.noComma

/-- The segments of a text are the closed parts from which it is joined. -/
theorem segments_eq_ok_iff {cs : List Char} {segs : List Segment} :
    segments cs = .ok segs ↔ ∃ parts, parts ≠ [] ∧ (∀ p ∈ parts, Closed p) ∧
      cs = [','].intercalate parts ∧ segs = layOut 0 parts := by
  constructor
  · intro h
    obtain ⟨⟨text, rest⟩, hr, he⟩ := bind_eq_ok_iff.mp h
    cases he
    have hcut := cutInto_of_segmentsFrom hr
    refine ⟨text :: rest.map Segment.text, List.cons_ne_nil _ _, ?_, hcut.joined, ?_⟩
    · rw [List.forall_mem_cons, List.forall_mem_map]
      exact ⟨⟨hcut.depth, hcut.noComma⟩, hcut.closed⟩
    · exact congrArg (⟨0, text⟩ :: ·) hcut.laidOut
  · rintro ⟨parts, hne, hclosed, rfl, rfl⟩
    exact segments_intercalate hne hclosed

/-- What an error shows of a text is a part of it. -/
def Shows (whole : List Char) (e : LocatorError) : Prop :=
  ∃ fault fragment, e = .malformed fault fragment ∧ fragment.toList <:+: whole

theorem shows_part {whole part : List Char} (h : part <:+: whole) (fault : TextFault) :
    Shows whole (.malformed fault (String.ofList part)) := by
  refine ⟨fault, _, rfl, ?_⟩
  rwa [String.toList_ofList]

theorem Shows.mono {part whole : List Char} {e : LocatorError} (h : Shows part e)
    (hp : part <:+: whole) : Shows whole e := by
  obtain ⟨fault, fragment, rfl, hf⟩ := h
  exact ⟨fault, fragment, rfl, hf.trans hp⟩

theorem shows_fragment {whole tail : List Char} (h : tail <:+ whole) (fault : TextFault) :
    Shows whole (.malformed fault (fragment tail)) :=
  shows_part ((List.take_prefix 32 tail).isInfix.trans h.isInfix) fault

theorem shows_of_segmentsFrom {whole : List Char} {pos : Nat} {opened : List (Nat × List Char)}
    {cs : List Char} {e : LocatorError} (h : segmentsFrom pos opened cs = .error e)
    (hcs : cs <:+ whole) (hopened : ∀ o ∈ opened, o.2 <:+ whole) : Shows whole e := by
  -- An error shows the text from here or from an open parenthesis, both tails of the whole.
  induction cs generalizing pos opened with
  | nil =>
    cases ho : opened.getLast? with
    | none => simp [segmentsFrom, ho] at h
    | some o =>
      simp only [segmentsFrom, ho] at h
      cases h
      exact shows_fragment (hopened o (List.mem_of_getLast? ho)) _
  | cons c cs ih =>
    have htail : cs <:+ whole := (List.suffix_cons c cs).trans hcs
    rcases char_cases c with rfl | rfl | hc
    · rw [segmentsFrom_open, map_eq_error_iff] at h
      refine ih h htail ?_
      rw [List.forall_mem_cons]
      exact ⟨hcs, hopened⟩
    · cases opened with
      | nil =>
        cases h
        exact shows_fragment hcs _
      | cons o opened =>
        rw [segmentsFrom_close, map_eq_error_iff] at h
        rw [List.forall_mem_cons] at hopened
        exact ih h htail hopened.2
    · by_cases hcomma : c = ',' ∧ opened.length = 0
      · obtain ⟨rfl, hnil⟩ := hcomma
        rw [List.length_eq_zero_iff] at hnil
        subst hnil
        rw [segmentsFrom_comma, map_eq_error_iff] at h
        exact ih h htail hopened
      · rw [segmentsFrom_ordinary hc hcomma, map_eq_error_iff] at h
        exact ih h htail hopened

theorem shows_of_segments {cs : List Char} {e : LocatorError} (h : segments cs = .error e) :
    Shows cs e := by
  rcases bind_eq_error_iff.mp h with h | ⟨r, -, h⟩
  · exact shows_of_segmentsFrom h List.suffix_rfl (by simp)
  · cases h

end LocatorQuery.Nesting
