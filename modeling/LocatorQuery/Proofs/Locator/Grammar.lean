import LocatorQuery.Locator.Written
import LocatorQuery.Proofs.Locator.Value

/-! The grammar of locators, and that reading accepts just the texts of the grammar. -/
namespace LocatorQuery
open Nesting Outcome

namespace Dimension

/-- A name is a word of letters, digits and three marks. -/
def IsName (name : List Char) : Prop :=
  name ≠ [] ∧ ∀ c ∈ name, c.isAlphanum = true ∨ c = '_' ∨ c = '-' ∨ c = '.'

/-- A part of a locator writes a dimension as its name, a colon and a written value. -/
def Writes (part : List Char) (d : Dimension) : Prop :=
  ∃ raw, part = d.name.toList ++ ':' :: raw ∧ IsName d.name.toList ∧
    Value.Writes raw d.value.toList ∧ d.taken = false

theorem ne_of_nameChar {c : Char} (h : c.isAlphanum = true ∨ c = '_' ∨ c = '-' ∨ c = '.') :
    c ≠ ',' ∧ c ≠ ':' ∧ IsOrdinary c := by
  refine ⟨?_, ?_, ?_, ?_⟩
  all_goals
    rintro rfl
    revert h
    decide

theorem isName_iff {name : List Char} : isName name = true ↔ IsName name := by
  have hchar (c : Char) :
      isNameChar c = true ↔ c.isAlphanum = true ∨ c = '_' ∨ c = '-' ∨ c = '.' := by
    simp only [isNameChar, Bool.or_eq_true, beq_iff_eq, or_assoc]
  rw [isName, Bool.and_eq_true, Bool.not_eq_true', List.isEmpty_eq_false_iff, List.all_eq_true]
  simp only [hchar, IsName]

theorem depth?_name {name : List Char} (h : isName name = true) (d : Nat) :
    depth? d name = some d :=
  depth?_of_ordinary (fun c hc => (ne_of_nameChar ((isName_iff.mp h).2 c hc)).2.2) d

theorem cut?_comma_name {name : List Char} (h : isName name = true) : cut? ',' 0 name = none :=
  cut?_of_not_mem (fun hm => (ne_of_nameChar ((isName_iff.mp h).2 _ hm)).1 rfl) 0

theorem cut?_colon_name {name : List Char} (h : isName name = true) : cut? ':' 0 name = none :=
  cut?_of_not_mem (fun hm => (ne_of_nameChar ((isName_iff.mp h).2 _ hm)).2.1 rfl) 0

theorem cut?_colon {name : List Char} (h : isName name = true) (raw : List Char) :
    cut? ':' 0 (name ++ ':' :: raw) = some (name, raw) :=
  cut?_append_needle ⟨by decide, by decide⟩ (depth?_name h 0) (cut?_colon_name h) raw

/-- A name ahead of a value adds nothing at top level but its colon. -/
theorem closed_iff {name : List Char} (h : isName name = true) (raw : List Char) :
    Closed (name ++ ':' :: raw) ↔ Closed raw := by
  have hcolon : IsOrdinary ':' := ⟨by decide, by decide⟩
  have hdepth : depth? 0 (name ++ ':' :: raw) = depth? 0 raw := by
    rw [depth?_append, depth?_name h, Option.bind_some, depth?_ordinary hcolon]
  have hcut : cut? ',' 0 (name ++ ':' :: raw) = none ↔ cut? ',' 0 raw = none := by
    rw [cut?_append (depth?_name h 0) (cut?_comma_name h), Option.map_eq_none_iff,
      cut?_ordinary hcolon, if_neg (by decide), Option.map_eq_none_iff]
  constructor
  · intro hc
    exact ⟨hdepth ▸ hc.depth, hcut.mp hc.noComma⟩
  · intro hc
    exact ⟨hdepth ▸ hc.depth, hcut.mpr hc.noComma⟩

theorem Writes.closed {part : List Char} {d : Dimension} (h : Writes part d) : Closed part := by
  obtain ⟨raw, rfl, hname, ⟨p, hf, -⟩, -⟩ := h
  exact (closed_iff (isName_iff.mpr hname) raw).mpr hf.closed

end Dimension

namespace Nesting.Segment
open Dimension

theorem split_eq_ok_iff {s : Segment} {name raw : List Char} :
    s.split = .ok (name, raw) ↔ isName name = true ∧ s.text = name ++ ':' :: raw := by
  constructor
  · intro h
    dsimp only [split] at h
    split at h
    · cases h
    · split at h
      · cases h
      · next name' raw' hcut =>
        split at h
        · cases h
        · split at h
          · cases h
          · next hname =>
            cases h
            rw [Bool.not_eq_true, Bool.not_eq_false'] at hname
            exact ⟨hname, eq_append_of_cut? hcut⟩
  · rintro ⟨hname, htext⟩
    have hempty : s.text.isEmpty = false := by rw [htext]; simp
    have hne : name.isEmpty = false := by
      rw [List.isEmpty_eq_false_iff]
      exact (isName_iff.mp hname).1
    have hcut : cut? ':' 0 s.text = some (name, raw) := htext ▸ cut?_colon hname raw
    dsimp only [split]
    simp [hempty, hcut, hne, hname]

theorem shows_of_split {s : Segment} {e : LocatorError} (h : s.split = .error e) :
    Shows s.text e := by
  dsimp only [split] at h
  split at h
  · cases h
    exact shows_part List.infix_rfl _
  · split at h
    · cases h
      exact shows_part List.infix_rfl _
    · split at h
      · cases h
        exact shows_part List.infix_rfl _
      · split at h
        · cases h
          exact shows_part List.infix_rfl _
        · cases h

theorem dimension_eq_ok_iff {s : Segment} {d : Dimension} (hs : Closed s.text) :
    s.dimension = .ok d ↔ Dimension.Writes s.text d := by
  rw [dimension, bind_eq_ok_iff]
  constructor
  · rintro ⟨⟨name, raw⟩, hsplit, h⟩
    obtain ⟨value, hv, h⟩ := bind_eq_ok_iff.mp h
    cases h
    obtain ⟨hname, htext⟩ := split_eq_ok_iff.mp hsplit
    rw [htext, closed_iff hname] at hs
    refine ⟨raw, ?_, ?_, ?_, rfl⟩
    · rw [String.toList_ofList, htext]
    · rw [String.toList_ofList]
      exact isName_iff.mp hname
    · rw [String.toList_ofList]
      exact Value.writes_of_unwrap hs.noComma hv
  · rintro ⟨raw, htext, hname, hv, htaken⟩
    refine ⟨(d.name.toList, raw), split_eq_ok_iff.mpr ⟨isName_iff.mpr hname, htext⟩, ?_⟩
    rw [bind_eq_ok_iff]
    refine ⟨d.value.toList, Value.unwrap_of_writes hv, ?_⟩
    rw [String.ofList_toList, String.ofList_toList, ← htaken]
    rfl

theorem shows_of_dimension {s : Segment} {e : LocatorError} (h : s.dimension = .error e) :
    Shows s.text e := by
  rw [dimension, bind_eq_error_iff] at h
  rcases h with h | ⟨⟨name, raw⟩, hsplit, h⟩
  · exact shows_of_split h
  · rcases bind_eq_error_iff.mp h with h | ⟨value, -, h⟩
    · obtain ⟨-, htext⟩ := split_eq_ok_iff.mp hsplit
      refine (Value.shows_of_unwrap h).mono ?_
      rw [htext]
      exact ((List.suffix_cons ':' raw).trans (List.suffix_append name _)).isInfix
    · cases h

/-- Over closed parts the dimensions that are read are those that the parts write. -/
theorem mapM_dimension_eq_ok_iff {segs : List Segment} {items : List Dimension}
    (hs : ∀ s ∈ segs, Closed s.text) :
    segs.mapM dimension = .ok items ↔
      List.Forall₂ Dimension.Writes (segs.map Segment.text) items := by
  rw [mapM_eq_ok_iff, List.forall₂_map_left_iff]
  induction segs generalizing items with
  | nil => simp
  | cons s segs ih =>
    rw [List.forall_mem_cons] at hs
    simp only [List.forall₂_cons_left_iff, dimension_eq_ok_iff hs.1, ih hs.2]

end Nesting.Segment

theorem Text.isBlankText_eq_false_iff {text : String} :
    Text.isBlankText text = false ↔ ∃ c ∈ text.toList, Text.isBlank c = false := by
  simp [Text.isBlankText]

namespace Locator

/-- A text writes a list of dimensions as its parts, joined by commas. -/
def WritesList (text : List Char) (items : List Dimension) : Prop :=
  ∃ parts, parts ≠ [] ∧ text = [','].intercalate parts ∧ List.Forall₂ Dimension.Writes parts items

/-- A text writes a lone value if it is not blank and its colons, if any, are inside a group. -/
def WritesAlone (text value : List Char) : Prop :=
  (∃ c ∈ text, Text.isBlank c = false) ∧ Value.Writes text value ∧
    (Value.IsWrapped text ∨ ':' ∉ text)

/-- Even a list of one dimension has the colon of its name. -/
theorem WritesList.colon_mem {text : List Char} {items : List Dimension} (h : WritesList text items) :
    ':' ∈ text := by
  obtain ⟨parts, hne, rfl, hw⟩ := h
  cases hw with
  | nil => exact absurd rfl hne
  | @cons part d parts ds hpart _ =>
    obtain ⟨raw, hraw, -⟩ := hpart
    exact (part_infix_intercalate List.mem_cons_self [',']).subset (by simp [hraw])

theorem isBlankText_of_writesList {text : String} {items : List Dimension}
    (h : WritesList text.toList items) : Text.isBlankText text = false :=
  Text.isBlankText_eq_false_iff.mpr ⟨':', h.colon_mem, by decide⟩

theorem closed_of_forall₂ {parts : List (List Char)} {items : List Dimension}
    (h : List.Forall₂ Dimension.Writes parts items) : ∀ p ∈ parts, Closed p := by
  induction h with
  | nil => simp
  | cons hd _ ih =>
    rw [List.forall_mem_cons]
    exact ⟨hd.closed, ih⟩

theorem parse_of_writesList {text : String} {items : List Dimension}
    (h : WritesList text.toList items) : parse text = .ok (.dimensions items) := by
  have hblank := isBlankText_of_writesList h
  obtain ⟨parts, hne, htext, hw⟩ := h
  have hclosed := closed_of_forall₂ hw
  have hsegs := segments_intercalate hne hclosed
  -- Even a single part has the colon of its name at top level, so it is not read as a lone value.
  have hmany : ¬ ((layOut 0 parts).length = 1 ∧ (cut? ':' 0 text.toList).isNone = true) := by
    rintro ⟨hlen, hcut⟩
    rw [length_layOut, List.length_eq_one_iff] at hlen
    obtain ⟨part, rfl⟩ := hlen
    rw [List.forall₂_cons_left_iff] at hw
    obtain ⟨d, ds, ⟨raw, hpart, hname, -⟩, -, -⟩ := hw
    rw [htext, List.intercalate_singleton, hpart, Dimension.cut?_colon (Dimension.isName_iff.mpr hname)] at hcut
    cases hcut
  have hitems : (layOut 0 parts).mapM Segment.dimension = .ok items := by
    rw [Segment.mapM_dimension_eq_ok_iff (closed_layOut hclosed 0), text_layOut]
    exact hw
  rw [← htext] at hsegs
  rw [parse, hblank, hsegs]
  simp only [Bool.false_eq_true, if_false, bind, Except.bind, hmany, hitems]
  rfl

theorem parse_of_writesAlone {text : String} {value : List Char}
    (h : WritesAlone text.toList value) : parse text = .ok (.ofValue (String.ofList value)) := by
  obtain ⟨hblank, hw, hcolon⟩ := h
  rw [← Text.isBlankText_eq_false_iff] at hblank
  have hclosed : Closed text.toList := by
    obtain ⟨p, hf, -⟩ := hw
    exact hf.closed
  have hsegs := segments_intercalate (List.cons_ne_nil text.toList []) (by simpa using hclosed)
  have hcut : cut? ':' 0 text.toList = none := by
    rcases hcolon with ⟨body, hb, he⟩ | hc
    · rw [he]
      exact Value.cut?_wrapped hb ':'
    · exact cut?_of_not_mem hc 0
  rw [List.intercalate_singleton] at hsegs
  rw [parse, hblank, hsegs]
  simp only [Bool.false_eq_true, if_false, bind, Except.bind, layOut, List.length_singleton, hcut,
    Option.isNone_none, and_self, if_true, Value.unwrap_of_writes hw]
  rfl

theorem writes_of_parse {text : String} {l : Locator} (h : parse text = .ok l) :
    (∃ items, l = .dimensions items ∧ WritesList text.toList items) ∨
      ∃ value, l = .ofValue (String.ofList value) ∧ WritesAlone text.toList value := by
  rw [parse] at h
  split at h
  · cases h
  · next hblank =>
    rw [Bool.not_eq_true] at hblank
    obtain ⟨segs, hsegs, h⟩ := bind_eq_ok_iff.mp h
    obtain ⟨parts, hne, hclosed, htext, rfl⟩ := segments_eq_ok_iff.mp hsegs
    split at h
    · next hone =>
      obtain ⟨value, hv, h⟩ := bind_eq_ok_iff.mp h
      cases h
      rw [length_layOut, List.length_eq_one_iff, Option.isNone_iff_eq_none] at hone
      obtain ⟨⟨part, rfl⟩, hcolon⟩ := hone
      rw [List.intercalate_singleton] at htext
      rw [← htext] at hclosed
      have hc := (hclosed _ List.mem_cons_self).noComma
      obtain ⟨p, hf, hm⟩ := Value.writes_of_unwrap hc hv
      refine .inr ⟨value, rfl, Text.isBlankText_eq_false_iff.mp hblank, ⟨p, hf, hm⟩, ?_⟩
      exact hf.wrapped_or_plain.imp_right fun hp => (cut?_eq_none_iff hp.ordinary).mp hcolon
    · obtain ⟨items, hitems, h⟩ := bind_eq_ok_iff.mp h
      cases h
      rw [Segment.mapM_dimension_eq_ok_iff (closed_layOut hclosed 0), text_layOut] at hitems
      exact .inl ⟨items, rfl, parts, hne, htext, hitems⟩

theorem shows_of_parse {text : String} {e : LocatorError} (h : parse text = .error e) :
    Shows text.toList e := by
  rw [parse] at h
  split at h
  · cases h
    exact ⟨_, text, rfl, List.infix_rfl⟩
  · rcases bind_eq_error_iff.mp h with h | ⟨segs, hsegs, h⟩
    · exact shows_of_segments h
    · obtain ⟨parts, hne, hclosed, htext, rfl⟩ := segments_eq_ok_iff.mp hsegs
      split at h
      · rcases bind_eq_error_iff.mp h with h | ⟨value, -, h⟩
        · exact Value.shows_of_unwrap h
        · cases h
      · rcases bind_eq_error_iff.mp h with h | ⟨items, -, h⟩
        · obtain ⟨s, hs, h⟩ := exists_of_mapM_eq_error h
          refine (Segment.shows_of_dimension h).mono ?_
          rw [htext]
          apply part_infix_intercalate
          rw [← text_layOut 0 parts]
          exact List.mem_map_of_mem hs
        · cases h

/-- Reading accepts exactly the grammar: a list of dimensions or a lone value where the text writes
one, and for any other text an error that shows a part of it. -/
theorem parse_accepts_grammar (text : String) :
    (∀ items, parse text = .ok (.dimensions items) ↔ WritesList text.toList items) ∧
    (∀ value taken, parse text = .ok (.single value taken) ↔
      taken = false ∧ WritesAlone text.toList value.toList) ∧
    ((∃ items, WritesList text.toList items) ∨ (∃ value, WritesAlone text.toList value) ∨
      ∃ fault fragment, parse text = .error (.malformed fault fragment) ∧
        fragment.toList <:+: text.toList) := by
  refine ⟨fun items => ⟨fun h => ?_, parse_of_writesList⟩, fun value taken => ⟨fun h => ?_, ?_⟩, ?_⟩
  · rcases writes_of_parse h with ⟨items', he, hw⟩ | ⟨value, he, -⟩
    · cases he
      exact hw
    · cases he
  · rcases writes_of_parse h with ⟨items', he, -⟩ | ⟨value', he, hw⟩
    · cases he
    · cases he
      rw [String.toList_ofList]
      exact ⟨rfl, hw⟩
  · rintro ⟨rfl, hw⟩
    rw [parse_of_writesAlone hw, String.ofList_toList]
    rfl
  · cases h : parse text with
    | ok l =>
      rcases writes_of_parse h with ⟨items, -, hw⟩ | ⟨value, -, hw⟩
      · exact .inl ⟨items, hw⟩
      · exact .inr (.inl ⟨value, hw⟩)
    | error e =>
      obtain ⟨fault, fragment, rfl, hf⟩ := shows_of_parse h
      exact .inr (.inr ⟨fault, fragment, rfl, hf⟩)

end Locator

end LocatorQuery
