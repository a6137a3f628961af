import LocatorQuery.Proofs.Locator.Grammar

/-! Lone values and their text. Whatever would turn a lone value into something else is wrapped or
escaped, except for blanks: a value of blanks only is written as it stands, and that text is no
locator. -/
namespace LocatorQuery
open Nesting

theorem Text.ne_of_isBlank {c : Char} (h : isBlank c = true) :
    c ≠ ',' ∧ c ≠ ':' ∧ c ≠ '$' ∧ IsOrdinary c := by
  refine ⟨?_, ?_, ?_, ?_, ?_⟩
  all_goals
    rintro rfl
    revert h
    decide

namespace Value

theorem IsPlain.balanced {raw : List Char} (h : IsPlain raw) : Balanced raw := by
  rw [balanced_iff_depth?]
  exact depth?_of_ordinary h.ordinary 0

theorem IsPlain.head?_ne {raw : List Char} (h : IsPlain raw) : raw.head? ≠ some '(' := by
  intro hhead
  exact (h '(' (List.mem_of_head? hhead)).2.1 rfl

/-- A written form that does not open a group stands for its value without one. -/
theorem Form.plain_of_head? {raw payload : List Char} (h : Form raw payload)
    (hhead : raw.head? ≠ some '(') : IsPlain raw ∧ payload = raw := by
  cases h with
  | plain hp => exact ⟨hp, rfl⟩
  | wrapped hb => exact absurd rfl hhead

theorem Meaning.eq_of_notMem {payload value : List Char} (h : Meaning payload value)
    (hcolon : ':' ∉ payload) : value = payload := by
  cases h with
  | literal => rfl
  | escaped =>
    have hmark : ':' ∈ escapeMark := by decide
    exact absurd ((escapeMark_prefix_escape value).subset hmark) hcolon

/-- The text of a lone value is one group, or the value itself without a colon. -/
theorem wrapAlone_cases (value : List Char) :
    (Writes (wrapAlone value) value ∧ IsWrapped (wrapAlone value)) ∨
      (value ≠ [] ∧ IsPlain value ∧ Meaning value value ∧ ':' ∉ value ∧ wrapAlone value = value) := by
  obtain ⟨payload, hform, hmeaning⟩ := writes_wrap value
  by_cases hhead : (wrap value).head? = some '('
  · have halone : wrapAlone value = wrap value := by simp [wrapAlone, hhead]
    left
    rw [halone]
    refine ⟨⟨payload, hform, hmeaning⟩, ?_⟩
    rcases hform.wrapped_or_plain with hwrapped | hplain
    · exact hwrapped
    · exact absurd hhead hplain.head?_ne
  · obtain ⟨hplain, rfl⟩ := hform.plain_of_head? hhead
    by_cases hguard : ':' ∈ wrap value ∨ wrap value = []
    · have halone : wrapAlone value = '(' :: (wrap value ++ [')']) := by
        simp [wrapAlone, hhead, hguard]
      left
      rw [halone]
      exact ⟨⟨_, .wrapped hplain.balanced, hmeaning⟩, _, hplain.balanced, rfl⟩
    · have halone : wrapAlone value = wrap value := by simp [wrapAlone, hhead, hguard]
      obtain ⟨hcolon, hne⟩ := not_or.mp hguard
      have hvalue := hmeaning.eq_of_notMem hcolon
      right
      rw [← hvalue] at hplain hmeaning hcolon hne
      exact ⟨hne, hplain, hmeaning, hcolon, halone.trans hvalue.symm⟩

/-- Blanks need neither a group nor an escape, so a value made of them is written as it stands. -/
theorem wrapAlone_of_blank {value : List Char} (hne : value ≠ [])
    (hblank : ∀ c ∈ value, Text.isBlank c = true) : wrapAlone value = value := by
  have hplain : IsPlain value := by
    intro c hc
    have hfacts := Text.ne_of_isBlank (hblank c hc)
    exact ⟨hfacts.1, hfacts.2.2.2⟩
  have hmark : escapeMark.isPrefixOf value = false := by
    cases value with
    | nil => rfl
    | cons c cs =>
      have hdollar := (Text.ne_of_isBlank (hblank c List.mem_cons_self)).2.2.1
      simp [escapeMark, List.isPrefixOf, hdollar.symm]
  have hwrap : wrap value = value := by
    simp [wrap, hmark, isBalanced_iff.mpr hplain.balanced, isPlain_iff.mp hplain]
  have hcolon : ':' ∉ value := fun hc => (Text.ne_of_isBlank (hblank _ hc)).2.1 rfl
  simp [wrapAlone, hwrap, hplain.head?_ne, hcolon, hne]

end Value

namespace Locator

theorem writesAlone_render {value : String}
    (seen : value = "" ∨ Text.isBlankText value = false) :
    WritesAlone (ofValue value).render.toList value.toList := by
  have hrender : (ofValue value).render.toList = Value.wrapAlone value.toList :=
    String.toList_ofList
  rw [hrender]
  rcases Value.wrapAlone_cases value.toList with ⟨hwrites, hwrapped⟩ | ⟨hne, hplain, hm, hcolon, he⟩
  · refine ⟨⟨'(', ?_, by decide⟩, hwrites, .inl hwrapped⟩
    obtain ⟨body, -, hbody⟩ := hwrapped
    simp [hbody]
  · rw [he]
    refine ⟨?_, ⟨_, .plain hplain, hm⟩, .inr hcolon⟩
    rcases seen with rfl | hseen
    · exact absurd rfl hne
    · exact Text.isBlankText_eq_false_iff.mp hseen

theorem render_of_blank {value : String} (hne : value ≠ "")
    (hblank : Text.isBlankText value = true) : (ofValue value).render = value := by
  have hall : ∀ c ∈ value.toList, Text.isBlank c = true := by
    simpa [Text.isBlankText] using hblank
  have hlist : value.toList ≠ [] := by
    intro h
    exact hne (String.toList_eq_nil_iff.mp h)
  have hwrap := Value.wrapAlone_of_blank hlist hall
  change String.ofList (Value.wrapAlone value.toList) = value
  rw [hwrap, String.ofList_toList]

/-- The text of a lone value reads back as that value just when it can be seen to hold something:
a value of blanks only is taken for no locator at all. -/
theorem parse_render_ofValue (value : String) :
    parse (ofValue value).render =
      if value = "" ∨ Text.isBlankText value = false then .ok (ofValue value)
      else .error (.malformed .blank value) := by
  split
  · next seen =>
    rw [parse_of_writesAlone (writesAlone_render seen), String.ofList_toList]
  · next unseen =>
    simp only [not_or, Bool.not_eq_false] at unseen
    rw [render_of_blank unseen.1 unseen.2, parse, if_pos unseen.2]

end Locator

end LocatorQuery
