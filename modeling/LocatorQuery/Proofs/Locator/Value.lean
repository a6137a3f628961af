import LocatorQuery.Locator.Value
import LocatorQuery.Proofs.Text.Base64Url
import LocatorQuery.Proofs.Text.Bytes
import LocatorQuery.Proofs.Locator.Segments

/-! The grammar of values: which texts write a value, and that reading accepts just these. -/
namespace LocatorQuery.Value
open Nesting Outcome

def IsPlain (raw : List Char) : Prop := ∀ c ∈ raw, c ≠ ',' ∧ c ≠ '(' ∧ c ≠ ')'

def IsWrapped (raw : List Char) : Prop := ∃ body, Balanced body ∧ raw = '(' :: (body ++ [')'])

/-- The written forms of a payload: as it stands, or inside one group. -/
inductive Form : List Char → List Char → Prop
  | plain {payload} : IsPlain payload → Form payload payload
  | wrapped {payload} : Balanced payload → Form ('(' :: (payload ++ [')'])) payload

/-- The value that a payload stands for: itself, unless it starts as an escaped value does. -/
inductive Meaning : List Char → List Char → Prop
  | literal {payload} : ¬ escapeMark <+: payload → Meaning payload payload
  | escaped (value) : Meaning (escape value) value

def Writes (raw value : List Char) : Prop := ∃ payload, Form raw payload ∧ Meaning payload value

theorem isParenthesis_eq_false_iff {c : Char} : isParenthesis c = false ↔ IsOrdinary c := by
  simp [isParenthesis, IsOrdinary]

/-! The body of a group that makes up a text. -/

theorem body?_open (d : Nat) (cs : List Char) :
    body? d ('(' :: cs) = (body? (d + 1) cs).map ('(' :: ·) := by cases d <;> rfl

theorem body?_close_succ (d : Nat) (cs : List Char) :
    body? (d + 1) (')' :: cs) = (body? d cs).map (')' :: ·) := rfl

theorem body?_ordinary {c : Char} (h : IsOrdinary c) (d : Nat) (cs : List Char) :
    body? d (c :: cs) = (body? d cs).map (c :: ·) := by
  cases d with
  | zero => rw [body?] <;> simp [h.1, h.2]
  | succ d => rw [body?] <;> simp [h.1, h.2]

theorem body?_append_close {d : Nat} {inner : List Char} (h : depth? d inner = some 0) :
    body? d (inner ++ [')']) = some inner := by
  induction inner generalizing d with
  | nil =>
    rw [depth?_nil] at h
    cases h
    rfl
  | cons c inner ih =>
    rcases char_cases c with rfl | rfl | hc
    · rw [depth?_open] at h
      rw [List.cons_append, body?_open, ih h, Option.map_some]
    · cases d with
      | zero => cases h
      | succ d =>
        rw [depth?_close_succ] at h
        rw [List.cons_append, body?_close_succ, ih h, Option.map_some]
    · rw [depth?_ordinary hc] at h
      rw [List.cons_append, body?_ordinary hc, ih h, Option.map_some]

theorem of_body? {d : Nat} {cs inner : List Char} (h : body? d cs = some inner) :
    cs = inner ++ [')'] ∧ depth? d inner = some 0 := by
  induction cs generalizing d inner with
  | nil => cases d <;> cases h
  | cons c cs ih =>
    rcases char_cases c with rfl | rfl | hc
    · rw [body?_open, Option.map_eq_some_iff] at h
      obtain ⟨inner', h, rfl⟩ := h
      obtain ⟨rfl, hd⟩ := ih h
      exact ⟨rfl, hd⟩
    · cases d with
      | zero =>
        cases cs with
        | nil =>
          cases h
          exact ⟨rfl, rfl⟩
        | cons x cs => cases h
      | succ d =>
        rw [body?_close_succ, Option.map_eq_some_iff] at h
        obtain ⟨inner', h, rfl⟩ := h
        obtain ⟨rfl, hd⟩ := ih h
        exact ⟨rfl, hd⟩
    · rw [body?_ordinary hc, Option.map_eq_some_iff] at h
      obtain ⟨inner', h, rfl⟩ := h
      obtain ⟨rfl, hd⟩ := ih h
      rw [depth?_ordinary hc]
      exact ⟨rfl, hd⟩

/-! Payloads. -/

theorem payload_wrapped {body : List Char} (h : Balanced body) :
    payload ('(' :: (body ++ [')'])) = .ok body := by
  rw [payload, body?_append_close (balanced_iff_depth?.mp h)]

theorem any_isParenthesis_eq_false_iff {raw : List Char} :
    raw.any isParenthesis = false ↔ ∀ c ∈ raw, IsOrdinary c := by
  simp only [List.any_eq_false, Bool.not_eq_true, isParenthesis_eq_false_iff]

theorem payload_ordinary {raw : List Char} (h : ∀ c ∈ raw, IsOrdinary c) : payload raw = .ok raw := by
  unfold payload
  simp only [any_isParenthesis_eq_false_iff.mpr h, Bool.false_eq_true, if_false]
  split
  · next cs => exact absurd rfl (h '(' List.mem_cons_self).1
  · rfl

theorem payload_loose {raw : List Char} (h : ¬ ∀ c ∈ raw, IsOrdinary c) (hw : ¬ IsWrapped raw) :
    payload raw = .error (.malformed .looseParenthesis (String.ofList raw)) := by
  rw [← any_isParenthesis_eq_false_iff, Bool.not_eq_false] at h
  unfold payload
  simp only [h, if_true]
  split
  · next cs =>
    cases hb : body? 0 cs with
    | none => rfl
    | some body =>
      obtain ⟨rfl, hd⟩ := of_body? hb
      exact absurd ⟨body, balanced_iff_depth?.mpr hd, rfl⟩ hw
  · rfl

theorem of_payload {raw p : List Char} (h : payload raw = .ok p) :
    (raw = '(' :: (p ++ [')']) ∧ Balanced p) ∨ (raw = p ∧ ∀ c ∈ raw, IsOrdinary c) := by
  by_cases ho : ∀ c ∈ raw, IsOrdinary c
  · rw [payload_ordinary ho] at h
    cases h
    exact .inr ⟨rfl, ho⟩
  · by_cases hw : IsWrapped raw
    · obtain ⟨body, hb, rfl⟩ := hw
      rw [payload_wrapped hb] at h
      cases h
      exact .inl ⟨rfl, hb⟩
    · rw [payload_loose ho hw] at h
      cases h

theorem shows_of_payload {raw : List Char} {e : LocatorError} (h : payload raw = .error e) :
    Shows raw e := by
  by_cases ho : ∀ c ∈ raw, IsOrdinary c
  · rw [payload_ordinary ho] at h
    cases h
  · by_cases hw : IsWrapped raw
    · obtain ⟨body, hb, rfl⟩ := hw
      rw [payload_wrapped hb] at h
      cases h
    · rw [payload_loose ho hw] at h
      cases h
      exact shows_part List.infix_rfl _

/-! Escaped values. -/

/-- Symbols of base64 are ASCII characters with no meaning in a locator. -/
theorem symbol_facts {b : UInt8} (h : (Text.Base64Url.value? b).isSome) :
    b.toNat < 128 ∧ isReserved (Char.ofNat b.toNat) = false := by
  have all : ∀ n < 256, (Text.Base64Url.value? (UInt8.ofNat n)).isSome →
      n < 128 ∧ isReserved (Char.ofNat n) = false := by decide +kernel
  have hb := all b.toNat b.toNat_lt
  rw [UInt8.ofNat_toNat] at hb
  exact hb h

theorem bytes_charsOf_encode (bs : List UInt8) :
    Text.bytes (String.ofList (Text.charsOf (Text.Base64Url.encode bs))) =
      Text.Base64Url.encode bs :=
  Text.bytes_charsOf fun _ hb => (symbol_facts (Text.Base64Url.value?_of_mem_encode hb)).1

theorem escape_eq (value : List Char) :
    escape value = escapeMark ++
      Text.charsOf (Text.Base64Url.encode (Text.bytes (String.ofList value))) := rfl

theorem unescape_eq_ok_iff {encoded value : List Char} :
    unescape encoded = .ok value ↔ escapeMark ++ encoded = escape value := by
  rw [escape_eq, List.append_cancel_left_eq]
  constructor
  · intro h
    dsimp only [unescape] at h
    split at h
    · cases h
    · next decoded hd =>
      rw [Text.Base64Url.decode_eq_ok_iff] at hd
      split at h
      · next text ht =>
        cases h
        rw [String.ofList_toList, Text.bytes_of_ofBytes? ht]
        rw [← bytes_charsOf_encode] at hd
        exact String.ofList_injective (Text.bytes_injective hd)
      · cases h
  · rintro rfl
    unfold unescape
    simp only [bytes_charsOf_encode, Text.Base64Url.decode_encode, Text.ofBytes?_bytes,
      String.toList_ofList]

theorem shows_of_unescape {encoded : List Char} {e : LocatorError} (h : unescape encoded = .error e) :
    Shows encoded e := by
  dsimp only [unescape] at h
  split at h
  · cases h
    exact shows_part List.infix_rfl _
  · split at h
    · cases h
    · cases h
      exact shows_part List.infix_rfl _

theorem escapeMark_prefix_escape (value : List Char) : escapeMark <+: escape value :=
  List.prefix_append escapeMark _

/-- Reading gives a value exactly when the payload stands for it. -/
theorem unwrap_eq_ok_iff {raw value : List Char} :
    unwrap raw = .ok value ↔ ∃ p, payload raw = .ok p ∧ Meaning p value := by
  rw [unwrap, bind_eq_ok_iff]
  refine exists_congr fun p => and_congr_right fun _ => ?_
  by_cases hm : escapeMark <+: p
  · obtain ⟨encoded, rfl⟩ := hm
    simp only [List.isPrefixOf_iff_prefix, List.prefix_append, if_true, List.drop_left,
      unescape_eq_ok_iff]
    constructor
    · intro h
      rw [h]
      exact .escaped value
    · rintro (h | h)
      · exact absurd (List.prefix_append escapeMark encoded) ‹_›
      · rfl
  · simp only [List.isPrefixOf_iff_prefix, hm, if_false]
    constructor
    · intro h
      cases h
      exact .literal hm
    · rintro (h | h)
      · rfl
      · exact absurd (escapeMark_prefix_escape value) hm

theorem shows_of_unwrap {raw : List Char} {e : LocatorError} (h : unwrap raw = .error e) :
    Shows raw e := by
  rw [unwrap, bind_eq_error_iff] at h
  rcases h with h | ⟨p, hp, h⟩
  · exact shows_of_payload h
  · split at h
    · refine (shows_of_unescape h).mono ((List.drop_suffix _ p).isInfix.trans ?_)
      rcases of_payload hp with ⟨rfl, -⟩ | ⟨rfl, -⟩
      · exact ⟨['('], [')'], rfl⟩
      · exact List.infix_rfl
    · cases h

/-! The grammar. -/

theorem IsPlain.ordinary {raw : List Char} (h : IsPlain raw) : ∀ c ∈ raw, IsOrdinary c :=
  fun c hc => (h c hc).2

theorem Form.wrapped_or_plain {raw p : List Char} (h : Form raw p) : IsWrapped raw ∨ IsPlain raw := by
  cases h with
  | plain h => exact .inr h
  | wrapped h => exact .inl ⟨p, h, rfl⟩

theorem Form.payload_eq {raw p : List Char} (h : Form raw p) : payload raw = .ok p := by
  cases h with
  | plain h => exact payload_ordinary h.ordinary
  | wrapped h => exact payload_wrapped h

/-- A text without a comma at top level that has a payload is a written form of it. -/
theorem form_of_payload {raw p : List Char} (hc : cut? ',' 0 raw = none) (h : payload raw = .ok p) :
    Form raw p := by
  rcases of_payload h with ⟨rfl, hb⟩ | ⟨rfl, ho⟩
  · exact .wrapped hb
  · rw [cut?_eq_none_iff ho] at hc
    refine .plain fun c hm => ⟨?_, ho c hm⟩
    rintro rfl
    exact hc hm

theorem unwrap_of_writes {raw value : List Char} (h : Writes raw value) :
    unwrap raw = .ok value := by
  obtain ⟨p, hf, hm⟩ := h
  exact unwrap_eq_ok_iff.mpr ⟨p, hf.payload_eq, hm⟩

theorem writes_of_unwrap {raw value : List Char} (hc : cut? ',' 0 raw = none)
    (h : unwrap raw = .ok value) : Writes raw value := by
  obtain ⟨p, hp, hm⟩ := unwrap_eq_ok_iff.mp h
  exact ⟨p, form_of_payload hc hp, hm⟩

/-- A group and what it encloses stand apart from the top level. -/
theorem cut?_wrapped {body : List Char} (h : Balanced body) (n : Char) :
    cut? n 0 ('(' :: (body ++ [')'])) = none := by
  rw [balanced_iff_depth?] at h
  rw [cut?_open, cut?_append (depth?_add h 1) (cut?_of_depth? h n), cut?_close, cut?_nil]
  rfl

theorem depth?_wrapped {body : List Char} (h : Balanced body) :
    depth? 0 ('(' :: (body ++ [')'])) = some 0 := by
  rw [balanced_iff_depth?] at h
  rw [depth?_open, depth?_append, depth?_add h 1]
  rfl

theorem Form.closed {raw p : List Char} (h : Form raw p) : Closed raw := by
  cases h with
  | plain h =>
    refine ⟨depth?_of_ordinary h.ordinary 0, ?_⟩
    rw [cut?_eq_none_iff h.ordinary]
    exact fun hm => (h ',' hm).1 rfl
  | wrapped h => exact ⟨depth?_wrapped h, cut?_wrapped h ','⟩

theorem isReserved_eq_false_iff {c : Char} :
    isReserved c = false ↔ c ≠ ',' ∧ c ≠ '(' ∧ c ≠ ')' := by
  simp [isReserved, isParenthesis]

theorem isPlain_iff {raw : List Char} : IsPlain raw ↔ raw.any isReserved = false := by
  simp only [IsPlain, List.any_eq_false, Bool.not_eq_true, isReserved_eq_false_iff]

theorem isPlain_escape (value : List Char) : IsPlain (escape value) := by
  rw [isPlain_iff, escape_eq, List.any_append, Bool.or_eq_false_iff]
  refine ⟨by decide, ?_⟩
  rw [List.any_eq_false]
  intro c hc
  obtain ⟨b, hb, rfl⟩ := List.mem_map.mp hc
  rw [(symbol_facts (Text.Base64Url.value?_of_mem_encode hb)).2]
  exact Bool.false_ne_true

/-- Whatever a value holds, its written form is one of the grammar and stands for it. -/
theorem writes_wrap (value : List Char) : Writes (wrap value) value := by
  unfold wrap
  split
  · exact ⟨escape value, .plain (isPlain_escape value), .escaped value⟩
  · next h =>
    simp only [Bool.or_eq_true, Bool.not_eq_true', not_or, Bool.not_eq_false,
      List.isPrefixOf_iff_prefix] at h
    refine ⟨value, ?_, .literal h.1⟩
    split
    · exact .wrapped (isBalanced_iff.mp h.2)
    · next hr => exact .plain (isPlain_iff.mpr (Bool.eq_false_iff.mpr hr))

end LocatorQuery.Value
