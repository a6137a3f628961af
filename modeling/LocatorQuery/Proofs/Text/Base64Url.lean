import LocatorQuery.Text.Base64Url
import LocatorQuery.Proofs.Outcome

/-! Reading base64 accepts exactly what writing produces. -/
namespace LocatorQuery.Text.Base64Url
open Outcome

theorem value?_symbol {v : Nat} (h : v < 64) : value? (symbol v) = some v := by
  have all : ∀ w < 64, value? (symbol w) = some w := by decide +kernel
  exact all v h

theorem symbol_of_value? {b : UInt8} {v : Nat} (h : value? b = some v) :
    v < 64 ∧ b = symbol v := by
  have all : ∀ n < 256, ∀ w ∈ value? (UInt8.ofNat n), w < 64 ∧ UInt8.ofNat n = symbol w := by
    decide +kernel
  have hb := all b.toNat b.toNat_lt_size v
  rw [UInt8.ofNat_toNat] at hb
  exact hb h

theorem symbol_ne_pad {v : Nat} (h : v < 64) : symbol v ≠ pad := by
  intro he
  have hv := value?_symbol h
  rw [he] at hv
  cases hv

theorem symbolAt_symbol {v : Nat} (h : v < 64) (offset : Nat) :
    symbolAt (symbol v) offset = .ok v := by
  rw [symbolAt, value?_symbol h]

theorem symbol_of_symbolAt {b : UInt8} {offset v : Nat} (h : symbolAt b offset = .ok v) :
    v < 64 ∧ b = symbol v := by
  unfold symbolAt at h
  split at h
  · next w hw =>
    cases h
    exact symbol_of_value? hw
  · cases h

/-- Three bytes are cut into four values, and the values make up the bytes again. -/
theorem bytes_of_values (a b c : UInt8) :
    UInt8.ofNat (a.toNat / 4 * 4 + (a.toNat % 4 * 16 + b.toNat / 16) / 16) = a ∧
    UInt8.ofNat ((a.toNat % 4 * 16 + b.toNat / 16) % 16 * 16 +
      (b.toNat % 16 * 4 + c.toNat / 64) / 4) = b ∧
    UInt8.ofNat ((b.toNat % 16 * 4 + c.toNat / 64) % 4 * 64 + c.toNat % 64) = c := by
  have ha := a.toNat_lt
  have hb := b.toNat_lt
  have hc := c.toNat_lt
  refine ⟨?_, ?_, ?_⟩
  · rw [show a.toNat / 4 * 4 + (a.toNat % 4 * 16 + b.toNat / 16) / 16 = a.toNat by omega,
      UInt8.ofNat_toNat]
  · rw [show (a.toNat % 4 * 16 + b.toNat / 16) % 16 * 16 +
      (b.toNat % 16 * 4 + c.toNat / 64) / 4 = b.toNat by omega, UInt8.ofNat_toNat]
  · rw [show (b.toNat % 16 * 4 + c.toNat / 64) % 4 * 64 + c.toNat % 64 = c.toNat by omega,
      UInt8.ofNat_toNat]

theorem lastValues_symbols (start : Nat) (vs : List Nat) (h : ∀ v ∈ vs, v < 64) (i : Nat) :
    lastValues start i none (vs.map symbol) = .ok (vs, false) := by
  induction vs generalizing i with
  | nil => rfl
  | cons v vs ih =>
    have hv : v < 64 := h v List.mem_cons_self
    rw [List.map_cons, lastValues, if_neg (symbol_ne_pad hv)]
    simp only [symbolAt_symbol hv, ih (fun w hw => h w (List.mem_cons_of_mem v hw))]
    rfl

/-- Once a padding sign has been seen, only padding signs may follow. -/
theorem of_lastValues_padded {start i first : Nat} {group : List UInt8} {r : List Nat × Bool}
    (h : lastValues start i (some first) group = .ok r) : r = ([], true) := by
  induction group generalizing i with
  | nil => cases h; rfl
  | cons b group ih =>
    rw [lastValues] at h
    split at h
    · split at h
      · cases h
      · exact ih h
    · cases h

theorem of_lastValues {start i : Nat} {group : List UInt8} {vs : List Nat} {padded : Bool}
    (h : lastValues start i none group = .ok (vs, padded)) :
    (∀ v ∈ vs, v < 64) ∧ vs.length ≤ group.length ∧
      (padded = true → vs.length < group.length) ∧ (padded = false → group = vs.map symbol) := by
  induction group generalizing i vs padded with
  | nil => cases h; simp
  | cons b group ih =>
    rw [lastValues] at h
    split at h
    · split at h
      · cases h
      · cases of_lastValues_padded h
        simp
    · cases hb : symbolAt b (start + i) with
      | error e => rw [hb] at h; cases h
      | ok v =>
        cases hr : lastValues start (i + 1) none group with
        | error e => rw [hb, hr] at h; cases h
        | ok r =>
          rw [hb, hr] at h
          cases h
          obtain ⟨hlt, hlen, hpad, heq⟩ := ih hr
          obtain ⟨hv, rfl⟩ := symbol_of_symbolAt hb
          refine ⟨?_, ?_, ?_, ?_⟩
          · intro w hw
            rcases List.mem_cons.mp hw with rfl | hw
            · exact hv
            · exact hlt w hw
          · simpa using hlen
          · simpa using hpad
          · intro hp
            rw [List.map_cons, ← heq hp]

theorem lastGroup_two {v w : Nat} (start : Nat) (hv : v < 64) (hw : w < 64) (hz : w % 16 = 0) :
    lastGroup start [symbol v, symbol w] = .ok [UInt8.ofNat (v * 4 + w / 16)] := by
  have hs := lastValues_symbols start [v, w] (by simp [hv, hw]) 0
  simp only [List.map_cons, List.map_nil] at hs
  simp only [lastGroup, hs]
  exact if_neg fun hne => hne hz

theorem lastGroup_three {v w x : Nat} (start : Nat) (hv : v < 64) (hw : w < 64) (hx : x < 64)
    (hz : x % 4 = 0) :
    lastGroup start [symbol v, symbol w, symbol x] =
      .ok [UInt8.ofNat (v * 4 + w / 16), UInt8.ofNat (w % 16 * 16 + x / 4)] := by
  have hs := lastValues_symbols start [v, w, x] (by simp [hv, hw, hx]) 0
  simp only [List.map_cons, List.map_nil] at hs
  simp only [lastGroup, hs]
  exact if_neg fun hne => hne hz

theorem lastGroup_four {v w x y : Nat} (start : Nat) (hv : v < 64) (hw : w < 64) (hx : x < 64)
    (hy : y < 64) :
    lastGroup start [symbol v, symbol w, symbol x, symbol y] =
      .ok [UInt8.ofNat (v * 4 + w / 16), UInt8.ofNat (w % 16 * 16 + x / 4),
        UInt8.ofNat (x % 4 * 64 + y)] := by
  have hs := lastValues_symbols start [v, w, x, y] (by simp [hv, hw, hx, hy]) 0
  simp only [List.map_cons, List.map_nil] at hs
  simp only [lastGroup, hs]
  rfl

theorem groups_quad {start v w x y : Nat} {rest decoded : List UInt8}
    (hv : v < 64) (hw : w < 64) (hx : x < 64) (hy : y < 64)
    (h : groups (start + 4) rest = .ok decoded) :
    groups start (symbol v :: symbol w :: symbol x :: symbol y :: rest) =
      .ok (UInt8.ofNat (v * 4 + w / 16) :: UInt8.ofNat (w % 16 * 16 + x / 4) ::
        UInt8.ofNat (x % 4 * 64 + y) :: decoded) := by
  cases rest with
  | nil =>
    cases h
    exact lastGroup_four start hv hw hx hy
  | cons e rest =>
    simp only [groups, symbolAt_symbol hv, symbolAt_symbol hw, symbolAt_symbol hx,
      symbolAt_symbol hy, h]
    rfl

theorem groups_encode (bs : List UInt8) (start : Nat) : groups start (encode bs) = .ok bs := by
  induction bs using encode.induct generalizing start with
  | case1 a b c rest ih =>
    have ha := a.toNat_lt
    have hb := b.toNat_lt
    have hc := c.toNat_lt
    obtain ⟨h₁, h₂, h₃⟩ := bytes_of_values a b c
    rw [encode, groups_quad (by omega) (by omega) (by omega) (by omega) (ih (start + 4)),
      h₁, h₂, h₃]
  | case2 a b =>
    have ha := a.toNat_lt
    have hb := b.toNat_lt
    obtain ⟨h₁, h₂, -⟩ := bytes_of_values a b 0
    have hl := lastGroup_three start (v := a.toNat / 4) (w := a.toNat % 4 * 16 + b.toNat / 16)
      (x := b.toNat % 16 * 4) (by omega) (by omega) (by omega) (by omega)
    simp only [UInt8.toNat_zero, Nat.zero_div, Nat.add_zero] at h₂
    rw [h₁, h₂] at hl
    exact hl
  | case3 a =>
    have ha := a.toNat_lt
    obtain ⟨h₁, -, -⟩ := bytes_of_values a 0 0
    have hl := lastGroup_two start (v := a.toNat / 4) (w := a.toNat % 4 * 16)
      (by omega) (by omega) (by omega)
    simp only [UInt8.toNat_zero, Nat.zero_div, Nat.add_zero] at h₁
    rw [h₁] at hl
    exact hl
  | case4 => rfl

/-- Four values make up three bytes, and the bytes are cut into the values again. -/
theorem values_of_bytes {v w x y : Nat} (hv : v < 64) (hw : w < 64) (hx : x < 64) (hy : y < 64) :
    (UInt8.ofNat (v * 4 + w / 16)).toNat / 4 = v ∧
    (UInt8.ofNat (v * 4 + w / 16)).toNat % 4 * 16 +
      (UInt8.ofNat (w % 16 * 16 + x / 4)).toNat / 16 = w ∧
    (UInt8.ofNat (w % 16 * 16 + x / 4)).toNat % 16 * 4 +
      (UInt8.ofNat (x % 4 * 64 + y)).toNat / 64 = x ∧
    (UInt8.ofNat (x % 4 * 64 + y)).toNat % 64 = y := by
  simp only [UInt8.toNat_ofNat']
  omega

theorem encode_two {v w : Nat} (hv : v < 64) (hw : w < 64) (hz : w % 16 = 0) :
    encode [UInt8.ofNat (v * 4 + w / 16)] = [symbol v, symbol w] := by
  obtain ⟨h₁, h₂, -, -⟩ := values_of_bytes hv hw (x := 0) (y := 0) (by decide) (by decide)
  have hs : (UInt8.ofNat (v * 4 + w / 16)).toNat % 4 * 16 = w := by simpa [hz] using h₂
  rw [encode, h₁, hs]

theorem encode_three {v w x : Nat} (hv : v < 64) (hw : w < 64) (hx : x < 64) (hz : x % 4 = 0) :
    encode [UInt8.ofNat (v * 4 + w / 16), UInt8.ofNat (w % 16 * 16 + x / 4)] =
      [symbol v, symbol w, symbol x] := by
  obtain ⟨h₁, h₂, h₃, -⟩ := values_of_bytes hv hw hx (y := 0) (by decide)
  have hs : (UInt8.ofNat (w % 16 * 16 + x / 4)).toNat % 16 * 4 = x := by simpa [hz] using h₃
  rw [encode, h₁, h₂, hs]

theorem encode_quad {v w x y : Nat} (hv : v < 64) (hw : w < 64) (hx : x < 64) (hy : y < 64)
    (rest : List UInt8) :
    encode (UInt8.ofNat (v * 4 + w / 16) :: UInt8.ofNat (w % 16 * 16 + x / 4) ::
      UInt8.ofNat (x % 4 * 64 + y) :: rest) =
      symbol v :: symbol w :: symbol x :: symbol y :: encode rest := by
  obtain ⟨h₁, h₂, h₃, h₄⟩ := values_of_bytes hv hw hx hy
  rw [encode, h₁, h₂, h₃, h₄]

theorem eq_encode_of_lastGroup {start : Nat} {group bs : List UInt8} (hlen : group.length ≤ 4)
    (h : lastGroup start group = .ok bs) : group = encode bs := by
  unfold lastGroup at h
  cases hl : lastValues start 0 none group with
  | error e => rw [hl] at h; cases h
  | ok r =>
    obtain ⟨vs, padded⟩ := r
    rw [hl] at h
    obtain ⟨hlt, hle, hpad, heq⟩ := of_lastValues hl
    simp only [Bind.bind, Except.bind] at h
    -- Two or three values stand for one or two bytes if the bits that are left over are zero.
    rcases vs with _ | ⟨v, _ | ⟨w, _ | ⟨x, _ | ⟨y, vs⟩⟩⟩⟩
    · cases group with
      | nil => cases h; rfl
      | cons b group => cases h
    · cases h
    · cases padded with
      | true => cases h
      | false =>
        simp only [List.forall_mem_cons] at hlt
        by_cases hz : w % 16 = 0
        · simp only [hz, ne_eq, not_true_eq_false, if_false, Bool.false_eq_true] at h
          cases h
          rw [heq rfl, encode_two hlt.1 hlt.2.1 hz]
          rfl
        · simp [hz] at h
    · cases padded with
      | true => cases h
      | false =>
        simp only [List.forall_mem_cons] at hlt
        by_cases hz : x % 4 = 0
        · simp only [hz, ne_eq, not_true_eq_false, if_false, Bool.false_eq_true] at h
          cases h
          rw [heq rfl, encode_three hlt.1 hlt.2.1 hlt.2.2.1 hz]
          rfl
        · simp [hz] at h
    · cases h
      have hp : padded = false := by
        cases padded with
        | false => rfl
        | true =>
          have := hpad rfl
          simp only [List.length_cons] at this
          omega
      have hnil : vs = [] := by
        rw [← List.length_eq_zero_iff]
        simp only [List.length_cons] at hle
        omega
      subst hnil
      simp only [List.forall_mem_cons] at hlt
      rw [heq hp, encode_quad hlt.1 hlt.2.1 hlt.2.2.1 hlt.2.2.2.1]
      rfl

theorem eq_encode_of_groups {start : Nat} {encoded bs : List UInt8}
    (h : groups start encoded = .ok bs) : encoded = encode bs := by
  induction start, encoded using groups.induct generalizing bs with
  | case1 start a b c d e rest ih =>
    simp only [groups, bind_eq_ok_iff] at h
    obtain ⟨v, hv, w, hw, x, hx, y, hy, decoded, hd, h⟩ := h
    obtain ⟨lv, rfl⟩ := symbol_of_symbolAt hv
    obtain ⟨lw, rfl⟩ := symbol_of_symbolAt hw
    obtain ⟨lx, rfl⟩ := symbol_of_symbolAt hx
    obtain ⟨ly, rfl⟩ := symbol_of_symbolAt hy
    cases h
    rw [encode_quad lv lw lx ly, ← ih hd]
  | case2 start group hshort =>
    rw [groups] at h
    · refine eq_encode_of_lastGroup ?_ h
      rcases group with _ | ⟨a, _ | ⟨b, _ | ⟨c, _ | ⟨d, _ | ⟨e, rest⟩⟩⟩⟩⟩
      all_goals first | exact absurd rfl (hshort a b c d e rest) | simp
    · exact hshort

/-- Every symbol that writing uses has a value. -/
theorem value?_of_mem_encode {bs : List UInt8} {b : UInt8} (h : b ∈ encode bs) :
    (value? b).isSome := by
  have key {v : Nat} (hv : v < 64) : (value? (symbol v)).isSome := by rw [value?_symbol hv]; rfl
  induction bs using encode.induct with
  | case1 x y z rest ih =>
    have hx := x.toNat_lt
    have hy := y.toNat_lt
    have hz := z.toNat_lt
    simp only [encode, List.mem_cons] at h
    rcases h with rfl | rfl | rfl | rfl | h
    · exact key (by omega)
    · exact key (by omega)
    · exact key (by omega)
    · exact key (by omega)
    · exact ih h
  | case2 x y =>
    have hx := x.toNat_lt
    have hy := y.toNat_lt
    simp only [encode, List.mem_cons, List.not_mem_nil, or_false] at h
    rcases h with rfl | rfl | rfl
    · exact key (by omega)
    · exact key (by omega)
    · exact key (by omega)
  | case3 x =>
    have hx := x.toNat_lt
    simp only [encode, List.mem_cons, List.not_mem_nil, or_false] at h
    rcases h with rfl | rfl
    · exact key (by omega)
    · exact key (by omega)
  | case4 => cases h

theorem decode_encode (bs : List UInt8) : decode (encode bs) = .ok bs := by
  unfold decode
  split
  · next last hlast =>
    have hv := value?_of_mem_encode (List.mem_of_getLast? hlast)
    rw [if_neg, groups_encode]
    rintro ⟨-, -, hn⟩
    rw [Option.isNone_iff_eq_none] at hn
    rw [hn] at hv
    cases hv
  · next hnil =>
    have h := groups_encode bs 0
    rw [List.getLast?_eq_none_iff.mp hnil] at h
    exact h

/-- Reading accepts exactly what writing produces, so each byte sequence has one written form. -/
theorem decode_eq_ok_iff {encoded bs : List UInt8} : decode encoded = .ok bs ↔ encoded = encode bs := by
  constructor
  · intro h
    unfold decode at h
    split at h
    · split at h
      · cases h
      · exact eq_encode_of_groups h
    · next hnil =>
      cases h
      exact List.getLast?_eq_none_iff.mp hnil
  · rintro rfl
    exact decode_encode bs

end LocatorQuery.Text.Base64Url
