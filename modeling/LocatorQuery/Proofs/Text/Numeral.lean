import LocatorQuery.Text.Numeral

/-! Numbers in texts: a number that is written in decimal is read back, and a text is read as a signed
number just when it writes one. -/
namespace LocatorQuery.Text

theorem isDigit_of_mem_toString {n : Nat} {c : Char} (h : c ∈ (toString n).toList) :
    c.isDigit = true := by
  change c ∈ n.repr.toList at h
  rw [Nat.toList_repr] at h
  exact Nat.isDigit_of_mem_toDigits (by decide) (by decide) h

theorem digits?_toString (n : Nat) : digits? (toString n).toList = some n := by
  have hall : (toString n).toList.all Char.isDigit = true :=
    List.all_eq_true.mpr fun _ => isDigit_of_mem_toString
  have hlist : (toString n).toList = Nat.toDigits 10 n := Nat.toList_repr
  have hne : (toString n).toList.isEmpty = false := by
    rw [hlist, List.isEmpty_eq_false_iff]
    exact Nat.toDigits_ne_nil
  rw [digits?, hne, hall, hlist, Nat.ofDigitChars_ten_toDigits]
  rfl

theorem natural?_toString_eq (n : Nat) :
    natural? (toString n).toList = if n < unsignedBound then some n else none := by
  have hsign : ∀ ds, (toString n).toList = '+' :: ds → False := by
    intro ds hds
    have hplus : '+'.isDigit = true := isDigit_of_mem_toString (n := n) (by rw [hds]; simp)
    exact absurd hplus (by decide)
  rw [natural?, digits?_toString, Option.filter_some]
  · simp only [decide_eq_true_eq]
  · exact hsign

theorem natural?_toString {n : Nat} (h : n < unsignedBound) :
    natural? (toString n).toList = some n := by
  rw [natural?_toString_eq, if_pos h]

theorem eq_of_natural?_toString {n m : Nat} (h : natural? (toString n).toList = some m) : m = n := by
  rw [natural?_toString_eq] at h
  split at h
  · cases h
    rfl
  · cases h

theorem toString_ne_minusOne (n : Nat) : toString n ≠ "-1" := by
  intro h
  have hminus : '-'.isDigit = true := isDigit_of_mem_toString (n := n) (by rw [h]; decide)
  exact absurd hminus (by decide)

/-- Decimal digits, at least one of them, write the number that they stand for. -/
def WritesDigits (cs : List Char) (n : Nat) : Prop :=
  cs ≠ [] ∧ (∀ c ∈ cs, c.isDigit = true) ∧ Nat.ofDigitChars 10 cs 0 = n

theorem digits?_eq_some_iff {cs : List Char} {n : Nat} : digits? cs = some n ↔ WritesDigits cs n := by
  rw [digits?, WritesDigits]
  split
  · next h => simp [List.isEmpty_iff.mp h]
  · next h => simp [mt List.isEmpty_iff.mpr h]

/-- Digits write a signed number of 64 bits, with or without one sign ahead of them. -/
inductive WritesInteger : List Char → Int → Prop
  | plain {cs : List Char} {n : Nat} (digits : WritesDigits cs n) (small : n < signedBound) :
      WritesInteger cs n
  | plus {cs : List Char} {n : Nat} (digits : WritesDigits cs n) (small : n < signedBound) :
      WritesInteger ('+' :: cs) n
  | minus {cs : List Char} {n : Nat} (digits : WritesDigits cs n) (small : n ≤ signedBound) :
      WritesInteger ('-' :: cs) (-n)

theorem map_filter_digits?_eq_some_iff {cs : List Char} {p : Nat → Bool} {sign : Nat → Int} {k : Int} :
    ((digits? cs).filter p).map sign = some k ↔ ∃ n, WritesDigits cs n ∧ p n = true ∧ sign n = k := by
  simp only [Option.map_eq_some_iff, Option.filter_eq_some_iff, digits?_eq_some_iff, and_assoc]

theorem integer?_minus (cs : List Char) :
    integer? ('-' :: cs) =
      ((digits? cs).filter fun n => decide (n ≤ signedBound)).map fun n => -Int.ofNat n := by
  rw [integer?]
  cases (digits? cs).filter fun n => decide (n ≤ signedBound) with
  | none => rfl
  | some n => rfl

theorem integer?_eq_some_iff {cs : List Char} {k : Int} :
    integer? cs = some k ↔ WritesInteger cs k := by
  constructor
  · intro h
    unfold integer? at h
    split at h
    · next ds =>
      have hminus := (integer?_minus ds).symm.trans h
      obtain ⟨n, hdigits, hsmall, rfl⟩ := map_filter_digits?_eq_some_iff.mp hminus
      exact .minus hdigits (of_decide_eq_true hsmall)
    · obtain ⟨n, hdigits, hsmall, rfl⟩ := map_filter_digits?_eq_some_iff.mp h
      exact .plus hdigits (of_decide_eq_true hsmall)
    · obtain ⟨n, hdigits, hsmall, rfl⟩ := map_filter_digits?_eq_some_iff.mp h
      exact .plain hdigits (of_decide_eq_true hsmall)
  · intro h
    cases h with
    | @plain cs n digits small =>
      -- A sign is no digit, so the digits are not taken for a signed text.
      have hsign : ∀ c ds, c.isDigit = false → cs ≠ c :: ds := by
        rintro c ds hc rfl
        exact Bool.false_ne_true (hc.symm.trans (digits.2.1 c List.mem_cons_self))
      rw [integer?]
      · exact map_filter_digits?_eq_some_iff.mpr ⟨n, digits, decide_eq_true small, rfl⟩
      · exact fun ds => hsign '-' ds (by decide)
      · exact fun ds => hsign '+' ds (by decide)
    | plus digits small =>
      exact map_filter_digits?_eq_some_iff.mpr ⟨_, digits, decide_eq_true small, rfl⟩
    | minus digits small =>
      rw [integer?_minus]
      exact map_filter_digits?_eq_some_iff.mpr ⟨_, digits, decide_eq_true small, rfl⟩

/-- The smallest number of 64 bits is written with a sign, and no number of them without one. -/
example : integer? "-9223372036854775808".toList = some (-9223372036854775808) ∧
    integer? "9223372036854775808".toList = none := by decide

theorem WritesInteger.ne_nil {cs : List Char} {k : Int} (h : WritesInteger cs k) : cs ≠ [] := by
  cases h with
  | plain digits => exact digits.1
  | plus => exact List.cons_ne_nil _ _
  | minus => exact List.cons_ne_nil _ _

theorem WritesInteger.mem {cs : List Char} {k : Int} (h : WritesInteger cs k) {c : Char}
    (hc : c ∈ cs) : c.isDigit = true ∨ c = '+' ∨ c = '-' := by
  cases h with
  | plain digits => exact .inl (digits.2.1 c hc)
  | plus digits =>
    rcases List.mem_cons.mp hc with rfl | hc
    · exact .inr (.inl rfl)
    · exact .inl (digits.2.1 c hc)
  | minus digits =>
    rcases List.mem_cons.mp hc with rfl | hc
    · exact .inr (.inr rfl)
    · exact .inl (digits.2.1 c hc)

/-- From 2⁶³ on a number of 64 bits is taken for a negative one. -/
theorem signed_of_le {n : Nat} (h : signedBound ≤ n) (hlt : n < unsignedBound) :
    signed n = n - unsignedBound := by
  unfold signed
  rw [Int.bmod_def]
  unfold signedBound at h
  unfold unsignedBound at hlt ⊢
  omega

end LocatorQuery.Text
