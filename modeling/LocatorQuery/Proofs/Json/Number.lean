import LocatorQuery.Json.Printer
import LocatorQuery.Json.Token
import Mathlib.Data.List.Basic
import Mathlib.Data.Option.Basic

/-! Numbers in JSON text. Every number is written as a numeral, and the reader takes all of the
numeral and no more. An integer of 64 bits is read back as itself. -/
namespace LocatorQuery.Json

/-- What may stand behind a number: nothing with which the number would go on. -/
def Delimited (rest : List Char) : Prop :=
  ∀ c ∈ rest.head?, c.isDigit = false ∧ c ≠ '.' ∧ c ≠ 'e' ∧ c ≠ 'E'

theorem delimited_nil : Delimited [] := nofun

/-- Digits, at least one. -/
def IsDigits (ds : List Char) : Prop := ds ≠ [] ∧ ∀ d ∈ ds, d.isDigit = true

/-- Text behind a run of digits. -/
def EndsDigits (rest : List Char) : Prop := ∀ c ∈ rest.head?, c.isDigit = false

theorem endsDigits_cons {c : Char} {cs : List Char} (h : c.isDigit = false) : EndsDigits (c :: cs) := by
  intro d hd
  cases hd
  exact h

theorem Delimited.endsDigits {rest : List Char} (h : Delimited rest) : EndsDigits rest :=
  fun c hc => (h c hc).1

theorem takeDigits_append {ds rest : List Char} (hd : ∀ d ∈ ds, d.isDigit = true)
    (hr : EndsDigits rest) : takeDigits (ds ++ rest) = (ds, rest) := by
  have hrest : rest.takeWhile Char.isDigit = [] ∧ rest.dropWhile Char.isDigit = rest := by
    cases rest with
    | nil => exact ⟨rfl, rfl⟩
    | cons c cs => simp [hr c rfl]
  rw [takeDigits, List.takeWhile_append_of_pos hd, List.dropWhile_append_of_pos hd, hrest.1,
    hrest.2, List.append_nil]

theorem isDigits_toDigits (n : Nat) : IsDigits (Nat.toDigits 10 n) :=
  ⟨Nat.toDigits_ne_nil, fun _ => Nat.isDigit_of_mem_toDigits (by decide) (by decide)⟩

/-- Only zero starts with the digit zero. -/
theorem head?_toDigits {n : Nat} (h : 0 < n) : (Nat.toDigits 10 n).head? ≠ some '0' := by
  induction n using Nat.strongRecOn with
  | ind n ih =>
    by_cases hlt : n < 10
    · rw [Nat.toDigits_of_lt_base hlt, List.head?_cons]
      intro he
      rw [Option.some.injEq, Nat.digitChar_eq_zero] at he
      omega
    · rw [Nat.toDigits_of_base_le (by decide) (by omega), List.head?_append,
        Option.or_of_isSome (by simp [Nat.toDigits_ne_nil])]
      exact ih (n / 10) (by omega) (by omega)

namespace Numeral

def signText (negative : Bool) : List Char := if negative then ['-'] else []

def fractionText : Option (List Char) → List Char
  | none => []
  | some ds => '.' :: ds

def exponentText : Option Int → List Char
  | none => []
  | some e => 'e' :: Decimal.exponentText e

/-- The text of a numeral, its exponent with a sign. -/
def written (s : Numeral) : List Char :=
  signText s.negative ++ (s.whole ++ (fractionText s.fraction ++ exponentText s.exponent))

/-- Digits where they are due, and no superfluous zero ahead of them. -/
structure Proper (s : Numeral) : Prop where
  whole : IsDigits s.whole
  leading : s.whole.length = 1 ∨ s.whole.head? ≠ some '0'
  fraction : ∀ ds ∈ s.fraction, IsDigits ds

end Numeral

section Reading
variable {rest : List Char}

theorem exponentDigits?_append (negative : Bool) {n : Nat} (hr : EndsDigits rest) :
    exponentDigits? negative (Nat.toDigits 10 n ++ rest) =
      some (some (if negative then -(n : Int) else n), rest) := by
  have hd := isDigits_toDigits n
  rw [exponentDigits?, takeDigits_append hd.2 hr]
  split
  · next h => exact absurd (Prod.ext_iff.mp h).1 hd.1
  · next h =>
    obtain ⟨rfl, rfl⟩ := Prod.ext_iff.mp h
    rw [Nat.ofDigitChars_ten_toDigits]

theorem exponent?_written (exponent : Option Int) (hr : Delimited rest) :
    exponent? (Numeral.exponentText exponent ++ rest) = some (exponent, rest) := by
  cases exponent with
  | none =>
    cases rest with
    | nil => rfl
    | cons c cs =>
      obtain ⟨-, -, he, hE⟩ := hr c rfl
      simp [Numeral.exponentText, exponent?, he, hE]
  | some e =>
    rw [Numeral.exponentText, Decimal.exponentText, Decimal.integerText]
    split
    · next hneg =>
      rw [List.cons_append, List.cons_append, exponent?, exponentDigits?_append true hr.endsDigits]
      simp only [if_true]
      rw [show -(e.natAbs : Int) = e by omega]
    · next hpos =>
      rw [List.cons_append, List.cons_append, exponent?, exponentDigits?_append false hr.endsDigits]
      simp only [Bool.false_eq_true, if_false]
      rw [show (e.natAbs : Int) = e by omega]

theorem endsDigits_exponentText (exponent : Option Int) (hr : Delimited rest) :
    EndsDigits (Numeral.exponentText exponent ++ rest) := by
  cases exponent with
  | none => exact hr.endsDigits
  | some e => exact endsDigits_cons (by decide)

theorem fraction?_written {fraction : Option (List Char)} (exponent : Option Int)
    (hf : ∀ ds ∈ fraction, IsDigits ds) (hr : Delimited rest) :
    fraction? (Numeral.fractionText fraction ++ (Numeral.exponentText exponent ++ rest)) =
      some (fraction, Numeral.exponentText exponent ++ rest) := by
  cases fraction with
  | none =>
    have hdot : ∀ cs, Numeral.exponentText exponent ++ rest = '.' :: cs → False := by
      intro cs he
      cases exponent with
      | none =>
        rw [Numeral.exponentText, List.nil_append] at he
        exact (hr '.' (by rw [he]; rfl)).2.1 rfl
      | some e => cases he
    rw [Numeral.fractionText, List.nil_append, fraction?]
    exact hdot
  | some ds =>
    obtain ⟨hne, hds⟩ := hf ds rfl
    obtain ⟨d, ds', rfl⟩ := List.exists_cons_of_ne_nil hne
    rw [Numeral.fractionText, List.cons_append, fraction?,
      takeDigits_append hds (endsDigits_exponentText exponent hr)]

theorem endsDigits_fractionText (fraction : Option (List Char)) (exponent : Option Int)
    (hr : Delimited rest) :
    EndsDigits (Numeral.fractionText fraction ++ (Numeral.exponentText exponent ++ rest)) := by
  cases fraction with
  | none => exact endsDigits_exponentText exponent hr
  | some ds => exact endsDigits_cons (by decide)

/-- A numeral behind its sign. -/
def unsigned? (negative : Bool) (cs : List Char) : Option (Numeral × List Char) := do
  let (whole, cs) := takeDigits cs
  guard (!whole.isEmpty && (whole.length == 1 || whole.head? != some '0'))
  let (fraction, cs) ← fraction? cs
  let (exponent, cs) ← exponent? cs
  return ({ negative, whole, fraction, exponent }, cs)

/-- The sign is taken off, and a digit is not mistaken for one. -/
theorem numeral?_signText (negative : Bool) {whole : List Char} (hw : IsDigits whole)
    (rest : List Char) :
    numeral? (Numeral.signText negative ++ (whole ++ rest)) = unsigned? negative (whole ++ rest) := by
  cases negative with
  | true => rfl
  | false =>
    obtain ⟨d, ds, rfl⟩ := List.exists_cons_of_ne_nil hw.1
    have hd : d ≠ '-' := by
      rintro rfl
      exact absurd (hw.2 '-' List.mem_cons_self) (by decide)
    rw [Numeral.signText, if_neg Bool.false_ne_true, List.nil_append, List.cons_append, numeral?]
    · rfl
    · rintro cs he
      exact hd (List.cons.inj he).1

/-- A numeral in front of a text that does not go on with it is read whole. -/
theorem numeral?_written {s : Numeral} (hs : s.Proper) (hr : Delimited rest) :
    numeral? (s.written ++ rest) = some (s, rest) := by
  obtain ⟨negative, whole, fraction, exponent⟩ := s
  have hguard : (!whole.isEmpty && (whole.length == 1 || whole.head? != some '0')) = true := by
    have hne := hs.whole.1
    rcases hs.leading with h | h <;> simp_all
  rw [Numeral.written, List.append_assoc, List.append_assoc, List.append_assoc,
    numeral?_signText negative hs.whole, unsigned?,
    takeDigits_append hs.whole.2 (endsDigits_fractionText fraction exponent hr)]
  dsimp only
  rw [hguard, fraction?_written exponent hs.fraction hr]
  change (exponent? (Numeral.exponentText exponent ++ rest) >>= fun _ => _) = _
  rw [exponent?_written exponent hr]
  rfl

end Reading

/-! The numerals that are written. -/

theorem integerText_eq (n : Int) :
    Decimal.integerText n =
      Numeral.written ⟨decide (n < 0), Nat.toDigits 10 n.natAbs, none, none⟩ := by
  rw [Decimal.integerText, Numeral.written]
  split
  · next h => simp [Numeral.signText, Numeral.fractionText, Numeral.exponentText, h]
  · next h => simp [Numeral.signText, Numeral.fractionText, Numeral.exponentText, h]

theorem leading_toDigits (n : Nat) :
    (Nat.toDigits 10 n).length = 1 ∨ (Nat.toDigits 10 n).head? ≠ some '0' := by
  rcases Nat.eq_zero_or_pos n with rfl | h
  · exact .inl rfl
  · exact .inr (head?_toDigits h)

theorem proper_integer (negative : Bool) (n : Nat) :
    (Numeral.mk negative (Nat.toDigits 10 n) none none).Proper :=
  ⟨isDigits_toDigits n, leading_toDigits n, nofun⟩

theorem IsDigits.zeros_append (k : Nat) {ds : List Char} (h : IsDigits ds) :
    IsDigits (List.replicate k '0' ++ ds) := by
  refine ⟨List.append_ne_nil_of_right_ne_nil _ h.1, fun d hd => ?_⟩
  rcases List.mem_append.mp hd with hd | hd
  · rw [List.eq_of_mem_replicate hd]
    rfl
  · exact h.2 d hd

theorem IsDigits.append_zeros (k : Nat) {ds : List Char} (h : IsDigits ds) :
    IsDigits (ds ++ List.replicate k '0') := by
  refine ⟨List.append_ne_nil_of_left_ne_nil h.1 _, fun d hd => ?_⟩
  rcases List.mem_append.mp hd with hd | hd
  · exact h.2 d hd
  · rw [List.eq_of_mem_replicate hd]
    rfl

/-- Digits with a point among them, zeros filled in where it lies outside. -/
theorem exists_written_positional (p : Decimal.Parts) :
    ∃ s : Numeral, s.Proper ∧ Decimal.positional p = s.written := by
  have hd := isDigits_toDigits p.digits
  have hlead := leading_toDigits p.digits
  have hsign : p.sign = Numeral.signText p.negative := rfl
  unfold Decimal.positional
  generalize hpointed : p.pointed = pointed
  obtain ⟨ds, point⟩ := pointed
  obtain ⟨rfl, hpoint⟩ := Prod.ext_iff.mp hpointed
  dsimp only [Decimal.Parts.pointed] at hd hlead hpoint ⊢
  rw [hsign]
  split
  · refine ⟨⟨p.negative, ['0'], some (List.replicate (-point).toNat '0' ++
      Nat.toDigits 10 p.digits), none⟩, ⟨⟨nofun, by simp⟩, .inl rfl, ?_⟩, ?_⟩
    · rintro _ ⟨⟩
      exact hd.zeros_append _
    · simp [Numeral.written, Numeral.fractionText, Numeral.exponentText]
  · next hpos =>
    split
    · next hlen =>
      refine ⟨⟨p.negative, Nat.toDigits 10 p.digits ++
        List.replicate (point.toNat - (Nat.toDigits 10 p.digits).length) '0', some ['0'], none⟩,
        ⟨hd.append_zeros _, ?_, ?_⟩, ?_⟩
      · rcases Nat.eq_zero_or_pos p.digits with hzero | hdigits
        · rw [hzero] at hpoint ⊢
          subst hpoint
          exact .inl rfl
        · right
          rw [List.head?_append_of_ne_nil _ hd.1]
          exact head?_toDigits hdigits
      · rintro _ ⟨⟩
        exact ⟨nofun, by simp⟩
      · simp [Numeral.written, Numeral.fractionText, Numeral.exponentText]
    · next hlen =>
      refine ⟨⟨p.negative, (Nat.toDigits 10 p.digits).take point.toNat,
        some ((Nat.toDigits 10 p.digits).drop point.toNat), none⟩, ⟨⟨?_, ?_⟩, ?_, ?_⟩, ?_⟩
      · rw [Ne, List.take_eq_nil_iff]
        rintro (h | h)
        · omega
        · exact hd.1 h
      · exact fun d hmem => hd.2 d (List.mem_of_mem_take hmem)
      · right
        rw [List.head?_take, if_neg (by omega)]
        exact hlead.resolve_left (by omega)
      · rintro _ ⟨⟩
        refine ⟨?_, fun d hmem => hd.2 d (List.mem_of_mem_drop hmem)⟩
        rw [Ne, List.drop_eq_nil_iff]
        exact hlen
      · simp [Numeral.written, Numeral.fractionText, Numeral.exponentText]

theorem exists_written_decimal (p : Decimal.Parts) :
    ∃ s : Numeral, s.Proper ∧ Decimal.text p = s.written := by
  unfold Decimal.text
  generalize hpointed : p.pointed = pointed
  obtain ⟨ds, point⟩ := pointed
  obtain ⟨rfl, -⟩ := Prod.ext_iff.mp hpointed
  dsimp only [Decimal.Parts.pointed]
  split
  · exact exists_written_positional p
  · have hd := isDigits_toDigits p.digits
    have hsign : p.sign = Numeral.signText p.negative := rfl
    rw [hsign]
    rcases hds : Nat.toDigits 10 p.digits with _ | ⟨d, _ | ⟨d', ds⟩⟩
    · exact absurd hds hd.1
    · rw [hds] at hd
      refine ⟨⟨p.negative, [d], none, some (point - 1)⟩, ⟨hd, .inl rfl, nofun⟩, ?_⟩
      simp [Numeral.written, Numeral.fractionText, Numeral.exponentText]
    · rw [hds] at hd
      refine ⟨⟨p.negative, [d], some (d' :: ds), some (point - 1)⟩,
        ⟨⟨nofun, fun c hc => ?_⟩, .inl rfl, ?_⟩, ?_⟩
      · exact hd.2 c (List.mem_cons.mpr (.inl (List.mem_singleton.mp hc)))
      · rintro _ ⟨⟩
        exact ⟨nofun, fun c hc => hd.2 c (List.mem_cons_of_mem d hc)⟩
      · simp [Numeral.written, Numeral.fractionText, Numeral.exponentText]

theorem exists_written_number (n : Number) :
    ∃ s : Numeral, s.Proper ∧ numberText n = s.written := by
  cases n with
  | integer n =>
    exact ⟨_, proper_integer (decide (n < 0)) n.natAbs, integerText_eq n⟩
  | float x => exact exists_written_decimal _

/-- What is read where a number was written, if there is such a number. -/
def rereadNumber (n : Number) : Option Number :=
  (numeral? (numberText n)).bind fun (s, _) => s.value?

theorem numeral?_numberText (n : Number) {rest : List Char} (hr : Delimited rest) :
    ∃ s : Numeral, numeral? (numberText n ++ rest) = some (s, rest) ∧ s.value? = rereadNumber n := by
  obtain ⟨s, hs, htext⟩ := exists_written_number n
  refine ⟨s, by rw [htext, numeral?_written hs hr], ?_⟩
  have hlone := numeral?_written hs delimited_nil
  rw [List.append_nil] at hlone
  rw [rereadNumber, htext, hlone]
  rfl

/-- Integers of 64 bits, signed or not. -/
def IsWord (n : Int) : Prop := -(Text.signedBound : Int) ≤ n ∧ n < Text.unsignedBound

theorem rereadNumber_integer {n : Int} (h : IsWord n) :
    rereadNumber (.integer n) = some (.integer n) := by
  have hread := numeral?_written (proper_integer (decide (n < 0)) n.natAbs) delimited_nil
  rw [List.append_nil] at hread
  obtain ⟨hlow, hhigh⟩ := h
  rw [rereadNumber, numberText, integerText_eq, hread, Option.bind_some]
  unfold Numeral.value?
  dsimp only
  rw [Nat.ofDigitChars_ten_toDigits, if_pos]
  · split
    · next h => rw [show -(n.natAbs : Int) = n by simp at h; omega]
    · next h => rw [show (n.natAbs : Int) = n by simp at h; omega]
  · refine ⟨rfl, rfl, ?_, fun hneg => ?_⟩
    · unfold Text.signedBound Text.unsignedBound at *
      omega
    · rw [decide_eq_true_eq] at hneg
      omega

end LocatorQuery.Json
