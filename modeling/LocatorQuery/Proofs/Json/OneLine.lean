import LocatorQuery.Proofs.Json.Number
import LocatorQuery.Proofs.Text.Bytes

/-! Compact JSON is one line. Control characters of a string are escaped and nothing else brings one
into the text, so no byte of it ends a line. -/
namespace LocatorQuery.Json

/-- No control character among some characters. -/
def Printable (cs : List Char) : Prop := ∀ c ∈ cs, 0x20 ≤ c.toNat

instance (cs : List Char) : Decidable (Printable cs) :=
  List.decidableBAll (fun c : Char => 0x20 ≤ c.toNat) cs

theorem printable_nil : Printable [] := nofun

theorem printable_cons {c : Char} {cs : List Char} :
    Printable (c :: cs) ↔ 0x20 ≤ c.toNat ∧ Printable cs := List.forall_mem_cons

theorem printable_append {cs ds : List Char} :
    Printable (cs ++ ds) ↔ Printable cs ∧ Printable ds := List.forall_mem_append

theorem IsDigits.printable {ds : List Char} (h : IsDigits ds) : Printable ds := by
  intro d hd
  have hdigit := h.2 d hd
  simp only [Char.isDigit, Bool.and_eq_true, decide_eq_true_eq] at hdigit
  exact Nat.le_trans (by decide) (UInt32.le_iff_toNat_le.mp hdigit.1)

theorem printable_exponentText (exponent : Option Int) :
    Printable (Numeral.exponentText exponent) := by
  cases exponent with
  | none => exact printable_nil
  | some e =>
    have hd := (isDigits_toDigits e.natAbs).printable
    rw [Numeral.exponentText, Decimal.exponentText, Decimal.integerText, printable_cons]
    refine ⟨by decide, ?_⟩
    split
    · exact printable_cons.mpr ⟨by decide, hd⟩
    · exact printable_cons.mpr ⟨by decide, hd⟩

theorem printable_written {s : Numeral} (h : s.Proper) : Printable s.written := by
  rw [Numeral.written, printable_append, printable_append, printable_append]
  refine ⟨?_, h.whole.printable, ?_, printable_exponentText _⟩
  · cases s.negative <;> decide
  · cases hf : s.fraction with
    | none => exact printable_nil
    | some ds => exact printable_cons.mpr ⟨by decide, (h.fraction ds hf).printable⟩

theorem printable_numberText (n : Number) : Printable (numberText n) := by
  obtain ⟨s, hs, htext⟩ := exists_written_number n
  rw [htext]
  exact printable_written hs

theorem printable_escaped (c : Char) : Printable (escaped c) := by
  unfold escaped
  split
  case h_8 =>
    split
    · next hc =>
      -- The two digits that are not fixed come from a number below 0x20.
      have all : ∀ n < 0x20, Printable ['\\', 'u', '0', '0', hexDigit (n / 16), hexDigit n] := by
        decide +kernel
      exact all c.toNat hc
    · next hc => exact printable_cons.mpr ⟨Nat.not_lt.mp hc, printable_nil⟩
  all_goals decide

theorem printable_quoted (s : String) : Printable (quoted s) := by
  rw [quoted, printable_cons, printable_append]
  refine ⟨by decide, fun c hc => ?_, by decide⟩
  obtain ⟨d, -, hd⟩ := List.mem_flatMap.mp hc
  exact printable_escaped d c hd

mutual

theorem printable_compactChars (j : Json) : Printable j.compactChars := by
  match j with
  | .null => decide
  | .bool b => cases b <;> decide
  | .number n => exact printable_numberText n
  | .string s => exact printable_quoted s
  | .array [] => decide
  | .object [] => decide
  | .array (j :: js) =>
    rw [compactChars, printable_cons, printable_append]
    exact ⟨by decide, printable_compactChars j, printable_compactItems js⟩
  | .object ((n, j) :: ms) =>
    rw [compactChars, printable_cons, printable_append, printable_cons, printable_append]
    exact ⟨by decide, printable_quoted n, by decide, printable_compactChars j, printable_compactMembers ms⟩

theorem printable_compactItems (js : List Json) : Printable (compactItems js) := by
  match js with
  | [] => decide
  | j :: js =>
    rw [compactItems, printable_cons, printable_append]
    exact ⟨by decide, printable_compactChars j, printable_compactItems js⟩

theorem printable_compactMembers (ms : List (String × Json)) : Printable (compactMembers ms) := by
  match ms with
  | [] => decide
  | (n, j) :: ms =>
    rw [compactMembers, printable_cons, printable_append, printable_cons, printable_append]
    exact ⟨by decide, printable_quoted n, by decide, printable_compactChars j, printable_compactMembers ms⟩

end

/-- No control character is written, neither a newline nor a carriage return. -/
theorem le_of_mem_bytes_compact {j : Json} {b : UInt8} (h : b ∈ Text.bytes j.compact) :
    0x20 ≤ b.toNat := by
  by_contra hlt
  rw [Nat.not_le] at hlt
  have hchar := printable_compactChars j _ (Text.mem_of_mem_bytes h (by omega))
  have hnat : (Char.ofNat b.toNat).toNat = b.toNat := by
    have all : ∀ n < 0x20, (Char.ofNat n).toNat = n := by decide
    exact all _ hlt
  omega

theorem oneLine_compact (j : Json) : 10 ∉ Text.bytes j.compact ∧ 13 ∉ Text.bytes j.compact :=
  ⟨fun h => absurd (le_of_mem_bytes_compact h) (by decide),
    fun h => absurd (le_of_mem_bytes_compact h) (by decide)⟩

end LocatorQuery.Json
