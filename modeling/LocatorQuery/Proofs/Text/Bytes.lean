import LocatorQuery.Text.Bytes

/-! The bytes of a text, character by character. -/
namespace LocatorQuery.Text

theorem bytes_ofList (cs : List Char) :
    bytes (String.ofList cs) = cs.flatMap String.utf8EncodeChar := by
  rw [bytes, String.toUTF8, String.toByteArray_ofList, List.utf8Encode,
    List.toList_data_toByteArray]

theorem bytes_append (s t : String) : bytes (s ++ t) = bytes s ++ bytes t := by
  simp [bytes]

theorem bytes_injective {s t : String} (h : bytes s = bytes t) : s = t := by
  have hs := ofBytes?_bytes s
  rw [h, ofBytes?_bytes] at hs
  exact (Option.some.inj hs).symm

theorem utf8EncodeChar_ofNat {n : Nat} (h : n < 128) :
    String.utf8EncodeChar (Char.ofNat n) = [UInt8.ofNat n] := by
  have all : ∀ m < 128, String.utf8EncodeChar (Char.ofNat m) = [UInt8.ofNat m] := by decide +kernel
  exact all n h

/-- A character is its own byte, or all of its bytes are beyond ASCII. -/
theorem toNat_of_mem_utf8EncodeChar {c : Char} {b : UInt8} (h : b ∈ String.utf8EncodeChar c) :
    b.toNat = c.toNat ∨ 128 ≤ b.toNat := by
  unfold String.utf8EncodeChar at h
  dsimp only at h
  have hval : c.val.toNat = c.toNat := rfl
  split at h
  · left
    rw [List.mem_singleton.mp h, UInt8.toNat_ofNat']
    omega
  · right
    split at h
    · simp only [List.mem_cons, List.not_mem_nil, or_false] at h
      rcases h with rfl | rfl <;> rw [UInt8.toNat_ofNat'] <;> omega
    · split at h
      · simp only [List.mem_cons, List.not_mem_nil, or_false] at h
        rcases h with rfl | rfl | rfl <;> rw [UInt8.toNat_ofNat'] <;> omega
      · simp only [List.mem_cons, List.not_mem_nil, or_false] at h
        rcases h with rfl | rfl | rfl | rfl <;> rw [UInt8.toNat_ofNat'] <;> omega

/-- A byte of ASCII comes from its own character only. -/
theorem mem_of_mem_bytes {cs : List Char} {b : UInt8} (h : b ∈ bytes (String.ofList cs))
    (hb : b.toNat < 128) : Char.ofNat b.toNat ∈ cs := by
  rw [bytes_ofList, List.mem_flatMap] at h
  obtain ⟨c, hc, hbc⟩ := h
  obtain hbyte | hbeyond := toNat_of_mem_utf8EncodeChar hbc
  · rwa [hbyte, Char.ofNat_toNat]
  · exact absurd hb (Nat.not_lt.mpr hbeyond)

/-- The characters with the numbers of some bytes; below 128 they have these bytes again. -/
def charsOf (bs : List UInt8) : List Char := bs.map fun b => Char.ofNat b.toNat

theorem bytes_charsOf {bs : List UInt8} (h : ∀ b ∈ bs, b.toNat < 128) :
    bytes (String.ofList (charsOf bs)) = bs := by
  rw [bytes_ofList]
  induction bs with
  | nil => rfl
  | cons b bs ih =>
    rw [List.forall_mem_cons] at h
    rw [charsOf, List.map_cons, List.flatMap_cons, utf8EncodeChar_ofNat h.1, UInt8.ofNat_toNat]
    exact congrArg (b :: ·) (ih h.2)

end LocatorQuery.Text
