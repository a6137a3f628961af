/-! White space of a text and the text without it at its ends. -/
namespace LocatorQuery.Text

/-- The characters with the Unicode property White_Space. -/
def isBlank (c : Char) : Bool :=
  let n := c.toNat
  (9 ≤ n && n ≤ 13) || n == 0x20 || n == 0x85 || n == 0xA0 || n == 0x1680 ||
    (0x2000 ≤ n && n ≤ 0x200A) || n == 0x2028 || n == 0x2029 || n == 0x202F ||
    n == 0x205F || n == 0x3000

def trimStart (cs : List Char) : List Char := cs.dropWhile isBlank

def trimEnd (cs : List Char) : List Char := (trimStart cs.reverse).reverse

/-- Only the ends lose their blanks. -/
def trim (cs : List Char) : List Char := trimEnd (trimStart cs)

def trimmed (s : String) : String := String.ofList (trim s.toList)

/-- Every character is blank, in particular when there is none. -/
def isBlankText (s : String) : Bool := s.toList.all isBlank

theorem trimStart_eq_nil_iff {cs : List Char} : trimStart cs = [] ↔ cs.all isBlank = true := by
  induction cs with
  | nil => simp [trimStart]
  | cons c cs ih =>
    cases h : isBlank c with
    | false => simp [trimStart, h]
    | true =>
      simp only [trimStart, List.dropWhile, List.all, h, Bool.true_and]
      exact ih

theorem trimStart_trimStart (cs : List Char) : trimStart (trimStart cs) = trimStart cs := by
  induction cs with
  | nil => rfl
  | cons c cs ih =>
    cases h : isBlank c with
    | false => simp [trimStart, h]
    | true => simpa [trimStart, h] using ih

theorem trim_eq_nil_iff {cs : List Char} : trim cs = [] ↔ cs.all isBlank = true := by
  have ends : trim cs = [] ↔ trimStart (trimStart cs).reverse = [] := by
    simp [trim, trimEnd, trimStart]
  rw [ends, trimStart_eq_nil_iff, List.all_reverse, ← trimStart_eq_nil_iff, trimStart_trimStart,
    trimStart_eq_nil_iff]

end LocatorQuery.Text
