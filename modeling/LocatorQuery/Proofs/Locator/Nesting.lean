import LocatorQuery.Locator.Nesting

/-! What the nesting functions say about a text, in terms of its prefixes and of its parts. -/
namespace LocatorQuery.Nesting

/-- No prefix closes more groups than it opens, and the whole closes all of them. -/
def Balanced (cs : List Char) : Prop :=
  (∀ p, p <+: cs → p.count ')' ≤ p.count '(') ∧ cs.count '(' = cs.count ')'

def IsOrdinary (c : Char) : Prop := c ≠ '(' ∧ c ≠ ')'

@[simp] theorem depth?_nil (d : Nat) : depth? d [] = some d := by cases d <;> rfl

@[simp] theorem depth?_open (d : Nat) (cs : List Char) :
    depth? d ('(' :: cs) = depth? (d + 1) cs := by cases d <;> rfl

@[simp] theorem depth?_close_zero (cs : List Char) : depth? 0 (')' :: cs) = none := rfl

@[simp] theorem depth?_close_succ (d : Nat) (cs : List Char) :
    depth? (d + 1) (')' :: cs) = depth? d cs := rfl

theorem depth?_ordinary {c : Char} (h : IsOrdinary c) (d : Nat) (cs : List Char) :
    depth? d (c :: cs) = depth? d cs := by
  cases d with
  | zero => rw [depth?] <;> simp [h.1, h.2]
  | succ d => rw [depth?] <;> simp [h.1, h.2]

/-- A character opens a group, closes one or does neither. -/
theorem char_cases (c : Char) : c = '(' ∨ c = ')' ∨ IsOrdinary c := by
  by_cases ho : c = '('
  · exact .inl ho
  · by_cases hc : c = ')'
    · exact .inr (.inl hc)
    · exact .inr (.inr ⟨ho, hc⟩)

theorem depth?_append (d : Nat) (a b : List Char) :
    depth? d (a ++ b) = (depth? d a).bind fun e => depth? e b := by
  induction a generalizing d with
  | nil => simp
  | cons c a ih =>
    rcases char_cases c with rfl | rfl | h
    · simp [ih]
    · cases d with
      | zero => simp
      | succ d => simp [ih]
    · simp only [List.cons_append, depth?_ordinary h, ih]

/-- Groups around a text do not change what it opens and closes. -/
theorem depth?_add {d e : Nat} {cs : List Char} (h : depth? d cs = some e) (k : Nat) :
    depth? (d + k) cs = some (e + k) := by
  induction cs generalizing d with
  | nil => simpa using h
  | cons c cs ih =>
    rcases char_cases c with rfl | rfl | hc
    · rw [depth?_open] at h ⊢
      rw [Nat.add_right_comm]
      exact ih h
    · cases d with
      | zero => cases h
      | succ d =>
        rw [depth?_close_succ] at h
        rw [Nat.add_right_comm, depth?_close_succ]
        exact ih h
    · rw [depth?_ordinary hc] at h ⊢
      exact ih h

theorem depth?_of_ordinary {cs : List Char} (h : ∀ c ∈ cs, IsOrdinary c) (d : Nat) :
    depth? d cs = some d := by
  induction cs with
  | nil => simp
  | cons c cs ih =>
    rw [depth?_ordinary (h c List.mem_cons_self)]
    exact ih fun x hx => h x (List.mem_cons_of_mem c hx)

theorem forall_prefix_cons {P : List Char → Prop} {c : Char} {cs : List Char} :
    (∀ p, p <+: c :: cs → P p) ↔ P [] ∧ ∀ p, p <+: cs → P (c :: p) := by
  constructor
  · intro h
    exact ⟨h [] List.nil_prefix, fun p hp => h (c :: p) (List.cons_prefix_cons.mpr ⟨rfl, hp⟩)⟩
  · rintro ⟨hnil, hcons⟩ p hp
    rcases List.prefix_cons_iff.mp hp with rfl | ⟨q, rfl, hq⟩
    · exact hnil
    · exact hcons q hq

/-- The depth is the surplus of open groups. It exists when no prefix closes a missing one. -/
theorem depth?_eq_some_iff {d e : Nat} {cs : List Char} :
    depth? d cs = some e ↔
      (∀ p, p <+: cs → p.count ')' ≤ d + p.count '(') ∧ d + cs.count '(' = e + cs.count ')' := by
  induction cs generalizing d with
  | nil => simp [List.prefix_nil]
  | cons c cs ih =>
    -- A prefix is empty or has `c` ahead of a prefix of `cs`, so `c` moves from it into the bound.
    rw [forall_prefix_cons]
    rcases char_cases c with rfl | rfl | hc
    · have one (p : List Char) : d + 1 + p.count '(' = d + (p.count '(' + 1) := by omega
      simp [ih, one]
    · cases d with
      | zero =>
        simp only [depth?_close_zero, reduceCtorEq, false_iff, not_and]
        rintro ⟨-, h⟩
        have := h [] List.nil_prefix
        simp at this
      | succ d =>
        have one (p : List Char) :
            p.count ')' + 1 ≤ d + 1 + p.count '(' ↔ p.count ')' ≤ d + p.count '(' := by omega
        simp [ih, one]
        omega
    · rw [depth?_ordinary hc, ih]
      simp [hc.1, hc.2]

theorem isBalanced_iff {cs : List Char} : isBalanced cs = true ↔ Balanced cs := by
  rw [isBalanced, beq_iff_eq, depth?_eq_some_iff]
  simp only [Nat.zero_add]
  rfl

theorem balanced_iff_depth? {cs : List Char} : Balanced cs ↔ depth? 0 cs = some 0 := by
  rw [← isBalanced_iff, isBalanced, beq_iff_eq]

/-! Cuts at the first needle outside all groups. -/

@[simp] theorem cut?_nil (n : Char) (d : Nat) : cut? n d [] = none := by cases d <;> rfl

@[simp] theorem cut?_open (n : Char) (d : Nat) (cs : List Char) :
    cut? n d ('(' :: cs) = (cut? n (d + 1) cs).map fun (a, b) => ('(' :: a, b) := by
  cases d <;> rfl

@[simp] theorem cut?_close (n : Char) (d : Nat) (cs : List Char) :
    cut? n d (')' :: cs) = (cut? n (d - 1) cs).map fun (a, b) => (')' :: a, b) := by
  cases d <;> rfl

theorem cut?_ordinary {c : Char} (h : IsOrdinary c) (n : Char) (d : Nat) (cs : List Char) :
    cut? n d (c :: cs) =
      if c = n ∧ d = 0 then some ([], cs) else (cut? n d cs).map fun (a, b) => (c :: a, b) := by
  rw [cut?]
  · exact h.1
  · exact h.2

theorem eq_append_of_cut? {n : Char} {d : Nat} {cs a b : List Char}
    (h : cut? n d cs = some (a, b)) : cs = a ++ n :: b := by
  induction cs generalizing d a with
  | nil => simp at h
  | cons c cs ih =>
    rcases char_cases c with rfl | rfl | hc
    · rw [cut?_open, Option.map_eq_some_iff] at h
      obtain ⟨⟨a', b'⟩, h, he⟩ := h
      cases he
      rw [ih h, List.cons_append]
    · rw [cut?_close, Option.map_eq_some_iff] at h
      obtain ⟨⟨a', b'⟩, h, he⟩ := h
      cases he
      rw [ih h, List.cons_append]
    · rw [cut?_ordinary hc] at h
      split at h
      · next hn =>
        cases h
        rw [hn.1, List.nil_append]
      · rw [Option.map_eq_some_iff] at h
        obtain ⟨⟨a', b'⟩, h, he⟩ := h
        cases he
        rw [ih h, List.cons_append]

theorem cut?_of_not_mem {n : Char} {cs : List Char} (h : n ∉ cs) (d : Nat) : cut? n d cs = none := by
  cases hc : cut? n d cs with
  | none => rfl
  | some r =>
    obtain ⟨a, b⟩ := r
    have he := eq_append_of_cut? hc
    exact absurd (he ▸ by simp) h

/-- Without groups the first needle at top level is the first one. -/
theorem cut?_eq_none_iff {n : Char} {cs : List Char} (h : ∀ c ∈ cs, IsOrdinary c) :
    cut? n 0 cs = none ↔ n ∉ cs := by
  refine ⟨fun hc => ?_, fun hn => cut?_of_not_mem hn 0⟩
  induction cs with
  | nil => simp
  | cons c cs ih =>
    rw [List.forall_mem_cons] at h
    rw [cut?_ordinary h.1] at hc
    split at hc
    · cases hc
    · next hcn =>
      rw [Option.map_eq_none_iff] at hc
      rw [List.mem_cons, not_or]
      exact ⟨fun he => hcn ⟨he.symm, rfl⟩, ih h.2 hc⟩

/-- Inside a group there is nothing at top level. -/
theorem cut?_of_depth? {d e : Nat} {cs : List Char} (h : depth? d cs = some e) (n : Char) :
    cut? n (d + 1) cs = none := by
  induction cs generalizing d with
  | nil => simp
  | cons c cs ih =>
    rcases char_cases c with rfl | rfl | hc
    · rw [depth?_open] at h
      rw [cut?_open, ih h, Option.map_none]
    · cases d with
      | zero => cases h
      | succ d =>
        rw [depth?_close_succ] at h
        rw [cut?_close, Nat.add_sub_cancel, ih h, Option.map_none]
    · rw [depth?_ordinary hc] at h
      rw [cut?_ordinary hc, if_neg (by simp), ih h, Option.map_none]

/-- Where the first part has no needle, the cut is made in the second. -/
theorem cut?_append {n : Char} {d e : Nat} {p : List Char} (hp : depth? d p = some e)
    (hn : cut? n d p = none) (q : List Char) :
    cut? n d (p ++ q) = (cut? n e q).map fun (a, b) => (p ++ a, b) := by
  induction p generalizing d with
  | nil =>
    rw [depth?_nil] at hp
    cases hp
    simp
  | cons c p ih =>
    rcases char_cases c with rfl | rfl | hc
    · rw [depth?_open] at hp
      rw [cut?_open, Option.map_eq_none_iff] at hn
      rw [List.cons_append, cut?_open, ih hp hn, Option.map_map]
      rfl
    · cases d with
      | zero => cases hp
      | succ d =>
        rw [depth?_close_succ] at hp
        rw [cut?_close, Option.map_eq_none_iff, Nat.add_sub_cancel] at hn
        rw [List.cons_append, cut?_close, Nat.add_sub_cancel, ih hp hn, Option.map_map]
        rfl
    · rw [depth?_ordinary hc] at hp
      rw [cut?_ordinary hc] at hn
      split at hn
      · cases hn
      · next h =>
        rw [Option.map_eq_none_iff] at hn
        rw [List.cons_append, cut?_ordinary hc, if_neg h, ih hp hn, Option.map_map]
        rfl

/-- Ahead of the first needle nothing is cut, whatever follows it. -/
theorem cut?_append_needle {n : Char} {p : List Char} (hn : IsOrdinary n) (hp : depth? 0 p = some 0)
    (hnone : cut? n 0 p = none) (q : List Char) : cut? n 0 (p ++ n :: q) = some (p, q) := by
  rw [cut?_append hp hnone, cut?_ordinary hn, if_pos ⟨rfl, rfl⟩]
  simp

end LocatorQuery.Nesting
