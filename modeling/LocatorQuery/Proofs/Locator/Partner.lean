import Mathlib.Data.List.Induction
import LocatorQuery.Proofs.Locator.Nesting

/-! Parentheses and their partners. In a balanced text each opening parenthesis is closed behind a balanced
text, and each closing one was opened ahead of one. -/
namespace LocatorQuery.Nesting

/-- What stands behind an opening parenthesis holds the one that closes it. -/
def Closes (behind : List Char) : Prop := ∃ body rest, Balanced body ∧ behind = body ++ ')' :: rest

theorem Closes.append {behind : List Char} (h : Closes behind) (more : List Char) :
    Closes (behind ++ more) := by
  obtain ⟨body, rest, hbody, rfl⟩ := h
  exact ⟨body, rest ++ more, hbody, by simp⟩

/-- A text that closes all groups but the `k` outer ones closes the next one somewhere. The groups inside
that one, `j` of which are open, are closed before. -/
theorem exists_close {j k e : Nat} {cs : List Char} (h : depth? (j + 1 + k) cs = some e) (he : e ≤ k) :
    ∃ body rest, cs = body ++ ')' :: rest ∧ depth? j body = some 0 := by
  induction cs generalizing j with
  | nil =>
    rw [depth?_nil, Option.some.injEq] at h
    omega
  | cons c cs ih =>
    rcases char_cases c with rfl | rfl | hc
    · rw [depth?_open, Nat.add_right_comm] at h
      obtain ⟨body, rest, rfl, hbody⟩ := ih h
      exact ⟨'(' :: body, rest, rfl, (depth?_open j body).trans hbody⟩
    · rw [Nat.add_right_comm, depth?_close_succ] at h
      cases j with
      | zero => exact ⟨[], cs, rfl, depth?_nil 0⟩
      | succ j =>
        obtain ⟨body, rest, rfl, hbody⟩ := ih h
        exact ⟨')' :: body, rest, rfl, hbody⟩
    · rw [depth?_ordinary hc] at h
      obtain ⟨body, rest, rfl, hbody⟩ := ih h
      exact ⟨c :: body, rest, rfl, (depth?_ordinary hc j body).trans hbody⟩

theorem Balanced.closes {ahead behind : List Char} (h : Balanced (ahead ++ '(' :: behind)) :
    Closes behind := by
  rw [balanced_iff_depth?, depth?_append, Option.bind_eq_some_iff] at h
  obtain ⟨k, -, h⟩ := h
  rw [depth?_open, ← Nat.zero_add (k + 1), Nat.add_comm k 1, ← Nat.add_assoc] at h
  obtain ⟨body, rest, hrest, hbody⟩ := exists_close h (Nat.zero_le k)
  exact ⟨body, rest, balanced_iff_depth?.mpr hbody, hrest⟩

/-- A text that leaves more groups open than it started in has opened the last but `j` of them somewhere. -/
theorem exists_open {d e j : Nat} {cs : List Char} (h : depth? d cs = some (e + 1 + j)) (hd : d ≤ e) :
    ∃ ahead body, cs = ahead ++ '(' :: body ∧ depth? 0 body = some j := by
  -- From behind, a closing parenthesis adds a group to those that the body leaves open.
  induction cs using List.reverseRecOn generalizing j with
  | nil =>
    rw [depth?_nil, Option.some.injEq] at h
    omega
  | append_singleton cs c ih =>
    rw [depth?_append, Option.bind_eq_some_iff] at h
    obtain ⟨k, hcs, hlast⟩ := h
    rcases char_cases c with rfl | rfl | hc
    · rw [depth?_open, depth?_nil, Option.some.injEq] at hlast
      cases j with
      | zero => exact ⟨cs, [], rfl, depth?_nil 0⟩
      | succ j =>
        obtain rfl : k = e + 1 + j := by omega
        obtain ⟨ahead, body, rfl, hbody⟩ := ih hcs
        exact ⟨ahead, body ++ ['('], by simp, by simp [depth?_append, hbody]⟩
    · cases k with
      | zero => cases hlast
      | succ k =>
        rw [depth?_close_succ, depth?_nil, Option.some.injEq] at hlast
        rw [hlast, Nat.add_assoc] at hcs
        obtain ⟨ahead, body, rfl, hbody⟩ := ih hcs
        exact ⟨ahead, body ++ [')'], by simp, by simp [depth?_append, hbody]⟩
    · rw [depth?_ordinary hc, depth?_nil, Option.some.injEq] at hlast
      obtain ⟨ahead, body, rfl, hbody⟩ := ih (hlast ▸ hcs)
      exact ⟨ahead, body ++ [c], by simp, by simp [depth?_append, hbody, depth?_ordinary hc]⟩

/-- A balanced text that ends in a parenthesis ends in a group. -/
theorem Balanced.exists_group {cs : List Char} (h : Balanced cs) (last : cs.getLast? = some ')') :
    ∃ ahead body, Balanced body ∧ cs = ahead ++ '(' :: (body ++ [')']) := by
  obtain ⟨front, rfl⟩ := List.getLast?_eq_some_iff.mp last
  rw [balanced_iff_depth?, depth?_append, Option.bind_eq_some_iff] at h
  obtain ⟨k, hfront, hlast⟩ := h
  cases k with
  | zero => cases hlast
  | succ k =>
    rw [depth?_close_succ, depth?_nil, Option.some.injEq] at hlast
    subst hlast
    obtain ⟨ahead, body, rfl, hbody⟩ := @exists_open 0 0 0 _ hfront (Nat.le_refl 0)
    exact ⟨ahead, body, balanced_iff_depth?.mpr hbody, by simp⟩

end LocatorQuery.Nesting
