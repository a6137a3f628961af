import Mathlib.Data.List.Basic
import Mathlib.Data.List.Induction
import Mathlib.Data.List.Nodup

/-! The distinct elements of a list, in the order in which they are first seen. -/
namespace LocatorQuery

variable {α : Type} [BEq α] [LawfulBEq α]

theorem eraseDups_concat_of_mem {as : List α} {a : α} (h : a ∈ as) :
    (as ++ [a]).eraseDups = as.eraseDups := by
  have hremove : [a].removeAll as = [] := by
    rw [List.cons_removeAll, if_neg (by simpa using h)]
    rfl
  rw [List.eraseDups_append, hremove, List.eraseDups_nil, List.append_nil]

theorem eraseDups_concat_of_notMem {as : List α} {a : α} (h : a ∉ as) :
    (as ++ [a]).eraseDups = as.eraseDups ++ [a] := by
  have hremove : [a].removeAll as = [a] := by
    rw [List.cons_removeAll, if_pos (by simpa using h)]
    rfl
  rw [List.eraseDups_append, hremove]
  rfl

/-- Each distinct element stands ahead of those that are first seen after it. -/
theorem pairwise_eraseDups (as : List α) :
    as.eraseDups.Pairwise fun a b => as.idxOf a < as.idxOf b := by
  induction as using List.reverseRecOn with
  | nil => exact .nil
  | append_singleton as a ih =>
    have hseen : as.eraseDups.Pairwise fun b c => (as ++ [a]).idxOf b < (as ++ [a]).idxOf c := by
      refine ih.imp_of_mem fun hb hc hlt => ?_
      rw [List.mem_eraseDups] at hb hc
      rwa [List.idxOf_append_of_mem hb, List.idxOf_append_of_mem hc]
    by_cases h : a ∈ as
    · rw [eraseDups_concat_of_mem h]
      exact hseen
    · rw [eraseDups_concat_of_notMem h, List.pairwise_append]
      refine ⟨hseen, List.pairwise_singleton _ _, fun b hb c hc => ?_⟩
      rw [List.mem_eraseDups] at hb
      rw [List.mem_singleton] at hc
      rw [hc, List.idxOf_append_of_mem hb, List.idxOf_append_of_notMem h]
      exact Nat.lt_of_lt_of_le (List.idxOf_lt_length_of_mem hb) (Nat.le_add_right _ _)

theorem eraseDups_of_nodup {as : List α} (h : as.Nodup) : as.eraseDups = as := by
  induction as using List.reverseRecOn with
  | nil => rfl
  | append_singleton as a ih =>
    rw [← List.concat_eq_append, List.nodup_concat] at h
    rw [eraseDups_concat_of_notMem h.1, ih h.2]

theorem nodup_eraseDups (as : List α) : as.eraseDups.Nodup := by
  refine (pairwise_eraseDups as).imp fun hlt heq => ?_
  rw [heq] at hlt
  exact Nat.lt_irrefl _ hlt

end LocatorQuery
