import Mathlib.Data.List.Nodup
import LocatorQuery.Proofs.Locator.Taking

/-! Distinct keys. Where no two items have the same key, a key finds its one item or nothing, and a name
that is not repeated its one value. -/
namespace LocatorQuery

section Keys
variable {α : Type} {key : α → String} {items : List α} (distinct : (items.map key).Nodup)
include distinct

theorem filter_key_eq (k : String) :
    items.filter (fun item => key item == k) = (items.find? fun item => key item == k).toList := by
  induction items with
  | nil => rfl
  | cons item items ih =>
    rw [List.map_cons, List.nodup_cons] at distinct
    by_cases h : key item = k
    · -- No later item has this key again.
      have hrest : items.filter (fun item => key item == k) = [] := by
        rw [List.filter_eq_nil_iff]
        intro other hother hk
        have hmem : key other ∈ items.map key := List.mem_map_of_mem hother
        exact distinct.1 (h ▸ beq_iff_eq.mp hk ▸ hmem)
      rw [List.filter_cons_of_pos (by simpa using h), List.find?_cons_of_pos (by simpa using h), hrest]
      rfl
    · rw [List.filter_cons_of_neg (by simpa using h), List.find?_cons_of_neg (by simpa using h),
        ih distinct.2]

theorem find?_key_eq_some_iff {k : String} {item : α} :
    items.find? (fun item => key item == k) = some item ↔ item ∈ items ∧ key item = k := by
  rw [← Option.mem_toList, ← filter_key_eq distinct, List.mem_filter, beq_iff_eq]

/-- Items that bring all the keys are all there is. -/
theorem perm_of_keys {found : List α} (once : found.Nodup) (sub : found ⊆ items)
    (keys : ∀ item ∈ items, key item ∈ found.map key) : items.Perm found := by
  rw [List.perm_ext_iff_of_nodup (.of_map key distinct) once]
  refine fun item => ⟨fun hitem => ?_, fun hfound => sub hfound⟩
  obtain ⟨other, hother, hkey⟩ := List.mem_map.mp (keys item hitem)
  exact List.inj_on_of_nodup_map distinct (sub hother) hitem hkey ▸ hother

end Keys

namespace Locator

variable {ds : List Dimension} (once : (ds.map Dimension.name).Nodup)
include once

theorem valuesOf_eq_find? (name : String) :
    (dimensions ds).valuesOf name =
      ((ds.find? fun d => d.name == name).map Dimension.value).toList := by
  rw [valuesOf, items, filter_key_eq once]
  cases ds.find? fun d => d.name == name with
  | none => rfl
  | some d => rfl

theorem head?_valuesOf_eq_some_iff {name raw : String} :
    ((dimensions ds).valuesOf name).head? = some raw ↔ ∃ d ∈ ds, d.name = name ∧ d.value = raw := by
  rw [valuesOf_eq_find? once, Option.head?_toList, Option.map_eq_some_iff]
  simp only [find?_key_eq_some_iff once, and_assoc]

theorem head?_valuesOf_of_untaken (untaken : (dimensions ds).Untaken) {name raw : String} :
    ((dimensions ds).valuesOf name).head? = some raw ↔
      ({ name, value := raw } : Dimension) ∈ ds := by
  rw [head?_valuesOf_eq_some_iff once]
  constructor
  · rintro ⟨d, hd, rfl, rfl⟩
    have htaken : d.taken = false := untaken d hd
    cases d
    cases htaken
    exact hd
  · exact fun hd => ⟨_, hd, rfl, rfl⟩

theorem forall_head?_valuesOf_iff {name : String} {P : String → Prop} :
    (∀ raw, ((dimensions ds).valuesOf name).head? = some raw → P raw) ↔
      ∀ d ∈ ds, d.name = name → P d.value := by
  simp only [head?_valuesOf_eq_some_iff once]
  constructor
  · intro h d hd hname
    exact h _ ⟨d, hd, hname, rfl⟩
  · rintro h raw ⟨d, hd, hname, rfl⟩
    exact h d hd hname

/-- The values of each name do not depend on the order of the names. -/
theorem valuesOf_of_perm {ds' : List Dimension} (h : ds'.Perm ds) :
    (dimensions ds').valuesOf = (dimensions ds).valuesOf := by
  funext name
  have once' : (ds'.map Dimension.name).Nodup := (h.map Dimension.name).nodup_iff.mpr once
  have hfind : (ds'.find? fun d => d.name == name) = ds.find? fun d => d.name == name := by
    ext d
    rw [find?_key_eq_some_iff once', find?_key_eq_some_iff once, h.mem_iff]
  rw [valuesOf_eq_find? once', valuesOf_eq_find? once, hfind]

end Locator

end LocatorQuery
