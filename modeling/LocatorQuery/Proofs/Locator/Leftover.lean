import LocatorQuery.Proofs.Locator.Delivery
import LocatorQuery.Proofs.Locator.Demand

/-! What is left of a locator once demands are served. Under each name the values that stay open are
decided by those that were open before; only the order of the unused names is that of the locator. -/
namespace LocatorQuery.Locator
open Dimension

theorem exists_serveAll_dimensions (ds : List Demand) (items : List Dimension) :
    ∃ left, (dimensions items).serveAll ds = .dimensions left := by
  induction ds generalizing items with
  | nil => exact ⟨items, rfl⟩
  | cons d ds ih =>
    obtain ⟨next, hnext⟩ : ∃ next, (dimensions items).serve d = .dimensions next := by
      rw [serve]
      split
      · exact ⟨_, rfl⟩
      · exact ⟨_, take_dimensions d.name items⟩
    obtain ⟨left, hleft⟩ := ih next
    exact ⟨left, (congrArg (serveAll ds) hnext).trans hleft⟩

theorem openValues_serve_self (d : Demand) (l : Locator) :
    (l.serve d).openValues d.name = if d.all then [] else (l.openValues d.name).tail := by
  rw [serve]
  split
  · rw [openValues_takeAll, if_pos rfl]
  · rw [openValues_take, if_pos rfl]

theorem openValues_serve_suffix (d : Demand) (l : Locator) (name : String) :
    (l.serve d).openValues name <:+ l.openValues name := by
  by_cases h : name = d.name
  · rw [h, openValues_serve_self]
    split
    · exact List.nil_suffix
    · exact List.tail_suffix _
  · exact openValues_serve h l ▸ List.suffix_rfl

theorem openValues_serveAll_suffix (ds : List Demand) (l : Locator) (name : String) :
    (l.serveAll ds).openValues name <:+ l.openValues name := by
  induction ds generalizing l with
  | nil => exact List.suffix_refl _
  | cons d ds ih => exact (ih (l.serve d)).trans (openValues_serve_suffix d l name)

/-- A name is used up once all its values are demanded, or one of at most one. -/
theorem openValues_serveAll_of_mem {ds : List Demand} {d : Demand} (hd : d ∈ ds) {l : Locator}
    (h : d.all = true ∨ (l.openValues d.name).length ≤ 1) :
    (l.serveAll ds).openValues d.name = [] := by
  induction ds generalizing l with
  | nil => cases hd
  | cons e ds ih =>
    rcases List.mem_cons.mp hd with rfl | hd
    · have hserved : (l.serve d).openValues d.name = [] := by
        rw [openValues_serve_self]
        split
        · rfl
        · next hall =>
          have hone : (l.openValues d.name).length ≤ 1 := h.resolve_left hall
          rw [← List.length_eq_zero_iff, List.length_tail]
          omega
      exact List.suffix_nil.mp (hserved ▸ openValues_serveAll_suffix ds (l.serve d) d.name)
    · have hlength := (openValues_serve_suffix e l d.name).length_le
      exact ih hd (h.imp_right fun hone => Nat.le_trans hlength hone)

theorem openValues_serve_congr {l l' : Locator} (h : l.openValues = l'.openValues) (d : Demand) :
    (l.serve d).openValues = (l'.serve d).openValues := by
  funext name
  by_cases hname : name = d.name
  · rw [hname, openValues_serve_self, openValues_serve_self, h]
  · rw [openValues_serve hname, openValues_serve hname, h]

theorem openValues_serveAll_congr {l l' : Locator} (h : l.openValues = l'.openValues)
    (ds : List Demand) : (l.serveAll ds).openValues = (l'.serveAll ds).openValues := by
  induction ds generalizing l l' with
  | nil => exact h
  | cons d ds ih => exact ih (openValues_serve_congr h d)

theorem mem_unused_iff_openValues {ds : List Dimension} {name : String} :
    name ∈ (dimensions ds).unused ↔ (dimensions ds).openValues name ≠ [] := by
  rw [mem_unused_iff, openValues, Ne, openValues_eq_nil_iff]
  simp only [items, not_forall, Bool.not_eq_true, exists_prop]

/-- Locators with the same open values leave the same names unused. -/
theorem unused_serveAll_perm {items items' : List Dimension}
    (h : (dimensions items).openValues = (dimensions items').openValues) (ds : List Demand) :
    ((dimensions items).serveAll ds).unused.Perm ((dimensions items').serveAll ds).unused := by
  have hopen := openValues_serveAll_congr h ds
  obtain ⟨left, hleft⟩ := exists_serveAll_dimensions ds items
  obtain ⟨left', hleft'⟩ := exists_serveAll_dimensions ds items'
  rw [hleft, hleft'] at hopen ⊢
  refine (List.perm_ext_iff_of_nodup (nodup_eraseDups _) (nodup_eraseDups _)).mpr fun name => ?_
  change name ∈ (dimensions left).unused ↔ name ∈ (dimensions left').unused
  rw [mem_unused_iff_openValues, mem_unused_iff_openValues, hopen]

/-- Nothing is unused when each name is used up or was not open at all. -/
theorem unused_serveAll_eq_nil {ds : List Demand} {items : List Dimension}
    (h : ∀ name, (dimensions items).openValues name ≠ [] → ∃ d ∈ ds, d.name = name ∧
      (d.all = true ∨ ((dimensions items).openValues name).length ≤ 1)) :
    ((dimensions items).serveAll ds).unused = [] := by
  rw [List.eq_nil_iff_forall_not_mem]
  intro name hname
  obtain ⟨left, hleft⟩ := exists_serveAll_dimensions ds items
  rw [hleft, mem_unused_iff_openValues, ← hleft] at hname
  have hopen : (dimensions items).openValues name ≠ [] := by
    intro hnil
    exact hname (List.suffix_nil.mp (hnil ▸ openValues_serveAll_suffix ds _ name))
  obtain ⟨d, hd, rfl, hone⟩ := h name hopen
  exact hname (openValues_serveAll_of_mem hd hone)

end LocatorQuery.Locator
