import LocatorQuery.Proofs.Locator.Leftover
import LocatorQuery.Proofs.Locator.Remaining

/-! Leaving out a name. The values of the other names stay as they are, and if all values of the name get
used up, the same is left over as if the name had never been there. -/
namespace LocatorQuery

namespace Dimension

/-- The first dimension of a name is dropped before or after those of another name, or of the same. -/
theorem eraseP_filter (name other : String) (ds : List Dimension) :
    ((ds.filter fun d => d.name != name).eraseP fun d => d.name == other) =
      (ds.eraseP fun d => d.name == other).filter fun d => d.name != name := by
  induction ds with
  | nil => rfl
  | cons d ds ih =>
    by_cases hname : d.name = name
    · rw [List.filter_cons_of_neg (by simpa using hname)]
      by_cases hother : d.name = other
      · -- The dropped dimension has the name that is left out anyway.
        rw [List.eraseP_cons_of_pos (by simpa using hother), List.eraseP_of_forall_not]
        intro e he
        have hne : e.name ≠ name := by simpa using (List.mem_filter.mp he).2
        simpa [← hother, hname] using hne
      · rw [List.eraseP_cons_of_neg (by simpa using hother),
          List.filter_cons_of_neg (by simpa using hname), ih]
    · rw [List.filter_cons_of_pos (by simpa using hname)]
      by_cases hother : d.name = other
      · rw [List.eraseP_cons_of_pos (by simpa using hother),
          List.eraseP_cons_of_pos (by simpa using hother)]
      · rw [List.eraseP_cons_of_neg (by simpa using hother),
          List.eraseP_cons_of_neg (by simpa using hother),
          List.filter_cons_of_pos (by simpa using hname), ih]

theorem filter_name_erased (name other : String) (ds : List Dimension) :
    ((ds.filter fun d => d.name != other).filter fun d => d.name == name) =
      if name = other then [] else ds.filter fun d => d.name == name := by
  rw [List.filter_filter]
  split
  · next h =>
    rw [List.filter_eq_nil_iff]
    simp [h]
  · next h =>
    refine List.filter_congr fun d _ => ?_
    rw [Bool.eq_iff_iff]
    simp only [Bool.and_eq_true, beq_iff_eq, bne_iff_ne, and_iff_left_iff_imp]
    intro hd
    exact hd ▸ h

end Dimension

namespace Locator
open Dimension

theorem items_erase (name : String) (l : Locator) :
    (l.erase name).items = l.items.filter fun d => d.name != name := by
  cases l with
  | single v t => rfl
  | dimensions ds => rfl

theorem valuesOf_erase (name other : String) (l : Locator) :
    (l.erase other).valuesOf name = if name = other then [] else l.valuesOf name := by
  rw [valuesOf, items_erase, filter_name_erased, valuesOf]
  split
  · rfl
  · rfl

theorem openValues_erase (name other : String) (l : Locator) :
    (l.erase other).openValues name = if name = other then [] else l.openValues name := by
  rw [openValues, items_erase, openValues_eq, filter_name_erased, openValues, openValues_eq]
  split
  · rfl
  · rfl

theorem isPresent_of_erase {l : Locator} {name other : String}
    (h : (l.erase other).isPresent name = true) : l.isPresent name = true := by
  rw [isPresent_iff, valuesOf_erase] at h
  rw [isPresent_iff]
  split at h
  · exact absurd rfl h
  · exact h

theorem remaining_erase (name : String) (l : Locator) :
    (l.erase name).remaining = l.remaining.erase name := by
  cases l with
  | single v t => rfl
  | dimensions ds => exact congrArg dimensions (List.filter_comm _ _ ds)

/-- What a demand takes does not depend on the name that is left out. -/
theorem remaining_serve_erase (d : Demand) (name : String) (l : Locator) :
    ((l.erase name).serve d).remaining = ((l.serve d).erase name).remaining := by
  rw [remaining_erase, serve, serve]
  cases l with
  | single v t =>
    split
    · rfl
    · rfl
  | dimensions ds =>
    -- On both sides what is open, less the name, less what the demand takes.
    split
    · refine congrArg dimensions ?_
      rw [filter_markAll, filter_markAll, List.filter_comm _ _ ds]
      exact List.filter_comm _ _ _
    · rw [erase, take_dimensions, take_dimensions, remaining, remaining, erase, filter_markFirst,
        filter_markFirst, List.filter_comm, eraseP_filter]

theorem remaining_serveAll_erase (ds : List Demand) (name : String) (l : Locator) :
    ((l.erase name).serveAll ds).remaining = ((l.serveAll ds).erase name).remaining := by
  induction ds generalizing l with
  | nil => rfl
  | cons d ds ih => exact (remaining_serveAll (remaining_serve_erase d name l) ds).trans (ih (l.serve d))

theorem remaining_erase_of_openValues_nil {l : Locator} {name : String}
    (h : l.openValues name = []) : (l.erase name).remaining = l.remaining := by
  cases l with
  | single v t => rfl
  | dimensions ds =>
    rw [remaining_erase]
    refine congrArg dimensions (List.filter_eq_self.mpr fun d hd => ?_)
    obtain ⟨hd, hopen⟩ := List.mem_filter.mp hd
    rw [bne_iff_ne]
    intro hname
    have htaken : d.taken = true := Dimension.openValues_eq_nil_iff.mp h d hd hname
    simp [htaken] at hopen

/-- A name that is used up leaves nothing behind. -/
theorem unused_serveAll_erase {ds : List Demand} {name : String} {l : Locator}
    (h : (l.serveAll ds).openValues name = []) :
    ((l.erase name).serveAll ds).unused = (l.serveAll ds).unused := by
  rw [← unused_remaining, remaining_serveAll_erase, remaining_erase_of_openValues_nil h,
    unused_remaining]

section Inserted
variable {name value : String} {before after : List (String × String)}
  (others : ∀ p ∈ before ++ after, p.1 ≠ name)
include others

theorem erase_inserted :
    (ofList (before ++ (name, value) :: after)).erase name = ofList (before ++ after) := by
  have hkept : ∀ pairs : List (String × String), (∀ p ∈ pairs, p.1 ≠ name) →
      ((pairs.map fun p => ({ name := p.1, value := p.2 } : Dimension)).filter fun d =>
        d.name != name) = pairs.map fun p => { name := p.1, value := p.2 } := by
    intro pairs h
    refine List.filter_eq_self.mpr fun d hd => ?_
    obtain ⟨p, hp, rfl⟩ := List.mem_map.mp hd
    exact bne_iff_ne.mpr (h p hp)
  rw [List.forall_mem_append] at others
  rw [ofList, erase, List.map_append, List.map_cons, List.filter_append, hkept before others.1,
    List.filter_cons_of_neg (by simp), hkept after others.2, ← List.map_append]
  rfl

theorem openValues_inserted :
    (ofList (before ++ (name, value) :: after)).openValues name = [value] := by
  rw [List.forall_mem_append] at others
  rw [ofList, List.map_append, List.map_cons, openValues_append_of_nil
    (Dimension.openValues_of_forall_ne (List.forall_mem_map.mpr others.1)), Dimension.openValues_cons,
    Dimension.openValues_of_forall_ne (List.forall_mem_map.mpr others.2)]
  exact if_pos (by simp [isOpen])

end Inserted

theorem untaken_ofList (pairs : List (String × String)) : (ofList pairs).Untaken :=
  List.forall_mem_map.mpr fun _ _ => rfl

end Locator

end LocatorQuery
