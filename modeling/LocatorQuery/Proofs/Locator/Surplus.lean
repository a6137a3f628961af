import Mathlib.Data.List.Nodup
import LocatorQuery.Proofs.Locator.Leftover
import LocatorQuery.Proofs.Locator.Remaining

/-! What demands leave of a list of dimensions, one dimension after another. A demand for all values of a
name meets each dimension of that name, a demand for one value meets the first. -/
namespace LocatorQuery

namespace Demand

/-- What a demand leaves of untaken dimensions. -/
def rest (e : Demand) (ds : List Dimension) : List Dimension :=
  if e.all then ds.filter fun d => d.name != e.name else ds.eraseP fun d => d.name == e.name

def restAll (es : List Demand) (ds : List Dimension) : List Dimension :=
  es.foldl (fun ds e => e.rest ds) ds

/-- Whether a demand is for a dimension that stands behind some others. -/
def meets (e : Demand) (before : List Dimension) (d : Dimension) : Bool :=
  d.name == e.name && (e.all || before.all fun b => b.name != e.name)

theorem meets_iff {e : Demand} {before : List Dimension} {d : Dimension} :
    e.meets before d = true ↔
      d.name = e.name ∧ (e.all = true ∨ ∀ b ∈ before, b.name ≠ e.name) := by
  simp [meets]

theorem rest_sublist (e : Demand) (ds : List Dimension) : (e.rest ds).Sublist ds := by
  rw [rest]
  split
  · exact List.filter_sublist
  · exact List.eraseP_sublist

theorem restAll_sublist (es : List Demand) (ds : List Dimension) : (restAll es ds).Sublist ds := by
  induction es generalizing ds with
  | nil => exact .refl ds
  | cons e es ih => exact (ih (e.rest ds)).trans (e.rest_sublist ds)

theorem mem_rest_of_ne {e : Demand} {d : Dimension} (h : d.name ≠ e.name) {ds : List Dimension} :
    d ∈ e.rest ds ↔ d ∈ ds := by
  rw [rest]
  split
  · simp [h]
  · exact List.mem_eraseP_of_neg (by simpa using h)

section Concat
variable {e : Demand} {ds : List Dimension} {d : Dimension}

theorem rest_concat_of_meets (h : e.meets ds d = true) : e.rest (ds ++ [d]) = e.rest ds := by
  obtain ⟨hname, h⟩ := meets_iff.mp h
  rw [rest, rest]
  split
  · simp [hname]
  · next hall =>
    have hother : ∀ b ∈ ds, ¬ (b.name == e.name) = true := by
      intro b hb
      rw [beq_iff_eq]
      exact h.resolve_left hall b hb
    rw [List.eraseP_append_right _ hother, List.eraseP_of_forall_not hother,
      List.eraseP_cons_of_pos (by simp [hname]), List.append_nil]

theorem rest_concat_of_not_meets (h : ¬ e.meets ds d = true) :
    e.rest (ds ++ [d]) = e.rest ds ++ [d] := by
  rw [meets_iff, not_and, not_or] at h
  rw [rest, rest]
  split
  · next hall =>
    have hname : d.name ≠ e.name := fun hname => (h hname).1 hall
    simp [hname]
  · by_cases hfirst : ∀ b ∈ ds, ¬ (b.name == e.name) = true
    · have hname : ¬ (d.name == e.name) = true := by
        rw [beq_iff_eq]
        exact fun hname => (h hname).2 fun b hb => by simpa using hfirst b hb
      rw [List.eraseP_append_right _ hfirst, List.eraseP_of_forall_not hfirst]
      simp [hname]
    · obtain ⟨b, hb, hname⟩ : ∃ b ∈ ds, (b.name == e.name) = true := by simpa using hfirst
      exact List.eraseP_append_left (p := fun b => b.name == e.name) hname [d] hb

end Concat

/-- What one demand takes makes no difference to demands for other names. -/
theorem meets_rest {e e' : Demand} (h : e'.name ≠ e.name) (ds : List Dimension) (d : Dimension) :
    e'.meets (e.rest ds) d = e'.meets ds d := by
  rw [Bool.eq_iff_iff, meets_iff, meets_iff]
  refine and_congr_right fun _ => or_congr_right ⟨fun hnone b hb hname => ?_, ?_⟩
  · exact hnone b ((mem_rest_of_ne (hname ▸ h)).mpr hb) hname
  · intro hnone b hb
    exact hnone b ((e.rest_sublist ds).mem hb)

/-- A dimension at the end stays unless one of the demands is for it, whatever becomes of the others. -/
theorem restAll_concat {es : List Demand} (distinct : (es.map name).Nodup) (ds : List Dimension)
    (d : Dimension) :
    restAll es (ds ++ [d]) = restAll es ds ++ if es.any (·.meets ds d) then [] else [d] := by
  induction es generalizing ds with
  | nil => rfl
  | cons e es ih =>
    rw [List.map_cons, List.nodup_cons] at distinct
    rw [List.any_cons]
    by_cases hmeets : e.meets ds d = true
    · rw [hmeets, Bool.true_or, if_pos rfl, List.append_nil]
      exact congrArg (restAll es) (rest_concat_of_meets hmeets)
    · -- The other demands find the dimension behind what this one leaves.
      have hrest : es.any (·.meets (e.rest ds) d) = es.any (·.meets ds d) := by
        rw [Bool.eq_iff_iff, List.any_eq_true, List.any_eq_true]
        refine exists_congr fun e' => and_congr_right fun he' => ?_
        have hne : e'.name ≠ e.name := fun hname => distinct.1 (hname ▸ List.mem_map_of_mem he')
        rw [meets_rest hne]
      rw [Bool.not_eq_true] at hmeets
      rw [hmeets, Bool.false_or, ← hrest]
      exact (congrArg (restAll es) (rest_concat_of_not_meets (by simp [hmeets]))).trans
        (ih distinct.2 (e.rest ds))

/-- Of dimensions that repeat no name, demands leave those that have none of their names. -/
theorem restAll_of_nodup {es : List Demand} (distinct : (es.map name).Nodup) {ds : List Dimension}
    (once : (ds.map Dimension.name).Nodup) :
    restAll es ds = ds.filter fun d => !(es.map name).contains d.name := by
  induction ds using List.reverseRecOn with
  | nil => exact List.sublist_nil.mp (restAll_sublist es [])
  | append_singleton ds d ih =>
    rw [List.map_append, List.map_singleton, ← List.concat_eq_append, List.nodup_concat] at once
    have hmeets : es.any (·.meets ds d) = (es.map name).contains d.name := by
      rw [Bool.eq_iff_iff, List.any_eq_true, List.contains_iff_mem, List.mem_map]
      refine exists_congr fun e => and_congr_right fun _ => ?_
      rw [meets_iff, eq_comm, and_iff_left_iff_imp]
      exact fun hname => .inr fun b hb hbefore =>
        once.1 (hname ▸ hbefore ▸ List.mem_map_of_mem hb)
    rw [restAll_concat distinct, ih once.2, List.filter_append, hmeets, List.filter_cons,
      List.filter_nil]
    cases (es.map name).contains d.name with
    | true => rfl
    | false => rfl

theorem nodup_of_restAll_eq_nil {es : List Demand} (distinct : (es.map name).Nodup)
    (single : ∀ e ∈ es, e.all = false) {ds : List Dimension} (h : restAll es ds = []) :
    (ds.map Dimension.name).Nodup := by
  induction ds using List.reverseRecOn with
  | nil => exact .nil
  | append_singleton ds d ih =>
    rw [restAll_concat distinct, List.append_eq_nil_iff] at h
    obtain ⟨hbefore, hlast⟩ := h
    split at hlast
    · next hmeets =>
      obtain ⟨e, he, hmeets⟩ := List.any_eq_true.mp hmeets
      obtain ⟨hname, hfirst⟩ := meets_iff.mp hmeets
      rw [single e he] at hfirst
      have hother := hfirst.resolve_left nofun
      rw [List.map_append, List.map_singleton, ← List.concat_eq_append, List.nodup_concat]
      refine ⟨fun hmem => ?_, ih hbefore⟩
      obtain ⟨b, hb, hb'⟩ := List.mem_map.mp hmem
      exact hother b hb (hb'.trans hname)
    · cases hlast

/-- Demands for one value each leave nothing just when no name is repeated and each is demanded. -/
theorem restAll_eq_nil_iff {es : List Demand} (distinct : (es.map name).Nodup)
    (single : ∀ e ∈ es, e.all = false) {ds : List Dimension} :
    restAll es ds = [] ↔ (∀ d ∈ ds, d.name ∈ es.map name) ∧ (ds.map Dimension.name).Nodup := by
  have hfilter : (ds.filter fun d => !(es.map name).contains d.name) = [] ↔
      ∀ d ∈ ds, d.name ∈ es.map name := by
    simp [List.filter_eq_nil_iff]
  constructor
  · intro h
    have once := nodup_of_restAll_eq_nil distinct single h
    rw [restAll_of_nodup distinct once] at h
    exact ⟨hfilter.mp h, once⟩
  · rintro ⟨hknown, once⟩
    rw [restAll_of_nodup distinct once]
    exact hfilter.mpr hknown

end Demand

namespace Locator

theorem remaining_serve_dimensions (e : Demand) (ds : List Dimension) :
    ((dimensions ds).serve e).remaining = .dimensions (e.rest (ds.filter fun d => !d.taken)) := by
  rw [serve, Demand.rest]
  split
  · exact congrArg dimensions (Dimension.filter_markAll e.name ds)
  · rw [take_dimensions]
    exact congrArg dimensions (Dimension.filter_markFirst e.name ds)

theorem filter_of_untaken {ds : List Dimension} (h : (dimensions ds).Untaken) :
    (ds.filter fun d => !d.taken) = ds := by
  rw [List.filter_eq_self]
  intro d hd
  rw [h d hd]
  rfl

theorem remaining_of_untaken {ds : List Dimension} (h : (dimensions ds).Untaken) :
    (dimensions ds).remaining = .dimensions ds := by
  rw [remaining, filter_of_untaken h]

theorem remaining_serveAll_of_untaken {ds : List Dimension} (h : (dimensions ds).Untaken)
    (es : List Demand) :
    ((dimensions ds).serveAll es).remaining = .dimensions (Demand.restAll es ds) := by
  induction es generalizing ds with
  | nil => exact remaining_of_untaken h
  | cons e es ih =>
    have hrest : (dimensions (e.rest ds)).Untaken := fun d hd => h d ((e.rest_sublist ds).mem hd)
    have hserve : ((dimensions ds).serve e).remaining = (dimensions (e.rest ds)).remaining := by
      rw [remaining_serve_dimensions, filter_of_untaken h, remaining_of_untaken hrest]
    exact (remaining_serveAll hserve es).trans (ih hrest)

/-- The unused names are those of what demands leave. -/
theorem unused_serveAll_of_untaken {ds : List Dimension} (h : (dimensions ds).Untaken)
    (es : List Demand) :
    ((dimensions ds).serveAll es).unused = ((Demand.restAll es ds).map Dimension.name).eraseDups := by
  have hrest : (dimensions (Demand.restAll es ds)).Untaken := fun d hd =>
    h d ((Demand.restAll_sublist es ds).mem hd)
  rw [← unused_remaining, remaining_serveAll_of_untaken h, unused, filter_of_untaken hrest]

/-- Demands for one value each leave no name unused just when no name is repeated and each is demanded. -/
theorem unused_serveAll_eq_nil_iff {ds : List Dimension} (h : (dimensions ds).Untaken)
    {es : List Demand} (distinct : (es.map Demand.name).Nodup) (single : ∀ e ∈ es, e.all = false) :
    ((dimensions ds).serveAll es).unused = [] ↔
      (∀ d ∈ ds, d.name ∈ es.map Demand.name) ∧ (ds.map Dimension.name).Nodup := by
  rw [unused_serveAll_of_untaken h, ← Demand.restAll_eq_nil_iff distinct single]
  cases Demand.restAll es ds with
  | nil => simp
  | cons d rest => simp [List.eraseDups_cons]

/-- Where demands leave nothing, everything has been taken. -/
theorem serveAll_of_restAll_nil {ds : List Dimension} (h : (dimensions ds).Untaken)
    {es : List Demand} (hrest : Demand.restAll es ds = []) :
    (dimensions ds).serveAll es = .dimensions (ds.map fun d => { d with taken := true }) := by
  obtain ⟨left, hleft⟩ := exists_serveAll_dimensions es ds
  have hnone : (left.filter fun d => !d.taken) = [] := by
    have hremaining := remaining_serveAll_of_untaken h es
    rw [hleft, hrest] at hremaining
    exact dimensions.inj hremaining
  have htaken : ∀ d ∈ left, d.taken = true := by simpa using hnone
  have hpairs : (dimensions left).pairs = (dimensions ds).pairs := hleft ▸ pairs_serveAll es _
  let mark (pair : String × String) : Dimension := { name := pair.1, value := pair.2, taken := true }
  have hmarked : (dimensions left).pairs.map mark = left := by
    rw [pairs, List.map_map]
    refine (List.map_congr_left fun d hd => ?_).trans (List.map_id left)
    have ht : d.taken = true := htaken d hd
    cases d
    cases ht
    rfl
  have hds : (dimensions ds).pairs.map mark = ds.map fun d => { d with taken := true } := by
    rw [pairs, List.map_map]
    rfl
  rw [hleft, ← hds, ← hpairs, hmarked]

end Locator

end LocatorQuery
