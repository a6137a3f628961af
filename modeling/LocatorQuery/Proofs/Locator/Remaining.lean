import LocatorQuery.Proofs.Locator.Demand

/-! What remains of a locator once its taken dimensions are left out. A reading that only takes values
and reports on untaken ones cannot tell two locators apart of which the same remains. -/
namespace LocatorQuery

namespace Dimension

theorem filter_markFirst (name : String) (ds : List Dimension) :
    ((markFirst name ds).filter fun d => !d.taken) =
      (ds.filter fun d => !d.taken).eraseP fun d => d.name == name := by
  induction ds with
  | nil => rfl
  | cons d ds ih =>
    rw [markFirst]
    split
    · next ho =>
      obtain ⟨ht, hn⟩ := isOpen_iff.mp ho
      simp [ht, hn]
    · next ho =>
      rw [isOpen_iff, not_and] at ho
      rw [List.filter_cons, List.filter_cons, ih]
      cases ht : d.taken with
      | true => rfl
      | false => simp [ho ht]

theorem filter_markAll (name : String) (ds : List Dimension) :
    ((markAll name ds).filter fun d => !d.taken) =
      (ds.filter fun d => !d.taken).filter fun d => d.name != name := by
  induction ds with
  | nil => rfl
  | cons d ds ih =>
    rw [markAll_cons, List.filter_cons, ih, List.filter_cons]
    split
    · next ho =>
      obtain ⟨ht, hn⟩ := isOpen_iff.mp ho
      simp [ht, hn]
    · next ho =>
      rw [isOpen_iff, not_and] at ho
      cases ht : d.taken with
      | true => rfl
      | false => simp [ho ht]

theorem filter_open_open (ds : List Dimension) :
    ((ds.filter fun d => !d.taken).filter fun d => !d.taken) = ds.filter fun d => !d.taken := by
  simp only [List.filter_filter, Bool.and_self]

theorem openValues_filter (name : String) (ds : List Dimension) :
    openValues name (ds.filter fun d => !d.taken) = openValues name ds := by
  have hopen : (fun d => d.isOpen name && !d.taken) = isOpen name := by
    funext d
    rw [isOpen, Bool.and_right_comm, Bool.and_self]
  rw [openValues, List.filter_filter, hopen, openValues]

end Dimension

namespace Locator
open Dimension

/-- The locator without what has been taken of its dimensions. -/
def remaining : Locator → Locator
  | single v t => .single v t
  | dimensions ds => .dimensions (ds.filter fun d => !d.taken)

theorem openValues_remaining (l : Locator) : l.remaining.openValues = l.openValues := by
  funext name
  cases l with
  | single v t => rfl
  | dimensions ds => exact openValues_filter name ds

theorem unused_remaining (l : Locator) : l.remaining.unused = l.unused := by
  cases l with
  | single v t => rfl
  | dimensions ds => rw [remaining, unused, unused, filter_open_open]

/-- Taking is a function of what remains. -/
theorem remaining_take (name : String) (l : Locator) :
    (l.take name).2.remaining = (l.remaining.take name).2.remaining := by
  cases l with
  | single v t => rfl
  | dimensions ds =>
    rw [remaining, take_dimensions, take_dimensions, remaining, remaining, filter_markFirst,
      filter_markFirst, filter_open_open]

theorem remaining_takeAll (name : String) (l : Locator) :
    (l.takeAll name).2.remaining = (l.remaining.takeAll name).2.remaining := by
  cases l with
  | single v t => rfl
  | dimensions ds =>
    change (dimensions (markAll name ds)).remaining =
      (dimensions (markAll name (ds.filter fun d => !d.taken))).remaining
    rw [remaining, remaining, filter_markAll, filter_markAll, filter_open_open]

theorem take_congr {l l' : Locator} (h : l.remaining = l'.remaining) (name : String) :
    (l.take name).2.remaining = (l'.take name).2.remaining := by
  rw [remaining_take, h, ← remaining_take]

/-- A dimension that is taken first under its name is gone, and nothing else is. -/
theorem remaining_take_append {name : String} {ds : List Dimension} (h : ∀ d ∈ ds, d.name ≠ name)
    {d : Dimension} (hd : d.isOpen name = true) (es : List Dimension) :
    ((dimensions (ds ++ d :: es)).take name).2.remaining = (dimensions (ds ++ es)).remaining := by
  obtain ⟨ht, hn⟩ := isOpen_iff.mp hd
  have hother : ∀ d ∈ ds.filter fun d => !d.taken, ¬ (d.name == name) = true := by
    intro d hd
    rw [beq_iff_eq]
    exact h d (List.mem_of_mem_filter hd)
  rw [take_dimensions, remaining, filter_markFirst, List.filter_append,
    List.filter_cons_of_pos (by simp [ht]), List.eraseP_append_right _ hother,
    List.eraseP_cons_of_pos (by simp [hn]), ← List.filter_append, remaining]

/-- A dimension that alone has its name is gone once all values of the name are taken. -/
theorem remaining_takeAll_append {name : String} {ds es : List Dimension}
    (h : ∀ d ∈ ds ++ es, d.name ≠ name) {d : Dimension} (hd : d.isOpen name = true) :
    ((dimensions (ds ++ d :: es)).takeAll name).2.remaining = (dimensions (ds ++ es)).remaining := by
  obtain ⟨ht, hn⟩ := isOpen_iff.mp hd
  have hkept : ∀ d ∈ (ds ++ es).filter fun d => !d.taken, (d.name != name) = true := by
    intro d hd
    rw [bne_iff_ne]
    exact h d (List.mem_of_mem_filter hd)
  change dimensions ((markAll name (ds ++ d :: es)).filter fun d => !d.taken) = _
  rw [filter_markAll, List.filter_append, List.filter_cons_of_pos (by simp [ht]),
    List.filter_append, List.filter_cons_of_neg (by simp [hn]), ← List.filter_append,
    ← List.filter_append, List.filter_eq_self.mpr hkept, remaining]

/-- Taking a name that no open dimension has changes nothing. -/
theorem take_of_openValues_nil {name : String} {l : Locator} (h : l.openValues name = []) :
    (l.take name).2 = l := by
  cases l with
  | single v t => rfl
  | dimensions ds =>
    have hds : markFirst name ds = ds := markFirst_of_openValues_nil h
    rw [take_dimensions, hds]

/-- Whatever is demanded of a locator with nothing open, it stays as it is. -/
theorem serveAll_of_openValues_nil {l : Locator} (h : ∀ name, l.openValues name = [])
    (ds : List Demand) : l.serveAll ds = l := by
  have hserve : ∀ d : Demand, l.serve d = l := by
    intro d
    rw [serve]
    split
    · cases l with
      | single v t => rfl
      | dimensions ds => exact congrArg dimensions (markAll_of_openValues_nil (h d.name))
    · exact take_of_openValues_nil (h d.name)
  induction ds with
  | nil => rfl
  | cons d ds ih =>
    change (l.serve d).serveAll ds = l
    rw [hserve, ih]

theorem remaining_serve {l l' : Locator} (h : l.remaining = l'.remaining) (d : Demand) :
    (l.serve d).remaining = (l'.serve d).remaining := by
  rw [serve, serve]
  split
  · rw [remaining_takeAll, h, ← remaining_takeAll]
  · exact take_congr h d.name

theorem remaining_serveAll {l l' : Locator} (h : l.remaining = l'.remaining) (ds : List Demand) :
    (l.serveAll ds).remaining = (l'.serveAll ds).remaining := by
  induction ds generalizing l l' with
  | nil => exact h
  | cons d ds ih => exact ih (remaining_serve h d)

end Locator

namespace Reading

variable {α β : Type}

/-- A reading that depends on nothing but what remains of its locator. -/
def Blind (r : Reading α) : Prop :=
  ∀ l l', l.remaining = l'.remaining → r.answer l = r.answer l' ∧
    ∀ a, r.answer l = .ok a → (r.run l).2.remaining = (r.run l').2.remaining

theorem openValues_congr {l l' : Locator} (h : l.remaining = l'.remaining) :
    l.openValues = l'.openValues := by
  rw [← Locator.openValues_remaining, h, Locator.openValues_remaining]

/-- Whatever takes just what it demands is blind to the rest. -/
theorem Reads.blind {r : Reading α} {ds : List Demand}
    {result : (String → List String) → Except LocatorError α} (h : Reads r ds result) : Blind r := by
  intro l l' hl
  have hanswer : r.answer l = r.answer l' := by rw [h.answer, h.answer, openValues_congr hl]
  refine ⟨hanswer, fun a ha => ?_⟩
  rw [h.left l a ha, h.left l' a (hanswer ▸ ha)]
  exact Locator.remaining_serveAll hl ds

theorem Blind.bind {r : Reading α} {f : α → Reading β} (hr : Blind r) (hf : ∀ a, Blind (f a)) :
    Blind (r >>= f) := by
  intro l l' h
  obtain ⟨hanswer, hleft⟩ := hr l l' h
  rw [answer_bind, answer_bind, ← hanswer]
  cases ha : r.answer l with
  | error e => exact ⟨rfl, nofun⟩
  | ok a =>
    obtain ⟨hnext, hrest⟩ := hf a _ _ (hleft a ha)
    refine ⟨hnext, fun b hb => ?_⟩
    rw [left_bind ha, left_bind (hanswer ▸ ha)]
    exact hrest b hb

theorem blind_pure (a : α) : Blind (pure a : Reading α) := (reads_pure a).blind

theorem blind_mapM {γ : Type} {f : γ → Reading α} (hf : ∀ c, Blind (f c)) (cs : List γ) :
    Blind (cs.mapM f) := by
  induction cs with
  | nil => exact blind_pure []
  | cons c cs ih =>
    rw [List.mapM_cons]
    exact (hf c).bind fun a => ih.bind fun as => blind_pure (a :: as)

theorem blind_lone : Blind lone := by
  intro l l' h
  rw [Reading.answer, Reading.answer, run_lone, run_lone]
  cases l with
  | single v t =>
    cases l' with
    | single v' t' => cases h; exact ⟨rfl, fun _ _ => rfl⟩
    | dimensions ds => cases h
  | dimensions ds =>
    cases l' with
    | single v t => cases h
    | dimensions ds' => exact ⟨rfl, fun _ _ => h⟩

theorem blind_finish (supported : List String) : Blind (finish supported) := by
  intro l l' h
  have hunused : l.unused = l'.unused := by
    rw [← Locator.unused_remaining, h, Locator.unused_remaining]
  rw [Reading.answer, Reading.answer, run_finish, run_finish, Locator.finish, Locator.finish, hunused]
  exact ⟨rfl, fun _ _ => h⟩

end Reading

end LocatorQuery
