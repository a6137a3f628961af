import LocatorQuery.Proofs.Locator.Reading

/-! Readings by demand: which names a reading takes values of, and how its answer follows from them.
Readings that demand different names do not disturb each other. -/
namespace LocatorQuery
open Outcome

/-- A name whose first open value is wanted, or all of them. -/
structure Demand where
  name : String
  all : Bool := false
  deriving DecidableEq, Repr

namespace Locator

def serve (d : Demand) (l : Locator) : Locator :=
  if d.all then (l.takeAll d.name).2 else (l.take d.name).2

def serveAll (ds : List Demand) (l : Locator) : Locator := ds.foldl (fun l d => l.serve d) l

theorem serveAll_append (ds es : List Demand) (l : Locator) :
    l.serveAll (ds ++ es) = (l.serveAll ds).serveAll es := List.foldl_append

theorem openValues_serve {d : Demand} {name : String} (h : name ≠ d.name) (l : Locator) :
    (l.serve d).openValues name = l.openValues name := by
  rw [serve]
  split
  · rw [openValues_takeAll, if_neg h]
  · rw [openValues_take, if_neg h]

theorem openValues_serveAll {ds : List Demand} {name : String} (h : name ∉ ds.map Demand.name)
    (l : Locator) : (l.serveAll ds).openValues name = l.openValues name := by
  induction ds generalizing l with
  | nil => rfl
  | cons d ds ih =>
    rw [List.map_cons, List.mem_cons, not_or] at h
    exact (ih h.2 (l.serve d)).trans (openValues_serve h.1 l)

theorem pairs_serveAll (ds : List Demand) (l : Locator) : (l.serveAll ds).pairs = l.pairs := by
  induction ds generalizing l with
  | nil => rfl
  | cons d ds ih =>
    have hstep : (l.serve d).pairs = l.pairs := by
      rw [serve]
      split
      · exact pairs_takeAll d.name l
      · exact pairs_take d.name l
    exact (ih (l.serve d)).trans hstep

end Locator

namespace Reading

variable {α β : Type}

/-- A reading answers from the open values of the names it demands and takes just what it demands. -/
structure Reads (r : Reading α) (demands : List Demand)
    (result : (String → List String) → Except LocatorError α) : Prop where
  answer : ∀ l, r.answer l = result l.openValues
  left : ∀ l a, r.answer l = .ok a → (r.run l).2 = l.serveAll demands
  footprint : ∀ o o', (∀ d ∈ demands, o d.name = o' d.name) → result o = result o'

theorem reads_pure (a : α) : Reads (pure a : Reading α) [] fun _ => .ok a :=
  ⟨fun _ => rfl, fun _ _ _ => rfl, fun _ _ _ => rfl⟩

theorem reads_ofExcept (x : Except LocatorError α) : Reads (ofExcept x) [] fun _ => x :=
  ⟨fun _ => rfl, fun _ _ _ => rfl, fun _ _ _ => rfl⟩

theorem reads_values (name : String) :
    Reads (values name) [{ name, all := true }] fun o => .ok (o name) where
  answer l := by rw [Reading.answer, run_values]
  left l _ _ := by
    rw [run_values]
    rfl
  footprint o o' h := by rw [h _ List.mem_cons_self]

theorem reads_of_run {r : Reading α} {name : String}
    {result : List String → Except LocatorError α}
    (h : ∀ l, r.run l = (result (l.openValues name), (l.take name).2)) :
    Reads r [{ name }] fun o => result (o name) where
  answer l := by rw [Reading.answer, h]
  left l _ _ := by
    rw [h]
    rfl
  footprint o o' ho := by rw [ho _ List.mem_cons_self]

theorem reads_value (name : String) :
    Reads (value name) [{ name }] fun o => .ok (o name).head? := by
  let head : List String → Except LocatorError (Option String) := fun vs => .ok vs.head?
  exact reads_of_run (show ∀ l, (value name).run l = (head (l.openValues name), _) from
    run_value name)

theorem reads_natural (name : String) :
    Reads (natural name) [{ name }] fun o => ofFirst (naturalOf name) (o name) :=
  reads_of_run (run_natural name)

theorem answer_bind (r : Reading α) (f : α → Reading β) (l : Locator) :
    (r >>= f).answer l = r.answer l >>= fun a => (f a).answer (r.run l).2 := by
  rw [Reading.answer, run_bind, Reading.answer]
  cases r.run l with
  | mk answer left =>
    cases answer with
    | ok a => rfl
    | error e => rfl

theorem left_bind {r : Reading α} {f : α → Reading β} {l : Locator} {a : α}
    (h : r.answer l = .ok a) : ((r >>= f).run l).2 = ((f a).run (r.run l).2).2 := by
  rw [run_bind]
  rw [Reading.answer] at h
  cases hr : r.run l with
  | mk answer left =>
    rw [hr] at h
    cases h
    rfl

theorem Reads.bind {r : Reading α} {f : α → Reading β} {ds : List Demand}
    {result : (String → List String) → Except LocatorError α}
    {next : α → (String → List String) → Except LocatorError β}
    (hr : Reads r ds result) (es : List Demand) (hf : ∀ a, Reads (f a) es (next a))
    (disjoint : ∀ e ∈ es, e.name ∉ ds.map Demand.name) :
    Reads (r >>= f) (ds ++ es) fun o => result o >>= fun a => next a o where
  answer l := by
    rw [answer_bind, hr.answer]
    cases h : result l.openValues with
    | error e => rfl
    | ok a =>
      -- What the first reading took does not stand under any name of the second.
      change (f a).answer (r.run l).2 = next a l.openValues
      rw [hr.left l a (by rw [hr.answer, h]), (hf a).answer]
      exact (hf a).footprint _ _ fun e he => Locator.openValues_serveAll (disjoint e he) l
  left l b h := by
    rw [answer_bind, bind_eq_ok_iff] at h
    obtain ⟨a, ha, hb⟩ := h
    rw [hr.left l a ha] at hb
    rw [left_bind ha, hr.left l a ha, (hf a).left _ b hb, Locator.serveAll_append]
  footprint o o' h := by
    have hds : ∀ d ∈ ds, o d.name = o' d.name := fun d hd => h d (List.mem_append_left es hd)
    have hes : ∀ e ∈ es, o e.name = o' e.name := fun e he => h e (List.mem_append_right ds he)
    rw [hr.footprint o o' hds]
    refine bind_congr fun a => (hf a).footprint o o' hes

theorem Reads.convert {r : Reading α} {ds : List Demand}
    {result : (String → List String) → Except LocatorError α} (hr : Reads r ds result)
    (g : α → Except LocatorError β) :
    Reads (r >>= fun a => ofExcept (g a)) ds fun o => result o >>= g := by
  have h := hr.bind [] (fun a => reads_ofExcept (g a)) nofun
  rwa [List.append_nil] at h

/-- A check behind a reading sees what the demands leave. -/
theorem Reads.answer_checked {r : Reading α} {ds : List Demand}
    {result : (String → List String) → Except LocatorError α} (hr : Reads r ds result)
    {check : Reading Unit} {leftover : Locator → Except LocatorError Unit}
    (hcheck : ∀ l, check.answer l = leftover l) (l : Locator) :
    (do let a ← r; check; return a : Reading α).answer l = (do
      let a ← result l.openValues
      leftover (l.serveAll ds)
      return a) := by
  rw [answer_bind, hr.answer]
  refine bind_congr_of_ok fun a ha => ?_
  rw [hr.left l a (by rw [hr.answer, ha]), answer_bind, hcheck]
  rfl

/-- The readings of a list of things with different names, one after another. -/
theorem reads_mapM {γ : Type} {f : γ → Reading α} {demand : γ → Demand}
    {result : γ → List String → Except LocatorError α} {cs : List γ}
    (hf : ∀ c, Reads (f c) [demand c] fun o => result c (o (demand c).name))
    (distinct : (cs.map fun c => (demand c).name).Nodup) :
    Reads (cs.mapM f) (cs.map demand) fun o => cs.mapM fun c => result c (o (demand c).name) := by
  induction cs with
  | nil => exact reads_pure []
  | cons c cs ih =>
    rw [List.map_cons, List.nodup_cons] at distinct
    simp only [List.mapM_cons]
    refine (hf c).bind (cs.map demand)
      (fun a => (ih distinct.2).convert fun as => .ok (a :: as)) ?_
    intro e he hmem
    obtain ⟨c', hc', rfl⟩ := List.mem_map.mp he
    rw [List.map_singleton, List.mem_singleton] at hmem
    exact distinct.1 (hmem ▸ List.mem_map_of_mem hc')

end Reading

end LocatorQuery
