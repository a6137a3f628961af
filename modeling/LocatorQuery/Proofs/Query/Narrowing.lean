import Mathlib.Data.List.Nodup
import LocatorQuery.Proofs.Query.Leniency
import LocatorQuery.Proofs.Query.Reference
import LocatorQuery.Proofs.Query.Reordering

/-! Narrowing a query. A dimension more, if its value can be read, adds no fault to a query and keeps those
of its matches that pass the test of the value. Two ways to narrow a query to the same matches give the
same answer. -/
namespace LocatorQuery
open Outcome Reading

variable {α : Type}

theorem Criterion.admits_nil (c : Criterion α) (item : α) : c.admits [] item = true := by
  rw [admits, chosen]
  split
  · rfl
  · rfl

theorem Criterion.chosen_singleton (c : Criterion α) (raw : String) : c.chosen [raw] = [raw] := by
  rw [chosen]
  split
  · rfl
  · rfl

theorem Criterion.testsOf_nil (c : Criterion α) : c.testsOf [] = .ok [] := by
  rw [testsOf, chosen]
  split
  · rfl
  · rfl

theorem Criterion.testsOf_singleton (c : Criterion α) (raw : String) :
    c.testsOf [raw] = (c.test raw).map Option.toList := by
  rw [testsOf, chosen_singleton, List.mapM_cons]
  cases c.test raw with
  | error e => rfl
  | ok test =>
    cases test with
    | none => rfl
    | some test => rfl

theorem Criterion.admits_singleton {c : Criterion α} {raw : String} {test : Option (α → Bool)}
    (h : c.test raw = .ok test) (item : α) : c.admits [raw] item = test.all fun test => test item := by
  rw [admits, chosen_singleton, List.all_cons, List.all_nil, Bool.and_true, h]
  cases test with
  | none => rfl
  | some test => rfl

/-- The page with some of its entries only, which are all the matches. -/
def Page.keep (page : Page α) (p : α → Bool) : Page α :=
  { page with entries := page.entries.filter p, matched := (page.entries.filter p).length }

/-- A page without a window of its own is narrowed by narrowing its entries. -/
theorem Page.ofScan_and {w : Window} (start : w.start = 0) (count : w.count = none)
    (p q : α → Bool) (source : List α) :
    ofScan w (fun item => p item && q item) source = (ofScan w p source).keep q := by
  have hcut : ∀ found : List α, w.cut found = found := by
    intro found
    rw [Window.cut, count, start]
    rfl
  have hfilter : (w.reach source).filter (fun item => p item && q item) =
      ((w.reach source).filter p).filter q := by
    rw [List.filter_filter]
    exact List.filter_congr fun item _ => Bool.and_comm _ _
  rw [ofScan_eq, ofScan_eq, hcut, hcut, hfilter]
  simp [keep, ofCounts, start]

namespace Finder

variable {f : Finder α} {ds : List Dimension}

theorem windowOf_eq_of_unpaged {o : String → List String} {w : Window}
    (start : o startName = []) (count : o countName = []) (h : f.windowOf none o = .ok w) :
    w.start = 0 ∧ w.count = none := by
  rw [windowOf, start, count] at h
  change limitOf f.settings.lookupLimit (o limitName) >>= _ = _ at h
  obtain ⟨limit, -, h⟩ := bind_eq_ok_iff.mp h
  cases h
  exact ⟨rfl, rfl⟩

section Untaken
variable (distinct : f.supported.Nodup) (untaken : (Locator.dimensions ds).Untaken)
  {defaultCount : Option Nat}
include distinct

theorem faults_eq_nil_of_ok {page : Page α}
    (h : (f.evaluateWith defaultCount).answer (.dimensions ds) = .ok page) :
    f.faults defaultCount (.dimensions ds) = [] := by
  rw [← List.head?_eq_none_iff, Option.eq_none_iff_forall_ne_some]
  intro e he
  have herror := (reports_evaluateWith distinct defaultCount ds e).mpr he
  rw [h] at herror
  cases herror

theorem exists_ok_of_faults_eq_nil (h : f.faults defaultCount (.dimensions ds) = []) :
    ∃ page, (f.evaluateWith defaultCount).answer (.dimensions ds) = .ok page := by
  cases hanswer : (f.evaluateWith defaultCount).answer (.dimensions ds) with
  | ok page => exact ⟨page, rfl⟩
  | error e =>
    have hhead := (reports_evaluateWith distinct defaultCount ds e).mp hanswer
    rw [h] at hhead
    cases hhead

include untaken

/-- An answer is the page of the items that pass. -/
theorem eq_ofScan_of_ok {page : Page α}
    (h : (f.evaluateWith defaultCount).answer (.dimensions ds) = .ok page) :
    ∃ w, f.windowOf defaultCount (Locator.dimensions ds).openValues = .ok w ∧
      page = .ofScan w (f.passes (.dimensions ds)) f.source := by
  rw [answer_evaluateWith distinct] at h
  obtain ⟨w, hw, h⟩ := bind_eq_ok_iff.mp h
  obtain ⟨_, _, h⟩ := bind_eq_ok_iff.mp h
  obtain ⟨tests, htests, h⟩ := bind_eq_ok_iff.mp h
  obtain ⟨_, _, h⟩ := bind_eq_ok_iff.mp h
  cases h
  rw [Locator.openValues_of_untaken untaken] at htests
  refine ⟨w, hw, ?_⟩
  rw [show (fun item => tests.all fun test => test item) = f.passes (.dimensions ds) from
    funext (all_of_testsFor htests)]

/-- Lists of dimensions with the same window, the same faults and the same matches are answered alike. -/
theorem answer_congr {ds' : List Dimension} (untaken' : (Locator.dimensions ds').Untaken)
    (window : f.windowOf defaultCount (Locator.dimensions ds').openValues =
      f.windowOf defaultCount (Locator.dimensions ds).openValues)
    (faults : f.faults defaultCount (.dimensions ds') = f.faults defaultCount (.dimensions ds))
    (passes : f.passes (.dimensions ds') = f.passes (.dimensions ds)) :
    (f.evaluateWith defaultCount).answer (.dimensions ds') =
      (f.evaluateWith defaultCount).answer (.dimensions ds) := by
  cases h : (f.evaluateWith defaultCount).answer (.dimensions ds) with
  | error e =>
    rw [reports_evaluateWith distinct] at h ⊢
    rw [faults, h]
  | ok page =>
    obtain ⟨w, hw, rfl⟩ := eq_ofScan_of_ok distinct untaken h
    have hnone := faults_eq_nil_of_ok distinct h
    obtain ⟨page', h'⟩ := exists_ok_of_faults_eq_nil distinct (faults.trans hnone)
    obtain ⟨w', hw', rfl⟩ := eq_ofScan_of_ok distinct untaken' h'
    rw [window, hw] at hw'
    cases hw'
    rw [h', passes]

end Untaken

/-- The second locator asks for what the first asks for, can be read as well as the first, and has those
matches that are kept. What must be named is another matter. -/
structure Narrows (f : Finder α) (l l' : Locator) (kept : α → Bool) : Prop where
  window : ∀ d ∈ windowDemands, l'.openValues d.name = l.openValues d.name
  criteria : ∀ c ∈ f.criteria,
    fault (c.testsOf (l'.openValues c.name)) = fault (c.testsOf (l.openValues c.name))
  leftover : f.leftover l' = f.leftover l
  passes : ∀ item, f.passes l' item = (f.passes l item && kept item)

namespace Narrows

variable {l l' l'' : Locator} {kept kept' : α → Bool}

theorem trans (h : Narrows f l l' kept) (h' : Narrows f l' l'' kept') :
    Narrows f l l'' fun item => kept item && kept' item where
  window d hd := (h'.window d hd).trans (h.window d hd)
  criteria c hc := (h'.criteria c hc).trans (h.criteria c hc)
  leftover := h'.leftover.trans h.leftover
  passes item := by rw [h'.passes, h.passes, Bool.and_assoc]

theorem windowOf (h : Narrows f l l' kept) (defaultCount : Option Nat) :
    f.windowOf defaultCount l'.openValues = f.windowOf defaultCount l.openValues :=
  f.windowOf_congr defaultCount fun d hd => by rw [h.window d hd]

theorem refl (f : Finder α) (l : Locator) : Narrows f l l fun _ => true :=
  ⟨fun _ _ => rfl, fun _ _ => rfl, rfl, fun _ => (Bool.and_true _).symm⟩

/-- If the same must be named, two ways to narrow a query have the same faults. -/
theorem faults (h : Narrows f l l' kept) (h' : Narrows f l l'' kept')
    (required : f.required l'' = f.required l') (defaultCount : Option Nat) :
    f.faults defaultCount l'' = f.faults defaultCount l' := by
  have window : ∀ d ∈ windowDemands, l''.openValues d.name = l'.openValues d.name :=
    fun d hd => (h'.window d hd).trans (h.window d hd).symm
  obtain ⟨start, count, limit, -⟩ :
      l''.openValues startName = l'.openValues startName ∧
        l''.openValues countName = l'.openValues countName ∧
        l''.openValues limitName = l'.openValues limitName ∧ True := by
    simpa [windowDemands] using window
  have criteria : ∀ c ∈ f.criteria,
      fault (c.testsOf (l''.openValues c.name)) = fault (c.testsOf (l'.openValues c.name)) :=
    fun c hc => (h'.criteria c hc).trans (h.criteria c hc).symm
  rw [Finder.faults, Finder.faults, start, count, limit, required, h.leftover, h'.leftover,
    List.flatMap_congr criteria]

end Narrows

theorem required_of_ok (distinct : f.supported.Nodup) {defaultCount : Option Nat} {page : Page α}
    (h : (f.evaluateWith defaultCount).answer (.dimensions ds) = .ok page) :
    f.required (.dimensions ds) = .ok () := by
  rw [answer_evaluateWith distinct] at h
  obtain ⟨_, _, h⟩ := bind_eq_ok_iff.mp h
  obtain ⟨_, hrequired, _⟩ := bind_eq_ok_iff.mp h
  exact hrequired

theorem required_of_erase {name : String} {l : Locator}
    (h : f.required (l.erase name) = .ok ()) : f.required l = .ok () := by
  rw [required] at h ⊢
  split at h
  · next hnamed =>
    refine if_pos ?_
    simp only [Bool.or_eq_true, List.any_eq_true] at hnamed ⊢
    refine hnamed.imp (Or.imp_right Locator.isPresent_of_erase) ?_
    rintro ⟨name, hname, hpresent⟩
    exact ⟨name, hname, Locator.isPresent_of_erase hpresent⟩
  · cases h

section Narrowed
variable {ds' : List Dimension} {kept kept' : α → Bool} (distinct : f.supported.Nodup)
  (untaken : (Locator.dimensions ds).Untaken) (untaken' : (Locator.dimensions ds').Untaken)
include distinct untaken untaken'

/-- Narrowed to the same matches, a query has the same answer. -/
theorem answer_eq_of_narrows {l : Locator} (h : Narrows f l (.dimensions ds) kept)
    (h' : Narrows f l (.dimensions ds') kept') (same : ∀ item, kept' item = kept item)
    (required : f.required (.dimensions ds') = f.required (.dimensions ds))
    (defaultCount : Option Nat) :
    (f.evaluateWith defaultCount).answer (.dimensions ds') =
      (f.evaluateWith defaultCount).answer (.dimensions ds) := by
  refine answer_congr distinct untaken untaken' ?_ (h.faults h' required defaultCount) ?_
  · rw [h'.windowOf, h.windowOf]
  · funext item
    rw [h'.passes, h.passes, same]

/-- An answer whose window holds all matches is narrowed to the matches that are kept. -/
theorem answer_keep_of_narrows (h : Narrows f (.dimensions ds) (.dimensions ds') kept)
    {defaultCount : Option Nat}
    (unpaged : ∀ w, f.windowOf defaultCount (Locator.dimensions ds).openValues = .ok w →
      w.start = 0 ∧ w.count = none)
    (required : f.required (.dimensions ds') = .ok ()) {page : Page α}
    (hpage : (f.evaluateWith defaultCount).answer (.dimensions ds) = .ok page) :
    (f.evaluateWith defaultCount).answer (.dimensions ds') = .ok (page.keep kept) := by
  have hfaults := (Narrows.refl f (.dimensions ds)).faults h
    (required.trans (required_of_ok distinct hpage).symm) defaultCount
  obtain ⟨page', hpage'⟩ :=
    exists_ok_of_faults_eq_nil distinct (hfaults.trans (faults_eq_nil_of_ok distinct hpage))
  obtain ⟨w, hw, rfl⟩ := eq_ofScan_of_ok distinct untaken hpage
  obtain ⟨w', hw', rfl⟩ := eq_ofScan_of_ok distinct untaken' hpage'
  rw [h.windowOf, hw] at hw'
  cases hw'
  obtain ⟨hstart, hcount⟩ := unpaged w hw
  rw [hpage', show f.passes (.dimensions ds') = _ from funext h.passes,
    Page.ofScan_and hstart hcount]

end Narrowed

section Erased
variable {c : Criterion α} {raw : String} {l : Locator} (distinct : f.supported.Nodup)
  (hc : c ∈ f.criteria) (given : l.openValues c.name = [raw])
include distinct hc

theorem openValues_erase_of_window {d : Demand} (hd : d ∈ windowDemands) :
    l.openValues d.name = (l.erase c.name).openValues d.name := by
  have hdemand : c.demand ∈ f.testDemands := List.mem_cons_of_mem _ (List.mem_map_of_mem hc)
  have hne : d.name ≠ c.name := by
    intro hname
    have hmem : c.name ∈ windowDemands.map Demand.name := hname ▸ List.mem_map_of_mem hd
    exact disjoint_demands distinct c.demand hdemand hmem
  rw [Locator.openValues_erase, if_neg hne]

theorem eq_of_name_eq {c' : Criterion α} (hc' : c' ∈ f.criteria) (h : c'.name = c.name) : c' = c :=
  List.inj_on_of_nodup_map (distinct_criteria distinct).1 hc' hc h

omit distinct in
theorem leftover_erase (given : l.openValues c.name = [raw]) :
    f.leftover l = f.leftover (l.erase c.name) := by
  have hdemand : c.demand ∈ f.demands :=
    List.mem_append_right _ (List.mem_cons_of_mem _ (List.mem_map_of_mem hc))
  have hone : (l.openValues c.demand.name).length ≤ 1 := by
    rw [show c.demand.name = c.name from rfl, given]
    exact Nat.le_refl 1
  have hused : (l.serveAll f.demands).openValues c.name = [] :=
    Locator.openValues_serveAll_of_mem hdemand (.inr hone)
  rw [leftover, leftover, Locator.finish, Locator.finish, Locator.unused_serveAll_erase hused]

include given

/-- One more dimension, read by one criterion, narrows a query to what passes the test of its value. -/
theorem narrows_erase (untaken : l.Untaken) {test : Option (α → Bool)} (htest : c.test raw = .ok test) :
    Narrows f (l.erase c.name) l fun item => test.all fun test => test item where
  window d hd := openValues_erase_of_window distinct hc hd
  leftover := leftover_erase hc given
  criteria c' hc' := by
    rw [Locator.openValues_erase]
    split
    · next hname =>
      obtain rfl := eq_of_name_eq distinct hc hc' hname
      rw [given, Criterion.testsOf_singleton, Criterion.testsOf_nil, htest]
      rfl
    · rfl
  passes item := by
    rw [Locator.openValues_of_untaken untaken] at given
    have hkey : keyName ≠ c.name := by
      intro hname
      exact (distinct_criteria distinct).2 c hc (hname ▸ List.mem_cons_self)
    rw [passes, passes, Locator.valuesOf_erase, if_neg hkey, Bool.and_assoc]
    congr 1
    rw [Bool.eq_iff_iff, Bool.and_eq_true, List.all_eq_true, List.all_eq_true]
    -- With the name left out its criterion admits everything, so it is the test that makes up for it.
    constructor
    · intro h
      refine ⟨fun c' hc' => ?_, ?_⟩
      · rw [Locator.valuesOf_erase]
        split
        · exact c'.admits_nil item
        · exact h c' hc'
      · rw [← Criterion.admits_singleton htest, ← given]
        exact h c hc
    · rintro ⟨hrest, hkept⟩ c' hc'
      by_cases hname : c'.name = c.name
      · obtain rfl := eq_of_name_eq distinct hc hc' hname
        rw [given, Criterion.admits_singleton htest]
        exact hkept
      · have h := hrest c' hc'
        rwa [Locator.valuesOf_erase, if_neg hname] at h

end Erased

theorem narrows_inserted {c : Criterion α} {raw : String} {test : Option (α → Bool)}
    (distinct : f.supported.Nodup) (hc : c ∈ f.criteria) (htest : c.test raw = .ok test)
    {before after : List (String × String)} (others : ∀ p ∈ before ++ after, p.1 ≠ c.name) :
    Narrows f (Locator.ofList (before ++ after)) (Locator.ofList (before ++ (c.name, raw) :: after))
      fun item => test.all fun test => test item := by
  have h := narrows_erase distinct hc (Locator.openValues_inserted others)
    (Locator.untaken_ofList _) htest
  rwa [Locator.erase_inserted others] at h

theorem narrows_concat {c : Criterion α} {raw : String} {test : Option (α → Bool)}
    (distinct : f.supported.Nodup) (hc : c ∈ f.criteria) (htest : c.test raw = .ok test)
    {pairs : List (String × String)} (others : ∀ p ∈ pairs, p.1 ≠ c.name) :
    Narrows f (Locator.ofList pairs) (Locator.ofList (pairs ++ [(c.name, raw)]))
      fun item => test.all fun test => test item := by
  rw [← List.append_nil pairs] at others
  have h := narrows_inserted distinct hc htest others
  rwa [List.append_nil] at h

/-- A value that its criterion refuses is all that is wrong with a query which is answered without it. -/
theorem answer_eq_error_of_test {c : Criterion α} {raw : String} (distinct : f.supported.Nodup)
    (hc : c ∈ f.criteria) (given : (Locator.dimensions ds).openValues c.name = [raw])
    (required : f.required (.dimensions ds) = .ok ()) {defaultCount : Option Nat} {page : Page α}
    (hpage : (f.evaluateWith defaultCount).answer ((Locator.dimensions ds).erase c.name) = .ok page)
    {e : LocatorError} (htest : c.test raw = .error e) :
    (f.evaluateWith defaultCount).answer (.dimensions ds) = .error e := by
  rw [Locator.erase, answer_evaluateWith distinct] at hpage
  obtain ⟨w, hw, hpage⟩ := bind_eq_ok_iff.mp hpage
  obtain ⟨_, _, hpage⟩ := bind_eq_ok_iff.mp hpage
  obtain ⟨_, htests, -⟩ := bind_eq_ok_iff.mp hpage
  obtain ⟨built, hbuilt, -⟩ := bind_eq_ok_iff.mp htests
  have hwindow : f.windowOf defaultCount (Locator.dimensions ds).openValues = .ok w := by
    refine (f.windowOf_congr defaultCount fun d hd => ?_).trans hw
    rw [openValues_erase_of_window distinct hc hd]
    rfl
  -- Only the criterion that refuses has a fault.
  have hfails : (f.criteria.mapM fun c => c.testsOf ((Locator.dimensions ds).openValues c.name)) =
      .error e := by
    refine mapM_eq_error_of_only hc ?_ fun c' hc' hne => ?_
    · rw [given, Criterion.testsOf_singleton, htest]
      rfl
    · have hname : c'.name ≠ c.name := fun hname => hne (eq_of_name_eq distinct hc hc' hname)
      obtain ⟨tests, htests⟩ := exists_of_mapM_eq_ok hbuilt hc'
      have hother := Locator.openValues_erase c'.name c.name (.dimensions ds)
      rw [if_neg hname] at hother
      exact ⟨tests, hother ▸ htests⟩
  rw [answer_evaluateWith distinct, hwindow, required]
  refine bind_eq_error_iff.mpr (.inr ⟨w, rfl, bind_eq_error_iff.mpr (.inr ⟨(), rfl, ?_⟩)⟩)
  refine bind_eq_error_iff.mpr (.inl ?_)
  exact bind_eq_error_iff.mpr (.inl hfails)

end Finder

end LocatorQuery
