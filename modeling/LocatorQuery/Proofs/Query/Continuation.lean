import LocatorQuery.Catalog.Builds
import LocatorQuery.Command.Environment
import LocatorQuery.Proofs.Locator.Erasure
import LocatorQuery.Proofs.Query.Evaluation
import LocatorQuery.Proofs.Text.Numeral

/-! Continuing where a page says. A page that may hold entries continues behind its start, so a client that
asks on comes to an end. A page that may hold none continues where it started. -/
namespace LocatorQuery
open Outcome Reading

variable {α : Type}

theorem Window.length_cut (w : Window) (found : List α) :
    (w.cut found).length =
      match w.count with
      | some count => min count (found.length - w.start)
      | none => found.length - w.start := by
  rw [cut]
  cases w.count with
  | none => exact List.length_drop
  | some count => rw [List.length_take, List.length_drop]

/-- A continuation lies within the source, and ahead of the start if the page had room for an entry. -/
theorem Page.nextStart_ofScan {w : Window} {passes : α → Bool} {source : List α} {n : Nat}
    (h : (ofScan w passes source).nextStart = some n) :
    n < source.length ∧ (w.start < n ↔ w.count ≠ some 0) := by
  let found := (w.reach source).filter passes
  have hmatched : found.length ≤ source.length := w.length_filter_reach_le passes source
  have hnext : n = w.start + (w.cut found).length ∧ n < found.length := by
    rw [ofScan_eq] at h
    dsimp only [ofCounts] at h
    split at h
    · next hmore =>
      cases h
      exact ⟨rfl, hmore⟩
    · cases h
  obtain ⟨hn, hmore⟩ := hnext
  refine ⟨Nat.lt_of_lt_of_le hmore hmatched, ?_⟩
  -- A page without a count holds all there is, so only one with a count is continued.
  rw [Window.length_cut] at hn
  cases hcount : w.count with
  | none =>
    rw [hcount] at hn
    dsimp only at hn
    omega
  | some count =>
    rw [hcount] at hn
    dsimp only at hn
    rw [Ne, Option.some.injEq]
    omega

namespace Finder

/-- The same query from another start on. -/
def askFrom (start : Nat) : Locator → Locator
  | .single key taken => .single key taken
  | .dimensions ds =>
    .dimensions ((ds.filter fun d => d.name != startName) ++
      [{ name := startName, value := toString start }])

/-- Pages that a client gets one after another, each from the start at which the last one continues. -/
inductive Following (f : Finder α) (defaultCount : Option Nat) : Locator → List (Page α) → Prop
  | first {l : Locator} {page : Page α}
      (answer : (f.evaluateWith defaultCount).answer l = .ok page) :
      Following f defaultCount l [page]
  | next {l : Locator} {page : Page α} {n : Nat} {pages : List (Page α)}
      (answer : (f.evaluateWith defaultCount).answer l = .ok page)
      (more : page.nextStart = some n) (rest : Following f defaultCount (askFrom n l) pages) :
      Following f defaultCount l (page :: pages)

variable {f : Finder α} {defaultCount : Option Nat}

theorem exists_window_of_answer {ds : List Dimension} {page : Page α}
    (h : (f.evaluateWith defaultCount).answer (.dimensions ds) = .ok page) :
    ∃ w passes, f.windowOf defaultCount (Locator.dimensions ds).openValues = .ok w ∧
      page = .ofScan w passes f.source := by
  rw [answer_evaluateWith_selection] at h
  obtain ⟨w, hw, h⟩ := bind_eq_ok_iff.mp h
  obtain ⟨_, _, h⟩ := bind_eq_ok_iff.mp h
  obtain ⟨tests, _, h⟩ := bind_eq_ok_iff.mp h
  cases h
  exact ⟨w, _, hw, rfl⟩

/-- The page of a key holds all that it counts, so only a list of dimensions is continued. -/
theorem exists_dimensions_of_nextStart {l : Locator} {page : Page α}
    (h : (f.evaluateWith defaultCount).answer l = .ok page) {n : Nat}
    (more : page.nextStart = some n) : ∃ ds, l = .dimensions ds := by
  cases l with
  | single key taken =>
    cases h
    simp [Page.ofItems, Page.ofCounts] at more
  | dimensions ds => exact ⟨ds, rfl⟩

theorem nextStart_of_answer {l : Locator} {page : Page α}
    (h : (f.evaluateWith defaultCount).answer l = .ok page) {n : Nat}
    (more : page.nextStart = some n) :
    n < f.source.length ∧ (page.start < n ↔ page.count ≠ some 0) := by
  obtain ⟨ds, rfl⟩ := exists_dimensions_of_nextStart h more
  obtain ⟨w, passes, -, rfl⟩ := exists_window_of_answer h
  exact Page.nextStart_ofScan more

theorem openValues_askFrom_start (ds : List Dimension) (n : Nat) :
    (askFrom n (.dimensions ds)).openValues startName = [toString n] := by
  refine Locator.openValues_append_of_nil (Dimension.openValues_of_forall_ne fun d hd => ?_) _
  exact bne_iff_ne.mp (List.mem_filter.mp hd).2

theorem openValues_askFrom {name : String} (h : name ≠ startName) (ds : List Dimension) (n : Nat) :
    (askFrom n (.dimensions ds)).openValues name = (Locator.dimensions ds).openValues name := by
  have herase := Locator.openValues_erase name startName (.dimensions ds)
  rw [if_neg h] at herase
  rw [← herase]
  refine (Dimension.openValues_append ..).trans ?_
  rw [Dimension.openValues_of_forall_ne (List.forall_mem_singleton.mpr fun hname => h hname.symm),
    List.append_nil]
  rfl

/-- The next page starts where the last one continues, and has room for as many entries. -/
theorem window_askFrom {ds : List Dimension} {n : Nat} {page page' : Page α}
    (h : (f.evaluateWith defaultCount).answer (.dimensions ds) = .ok page)
    (h' : (f.evaluateWith defaultCount).answer (askFrom n (.dimensions ds)) = .ok page') :
    page'.start = n ∧ page'.count = page.count := by
  obtain ⟨w, _, hw, rfl⟩ := exists_window_of_answer h
  obtain ⟨w', _, hw', rfl⟩ := exists_window_of_answer h'
  obtain ⟨start, -, hw⟩ := bind_eq_ok_iff.mp hw
  obtain ⟨count, hcount, hw⟩ := bind_eq_ok_iff.mp hw
  obtain ⟨limit, -, hw⟩ := bind_eq_ok_iff.mp hw
  cases hw
  obtain ⟨start', hstart', hw'⟩ := bind_eq_ok_iff.mp hw'
  obtain ⟨count', hcount', hw'⟩ := bind_eq_ok_iff.mp hw'
  obtain ⟨limit', -, hw'⟩ := bind_eq_ok_iff.mp hw'
  cases hw'
  change ofFirst _ ((askFrom n (.dimensions ds)).openValues startName) = _ at hstart'
  change countOf _ ((askFrom n (.dimensions ds)).openValues countName) = _ at hcount'
  rw [openValues_askFrom_start] at hstart'
  rw [openValues_askFrom (by decide), hcount] at hcount'
  cases hcount'
  rcases natural_of_first hstart' with ⟨hnone, -⟩ | ⟨raw, m, hraw, hm, rfl⟩
  · cases hnone
  · cases hraw
    exact ⟨Text.eq_of_natural?_toString hm, rfl⟩

theorem Following.exists_first {l : Locator} {pages : List (Page α)}
    (h : Following f defaultCount l pages) :
    ∃ page, (f.evaluateWith defaultCount).answer l = .ok page := by
  cases h with
  | first answer => exact ⟨_, answer⟩
  | next answer more rest => exact ⟨_, answer⟩

/-- Each page starts behind the one before it and within the source, so there are no more of them than
items from the first start on. -/
theorem Following.length_le {l : Locator} {pages : List (Page α)}
    (h : Following f defaultCount l pages) {page : Page α}
    (hpage : (f.evaluateWith defaultCount).answer l = .ok page) (room : page.count ≠ some 0) :
    page.start + pages.length ≤ max (page.start + 1) f.source.length := by
  induction h generalizing page with
  | first answer => exact Nat.le_max_left _ _
  | @next l current n pages answer more rest ih =>
    obtain rfl : page = current := Except.ok.inj (hpage.symm.trans answer)
    obtain ⟨hwithin, hadvance⟩ := nextStart_of_answer answer more
    have hlater : page.start < n := hadvance.mpr room
    obtain ⟨ds, rfl⟩ := exists_dimensions_of_nextStart answer more
    obtain ⟨page', hpage'⟩ := rest.exists_first
    obtain ⟨hstart, hcount⟩ := window_askFrom answer hpage'
    have hrest := ih hpage' (hcount ▸ room)
    rw [List.length_cons]
    omega

/-- A continuation is ahead of the page's start just when the page had room for an entry. Then a client
that asks on from each continuation gets at most as many pages as the source has items, and at least
the first one. -/
theorem nextStart_advances_iff {l : Locator} {page : Page α}
    (h : (f.evaluateWith defaultCount).answer l = .ok page) :
    (∀ n, page.nextStart = some n → (page.start < n ↔ page.count ≠ some 0)) ∧
      (page.count ≠ some 0 → ∀ pages, Following f defaultCount l pages →
        pages.length ≤ max 1 f.source.length) := by
  refine ⟨fun n more => (nextStart_of_answer h more).2, fun room pages following => ?_⟩
  have hlength := following.length_le h room
  omega

theorem nextStart_advances_iff_of_builds :
    let build : UInt64 → Build := fun id => { id, buildType := "Core", number := "1", status := .success }
    let f := Finder.ofBuilds [build 1, build 2, build 3] { pageSize := some 1 }
    let l := Locator.ofList [("start", "1"), ("buildType", "Core")]
    let page : Page Build :=
      { entries := [build 2], start := 1, count := some 1, examined := 3, matched := 3,
        nextStart := some 2, lookupLimit := none, lookupLimitReached := false }
    (f.evaluateWith f.settings.pageSize).answer l = .ok page ∧ page.count ≠ some 0 ∧
      (∀ n, page.nextStart = some n → (page.start < n ↔ page.count ≠ some 0)) ∧
      (page.count ≠ some 0 → ∀ pages, Following f f.settings.pageSize l pages →
        pages.length ≤ max 1 f.source.length) := by
  intro build f l page
  have h : (f.evaluateWith f.settings.pageSize).answer l = .ok page := by rfl
  exact ⟨h, by decide, nextStart_advances_iff h⟩

theorem Following.repeated {l : Locator} {page : Page α} {n : Nat}
    (answer : (f.evaluateWith defaultCount).answer l = .ok page) (more : page.nextStart = some n)
    (same : askFrom n l = l) (k : Nat) :
    ∃ pages, Following f defaultCount l pages ∧ pages.length = k + 1 := by
  induction k with
  | zero => exact ⟨[page], .first answer, rfl⟩
  | succ k ih =>
    obtain ⟨pages, hpages, hlength⟩ := ih
    refine ⟨page :: pages, .next answer more (same.symm ▸ hpages), ?_⟩
    rw [List.length_cons, hlength]

/-- A page of no entries continues where it started, whether its count is asked for or is the page size
of the process. A client that asks on gets it again and again. -/
theorem nextStart_stands_still :
    let build : Build := { id := 1, buildType := "Core", number := "1", status := .success }
    let page : Page Build :=
      { entries := [], start := 0, count := some 0, examined := 1, matched := 1,
        nextStart := some 0, lookupLimit := none, lookupLimitReached := false }
    let asked := Locator.ofList [("count", "0"), ("start", "0")]
    let env := Environment.ofVariables fun name =>
      if name = "LOCQ_DEFAULT_PAGE_SIZE" then some "0" else none
    let f := Finder.ofBuilds [build] {}
    let g := Finder.ofBuilds [build] env.settings
    f.findMany (some "count:0,start:0") = .ok page ∧ g.findMany none = .ok page ∧
      f.evaluate.answer asked = .ok page ∧
      ∀ k, ∃ pages, Following f f.settings.pageSize asked pages ∧ pages.length = k + 1 := by
  intro build page asked env f g
  have hasked : f.evaluate.answer asked = .ok page := by rfl
  have same : askFrom 0 asked = asked := by rfl
  exact ⟨by decide +kernel, by decide +kernel, hasked, Following.repeated hasked rfl same⟩

end Finder

end LocatorQuery
