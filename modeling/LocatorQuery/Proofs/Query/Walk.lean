import Mathlib.Algebra.Order.Floor.Div
import Mathlib.GroupTheory.GroupAction.Ring
import LocatorQuery.Catalog.Builds
import LocatorQuery.Proofs.Text.Numeral
import LocatorQuery.Proofs.Query.Selection

/-! Walks: a client reads all matches of a query page by page, each time going on where the last page
says. It gets every match once and in order, in as many pages as the matches fill. -/
namespace LocatorQuery
open Outcome Reading

variable {α : Type}

/-- A page holds a slice of the matches, knows how many there are, and continues behind its last entry
as long as there are more. -/
structure Page.SliceOf (page : Page α) (found : List α) (start count : Nat) : Prop where
  entries : page.entries = (found.drop start).take count
  matched : page.matched = found.length
  nextStart : page.nextStart =
    if start + page.entries.length < found.length then some (start + page.entries.length) else none

theorem Page.sliceOf_ofScan (start count : Nat) (limit : Option Nat) (passes : α → Bool)
    (source : List α) :
    SliceOf (ofScan { start := start, count := some count, lookupLimit := limit } passes source)
      (ofScan { start := 0, count := none, lookupLimit := limit } passes source).entries
      start count := by
  rw [ofScan_eq, ofScan_eq]
  exact ⟨rfl, rfl, rfl⟩

namespace Finder

/-- The query for all matches at once. -/
def askAll (ds : List Dimension) : Locator :=
  .dimensions (ds ++ [{ name := countName, value := "-1" }])

/-- The query for at most `count` matches from `start` on. -/
def askPage (ds : List Dimension) (start count : Nat) : Locator :=
  .dimensions (ds ++ [{ name := startName, value := toString start },
    { name := countName, value := toString count }])

/-- The pages that a client gets from a start on, until one has no continuation. No page of a walk is
an error, and a walk ends. -/
inductive Walk (f : Finder α) (defaultCount : Option Nat) (ds : List Dimension) (count : Nat) :
    Nat → List (Page α) → Prop
  | last {start : Nat} {page : Page α}
      (answer : (f.evaluateWith defaultCount).answer (askPage ds start count) = .ok page)
      (done : page.nextStart = none) : Walk f defaultCount ds count start [page]
  | next {start next : Nat} {page : Page α} {pages : List (Page α)}
      (answer : (f.evaluateWith defaultCount).answer (askPage ds start count) = .ok page)
      (more : page.nextStart = some next) (rest : Walk f defaultCount ds count next pages) :
      Walk f defaultCount ds count start (page :: pages)

/-- A list of dimensions that leaves the window to its reader. -/
def Unpaged (ds : List Dimension) : Prop := ∀ d ∈ ds, d.name ≠ startName ∧ d.name ≠ countName

instance (ds : List Dimension) : Decidable (Unpaged ds) :=
  inferInstanceAs (Decidable (∀ d ∈ ds, d.name ≠ startName ∧ d.name ≠ countName))

section Window

variable {ds : List Dimension} (unpaged : Unpaged ds)
include unpaged

theorem openValues_start : Dimension.openValues startName ds = [] :=
  Dimension.openValues_of_forall_ne fun d hd => (unpaged d hd).1

theorem openValues_count : Dimension.openValues countName ds = [] :=
  Dimension.openValues_of_forall_ne fun d hd => (unpaged d hd).2

theorem windowOf_askAll (f : Finder α) (defaultCount : Option Nat) :
    f.windowOf defaultCount (askAll ds).openValues =
      (limitOf f.settings.lookupLimit (Dimension.openValues limitName ds)).map
        fun limit => { start := 0, count := none, lookupLimit := limit } := by
  have hstart : (askAll ds).openValues startName = [] :=
    Locator.openValues_append_of_nil (openValues_start unpaged) _
  have hcount : (askAll ds).openValues countName = ["-1"] :=
    Locator.openValues_append_of_nil (openValues_count unpaged) _
  have hlimit : (askAll ds).openValues limitName = Dimension.openValues limitName ds :=
    (Dimension.openValues_append ..).trans (List.append_nil _)
  rw [windowOf, hstart, hcount, hlimit]
  cases limitOf f.settings.lookupLimit (Dimension.openValues limitName ds) with
  | error e => rfl
  | ok limit => rfl

theorem windowOf_askPage (f : Finder α) (defaultCount : Option Nat) {start count : Nat}
    (hs : start < Text.unsignedBound) (hc : count < Text.unsignedBound) :
    f.windowOf defaultCount (askPage ds start count).openValues =
      (limitOf f.settings.lookupLimit (Dimension.openValues limitName ds)).map
        fun limit => { start := start, count := some count, lookupLimit := limit } := by
  have hstart : (askPage ds start count).openValues startName = [toString start] :=
    Locator.openValues_append_of_nil (openValues_start unpaged) _
  have hcount : (askPage ds start count).openValues countName = [toString count] :=
    Locator.openValues_append_of_nil (openValues_count unpaged) _
  have hlimit : (askPage ds start count).openValues limitName =
      Dimension.openValues limitName ds :=
    (Dimension.openValues_append ..).trans (List.append_nil _)
  rw [windowOf, hstart, hcount, hlimit, ofFirst, naturalOf, Text.natural?_toString hs, countOf,
    if_neg (Text.toString_ne_minusOne count), Text.natural?_toString hc]
  cases limitOf f.settings.lookupLimit (Dimension.openValues limitName ds) with
  | error e => rfl
  | ok limit => rfl

/-- Reading the window of either query leaves the list without its lookup limit. -/
theorem remaining_askAll :
    ((askAll ds).serveAll windowDemands).remaining =
      ((Locator.dimensions ds).take limitName).2.remaining := by
  have hstart : (askAll ds).openValues startName = [] :=
    Locator.openValues_append_of_nil (openValues_start unpaged) _
  have hcount : ((askAll ds).take countName).2.remaining = (Locator.dimensions ds).remaining := by
    have h := Locator.remaining_take_append (fun d hd => (unpaged d hd).2)
      (show ({ name := countName, value := "-1" } : Dimension).isOpen countName = true from rfl) []
    rwa [List.append_nil] at h
  change (((((askAll ds).take startName).2).take countName).2.take limitName).2.remaining = _
  rw [Locator.take_of_openValues_nil hstart]
  exact Locator.take_congr hcount limitName

theorem remaining_askPage (start count : Nat) :
    ((askPage ds start count).serveAll windowDemands).remaining =
      ((Locator.dimensions ds).take limitName).2.remaining := by
  have hstart := Locator.remaining_take_append (fun d hd => (unpaged d hd).1)
    (show ({ name := startName, value := toString start } : Dimension).isOpen startName = true
      from rfl) [{ name := countName, value := toString count }]
  have hcount := Locator.remaining_take_append (fun d hd => (unpaged d hd).2)
    (show ({ name := countName, value := toString count } : Dimension).isOpen countName = true
      from rfl) []
  rw [List.append_nil] at hcount
  exact Locator.take_congr ((Locator.take_congr hstart countName).trans hcount) limitName

end Window

/-- What is required of one locator is there in another that has all its names. -/
theorem required_of_isPresent {f : Finder α} {l l' : Locator}
    (present : ∀ name, l.isPresent name = true → l'.isPresent name = true)
    (h : f.required l = .ok ()) : f.required l' = .ok () := by
  rw [required] at h ⊢
  split at h
  · next hl =>
    rw [if_pos]
    simp only [Bool.or_eq_true, List.any_eq_true] at hl ⊢
    rcases hl with (hl | hl) | ⟨name, hname, hl⟩
    · exact .inl (.inl hl)
    · exact .inl (.inr (present _ hl))
    · exact .inr ⟨name, hname, present name hl⟩
  · cases h

theorem isPresent_askPage {ds : List Dimension} (start count : Nat) (name : String)
    (h : (askAll ds).isPresent name = true) : (askPage ds start count).isPresent name = true := by
  simp only [Locator.isPresent, askAll, askPage, Locator.items, List.any_append, List.any_cons,
    List.any_nil, Bool.or_false, Bool.or_eq_true] at h ⊢
  exact h.imp_right .inr

/-- If all matches can be asked for, so can every page, and it is a slice of these matches. -/
theorem answer_askPage {f : Finder α} {defaultCount : Option Nat} {ds : List Dimension}
    (unpaged : Unpaged ds) {all : Page α}
    (h : (f.evaluateWith defaultCount).answer (askAll ds) = .ok all) (start count : Nat)
    (hs : start < Text.unsignedBound) (hc : count < Text.unsignedBound) :
    ∃ page, (f.evaluateWith defaultCount).answer (askPage ds start count) = .ok page ∧
      page.SliceOf all.entries start count := by
  rw [askAll, answer_evaluateWith_selection, ← askAll, windowOf_askAll unpaged] at h
  obtain ⟨w, hw, h⟩ := bind_eq_ok_iff.mp h
  obtain ⟨limit, hlimit, rfl⟩ := map_eq_ok_iff.mp hw
  obtain ⟨_, hrequired, h⟩ := bind_eq_ok_iff.mp h
  obtain ⟨tests, htests, h⟩ := bind_eq_ok_iff.mp h
  cases h
  have hremaining : ((askPage ds start count).serveAll windowDemands).remaining =
      ((askAll ds).serveAll windowDemands).remaining :=
    (remaining_askPage unpaged start count).trans (remaining_askAll unpaged).symm
  refine ⟨_, ?_, Page.sliceOf_ofScan start count limit _ f.source⟩
  rw [askPage, answer_evaluateWith_selection, ← askPage, windowOf_askPage unpaged f _ hs hc, hlimit,
    required_of_isPresent (isPresent_askPage start count) hrequired,
    (f.blind_selection _ _ hremaining).1, htests]
  rfl

/-- Past one full page there is one page less to come. -/
theorem ceilDiv_of_lt {count rest : Nat} (hpos : 1 ≤ count) (h : count < rest) :
    max 1 (rest ⌈/⌉ count) = max 1 ((rest - count) ⌈/⌉ count) + 1 := by
  have hdiv : rest ⌈/⌉ count = (rest - count) ⌈/⌉ count + 1 := by
    rw [Nat.ceilDiv_eq_add_pred_div, Nat.ceilDiv_eq_add_pred_div,
      ← Nat.add_div_right _ (Nat.lt_of_lt_of_le Nat.zero_lt_one hpos)]
    congr 1
    omega
  have hone : 1 ≤ (rest - count) ⌈/⌉ count := by
    rw [Nat.one_le_iff_ne_zero, Ne, ← Nat.le_zero, ceilDiv_le_iff_le_smul hpos, smul_zero]
    omega
  omega

theorem Walk.unique {f : Finder α} {defaultCount : Option Nat} {ds : List Dimension}
    {count start : Nat} {pages pages' : List (Page α)}
    (h : Walk f defaultCount ds count start pages)
    (h' : Walk f defaultCount ds count start pages') : pages' = pages := by
  induction h generalizing pages' with
  | last answer done =>
    cases h' with
    | last answer' done' =>
      rw [answer] at answer'
      cases answer'
      rfl
    | next answer' more' rest' =>
      rw [answer] at answer'
      cases answer'
      rw [done] at more'
      cases more'
  | next answer more rest ih =>
    cases h' with
    | last answer' done' =>
      rw [answer] at answer'
      cases answer'
      rw [more] at done'
      cases done'
    | next answer' more' rest' =>
      rw [answer] at answer'
      cases answer'
      rw [more] at more'
      cases more'
      rw [ih rest']

/-- From any start within the matches the walk goes on to their end: a page that does not reach it
continues where it stops, and the rest has become shorter. -/
theorem exists_walk {f : Finder α} {defaultCount : Option Nat} {ds : List Dimension}
    (unpaged : Unpaged ds) {all : Page α}
    (h : (f.evaluateWith defaultCount).answer (askAll ds) = .ok all)
    (small : all.entries.length ≤ Text.unsignedBound) {count : Nat} (hpos : 1 ≤ count)
    (hcount : count < Text.unsignedBound) {start : Nat} (hstart : start ≤ all.entries.length)
    (hword : start < Text.unsignedBound) :
    ∃ pages, Walk f defaultCount ds count start pages ∧
      pages.length = max 1 ((all.entries.length - start) ⌈/⌉ count) ∧
      (∀ page ∈ pages, page.matched = all.entries.length) ∧
      (pages.map Page.entries).flatten = all.entries.drop start := by
  induction hrest : all.entries.length - start using Nat.strongRecOn generalizing start with
  | ind rest ih =>
    obtain ⟨page, hanswer, hpage⟩ := answer_askPage unpaged h start count hword hcount
    have hlength : page.entries.length = min count rest := by
      rw [hpage.entries, List.length_take, List.length_drop, hrest]
    by_cases hmore : count < rest
    · have hnext : page.nextStart = some (start + count) := by
        rw [hpage.nextStart, hlength, Nat.min_eq_left hmore.le, if_pos (by omega)]
      obtain ⟨pages, hwalk, hpages, hmatched, hentries⟩ :=
        ih (rest - count) (by omega) (show start + count ≤ all.entries.length by omega) (by omega)
          (by omega)
      refine ⟨page :: pages, .next hanswer hnext hwalk, ?_, ?_, ?_⟩
      · rw [List.length_cons, hpages, ← ceilDiv_of_lt hpos hmore]
      · exact List.forall_mem_cons.mpr ⟨hpage.matched, hmatched⟩
      · rw [List.map_cons, List.flatten_cons, hentries, hpage.entries, ← List.drop_drop,
          List.take_append_drop]
    · have hnext : page.nextStart = none := by
        rw [hpage.nextStart, hlength, Nat.min_eq_right (by omega), if_neg (by omega)]
      refine ⟨[page], .last hanswer hnext, ?_, ?_, ?_⟩
      · have hone : rest ⌈/⌉ count ≤ 1 := by
          rw [ceilDiv_le_iff_le_smul hpos, smul_eq_mul, Nat.mul_one]
          exact Nat.le_of_not_lt hmore
        rw [List.length_singleton, Nat.max_eq_left hone]
      · exact List.forall_mem_singleton.mpr hpage.matched
      · rw [List.map_singleton, List.flatten_singleton, hpage.entries, List.take_of_length_le]
        rw [List.length_drop, hrest]
        exact Nat.le_of_not_lt hmore

/-- Whatever its criteria are called, a finder that answers the query for all matches answers the one walk
through them: every page knows their number, there are as many pages as they fill, and at least one,
and the pages together hold each match once and in order. Starts and counts are words of 64 bits. -/
theorem walk_visits_each_match_once {f : Finder α} {defaultCount : Option Nat}
    {ds : List Dimension} (unpaged : Unpaged ds) {all : Page α}
    (h : (f.evaluateWith defaultCount).answer (askAll ds) = .ok all)
    (small : all.entries.length ≤ Text.unsignedBound) {count : Nat} (hpos : 1 ≤ count)
    (hcount : count < Text.unsignedBound) :
    ∃ pages, (∀ pages', Walk f defaultCount ds count 0 pages' ↔ pages' = pages) ∧
      pages.length = max 1 (all.entries.length ⌈/⌉ count) ∧
      (∀ page ∈ pages, page.matched = all.entries.length) ∧
      (pages.map Page.entries).flatten = all.entries := by
  obtain ⟨pages, hwalk, hpages⟩ := exists_walk unpaged h small hpos hcount (Nat.zero_le _) (by decide)
  refine ⟨pages, fun pages' => ⟨hwalk.unique, ?_⟩, hpages⟩
  rintro rfl
  exact hwalk

theorem walk_visits_each_match_once_of_builds :
    let first : Build := ⟨1, "main", "17", none, .success, true, ["a", "b"]⟩
    let second : Build := ⟨2, "main", "18", none, .failure, false, ["b", "c", "a"]⟩
    let third : Build := ⟨3, "main", "19", none, .success, true, ["b"]⟩
    let f := Finder.ofBuilds [first, third, second, first, second] {}
    let ds : List Dimension := [{ name := "tag", value := "a" },
      { name := "lookupLimit", value := "4" }, { name := "branch", value := "default" }]
    let all : Page Build :=
      { entries := [first, second, first], start := 0, count := none, examined := 4, matched := 3,
        nextStart := none, lookupLimit := some 4, lookupLimitReached := true }
    Unpaged ds ∧ (f.evaluateWith none).answer (askAll ds) = .ok all ∧
      all.entries.length ≤ Text.unsignedBound ∧ 1 ≤ 2 ∧ 2 < Text.unsignedBound ∧
      ∃ pages, (∀ pages', Walk f none ds 2 0 pages' ↔ pages' = pages) ∧
        pages.length = max 1 (all.entries.length ⌈/⌉ 2) ∧
        (∀ page ∈ pages, page.matched = all.entries.length) ∧
        (pages.map Page.entries).flatten = all.entries := by
  intro first second third f ds all
  have unpaged : Unpaged ds := by decide
  have h : (f.evaluateWith none).answer (askAll ds) = .ok all := by rfl
  have small : all.entries.length ≤ Text.unsignedBound := by decide
  have hcount : 2 < Text.unsignedBound := by decide
  exact ⟨unpaged, h, small, by decide, hcount,
    walk_visits_each_match_once unpaged h small (by decide) hcount⟩

end Finder

end LocatorQuery
