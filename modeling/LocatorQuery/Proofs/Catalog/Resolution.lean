import LocatorQuery.Command.Files
import LocatorQuery.Proofs.Catalog.Completeness
import LocatorQuery.Proofs.Query.Narrowing

/-! Resolving a text to one item. A query that is not for a key alone is answered with its only match. A
key alone is answered with the first item that has it, which is the only one if keys are distinct. -/
namespace LocatorQuery
open Outcome Reading

namespace Finder

variable {α : Type} {f : Finder α} {l : Locator}

/-- A text is resolved to the item of a key alone, or to the one entry of an answer. -/
theorem findOne_eq_ok_iff {text : String} {item : α} :
    f.findOne text = .ok item ↔ ∃ l, Locator.parse text = .ok l ∧
      match loneKey? l with
      | some key => f.byKey? key = some item
      | none => ∃ page, (f.evaluateWith none).answer l = .ok page ∧ page.entries = [item] := by
  rw [findOne, bind_eq_ok_iff]
  refine exists_congr fun l => and_congr_right fun _ => ?_
  cases loneKey? l with
  | some key =>
    dsimp only
    cases f.byKey? key with
    | some found => simp [pure, Except.pure]
    | none => exact ⟨nofun, nofun⟩
  | none =>
    change (f.evaluateWith none).answer l >>= _ = _ ↔ _
    rw [bind_eq_ok_iff]
    refine exists_congr fun page => and_congr_right fun _ => ?_
    obtain ⟨entries, start, count, examined, matched, nextStart, lookupLimit, reached⟩ := page
    match entries with
    | [] => exact ⟨nofun, nofun⟩
    | [found] => simp [pure, Except.pure]
    | _ :: _ :: _ => exact ⟨nofun, nofun⟩

/-- Whether an item is one that a locator asks for: an item with the key that is given alone, or else an
item that passes all tests. -/
def satisfies (f : Finder α) (l : Locator) (item : α) : Bool :=
  match loneKey? l with
  | some key => f.key item == key
  | none => f.passes l item

/-- An item that a locator was resolved to stands first among those asked for. It is the only one as
long as no two items have the key that is given alone. -/
structure Resolved (f : Finder α) (l : Locator) (item : α) : Prop where
  first : (f.source.filter (f.satisfies l)).head? = some item
  only_iff : f.source.filter (f.satisfies l) = [item] ↔
    ∀ key, loneKey? l = some key → (f.source.map f.key).count key ≤ 1

theorem length_filter_key (f : Finder α) (key : String) :
    (f.source.filter fun item => f.key item == key).length = (f.source.map f.key).count key := by
  rw [List.count, List.countP_map, List.countP_eq_length_filter]
  rfl

theorem resolved_of_key {key : String} {item : α} (hkey : loneKey? l = some key)
    (h : f.byKey? key = some item) : Resolved f l item := by
  have hsatisfies : f.satisfies l = fun item => f.key item == key := by
    funext item
    rw [satisfies, hkey]
  have hfirst : (f.source.filter (f.satisfies l)).head? = some item := by
    rw [hsatisfies, List.head?_filter]
    exact h
  refine ⟨hfirst, ?_⟩
  -- The items behind the first are those that the lookup never gets to see.
  obtain ⟨rest, hrest⟩ := List.head?_eq_some_iff.mp hfirst
  have hcount : (f.source.map f.key).count key = rest.length + 1 := by
    rw [← length_filter_key, ← hsatisfies, hrest, List.length_cons]
  rw [hkey, hrest]
  constructor
  · rintro h key' ⟨⟩
    cases h
    exact Nat.le_of_eq hcount
  · intro h
    have hlength := h key rfl
    rw [hcount] at hlength
    rw [List.eq_nil_of_length_eq_zero (Nat.le_zero.mp (Nat.le_of_succ_le_succ hlength))]

theorem resolved_of_answer (distinct : f.supported.Nodup) (unlimited : f.settings.lookupLimit = none)
    (untaken : l.Untaken)
    (unpaged : ∀ name ∈ [startName, countName, limitName], l.isPresent name = false)
    (hkey : loneKey? l = none) {page : Page α} {item : α}
    (h : (f.evaluateWith none).answer l = .ok page) (hitem : page.entries = [item]) :
    Resolved f l item := by
  cases l with
  | single key taken => cases hkey
  | dimensions ds =>
    have hopen : ∀ name ∈ [startName, countName, limitName],
        (Locator.dimensions ds).openValues name = [] := by
      intro name hname
      rw [Locator.openValues_of_untaken untaken]
      exact Decidable.not_not.mp (mt Locator.isPresent_iff.mpr (by simp [unpaged name hname]))
    simp only [List.forall_mem_cons, List.not_mem_nil, false_implies, implies_true, and_true] at hopen
    obtain ⟨hstart, hcount, hlimit⟩ := hopen
    obtain ⟨w, hw, rfl⟩ := eq_ofScan_of_ok distinct untaken h
    have hwindow : w = { lookupLimit := none } := by
      rw [windowOf, hstart, hcount, hlimit, unlimited] at hw
      cases hw
      rfl
    have hsatisfies : f.satisfies (.dimensions ds) = f.passes (.dimensions ds) := by
      funext item
      rw [satisfies, hkey]
    have hfound : f.source.filter (f.satisfies (.dimensions ds)) = [item] := by
      rw [hsatisfies, ← hitem, Page.ofScan_eq, hwindow]
      rfl
    refine ⟨?_, iff_of_true hfound ?_⟩
    · rw [hfound, List.head?_cons]
    · intro key hlone
      rw [hkey] at hlone
      cases hlone

theorem resolved_of_findOne (distinct : f.supported.Nodup)
    (unlimited : f.settings.lookupLimit = none) {text : String} (parsed : Locator.parse text = .ok l)
    (unpaged : ∀ name ∈ [startName, countName, limitName], l.isPresent name = false) {item : α}
    (h : f.findOne text = .ok item) : Resolved f l item := by
  have untaken : l.Untaken := (Locator.Origin.parse parsed).untaken
  obtain ⟨l', hl', h⟩ := findOne_eq_ok_iff.mp h
  cases parsed.symm.trans hl'
  cases hkey : loneKey? l with
  | some key =>
    rw [hkey] at h
    exact resolved_of_key hkey h
  | none =>
    rw [hkey] at h
    obtain ⟨page, hpage, hitem⟩ := h
    exact resolved_of_answer distinct unlimited untaken unpaged hkey hpage hitem

/-- Without paging and limit, the item that a text is resolved to is the first of those it asks for. It
is the only one unless the text is a key alone and the source has that key twice. -/
theorem findOne_resolves (d : Dataset) {settings : Settings} (unlimited : settings.lookupLimit = none)
    {text : String} {l : Locator} (parsed : Locator.parse text = .ok l)
    (unpaged : ∀ name ∈ [startName, countName, limitName], l.isPresent name = false) :
    let c := Catalog.ofDataset d settings
    (∀ b, c.builds.findOne text = .ok b → Resolved c.builds l b) ∧
      (∀ r, c.testRuns.findOne text = .ok r → Resolved c.testRuns l r) ∧
      ∀ p, c.problems.findOne text = .ok p → Resolved c.problems l p :=
  ⟨fun _ => resolved_of_findOne distinct_ofBuilds unlimited parsed unpaged,
    fun _ => resolved_of_findOne (distinct_testRuns d settings) unlimited parsed unpaged,
    fun _ => resolved_of_findOne (distinct_problems d settings) unlimited parsed unpaged⟩

theorem findOne_resolves_of_threeBuilds :
    let c := Catalog.ofDataset threeBuilds {}
    let ofStatus := Locator.ofList [("status", "failed")]
    let ofKey := Locator.ofValue "10"
    ({} : Settings).lookupLimit = none ∧
      Locator.parse "status:failed" = .ok ofStatus ∧ Locator.parse "10" = .ok ofKey ∧
      (∀ name ∈ [startName, countName, limitName], ofStatus.isPresent name = false) ∧
      (∀ name ∈ [startName, countName, limitName], ofKey.isPresent name = false) ∧
      Resolved c.builds ofStatus { id := 3, buildType := "Core", number := "c", status := .failure } ∧
      Resolved c.testRuns ofKey
        { id := 10, testId := 1, name := "s: p.C.m", buildId := 3, status := .failure } := by
  intro c ofStatus ofKey
  have hstatus : Locator.parse "status:failed" = .ok ofStatus := by decide +kernel
  have hkey : Locator.parse "10" = .ok ofKey := by decide +kernel
  have hunpaged : ∀ name ∈ [startName, countName, limitName], ofStatus.isPresent name = false := by
    decide
  have hunpaged' : ∀ name ∈ [startName, countName, limitName], ofKey.isPresent name = false := by
    decide
  refine ⟨rfl, hstatus, hkey, hunpaged, hunpaged', ?_, ?_⟩
  · exact (findOne_resolves threeBuilds rfl hstatus hunpaged).1 _ (by decide +kernel)
  · exact (findOne_resolves threeBuilds rfl hkey hunpaged').2.1 _ (by decide +kernel)

/-- Two builds of one id: the id alone finds the first of them, and so does its dimension, while the id
beside a dimension that asks for nothing is ambiguous. -/
theorem findOne_hides_twin :
    let twin : String → Build := fun number => { id := 1, buildType := "Core", number, status := .success }
    let d : Dataset := { builds := [twin "a", twin "b"] }
    let text := "\x7b\"builds\": [" ++
      "\x7b\"id\": 1, \"build_type\": \"Core\", \"number\": \"a\", \"status\": \"SUCCESS\"\x7d, " ++
      "\x7b\"id\": 1, \"build_type\": \"Core\", \"number\": \"b\", \"status\": \"SUCCESS\"\x7d]\x7d"
    let f := (Catalog.ofDataset d {}).builds
    (Dataset.ofJson text).toOption = some d ∧
      f.findOne "1" = .ok (twin "a") ∧ f.findOne "id:1" = .ok (twin "a") ∧
      (∀ l, Locator.parse "1" = .ok l ∨ Locator.parse "id:1" = .ok l →
        f.source.filter (f.satisfies l) = [twin "a", twin "b"]) ∧
      f.findOne "id:1,finished:any" =
        .error (.ambiguous "id:1,finished:any" 2 ["id", "finished"]) := by
  intro twin d text f
  refine ⟨by decide +kernel, by decide +kernel, by decide +kernel, ?_, by decide +kernel⟩
  have hkey : Locator.parse "1" = .ok (.ofValue "1") := by decide +kernel
  have hkeyed : Locator.parse "id:1" = .ok (.ofList [("id", "1")]) := by decide +kernel
  rintro l (h | h)
  · cases hkey.symm.trans h
    decide +kernel
  · cases hkeyed.symm.trans h
    decide +kernel

end Finder

end LocatorQuery
