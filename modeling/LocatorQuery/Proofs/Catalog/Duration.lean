import LocatorQuery.Proofs.Catalog.Spellings
import LocatorQuery.Proofs.Text.Numeral

/-! Queries by duration. Durations are unsigned numbers of 64 bits, and a condition compares them as signed
ones, so a run of 2⁶³ milliseconds or more is compared as if it took less than no time. -/
namespace LocatorQuery
open Outcome

/-- Two conditions keep the same items just when they agree on each of them. -/
theorem filter_eq_filter_iff {α : Type} {p q : α → Bool} {items : List α} :
    items.filter p = items.filter q ↔ ∀ item ∈ items, p item = q item := by
  refine ⟨fun h item hmem => ?_, List.filter_congr⟩
  have hiff : item ∈ items.filter p ↔ item ∈ items.filter q := by rw [h]
  rw [List.mem_filter, List.mem_filter, and_iff_right hmem, and_iff_right hmem] at hiff
  exact Bool.eq_iff_iff.mpr hiff

namespace Finder

section Select
variable (d : Dataset) {settings : Settings} (unlimited : settings.lookupLimit = none)
  (defaultCount : Option Nat)
include unlimited

/-- A query that asks for nothing but all matches has all runs. -/
theorem answer_all : ∃ page,
    ((Catalog.ofDataset d settings).testRuns.evaluateWith defaultCount).answer
      (Locator.ofList [(countName, "-1")]) = .ok page ∧ page.entries = d.testRuns := by
  have hanswer : ((Catalog.ofDataset d settings).testRuns.evaluateWith defaultCount).answer
      (Locator.ofList [(countName, "-1")]) = .ok (.ofScan {} (fun _ => true) d.testRuns) := by
    obtain ⟨pageSize, lookupLimit, strict⟩ := settings
    cases unlimited
    cases strict with
    | false => rfl
    | true => rfl
  refine ⟨_, hanswer, ?_⟩
  rw [Page.ofScan_eq]
  exact List.filter_true d.testRuns

/-- One criterion alone selects the runs that pass its test. -/
theorem answer_one {c : Criterion TestRun}
    (hc : c ∈ (Catalog.ofDataset d settings).testRuns.criteria) {raw : String} {test : TestRun → Bool}
    (htest : c.test raw = .ok (some test)) : ∃ page,
    ((Catalog.ofDataset d settings).testRuns.evaluateWith defaultCount).answer
      (Locator.ofList [(c.name, raw), (countName, "-1")]) = .ok page ∧
        page.entries = d.testRuns.filter test := by
  have distinct := distinct_testRuns d settings
  have hname : ∀ p ∈ [(countName, "-1")], p.1 ≠ c.name := by
    rw [List.forall_mem_singleton]
    intro he
    have hmem : c.demand ∈ (Catalog.ofDataset d settings).testRuns.testDemands :=
      List.mem_cons_of_mem _ (List.mem_map_of_mem hc)
    refine disjoint_demands distinct _ hmem ?_
    change c.name ∈ _
    rw [← he]
    decide
  have h : Narrows (Catalog.ofDataset d settings).testRuns (Locator.ofList [(countName, "-1")])
      (Locator.ofList [(c.name, raw), (countName, "-1")]) test :=
    @narrows_inserted _ _ _ _ _ distinct hc htest [] _ hname
  obtain ⟨page, hpage, hentries⟩ := answer_all d unlimited defaultCount
  refine ⟨_, answer_keep_of_narrows distinct (Locator.untaken_ofList _) (Locator.untaken_ofList _) h ?_
    rfl hpage, congrArg (List.filter test) hentries⟩
  rintro w ⟨⟩
  exact ⟨rfl, rfl⟩

/-- A condition on the duration selects the runs for which it holds just when it does not matter to it that
durations of 2⁶³ milliseconds and more are taken for negative ones. -/
theorem duration_exact_iff {raw text : String} {condition : Condition}
    (hraw : Condition.parse "duration" raw = .ok (some condition))
    (htext : Locator.parse text = .ok (Locator.ofList [("duration", raw), (countName, "-1")])) :
    ∃ page, (Catalog.ofDataset d settings).testRuns.findMany (some text) = .ok page ∧
      (page.entries = d.testRuns.filter (fun r => condition.accepts r.durationMs.toNat) ↔
        ∀ r ∈ d.testRuns, Text.signedBound ≤ r.durationMs.toNat →
          (condition.comparison.holds (r.durationMs.toNat - Text.unsignedBound) condition.operand ↔
            condition.comparison.holds r.durationMs.toNat condition.operand)) := by
  have hc : TestRun.lasting ∈ (Catalog.ofDataset d settings).testRuns.criteria := by
    change TestRun.lasting ∈ TestRun.criteria _
    simp [TestRun.criteria]
  have htest : TestRun.lasting.test raw =
      .ok (some fun r => condition.accepts (Text.signed r.durationMs.toNat)) := by
    dsimp only [TestRun.lasting]
    rw [hraw]
    rfl
  obtain ⟨page, hpage, hentries⟩ := answer_one d unlimited settings.pageSize hc htest
  refine ⟨page, ?_, ?_⟩
  · rw [findMany_eq]
    exact bind_eq_ok_iff.mpr ⟨_, htext, hpage⟩
  · rw [hentries, filter_eq_filter_iff]
    refine forall₂_congr fun r _ => ?_
    rw [Condition.accepts, Condition.accepts, decide_eq_decide]
    -- Below 2⁶³ both sides compare the same number.
    by_cases hlong : Text.signedBound ≤ r.durationMs.toNat
    · have hlt : r.durationMs.toNat < Text.unsignedBound := r.durationMs.toNat_lt
      rw [Text.signed_of_le hlong hlt]
      exact ⟨fun h _ => h, fun h => h hlong⟩
    · rw [Text.signed_of_lt (Nat.lt_of_not_le hlong)]
      exact iff_of_true Iff.rfl fun hle => absurd hle hlong

end Select

/-- The longest duration that there is compares as -1, which is not zero either. -/
theorem duration_exact_iff_of_longest :
    let run (id durationMs : UInt64) : TestRun :=
      { id, testId := 1, name := "s: p.C.m", buildId := 1, status := .success, durationMs }
    let d : Dataset :=
      { testRuns := [run 1 9223372036854775807, run 2 0, run 3 18446744073709551615] }
    let raw := "condition:does-not-equal,value:0"
    let text := "duration:(condition:does-not-equal,value:0),count:-1"
    Condition.parse "duration" raw = .ok (some ⟨.doesNotEqual, 0⟩) ∧
      Locator.parse text = .ok (Locator.ofList [("duration", raw), (countName, "-1")]) ∧
      ∃ page, (Catalog.ofDataset d {}).testRuns.findMany (some text) = .ok page ∧
        page.entries = [run 1 9223372036854775807, run 3 18446744073709551615] := by
  intro run d raw text
  have hraw : Condition.parse "duration" raw = .ok (some ⟨.doesNotEqual, 0⟩) := by decide +kernel
  have htext : Locator.parse text = .ok (Locator.ofList [("duration", raw), (countName, "-1")]) := by
    decide +kernel
  have hsame : ∀ r ∈ d.testRuns, Text.signedBound ≤ r.durationMs.toNat →
      (Comparison.doesNotEqual.holds (r.durationMs.toNat - Text.unsignedBound) 0 ↔
        Comparison.doesNotEqual.holds r.durationMs.toNat 0) := by decide +kernel
  obtain ⟨page, hpage, hexact⟩ := @duration_exact_iff d {} rfl _ _ _ hraw htext
  exact ⟨hraw, htext, page, hpage, (hexact.mpr hsame).trans (by decide +kernel)⟩

/-- What each comparison with one millisecond selects of durations of none, one and two. -/
example : Comparison.all.map (fun c => [0, 1, 2].filter fun ms =>
      (⟨c, 1⟩ : Condition).accepts (Text.signed ms)) =
    [[1], [0, 2], [2], [0, 1], [0], [1, 2]] := by
  decide

/-- A run of 2⁶³ milliseconds does not count as one that takes more than no time. -/
theorem duration_taken_for_negative :
    let run : TestRun :=
      { id := 1, testId := 1, name := "s: p.C.m", buildId := 1, status := .success
        durationMs := 9223372036854775808 }
    let d : Dataset := { testRuns := [run] }
    let raw := "condition:more-than,value:0"
    let text := "duration:(condition:more-than,value:0),count:-1"
    Condition.parse "duration" raw = .ok (some ⟨.moreThan, 0⟩) ∧
      Locator.parse text = .ok (Locator.ofList [("duration", raw), (countName, "-1")]) ∧
      Comparison.moreThan.holds run.durationMs.toNat 0 ∧
      (Catalog.ofDataset d {}).testRuns.findMany (some text) = .ok
        { entries := [], start := 0, count := none, examined := 1, matched := 0, nextStart := none,
          lookupLimit := none, lookupLimitReached := false } := by
  decide +kernel

end Finder

end LocatorQuery
