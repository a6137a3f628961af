import LocatorQuery.Proofs.Query.Transfer

/-! Lookup limits. A page that did not reach its limit is the page of the whole source. So a finder
answers the same without its limit, as long as its criteria build the same tests. -/
namespace LocatorQuery
open Outcome Reading

variable {α : Type}

theorem Window.reach_of_unreached {w : Window} {source : List α}
    (h : (w.lookupLimit.any fun limit => decide (limit ≤ (w.reach source).length)) = false) :
    w.reach source = source := by
  rw [length_reach] at h
  rw [reach]
  cases hw : w.lookupLimit with
  | none => rfl
  | some limit =>
    simp only [hw, Option.any_some, decide_eq_false_iff_not] at h
    exact List.take_of_length_le (by omega)

theorem Page.ofScan_of_unreached {w : Window} {passes : α → Bool} {source : List α}
    (h : (ofScan w passes source).lookupLimitReached = false) :
    ofScan { w with lookupLimit := none } passes source =
      { ofScan w passes source with lookupLimit := none } := by
  rw [ofScan_eq] at h
  change (w.lookupLimit.any fun limit => decide (limit ≤ (w.reach source).length)) = false at h
  have hreach : w.reach source = source := Window.reach_of_unreached h
  rw [hreach] at h
  rw [ofScan_eq, ofScan_eq, hreach, ofCounts, ofCounts, h]
  rfl

namespace Finder

/-- The second finder asks the same of the same source and has no lookup limit of its own. -/
structure Lifted (o : String → List String) (f g : Finder α) : Prop where
  source : g.source = f.source
  key : g.key = f.key
  criteria : List.Forall₂ (Criterion.Carries o) f.criteria g.criteria
  requiredAny : g.requiredAny = f.requiredAny
  pageSize : g.settings.pageSize = f.settings.pageSize
  strict : g.settings.strict = f.settings.strict
  limit : g.settings.lookupLimit = none

section Lifted
variable {o : String → List String} {f g : Finder α}

theorem Lifted.carries (h : Lifted o f g) : Carries o f g :=
  ⟨h.source, h.key, h.criteria, h.requiredAny⟩

theorem Lifted.leftover (h : Lifted o f g) (l : Locator) : g.leftover l = f.leftover l := by
  have hdemands : g.demands = f.demands := by
    have hdemand : ∀ c c' : Criterion α, c.Carries o c' → c'.demand = c.demand := by
      intro c c' hc
      rw [Criterion.demand, Criterion.demand, hc.name, hc.repeatable]
    rw [demands, demands, testDemands, testDemands, map_of_carries hdemand h.criteria]
  rw [Finder.leftover, Finder.leftover, hdemands, h.carries.supported, h.strict]

/-- A limit that the query gives itself stays, any other is gone. -/
theorem Lifted.windowOf (h : Lifted o f g) {defaultCount : Option Nat} {w : Window}
    (hw : f.windowOf defaultCount o = .ok w) :
    g.windowOf defaultCount o = .ok w ∨
      g.windowOf defaultCount o = .ok { w with lookupLimit := none } := by
  obtain ⟨start, hstart, hw⟩ := bind_eq_ok_iff.mp hw
  obtain ⟨count, hcount, hw⟩ := bind_eq_ok_iff.mp hw
  obtain ⟨limit, hlimit, hw⟩ := bind_eq_ok_iff.mp hw
  cases hw
  obtain ⟨asked, hasked, rfl⟩ := map_eq_ok_iff.mp hlimit
  rw [Finder.windowOf, hstart, hcount, limitOf, hasked, h.limit]
  rcases asked with _ | _ | n
  · exact .inr rfl
  · exact .inl rfl
  · exact .inl rfl

end Lifted

/-- An answer that did not reach a lookup limit is the answer without one. -/
theorem Lifted.answer {f g : Finder α} {l : Locator} (h : Lifted l.openValues f g)
    (distinct : f.supported.Nodup) {defaultCount : Option Nat} {page : Page α}
    (hpage : (f.evaluateWith defaultCount).answer l = .ok page)
    (unreached : page.lookupLimitReached = false) :
    ∃ limit, (g.evaluateWith defaultCount).answer l = .ok { page with lookupLimit := limit } := by
  cases l with
  | single key taken =>
    refine ⟨none, ?_⟩
    rw [h.carries.answer_single, hpage]
    cases hpage
    rfl
  | dimensions ds =>
    have hleft : f.leftover (.dimensions ds) = .ok () → g.leftover (.dimensions ds) = .ok () :=
      (h.leftover (.dimensions ds)).trans
    obtain ⟨w, passes, hw, rfl, hfree⟩ := h.carries.answer_dimensions distinct hleft hpage
    rcases h.windowOf hw with hw' | hw'
    · exact ⟨w.lookupLimit, hfree w hw'⟩
    · refine ⟨none, ?_⟩
      rw [hfree _ hw', Page.ofScan_of_unreached unreached]

theorem findMany_eq_ok_iff {f : Finder α} {text : String} {page : Page α} :
    f.findMany (some text) = .ok page ↔
      ∃ l, Locator.parse text = .ok l ∧ (f.evaluateWith f.settings.pageSize).answer l = .ok page :=
  bind_eq_ok_iff

theorem Lifted.findMany {f g : Finder α} {text : String} (distinct : f.supported.Nodup)
    (h : ∀ l, Locator.parse text = .ok l → Lifted l.openValues f g) {page : Page α}
    (hpage : f.findMany (some text) = .ok page) (unreached : page.lookupLimitReached = false) :
    ∃ limit, g.findMany (some text) = .ok { page with lookupLimit := limit } := by
  obtain ⟨l, hl, hpage⟩ := findMany_eq_ok_iff.mp hpage
  obtain ⟨limit, hfree⟩ := (h l hl).answer distinct hpage unreached
  exact ⟨limit, findMany_eq_ok_iff.mpr ⟨l, hl, (h l hl).pageSize ▸ hfree⟩⟩

end Finder

end LocatorQuery
