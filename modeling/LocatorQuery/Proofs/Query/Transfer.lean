import LocatorQuery.Proofs.Query.Evaluation

/-! Transfer of answers. Two finders share a source, and the second builds every test that the first
builds. Then the second answers what the first answers, with its own window. -/
namespace LocatorQuery
open Outcome Reading

variable {α : Type}

/-- Where the first criterion builds a test from the values that reach it, the second builds the same. -/
structure Criterion.Carries (o : String → List String) (c c' : Criterion α) : Prop where
  name : c'.name = c.name
  repeatable : c'.repeatable = c.repeatable
  test : ∀ raw ∈ c.chosen (o c.name), ∀ test, c.test raw = .ok test → c'.test raw = .ok test

theorem Criterion.carries_refl (o : String → List String) (c : Criterion α) : c.Carries o c :=
  ⟨rfl, rfl, fun _ _ _ h => h⟩

theorem Criterion.Carries.testsOf {o : String → List String} {c c' : Criterion α}
    (h : c.Carries o c') {tests : List (α → Bool)} (ht : c.testsOf (o c.name) = .ok tests) :
    c'.testsOf (o c'.name) = .ok tests := by
  obtain ⟨built, hbuilt, rfl⟩ := map_eq_ok_iff.mp ht
  have hchosen : c'.chosen (o c'.name) = c.chosen (o c.name) := by
    rw [chosen, chosen, h.name, h.repeatable]
  refine map_eq_ok_iff.mpr ⟨built, ?_, rfl⟩
  rw [hchosen]
  exact mapM_of_forall₂ hbuilt (List.forall₂_same.mpr h.test)

theorem map_of_carries {β : Type} {o : String → List String} {k : Criterion α → β}
    (hk : ∀ c c', Criterion.Carries o c c' → k c' = k c) {cs cs' : List (Criterion α)}
    (h : List.Forall₂ (Criterion.Carries o) cs cs') : cs'.map k = cs.map k := by
  induction h with
  | nil => rfl
  | cons hc _ ih => rw [List.map_cons, List.map_cons, hk _ _ hc, ih]

namespace Finder

/-- The second finder builds the tests of the first, over the same source. -/
structure Carries (o : String → List String) (f g : Finder α) : Prop where
  source : g.source = f.source
  key : g.key = f.key
  criteria : List.Forall₂ (Criterion.Carries o) f.criteria g.criteria
  requiredAny : g.requiredAny = f.requiredAny

namespace Carries

variable {o : String → List String} {f g : Finder α} (h : Carries o f g)
include h

theorem supported : g.supported = f.supported := by
  rw [Finder.supported, Finder.supported, map_of_carries (fun _ _ hc => hc.name) h.criteria]

theorem required (l : Locator) : g.required l = f.required l := by
  rw [Finder.required, Finder.required, h.requiredAny]

theorem testsFor {tests : List (α → Bool)} (ht : f.testsFor o = .ok tests) :
    g.testsFor o = .ok tests := by
  obtain ⟨built, hbuilt, htests⟩ := bind_eq_ok_iff.mp ht
  refine bind_eq_ok_iff.mpr ⟨built, ?_, ?_⟩
  · exact mapM_of_forall₂ hbuilt (h.criteria.imp fun _ _ hc _ => hc.testsOf)
  · rw [h.key]
    exact htests

theorem answer_single (defaultCount : Option Nat) (key : String) (taken : Bool) :
    (g.evaluateWith defaultCount).answer (.single key taken) =
      (f.evaluateWith defaultCount).answer (.single key taken) := by
  have hby : g.byKey? key = f.byKey? key := by rw [byKey?, byKey?, h.source, h.key]
  change Except.ok (Page.ofItems (g.byKey? key).toList) = .ok (.ofItems (f.byKey? key).toList)
  rw [hby]

end Carries

/-- What the first finder answers is a page, and the second answers with the page of its own window, if
it refuses no more than the first. -/
theorem Carries.answer_dimensions {f g : Finder α} {ds : List Dimension}
    (h : Carries (Locator.dimensions ds).openValues f g) (distinct : f.supported.Nodup)
    (left : f.leftover (.dimensions ds) = .ok () → g.leftover (.dimensions ds) = .ok ())
    {defaultCount : Option Nat} {page : Page α}
    (hpage : (f.evaluateWith defaultCount).answer (.dimensions ds) = .ok page) :
    ∃ w passes, f.windowOf defaultCount (Locator.dimensions ds).openValues = .ok w ∧
      page = .ofScan w passes f.source ∧
      ∀ w', g.windowOf defaultCount (Locator.dimensions ds).openValues = .ok w' →
        (g.evaluateWith defaultCount).answer (.dimensions ds) = .ok (.ofScan w' passes f.source) := by
  rw [answer_evaluateWith distinct] at hpage
  obtain ⟨w, hw, hpage⟩ := bind_eq_ok_iff.mp hpage
  obtain ⟨_, hrequired, hpage⟩ := bind_eq_ok_iff.mp hpage
  obtain ⟨tests, htests, hpage⟩ := bind_eq_ok_iff.mp hpage
  obtain ⟨_, hleft, hpage⟩ := bind_eq_ok_iff.mp hpage
  cases hpage
  refine ⟨w, _, hw, rfl, fun w' hw' => ?_⟩
  rw [answer_evaluateWith (h.supported ▸ distinct), hw', h.required, hrequired, h.testsFor htests,
    left hleft, h.source]
  rfl

end Finder

end LocatorQuery
