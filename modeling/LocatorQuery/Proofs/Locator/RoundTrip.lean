import LocatorQuery.Proofs.Locator.History

/-! Rendering and reading: the canonical text of a locator reads back as the same locator. -/
namespace LocatorQuery
open Nesting

theorem Dimension.writes_chars {d : Dimension} (h : isName d.name.toList = true) :
    Writes d.chars { d with taken := false } :=
  ⟨Value.wrap d.value.toList, rfl, isName_iff.mp h, Value.writes_wrap d.value.toList, rfl⟩

namespace Locator

theorem named_dimensions {ds : List Dimension} :
    Named (.dimensions ds) ↔ ∀ d ∈ ds, Dimension.isName d.name.toList = true := by
  simp [Named, pairs, items]

theorem writesList_render {ds : List Dimension} (hne : ds ≠ []) (hn : Named (.dimensions ds)) :
    WritesList (render (.dimensions ds)).toList
      (ds.map fun d => { d with taken := false }) := by
  rw [named_dimensions] at hn
  refine ⟨ds.map Dimension.chars, ?_, ?_, ?_⟩
  · rwa [Ne, List.map_eq_nil_iff]
  · rw [render, String.toList_ofList]
  · rw [List.forall₂_map_left_iff, List.forall₂_map_right_iff, List.forall₂_same]
    intro d hd
    exact Dimension.writes_chars (hn d hd)

theorem parse_render_dimensions {ds : List Dimension} (hne : ds ≠ [])
    (hn : Named (.dimensions ds)) :
    parse (render (.dimensions ds)) = .ok (fresh (.dimensions ds)) :=
  parse_of_writesList (writesList_render hne hn)

/-- The text of some names and values; for none there is no text. -/
def written (pairs : List (String × String)) : Option String :=
  if pairs.isEmpty then none else some (ofList pairs).render

theorem parse_render_ofList {pairs : List (String × String)} (hne : pairs ≠ [])
    (names : ∀ p ∈ pairs, Dimension.isName p.1.toList = true) :
    parse (ofList pairs).render = .ok (ofList pairs) := by
  have hnamed : Named (ofList pairs) := by
    rw [ofList, named_dimensions]
    intro d hd
    obtain ⟨p, hp, rfl⟩ := List.mem_map.mp hd
    exact names p hp
  rw [ofList, parse_render_dimensions (by simpa using hne) hnamed, fresh, List.map_map]
  rfl

theorem fresh_fresh (l : Locator) : l.fresh.fresh = l.fresh := by
  cases l with
  | single v t => rfl
  | dimensions ds =>
    rw [fresh, fresh, List.map_map]
    rfl

theorem pairs_fresh (l : Locator) : l.fresh.pairs = l.pairs := by
  cases l with
  | single v t => rfl
  | dimensions ds =>
    rw [pairs, fresh, items, List.map_map]
    rfl

theorem same_fresh (l : Locator) : l.fresh.same l = true := by
  rw [same, fresh_fresh, decide_eq_true_eq]

/-- After any history a list of dimensions renders to a text that reads back as a list of the same
names and values in the same order. -/
theorem parse_render_run {l : Locator} (origin : Origin l) (ops : List Operation)
    (h : (run ops l).items ≠ []) :
    ∃ l', parse (run ops l).render = .ok l' ∧ l'.isSingle = false ∧
      l'.pairs = (run ops l).pairs ∧ l'.same (run ops l) = true := by
  have hn := origin.named.run ops
  cases hl : run ops l with
  | single v t => rw [hl] at h; exact absurd rfl h
  | dimensions ds =>
    rw [hl] at h hn
    exact ⟨_, parse_render_dimensions h hn, rfl, pairs_fresh _, same_fresh _⟩

theorem parse_render_run_of_marked_values :
    let l := Locator.dimensions [{ name := "n", value := "((" }, { name := "a.b-c_1", value := "x,y" },
      { name := "n", value := "" }, { name := "q", value := " $base64:zz " }]
    let ops := [Operation.natural "n", .add "m" "$base64:_", .add "?" "", .values "q",
      .erase "a.b-c_1"]
    Origin l ∧ (run ops l).items ≠ [] ∧
      ∃ l', parse (run ops l).render = .ok l' ∧ l'.isSingle = false ∧
        l'.pairs = (run ops l).pairs ∧ l'.same (run ops l) = true := by
  intro l ops
  have origin : Origin l := .ofPairs
    (show ofPairs [("n", "(("), ("a.b-c_1", "x,y"), ("n", ""), ("q", " $base64:zz ")] = .ok l by rfl)
  have h : (run ops l).items ≠ [] := by decide
  exact ⟨origin, h, parse_render_run origin ops h⟩

/-- Values that would be misread as they stand are rendered escaped, wrapped or empty. -/
example : render (.dimensions [{ name := "n", value := "((" }, { name := "a", value := "x,y" },
    { name := "n", value := "" }, { name := "m", value := "$base64:_" }]) =
      "n:$base64:KCg,a:(x,y),n:,m:$base64:JGJhc2U2NDpf" := by
  decide

end Locator

end LocatorQuery
