import LocatorQuery.Service.Handler
import LocatorQuery.Proofs.Locator.LoneValue

/-! Canonical texts. A request to parse a locator is answered with the locator and its canonical text.
For a lone value that text stands for the same value, unless the value consists of blanks. -/
namespace LocatorQuery.Catalog
open Outcome

/-- A request for a text that is a locator is answered with it and its canonical text. -/
theorem handle_parseLocator {params : Json} {text : String} {l : Locator}
    (hparams : Params.read .parseLocator Params.parseLocator params = .ok (text, ()))
    (hl : Locator.parse text = .ok l) (c : Catalog) :
    c.handle "parse_locator" params =
      .ok (Json.object [("locator", l.toJson), ("canonical", .string l.render)]).sorted := by
  have hmethod : Method.ofName? "parse_locator" = some .parseLocator := by rfl
  have hanswer : c.answer .parseLocator params =
      .ok (.object [("locator", l.toJson), ("canonical", .string l.render)]) := by
    rw [answer, hparams]
    change parseLocator text = _
    rw [parseLocator, hl]
    rfl
  rw [handle, hmethod]
  dsimp only
  rw [hanswer]
  rfl

theorem sorted_canonical (value canonical : String) :
    (Json.object [("locator", (Locator.ofValue value).toJson),
        ("canonical", .string canonical)]).sorted =
      .object [("canonical", .string canonical),
        ("locator", .object [("dimensions", .array []), ("single_value", .string value)])] := by
  rfl

/-- The canonical text of a lone value reads back as that value just when the value is empty or holds
more than blanks. It is the text that a request for the value is answered with. -/
theorem canonical_reads_back_iff (value : String) :
    let canonical := (Locator.ofValue value).render
    (Locator.parse canonical = .ok (.ofValue value) ↔
      value = "" ∨ Text.isBlankText value = false) ∧
    ∀ (c : Catalog) (params : Json) (text : String) (taken : Bool),
      Params.read .parseLocator Params.parseLocator params = .ok (text, ()) →
      Locator.parse text = .ok (.single value taken) →
      c.handle "parse_locator" params =
        .ok (.object [("canonical", .string canonical),
          ("locator", .object [("dimensions", .array []), ("single_value", .string value)])]) := by
  intro canonical
  constructor
  · rw [Locator.parse_render_ofValue]
    split
    · next seen => simp [seen]
    · next unseen => simp [unseen]
  · intro c params text taken hparams hparse
    rw [handle_parseLocator hparams hparse]
    exact congrArg Except.ok (sorted_canonical value canonical)

theorem canonical_reads_back_of_marked_value :
    let value := "$base64:("
    let text := "($base64:JGJhc2U2NDoo)"
    let params := Json.object [("locator", .string text)]
    let catalog := Catalog.ofDataset {} {}
    Params.read .parseLocator Params.parseLocator params = .ok (text, ()) ∧
      Locator.parse text = .ok (.single value false) ∧
      Locator.parse (Locator.ofValue value).render = .ok (.ofValue value) ∧
      catalog.handle "parse_locator" params =
        .ok (.object [("canonical", .string (Locator.ofValue value).render),
          ("locator", .object [("dimensions", .array []), ("single_value", .string value)])]) := by
  intro value text params catalog
  have hparams : Params.read .parseLocator Params.parseLocator params = .ok (text, ()) := by rfl
  have hparse : Locator.parse text = .ok (.single value false) := by decide +kernel
  have seen : Text.isBlankText value = false := by decide +kernel
  obtain ⟨hreads, hanswer⟩ := canonical_reads_back_iff value
  exact ⟨hparams, hparse, hreads.mpr (.inr seen), hanswer catalog params text false hparams hparse⟩

/-- A group around a blank holds a lone value whose canonical text is refused as blank. -/
theorem canonical_of_blank_refused :
    let params := Json.object [("locator", .string "( )")]
    let catalog := Catalog.ofDataset {} {}
    Locator.parse "( )" = .ok (.ofValue " ") ∧
      catalog.handle "parse_locator" params =
        .ok (.object [("canonical", .string " "),
          ("locator", .object [("dimensions", .array []), ("single_value", .string " ")])]) ∧
      Locator.parse " " = .error (.malformed .blank " ") := by
  intro params catalog
  have hparams : Params.read .parseLocator Params.parseLocator params = .ok ("( )", ()) := by rfl
  have hparse : Locator.parse "( )" = .ok (.ofValue " ") := by decide +kernel
  have hrender : (Locator.ofValue " ").render = " " := by decide +kernel
  refine ⟨hparse, ?_, by decide +kernel⟩
  rw [handle_parseLocator hparams hparse, sorted_canonical, hrender]

end LocatorQuery.Catalog
