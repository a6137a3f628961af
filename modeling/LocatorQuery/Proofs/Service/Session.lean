import LocatorQuery.Proofs.Json.OneLine
import LocatorQuery.Proofs.Schema.RoundTrip
import LocatorQuery.Proofs.Service.Lines

/-! Sessions. Each line that is not blank gets one answer, itself a line, up to the first line that is
not text; so a session may be cut behind any newline without a change of its answers. -/
namespace LocatorQuery

theorem Text.trimmed_ne_empty_iff (s : String) : trimmed s ≠ "" ↔ isBlankText s = false := by
  rw [trimmed, Ne, String.ofList_eq_empty_iff, trim_eq_nil_iff, isBlankText, Bool.not_eq_true]

theorem Text.bytes_joined (lines : List String) :
    bytes (String.join (lines.map (· ++ "\n"))) =
      (lines.map bytes).flatMap fun line => line ++ [10] := by
  induction lines with
  | nil => rfl
  | cons line lines ih =>
    have hnewline : bytes "\n" = [10] := by decide
    rw [List.map_cons, String.join_cons, bytes_append, bytes_append, hnewline, ih, List.map_cons,
      List.flatMap_cons]

/-- An object with an id and one member more, a result or an error, written on one line. -/
structure IsAnswer (line : String) (id : Json) (key : String) (value : Json) : Prop where
  key_eq : key = "result" ∨ key = "error"
  written : line = (Json.object [("id", id), (key, value)]).compact
  tree : Json.Tree.ofText line =
    (.object [(some "id", Json.reread id), (some key, Json.reread value)] true, true)
  legible : (Json.Tree.ofText line).1.isLegible = true
  oneLine : 10 ∉ Text.bytes line ∧ 13 ∉ Text.bytes line

theorem isAnswer_compact {key : String} (h : key = "result" ∨ key = "error") (id value : Json) :
    IsAnswer (Json.object [("id", id), (key, value)]).compact id key value := by
  have htree := Json.Tree.ofText_compact (.object [("id", id), (key, value)])
  refine ⟨h, rfl, htree, ?_, Json.oneLine_compact _⟩
  rw [htree]
  exact Json.Tree.isLegible_reread _

theorem exists_isAnswer_response (id : Json) (r : Result Json) :
    ∃ key value, IsAnswer (response id r).compact id key value := by
  cases r with
  | ok result => exact ⟨"result", result, isAnswer_compact (.inl rfl) id result⟩
  | error failure => exact ⟨"error", _, isAnswer_compact (.inr rfl) id _⟩

namespace Catalog
variable (c : Catalog)

/-- The answer to a line that is no request. What the reader of JSON says about the line is its own. -/
def IsBadRequest (line : String) : Prop :=
  ∃ detail, IsAnswer line .null "error"
    (.object [("kind", .string "bad_request"), ("message", .string ("invalid request: " ++ detail))])

theorem isBadRequest_respondLine {text : String} {fault : DataFault}
    (h : Request.ofLine text = .error fault) : IsBadRequest (c.respondLine text) := by
  refine ⟨fault.message, ?_⟩
  rw [respondLine, h]
  exact isAnswer_compact (.inr rfl) _ _

theorem exists_isAnswer_respondLine (text : String) :
    ∃ id key value, IsAnswer (c.respondLine text) id key value := by
  cases h : Request.ofLine text with
  | error fault =>
    obtain ⟨detail, hanswer⟩ := c.isBadRequest_respondLine h
    exact ⟨_, _, _, hanswer⟩
  | ok r =>
    rw [respondLine, h]
    exact ⟨r.id, exists_isAnswer_response r.id _⟩

/-- The texts of some lines that ask for something. -/
def asked (lines : List (List UInt8)) : List String :=
  (Lines.texts lines).filter fun text => Text.trimmed text ≠ ""

theorem respondLines_eq (lines : List (List UInt8)) :
    c.respondLines lines = (asked lines).map c.respondLine := by
  induction lines with
  | nil => rfl
  | cons line lines ih =>
    rw [respondLines, asked]
    cases htext : Text.ofBytes? line with
    | none =>
      rw [Lines.texts_cons_none htext]
      rfl
    | some text =>
      dsimp only
      rw [Lines.texts_cons_some htext]
      cases hblank : Text.isBlankText text with
      | true =>
        have hempty : ¬Text.trimmed text ≠ "" := by
          rw [Text.trimmed_ne_empty_iff, hblank]
          decide
        rw [if_pos rfl, ih, List.filter_cons_of_neg (by simpa using hempty)]
        rfl
      | false =>
        have hne := (Text.trimmed_ne_empty_iff text).mpr hblank
        rw [if_neg Bool.false_ne_true, ih, List.filter_cons_of_pos (by simpa using hne)]
        rfl

theorem serve_eq (input : List UInt8) :
    c.serve input = (asked (Lines.reference input)).map c.respondLine := by
  rw [serve, Lines.split_eq_reference, respondLines_eq]

theorem serve_append {input : List UInt8} (h : input = [] ∨ input.getLast? = some 10)
    (htext : ∀ line ∈ Lines.reference input, (Text.ofBytes? line).isSome = true)
    (more : List UInt8) : c.serve (input ++ more) = c.serve input ++ c.serve more := by
  rw [serve_eq, serve_eq, serve_eq, Lines.reference_append h, asked, Lines.texts_append htext,
    List.filter_append, List.map_append]
  rfl

/-- A line alone is answered alone. -/
theorem serve_lone {text : String} (hline : 10 ∉ Text.bytes text ∧ 13 ∉ Text.bytes text)
    (hseen : Text.isBlankText text = false) {ending : List UInt8}
    (hending : ending ∈ [[], [10], [13, 10]]) :
    c.serve (Text.bytes text ++ ending) = [c.respondLine text] := by
  have hne : Text.bytes text ≠ [] := by
    intro hempty
    rw [Text.bytes_injective (t := "") hempty] at hseen
    cases hseen
  have hasked : Text.trimmed text ≠ "" := (Text.trimmed_ne_empty_iff text).mpr hseen
  rw [serve_eq, Lines.reference_lone hline hne hending, asked,
    Lines.texts_cons_some (Text.ofBytes?_bytes text),
    List.filter_cons_of_pos (by simpa using hasked)]
  rfl

/-- The answers of a session. Each line that asks for something has one of them, in the order of the
lines and on a line of its own, an object with an id and with either a result or an error. Behind a
newline a session goes on as if it began there. -/
theorem serve_line_by_line (input : List UInt8) :
    let printed := String.join ((c.serve input).map (· ++ "\n"))
    c.serve input = (asked (Lines.reference input)).map c.respondLine ∧
      Lines.reference (Text.bytes printed) = (c.serve input).map Text.bytes ∧
      (∀ line ∈ c.serve input, ∃ id key value, IsAnswer line id key value) ∧
      (∀ text r, Request.ofLine text = .ok r →
        ∃ key value, IsAnswer (c.respondLine text) r.id key value) ∧
      (∀ text fault, Request.ofLine text = .error fault → IsBadRequest (c.respondLine text)) ∧
      (input = [] ∨ input.getLast? = some 10 →
        (∀ line ∈ Lines.reference input, (Text.ofBytes? line).isSome = true) →
        ∀ more, c.serve (input ++ more) = c.serve input ++ c.serve more) := by
  intro printed
  have hanswers : ∀ line ∈ c.serve input, ∃ id key value, IsAnswer line id key value := by
    rw [serve_eq]
    intro line hline
    obtain ⟨text, -, rfl⟩ := List.mem_map.mp hline
    exact c.exists_isAnswer_respondLine text
  refine ⟨c.serve_eq input, ?_, hanswers, fun text r h => ?_, ?_, fun h htext => ?_⟩
  · -- No answer ends a line itself, so the lines that are printed are the answers.
    rw [Text.bytes_joined]
    refine Lines.reference_ended fun bs hbs => ?_
    obtain ⟨line, hline, rfl⟩ := List.mem_map.mp hbs
    obtain ⟨id, key, value, hanswer⟩ := hanswers line hline
    exact hanswer.oneLine
  · rw [respondLine, h]
    exact exists_isAnswer_response r.id _
  · exact fun text fault h => c.isBadRequest_respondLine h
  · exact c.serve_append h htext

theorem serve_line_by_line_of_broken_line :
    let c := ofDataset {} {}
    let text := (Json.object [("id", .natural 7), ("method", .string "nope")]).compact
    let request : Request := { id := .natural 7, method := "nope" }
    let input := Text.bytes "not json" ++ [10]
    let answer := c.respondLine "not json"
    Request.ofLine text = .ok request ∧
      (∃ key value, IsAnswer (c.respondLine text) (.natural 7) key value) ∧
      Request.ofLine "not json" = .error .illegible ∧ IsBadRequest answer ∧
      answer ∈ c.serve input ∧ (∃ id key value, IsAnswer answer id key value) ∧
      input.getLast? = some 10 ∧
      (∀ line ∈ Lines.reference input, (Text.ofBytes? line).isSome = true) ∧
      c.serve (input ++ Text.bytes text) = answer :: c.serve (Text.bytes text) := by
  intro c text request input answer
  have hvalid : Request.schema.ofText text = .ok request :=
    Schema.ofText_of_tree (Json.Tree.ofText_compact _) (by rfl)
  have hbroken : Request.schema.ofText "not json" = .error .illegible := by rfl
  have hrequest : Request.ofLine text = .ok request := by
    rw [Request.ofLine, hvalid]
  have hfault : Request.ofLine "not json" = .error .illegible := by
    rw [Request.ofLine, hbroken]
    rfl
  have hserve : c.serve input = [answer] :=
    c.serve_lone (by decide +kernel) (by decide +kernel) (by decide)
  have hmem : answer ∈ c.serve input := by
    rw [hserve]
    exact List.mem_singleton_self answer
  have hended : input.getLast? = some 10 := by decide +kernel
  have htext : ∀ line ∈ Lines.reference input, (Text.ofBytes? line).isSome = true := by
    decide +kernel
  obtain ⟨-, -, hanswers, hanswer, hrefusal, hcut⟩ := c.serve_line_by_line input
  refine ⟨hrequest, hanswer _ _ hrequest, hfault, hrefusal _ _ hfault, hmem, hanswers _ hmem,
    hended, htext, ?_⟩
  rw [hcut (.inr hended) htext, hserve]
  rfl

end Catalog

end LocatorQuery
