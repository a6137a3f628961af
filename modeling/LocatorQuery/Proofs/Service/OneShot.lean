import LocatorQuery.Proofs.Service.Session

/-! Single calls. A call with an id and parameters as texts is answered as the line that holds the
whole request, although the one reads the parts for themselves and the other reads them inside an
object. -/
namespace LocatorQuery
open Json (Tree)

theorem Schema.read_json (origin : Origin) {levels : Nat} {j : Json} (h : j.depth ≤ levels) :
    (Schema.json levels).read origin (Tree.ofJson j) = .ok j.sorted := by
  rw [Schema.read, Json.value?_ofJson h]

/-- A request as a JSON object, as a client writes it. -/
def Request.written (id : Json) (method : String) (params : Json) : Json :=
  .object [("id", id), ("method", .string method), ("params", params)]

namespace Request
variable {id params : Json} {method : String}

theorem isIntegral_written (hid : id.IsIntegral) (hparams : params.IsIntegral) :
    (written id method params).IsIntegral :=
  ⟨hid, True.intro, hparams, True.intro⟩

/-- The object of a request takes one level of its own. -/
theorem depth_written_le_iff :
    (written id method params).depth ≤ Json.maxNesting ↔
      id.depth < Json.maxNesting ∧ params.depth < Json.maxNesting := by
  have hdepth : (written id method params).depth = max id.depth (max 0 (max params.depth 0)) + 1 :=
    rfl
  rw [hdepth]
  omega

/-- Each member goes to its own field. -/
theorem read_written (origin : Origin) (hid : id.depth < Json.maxNesting)
    (hparams : params.depth < Json.maxNesting) :
    schema.read origin (Tree.ofJson (written id method params)) =
      .ok { id := id.sorted, method, params := params.sorted } := by
  have hidRead := Schema.read_json origin (Nat.le_sub_one_of_lt hid)
  have hmethodRead : Schema.text.read origin (Tree.ofJson (.string method)) = .ok method := rfl
  have hparamsRead := Schema.read_json origin (Nat.le_sub_one_of_lt hparams)
  -- No field takes the members of those behind it.
  refine Schema.read_record (Fields.putAll_member hidRead
    (Fields.putAll_member hmethodRead (Fields.putAll_member hparamsRead rfl nofun) ?_) ?_) ?_ rfl
  · simp [Label.accepts]
  · simp [Label.accepts]
  · rfl

theorem ofLine_written (hid : id.IsIntegral) (hparams : params.IsIntegral)
    (h : (written id method params).depth ≤ Json.maxNesting) :
    ofLine (written id method params).compact =
      .ok { id := id.sorted, method, params := params.sorted } := by
  obtain ⟨hidDepth, hparamsDepth⟩ := depth_written_le_iff.mp h
  have htree := Tree.ofText_compact (written id method params)
  rw [Json.reread_of_isIntegral (isIntegral_written hid hparams)] at htree
  rw [ofLine, Schema.ofText_of_tree htree (read_written .text hidDepth hparamsDepth)]

end Request

namespace Catalog
variable (c : Catalog) (method : String) {id params : Json}

theorem call_compact (hid : id.IsIntegral) (hparams : params.IsIntegral)
    (hidDepth : id.depth ≤ Json.maxNesting) (hparamsDepth : params.depth ≤ Json.maxNesting) :
    c.call method params.compact id.compact =
      .ok (c.respond { id := id.sorted, method, params := params.sorted }) := by
  have hidRead := (Json.parse?_compact_iff hid).mpr hidDepth
  have hparamsRead := (Json.parse?_compact_iff hparams).mpr hparamsDepth
  rw [call, hparamsRead, hidRead]
  rfl

theorem serve_written (hid : id.IsIntegral) (hparams : params.IsIntegral)
    (h : (Request.written id method params).depth ≤ Json.maxNesting) {ending : List UInt8}
    (hending : ending ∈ [[], [10], [13, 10]]) :
    c.serve (Text.bytes (Request.written id method params).compact ++ ending) =
      [c.respond { id := id.sorted, method, params := params.sorted }] := by
  have hseen : Text.isBlankText (Request.written id method params).compact = false := by
    rw [Json.compact, Text.isBlankText, String.toList_ofList]
    rfl
  rw [c.serve_lone (Json.oneLine_compact _) hseen hending, respondLine,
    Request.ofLine_written hid hparams h]

/-- A call with an id and parameters is answered with the text with which a session answers the line
of the same request, if that line is read back. It is unless the id or the parameters are nested as
deeply as a text may be, since the request adds a level. -/
theorem serve_eq_call (hid : id.IsIntegral) (hparams : params.IsIntegral)
    (hidDepth : id.depth ≤ Json.maxNesting) (hparamsDepth : params.depth ≤ Json.maxNesting) :
    let request := Request.written id method params
    ∃ answer, c.call method params.compact id.compact = .ok answer ∧
      (Json.parse? request.compact = some request.sorted →
        ∀ ending ∈ [[], [10], [13, 10]],
          c.serve (Text.bytes request.compact ++ ending) = [answer]) ∧
      (Json.parse? request.compact = some request.sorted ↔
        id.depth < Json.maxNesting ∧ params.depth < Json.maxNesting) := by
  intro request
  have hintegral : request.IsIntegral := Request.isIntegral_written hid hparams
  have hread := Json.parse?_compact_iff hintegral
  refine ⟨_, c.call_compact method hid hparams hidDepth hparamsDepth, fun hline => ?_, ?_⟩
  · intro ending hending
    exact c.serve_written method hid hparams (hread.mp hline) hending
  · exact hread.trans Request.depth_written_le_iff

theorem serve_eq_call_of_names :
    let c := ofDataset {} {}
    let id := Json.array [.natural 7, .null]
    let params := Json.object [("format", .string "names")]
    let request := Request.written id "list_methods" params
    id.IsIntegral ∧ params.IsIntegral ∧
      id.depth ≤ Json.maxNesting ∧ params.depth ≤ Json.maxNesting ∧
      Json.parse? request.compact = some request.sorted ∧
      ∃ answer, c.call "list_methods" params.compact id.compact = .ok answer ∧
        c.serve (Text.bytes request.compact ++ [10]) = [answer] := by
  intro c id params request
  have hid : id.IsIntegral := ⟨⟨by decide, by decide⟩, True.intro, True.intro⟩
  have hparams : params.IsIntegral := ⟨True.intro, True.intro⟩
  have hidDepth : id.depth < Json.maxNesting := by decide
  have hparamsDepth : params.depth < Json.maxNesting := by decide
  obtain ⟨answer, hcall, hserve, hread⟩ :=
    c.serve_eq_call "list_methods" hid hparams (Nat.le_of_lt hidDepth)
      (Nat.le_of_lt hparamsDepth)
  have hline := hread.mpr ⟨hidDepth, hparamsDepth⟩
  exact ⟨hid, hparams, Nat.le_of_lt hidDepth, Nat.le_of_lt hparamsDepth, hline, answer, hcall,
    hserve hline [10] (by decide)⟩

end Catalog

end LocatorQuery
