import LocatorQuery.Command.Files
import LocatorQuery.Proofs.Schema.RoundTrip

/-! Datasets as JSON: a dataset that is written out is read back unchanged. What is left out of the
text is what reading puts in its place. -/
namespace LocatorQuery

theorem Status.lawful : Status.schema.Lawful := by
  intro status
  cases status <;> rfl

theorem Build.lawful : Build.schema.Lawful := by
  refine ⟨?_, fun _ => rfl⟩
  simp [Build.fields, Fields.Lawful, Schema.Lawful, Schema.write, Status.lawful, Fields.names,
    Label.accepts]

theorem TestRun.lawful : TestRun.schema.Lawful := by
  refine ⟨?_, fun _ => rfl⟩
  simp [TestRun.fields, Fields.Lawful, Schema.Lawful, Status.lawful, Fields.names, Label.accepts]

theorem Problem.lawful : Problem.schema.Lawful := by
  refine ⟨?_, fun _ => rfl⟩
  simp [Problem.fields, Fields.Lawful, Schema.Lawful, Fields.names, Label.accepts]

namespace Dataset

theorem lawful : Dataset.schema.Lawful := by
  refine ⟨?_, fun _ => rfl⟩
  simp [Dataset.fields, Fields.Lawful, Schema.Lawful, Fields.names, Label.accepts, Build.lawful,
    TestRun.lawful, Problem.lawful]

theorem ofJson_of_ofText {text : String} {d : Dataset} (h : schema.ofText text = .ok d) :
    ofJson text = .ok d := by
  rw [ofJson, h]
  rfl

/-- Every dataset comes back from its JSON text, compact or indented. -/
theorem ofJson_write (d : Dataset) :
    ofJson (schema.write d).compact = .ok d ∧ ofJson (schema.write d).indented = .ok d := by
  obtain ⟨hcompact, hindented⟩ := Schema.ofText_write lawful d
  exact ⟨ofJson_of_ofText hcompact, ofJson_of_ofText hindented⟩

/-- A build on the default branch without tags is written without either; the empty branch is one. -/
example :
    let build (branch : Option String) : Build :=
      { id := 1, buildType := "Core", number := "a", branch, status := .unknown, finished := false }
    (Build.schema.write (build none)).compact =
        "\x7b\"id\":1,\"build_type\":\"Core\",\"number\":\"a\",\"status\":\"UNKNOWN\"," ++
          "\"finished\":false\x7d" ∧
      (Build.schema.write (build (some ""))).compact =
        "\x7b\"id\":1,\"build_type\":\"Core\",\"number\":\"a\",\"branch\":\"\"," ++
          "\"status\":\"UNKNOWN\",\"finished\":false\x7d" := by
  decide +kernel

end Dataset

end LocatorQuery
