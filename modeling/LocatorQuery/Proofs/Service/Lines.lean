import LocatorQuery.Proofs.Text.Bytes
import LocatorQuery.Service.Session

/-! Lines of an input. The reader goes from newline to newline; its lines are the pieces between the
newlines, so an input that ends a line may be read apart from what follows it. -/
namespace LocatorQuery.Lines

/-- The pieces of an input between its newlines, each without a carriage return at its end; what
follows the last newline is a line as it stands, if there is anything. -/
def reference (input : List UInt8) : List (List UInt8) :=
  let pieces := input.splitOn 10
  pieces.dropLast.map withoutReturn ++ pieces.getLast?.toList.filter fun piece => !piece.isEmpty

/-- The first line goes up to the first newline, or to the end if there is none. -/
theorem first_spec (bs : List UInt8) :
    10 ∉ (first bs).1 ∧ bs = (first bs).1 ++ ((first bs).2.map (10 :: ·)).getD [] := by
  induction bs with
  | nil => exact ⟨List.not_mem_nil, rfl⟩
  | cons b bs ih =>
    obtain ⟨hline, hbs⟩ := ih
    rw [first]
    split
    · next hb =>
      rw [hb]
      exact ⟨List.not_mem_nil, rfl⟩
    · next hb =>
      refine ⟨?_, congrArg (b :: ·) hbs⟩
      rw [List.mem_cons, not_or]
      exact ⟨Ne.symm hb, hline⟩

theorem withoutReturn_of_not_mem {line : List UInt8} (h : 13 ∉ line) : withoutReturn line = line :=
  if_neg fun hlast => h (List.mem_of_getLast? hlast)

theorem reference_nil : reference [] = [] := rfl

/-- What follows a newline is read on its own. -/
theorem reference_newline (before after : List UInt8) :
    reference (before ++ 10 :: after) =
      (before.splitOn 10).map withoutReturn ++ reference after := by
  have hafter := List.splitOn_ne_nil 10 after
  rw [reference, reference, List.splitOn_append_cons_self, List.dropLast_append_of_ne_nil hafter,
    List.getLast?_append, Option.or_of_isSome (by simp [hafter]), List.map_append,
    List.append_assoc]

theorem reference_line {line : List UInt8} (h : 10 ∉ line) (rest : List UInt8) :
    reference (line ++ 10 :: rest) = withoutReturn line :: reference rest := by
  rw [reference_newline, List.splitOn_eq_singleton h]
  rfl

theorem reference_tail {tail : List UInt8} (h : 10 ∉ tail) (hne : tail ≠ []) :
    reference tail = [tail] := by
  rw [reference, List.splitOn_eq_singleton h]
  simp [hne]

theorem split_eq_reference (input : List UInt8) : split input = reference input := by
  have hspec := first_spec input
  -- Along the recursion of the reader; all it does to a line is in the law of the first line.
  fun_induction split input with
  | case1 input line rest hfirst ih =>
    rw [hfirst] at hspec
    obtain ⟨hline, rfl⟩ := hspec
    exact (congrArg _ (ih (first_spec rest))).trans (reference_line hline rest).symm
  | case2 input line hfirst hempty =>
    rw [hfirst] at hspec
    obtain ⟨-, rfl⟩ := hspec
    rw [List.isEmpty_iff.mp hempty]
    rfl
  | case3 input line hfirst hempty =>
    rw [hfirst] at hspec
    obtain ⟨hline, rfl⟩ := hspec
    have hne : line ≠ [] := by simpa using hempty
    exact (reference_tail hline hne).symm.trans (congrArg reference (List.append_nil line).symm)

/-- An input that is empty or ends with a newline has the same lines whatever follows it. -/
theorem reference_append {input : List UInt8} (h : input = [] ∨ input.getLast? = some 10)
    (more : List UInt8) : reference (input ++ more) = reference input ++ reference more := by
  rcases h with rfl | h
  · rfl
  · obtain ⟨before, rfl⟩ := List.getLast?_eq_some_iff.mp h
    rw [List.append_assoc, List.singleton_append, reference_newline, reference_newline,
      reference_nil, List.append_nil]

/-- Lines that were ended one by one are read as they were. -/
theorem reference_ended {lines : List (List UInt8)}
    (h : ∀ line ∈ lines, 10 ∉ line ∧ 13 ∉ line) :
    reference (lines.flatMap fun line => line ++ [10]) = lines := by
  induction lines with
  | nil => rfl
  | cons line lines ih =>
    rw [List.forall_mem_cons] at h
    obtain ⟨⟨hnewline, hreturn⟩, hlines⟩ := h
    rw [List.flatMap_cons, List.append_assoc, List.singleton_append, reference_line hnewline,
      withoutReturn_of_not_mem hreturn, ih hlines]

/-- A lone line may be ended in either way or not at all. -/
theorem reference_lone {line ending : List UInt8} (h : 10 ∉ line ∧ 13 ∉ line) (hne : line ≠ [])
    (hending : ending ∈ [[], [10], [13, 10]]) : reference (line ++ ending) = [line] := by
  obtain ⟨hnewline, hreturn⟩ := h
  simp only [List.mem_cons, List.not_mem_nil, or_false] at hending
  rcases hending with rfl | rfl | rfl
  · rw [List.append_nil, reference_tail hnewline hne]
  · rw [reference_line hnewline, withoutReturn_of_not_mem hreturn, reference_nil]
  · have hended : 10 ∉ line ++ [13] := by simp [hnewline]
    have hkept : withoutReturn (line ++ [13]) = line := by simp [withoutReturn]
    have hsplit : line ++ [13, 10] = line ++ [13] ++ 10 :: [] := by simp
    rw [hsplit, reference_line hended, hkept, reference_nil]

/-- The texts of some lines, up to the first line that is not UTF-8. -/
def texts (lines : List (List UInt8)) : List String :=
  ((lines.map Text.ofBytes?).takeWhile Option.isSome).filterMap id

theorem texts_cons_none {line : List UInt8} (h : Text.ofBytes? line = none)
    (lines : List (List UInt8)) : texts (line :: lines) = [] := by
  simp [texts, h]

theorem texts_cons_some {line : List UInt8} {text : String} (h : Text.ofBytes? line = some text)
    (lines : List (List UInt8)) : texts (line :: lines) = text :: texts lines := by
  simp [texts, h]

theorem texts_append {lines : List (List UInt8)}
    (h : ∀ line ∈ lines, (Text.ofBytes? line).isSome = true) (more : List (List UInt8)) :
    texts (lines ++ more) = texts lines ++ texts more := by
  induction lines with
  | nil => rfl
  | cons line lines ih =>
    rw [List.forall_mem_cons] at h
    obtain ⟨text, htext⟩ := Option.isSome_iff_exists.mp h.1
    rw [List.cons_append, texts_cons_some htext, texts_cons_some htext, ih h.2, List.cons_append]

end LocatorQuery.Lines
