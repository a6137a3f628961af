import LocatorQuery.Json.Tree
import LocatorQuery.Proofs.Json.Text

/-! Trees of written JSON. The text of a value, compact or indented, is read as the tree of that
value, whatever the value; only its floats may change, in which a reader is free. A value of integers
that is not nested too deeply is read back with its members in order. -/
namespace LocatorQuery.Json

mutual

/-- The tree that is read where a value was written. -/
def reread : Json → Tree
  | .null => .null
  | .bool b => .bool b
  | .number n => ((rereadNumber n).map Tree.number).getD .unreadable
  | .string s => .string s
  | .array items => .array (rereadItems items) true
  | .object members => .object (rereadMembers members) true

def rereadItems : List Json → List Tree
  | [] => []
  | j :: js => reread j :: rereadItems js

def rereadMembers : List (String × Json) → List (Option String × Tree)
  | [] => []
  | (n, j) :: ms => (some n, reread j) :: rereadMembers ms

end

theorem spelled_length_pos (j : Json) : 0 < (spelled j).length := by
  fun_cases spelled j <;> simp

theorem spelledItems_length_pos (js : List Json) : 0 < (spelledItems js).length := by
  cases js <;> simp [spelledItems]

theorem spelledMembers_length_pos (ms : List (String × Json)) :
    0 < (spelledMembers ms).length := by
  cases ms <;> simp [spelledMembers]

/-- No value starts with the end of a list. -/
theorem head?_spelled (j : Json) (rest : List Token) :
    (spelled j ++ rest).head? ≠ some .closeArray := by
  fun_cases spelled j <;> simp

namespace Tree

theorem ofTokens_openArray {fuel : Nat} {ts : List Token} (h : ts.head? ≠ some .closeArray) :
    ofTokens (fuel + 1) (.openArray :: ts) =
      (.array (itemsOfTokens fuel ts).1 (itemsOfTokens fuel ts).2.isSome,
        (itemsOfTokens fuel ts).2) := by
  rw [ofTokens]
  rintro us rfl
  exact h rfl

/-- With so much fuel, what was written is read back. -/
structure ReadsBack (fuel : Nat) : Prop where
  value : ∀ j rest, (spelled j).length ≤ fuel →
    ofTokens fuel (spelled j ++ rest) = (reread j, some rest)
  items : ∀ j js rest, (spelled j ++ spelledItems js).length ≤ fuel →
    itemsOfTokens fuel (spelled j ++ (spelledItems js ++ rest)) =
      (reread j :: rereadItems js, some rest)
  members : ∀ n j ms rest, (spelled j ++ spelledMembers ms).length + 2 ≤ fuel →
    membersOfTokens fuel
        (.string (some n) :: .colon :: (spelled j ++ (spelledMembers ms ++ rest))) =
      ((some n, reread j) :: rereadMembers ms, some rest)

theorem readsBack_zero : ReadsBack 0 := by
  refine ⟨fun j rest h => ?_, fun j js rest h => ?_, fun n j ms rest h => ?_⟩
  · exact absurd h (Nat.not_le.mpr (spelled_length_pos j))
  · have hj := spelled_length_pos j
    rw [List.length_append] at h
    omega
  · omega

theorem ReadsBack.succ {fuel : Nat} (ih : ReadsBack fuel) : ReadsBack (fuel + 1) := by
  refine ⟨fun j rest h => ?_, fun j js rest h => ?_, fun n j ms rest h => ?_⟩
  · match j with
    | .null | .bool _ | .string _ | .array [] | .object [] => rfl
    | .number n =>
      rw [spelled, reread]
      cases rereadNumber n <;> rfl
    | .array (j :: js) =>
      rw [spelled, List.length_cons] at h
      rw [spelled, List.cons_append, List.append_assoc, ofTokens_openArray (head?_spelled j _),
        ih.items j js rest (by omega)]
      rfl
    | .object ((n, j) :: ms) =>
      simp only [spelled, List.length_cons] at h
      rw [spelled, List.cons_append, List.cons_append, List.cons_append, List.append_assoc,
        ofTokens]
      · rw [ih.members n j ms rest (by omega)]
        rfl
      · nofun
  · have hj := spelled_length_pos j
    have hjs := spelledItems_length_pos js
    rw [List.length_append] at h
    rw [itemsOfTokens, ih.value j _ (by omega)]
    cases js with
    | nil => rfl
    | cons j' js =>
      rw [spelledItems, List.length_cons] at h
      rw [spelledItems, List.cons_append, List.append_assoc]
      dsimp only
      rw [ih.items j' js rest (by omega)]
      rfl
  · have hj := spelled_length_pos j
    have hms := spelledMembers_length_pos ms
    rw [List.length_append] at h
    rw [membersOfTokens, ih.value j _ (by omega)]
    cases ms with
    | nil => rfl
    | cons m ms =>
      obtain ⟨n', j'⟩ := m
      simp only [spelledMembers, List.length_cons] at h
      rw [spelledMembers, List.cons_append, List.cons_append, List.cons_append, List.append_assoc]
      dsimp only
      rw [ih.members n' j' ms rest (by omega)]
      rfl

theorem readsBack (fuel : Nat) : ReadsBack fuel := by
  induction fuel with
  | zero => exact readsBack_zero
  | succ fuel ih => exact ih.succ

/-- Text with the tokens of a value is the text of that value. -/
theorem ofText_of_tokens {text : String} {j : Json} (h : tokens text.toList = spelled j) :
    ofText text = (reread j, true) := by
  have hread := (readsBack (2 * (spelled j).length + 1)).value j [] (by omega)
  rw [List.append_nil] at hread
  rw [ofText, h, hread]

theorem ofText_compact (j : Json) : ofText j.compact = (reread j, true) :=
  ofText_of_tokens (by rw [compact, String.toList_ofList, tokens_compactChars])

theorem ofText_indented (j : Json) : ofText j.indented = (reread j, true) :=
  ofText_of_tokens (by rw [indented, String.toList_ofList, tokens_indentedChars])

/-! ### Written values are legible -/

mutual

theorem isLegible_reread (j : Json) : (reread j).isLegible = true := by
  cases j with
  | null => rfl
  | bool b => rfl
  | string s => rfl
  | number n =>
    rw [reread]
    cases rereadNumber n <;> rfl
  | array js => rw [reread, isLegible, itemsLegible_reread js, Bool.and_self]
  | object ms => rw [reread, isLegible, membersLegible_reread ms, Bool.and_self]

theorem itemsLegible_reread (js : List Json) : itemsLegible (rereadItems js) = true := by
  cases js with
  | nil => rfl
  | cons j js => rw [rereadItems, itemsLegible, isLegible_reread j, itemsLegible_reread js,
      Bool.and_self]

theorem membersLegible_reread (ms : List (String × Json)) :
    membersLegible (rereadMembers ms) = true := by
  cases ms with
  | nil => rfl
  | cons m ms => rw [rereadMembers, membersLegible, isLegible_reread m.2,
      membersLegible_reread ms, Bool.and_self]

end

end Tree

/-! ### Values of integers -/

mutual

/-- Every number of the value is an integer of 64 bits. -/
def IsIntegral : Json → Prop
  | .number (.integer n) => IsWord n
  | .number (.float _) => False
  | .array items => IntegralItems items
  | .object members => IntegralMembers members
  | _ => True

def IntegralItems : List Json → Prop
  | [] => True
  | j :: js => j.IsIntegral ∧ IntegralItems js

def IntegralMembers : List (String × Json) → Prop
  | [] => True
  | (_, j) :: ms => j.IsIntegral ∧ IntegralMembers ms

end

mutual

theorem reread_of_isIntegral {j : Json} (h : j.IsIntegral) : reread j = Tree.ofJson j := by
  match j with
  | .null => rfl
  | .bool _ => rfl
  | .string _ => rfl
  | .number (.integer n) =>
    rw [reread, rereadNumber_integer h]
    rfl
  | .number (.float x) => exact h.elim
  | .array js => rw [reread, Tree.ofJson, rereadItems_of_integral h]
  | .object ms => rw [reread, Tree.ofJson, rereadMembers_of_integral h]

theorem rereadItems_of_integral {js : List Json} (h : IntegralItems js) :
    rereadItems js = Tree.ofItems js := by
  match js with
  | [] => rfl
  | j :: js => rw [rereadItems, Tree.ofItems, reread_of_isIntegral h.1, rereadItems_of_integral h.2]

theorem rereadMembers_of_integral {ms : List (String × Json)} (h : IntegralMembers ms) :
    rereadMembers ms = Tree.ofMembers ms := by
  match ms with
  | [] => rfl
  | (n, j) :: ms =>
    rw [rereadMembers, Tree.ofMembers, reread_of_isIntegral h.1, rereadMembers_of_integral h.2]

end

mutual

/-- How many arrays and objects stand inside each other. -/
def depth : Json → Nat
  | .array items => depthItems items + 1
  | .object members => depthMembers members + 1
  | _ => 0

def depthItems : List Json → Nat
  | [] => 0
  | j :: js => max j.depth (depthItems js)

def depthMembers : List (String × Json) → Nat
  | [] => 0
  | (_, j) :: ms => max j.depth (depthMembers ms)

end

mutual

theorem value?_ofJson {j : Json} {levels : Nat} (h : j.depth ≤ levels) :
    (Tree.ofJson j).value? levels = some j.sorted := by
  match j with
  | .null | .bool _ | .string _ | .number _ => rw [Tree.ofJson, Tree.value?, sorted] <;> nofun
  | .array js =>
    obtain _ | levels := levels
    · exact absurd h (Nat.not_succ_le_zero _)
    · rw [Tree.ofJson, Tree.value?, items?_ofItems (Nat.le_of_succ_le_succ h)]
      rfl
  | .object ms =>
    obtain _ | levels := levels
    · exact absurd h (Nat.not_succ_le_zero _)
    · rw [Tree.ofJson, Tree.value?, members?_ofMembers (Nat.le_of_succ_le_succ h)]
      rfl

theorem items?_ofItems {js : List Json} {levels : Nat} (h : depthItems js ≤ levels) :
    Tree.items? levels (Tree.ofItems js) = some (sortedItems js) := by
  match js with
  | [] => rfl
  | j :: js =>
    obtain ⟨hj, hjs⟩ := Nat.max_le.mp h
    rw [Tree.ofItems, Tree.items?, value?_ofJson hj, items?_ofItems hjs]
    rfl

theorem members?_ofMembers {ms : List (String × Json)} {levels : Nat}
    (h : depthMembers ms ≤ levels) (done : List (String × Json)) :
    Tree.members? levels (Tree.ofMembers ms) done = some (sortedMembers ms done) := by
  match ms with
  | [] => rfl
  | (n, j) :: ms =>
    obtain ⟨hj, hms⟩ := Nat.max_le.mp h
    rw [Tree.ofMembers, Tree.members?, value?_ofJson hj]
    exact members?_ofMembers hms _

end

mutual

/-- A value that is nested too deeply is not read. -/
theorem value?_ofJson_of_lt {j : Json} {levels : Nat} (h : levels < j.depth) :
    (Tree.ofJson j).value? levels = none := by
  match j with
  | .null | .bool _ | .string _ | .number _ => exact absurd h (Nat.not_lt_zero _)
  | .array js =>
    obtain _ | levels := levels
    · rw [Tree.ofJson, Tree.value?] <;> nofun
    · rw [Tree.ofJson, Tree.value?, items?_ofItems_of_lt (Nat.lt_of_succ_lt_succ h)]
      rfl
  | .object ms =>
    obtain _ | levels := levels
    · rw [Tree.ofJson, Tree.value?] <;> nofun
    · rw [Tree.ofJson, Tree.value?, members?_ofMembers_of_lt (Nat.lt_of_succ_lt_succ h)]
      rfl

theorem items?_ofItems_of_lt {js : List Json} {levels : Nat} (h : levels < depthItems js) :
    Tree.items? levels (Tree.ofItems js) = none := by
  match js with
  | [] => exact absurd h (Nat.not_lt_zero _)
  | j :: js =>
    rw [Tree.ofItems, Tree.items?]
    rcases Nat.lt_or_ge levels j.depth with hj | hj
    · rw [value?_ofJson_of_lt hj]
      rfl
    · have hjs : levels < depthItems js := by
        rw [depthItems] at h
        omega
      rw [value?_ofJson hj, items?_ofItems_of_lt hjs]
      rfl

theorem members?_ofMembers_of_lt {ms : List (String × Json)} {levels : Nat}
    (h : levels < depthMembers ms) (done : List (String × Json)) :
    Tree.members? levels (Tree.ofMembers ms) done = none := by
  match ms with
  | [] => exact absurd h (Nat.not_lt_zero _)
  | (n, j) :: ms =>
    rw [Tree.ofMembers, Tree.members?]
    rcases Nat.lt_or_ge levels j.depth with hj | hj
    · rw [value?_ofJson_of_lt hj]
      rfl
    · have hms : levels < depthMembers ms := by
        rw [depthMembers] at h
        omega
      rw [value?_ofJson hj]
      exact members?_ofMembers_of_lt hms _

end

/-- What is written is read back, its members in order of their names, just when it is not nested too
deeply. -/
theorem parse?_compact_iff {j : Json} (h : j.IsIntegral) :
    parse? j.compact = some j.sorted ↔ j.depth ≤ maxNesting := by
  have hparse : parse? j.compact = (Tree.ofJson j).value? maxNesting := by
    rw [parse?, Tree.ofText_compact, reread_of_isIntegral h]
  rw [hparse]
  refine ⟨fun hread => Nat.not_lt.mp fun hdeep => ?_, value?_ofJson⟩
  rw [value?_ofJson_of_lt hdeep] at hread
  cases hread

end LocatorQuery.Json
