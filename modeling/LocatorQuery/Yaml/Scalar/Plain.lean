import LocatorQuery.Yaml.Scalar.Folding

/-! Scalars without quotes. -/
namespace LocatorQuery.Yaml

/-- Signs that part the items of a collection in brackets. -/
def isFlowSign (c : Char) : Bool := c == ',' || c == '[' || c == ']' || c == '\x7b' || c == '\x7d'

/-- Whether a plain scalar may start with a character. Hyphens, question marks and colons are signs
ahead of a blank, the latter two also anywhere in brackets. -/
def startsPlain (flow : Bool) (c : Char) (next : List Cell) : Bool :=
  if c = '-' then !atBlank next
  else if c = '?' || c = ':' then !flow && !atBlank next
  else !isBlank c && !isFlowSign c && !"#&*!|>'\"%@\x60".contains c

/-- The characters up to the next blank or sign. In brackets no colon stands ahead of a sign. -/
def plainWord (flow : Bool) : List Cell → Option (List Char × List Cell)
  | [] => some ([], [])
  | c :: cs =>
    if isBlank c.char || (flow && isFlowSign c.char) then some ([], c :: cs)
    else if c.char = ':' && flow && atChar (fun d => isFlowSign d || d == '?') cs then none
    else if c.char = ':' && atBlank cs then some ([], c :: cs)
    else (plainWord flow cs).map fun (word, rest) => (c.char :: word, rest)

theorem length_of_plainWord {flow : Bool} {cs rest : List Cell} {word : List Char}
    (h : plainWord flow cs = some (word, rest)) : word.length + rest.length = cs.length := by
  induction cs generalizing word with
  | nil =>
    simp only [plainWord, Option.some.injEq, Prod.mk.injEq] at h
    simp [← h.1, ← h.2]
  | cons c cs ih =>
    unfold plainWord at h
    split at h
    · simp only [Option.some.injEq, Prod.mk.injEq] at h
      simp [← h.1, ← h.2]
    · split at h
      · contradiction
      · split at h
        · simp only [Option.some.injEq, Prod.mk.injEq] at h
          simp [← h.1, ← h.2]
        · obtain ⟨⟨tail, left⟩, read, same⟩ := Option.map_eq_some_iff.1 h
          simp only [Prod.mk.injEq] at same
          obtain ⟨rfl, rfl⟩ := same
          have := ih read
          simp only [List.length_cons]
          omega

/-- Whether a tab stands left of a column behind the end of a line. -/
def hasTabLeftOf (indent : Nat) (gap : List Cell) : Bool :=
  (gap.dropWhile fun c => !isBreak c.char).any fun c => c.char == '\t' && c.column < indent

/-- The words from here on, with what joins them to each other and to what came before. They end at
a comment, at the bound of a document, and outside brackets at a word left of `indent`. The flag
says whether a line ended behind the last word. -/
def plainWords (flow : Bool) (indent : Nat) (joint : List Char) (ended : Bool) (cs : List Cell) :
    Option (List Char × Bool × List Cell) :=
  if atBound cs || atChar (· == '#') cs then some ([], ended, cs)
  else match h : plainWord flow cs with
    | none => none
    | some ([], _) => some ([], ended, cs)
    | some (c :: word, rest) =>
      have _ : word.length + 1 + rest.length = cs.length := length_of_plainWord h
      let gap := rest.takeWhile fun c => isBlank c.char
      let next := rest.dropWhile fun c => isBlank c.char
      let chars := gap.map Cell.char
      if gap.isEmpty then some (joint ++ c :: word, false, rest)
      else if hasTabLeftOf indent gap then none
      else if !flow && next.head?.any (·.column < indent) then
        some (joint ++ c :: word, chars.any isBreak, next)
      else
        (plainWords flow indent (folded chars) (chars.any isBreak) next).map
          fun (text, ended, rest) => (joint ++ c :: word ++ text, ended, rest)
termination_by cs.length
decreasing_by
  have kept := (List.dropWhile_sublist (l := rest) fun c => isBlank c.char).length_le
  omega

/-- A plain scalar, and whether a line ended behind it. -/
def plain? (flow : Bool) (indent : Nat) (cs : List Cell) : Option (String × Bool × List Cell) :=
  (plainWords flow indent [] false cs).map fun (text, ended, rest) =>
    (String.ofList text, ended, rest)

end LocatorQuery.Yaml
