import LocatorQuery.Proofs.Json.Number

/-! The tokens of written JSON. A value has the same tokens whether it is written compactly or
indented, and strings are read back as they were. -/
namespace LocatorQuery.Json

/-! ### Strings -/

/-- What a character of a string is read as: itself, or the number of a control character. -/
inductive StandsFor : Char → Piece → Prop
  | char (c : Char) : StandsFor c (.char c)
  | control {c : Char} (h : c.toNat < 0x20) : StandsFor c (.unit c.toNat)

theorem unit?_hexDigits {n : Nat} (h : n < 0x20) :
    unit? '0' '0' (hexDigit (n / 16)) (hexDigit n) = some n := by
  have all : ∀ m < 0x20, unit? '0' '0' (hexDigit (m / 16)) (hexDigit m) = some m := by
    decide +kernel
  exact all n h

theorem pieces_escape {e c : Char} (h : escape? e = some c) (cs : List Char) :
    pieces ('\\' :: e :: cs) = (pieces cs).map fun (ps, rest) => (.char c :: ps, rest) := by
  rw [pieces]
  · rw [h]
    cases pieces cs <;> rfl
  · rintro a b d f rest rfl -
    cases h

theorem pieces_ordinary {c : Char} (hq : c ≠ '"') (hb : c ≠ '\\') (hc : ¬c.toNat < 0x20)
    (cs : List Char) :
    pieces (c :: cs) = (pieces cs).map fun (ps, rest) => (.char c :: ps, rest) := by
  rw [pieces]
  · rw [if_neg (by simp [hc, hb])]
    cases pieces cs <;> rfl
  · exact hq
  · rintro a b d e rest rfl
    exact absurd rfl hb
  · rintro e rest rfl
    exact absurd rfl hb

theorem pieces_escaped (c : Char) :
    ∃ p, StandsFor c p ∧ ∀ cs,
      pieces (escaped c ++ cs) = (pieces cs).map fun (ps, rest) => (p :: ps, rest) := by
  unfold escaped
  split
  case h_8 hq hb _ _ _ _ _ =>
    split
    · next h =>
      refine ⟨.unit c.toNat, .control h, fun cs => ?_⟩
      simp only [List.cons_append, List.nil_append, pieces, unit?_hexDigits h]
      cases pieces cs <;> rfl
    · next h => exact ⟨.char c, .char c, pieces_ordinary hq hb h⟩
  all_goals exact ⟨_, .char _, pieces_escape rfl⟩

theorem pieces_quoted (cs rest : List Char) :
    ∃ ps, List.Forall₂ StandsFor cs ps ∧
      pieces (cs.flatMap escaped ++ '"' :: rest) = some (ps, rest) := by
  induction cs with
  | nil => exact ⟨[], .nil, by rw [List.flatMap_nil, List.nil_append, pieces]⟩
  | cons c cs ih =>
    obtain ⟨ps, hps, hread⟩ := ih
    obtain ⟨p, hp, hc⟩ := pieces_escaped c
    refine ⟨p :: ps, .cons hp hps, ?_⟩
    rw [List.flatMap_cons, List.append_assoc, hc, hread]
    rfl

/-- The number of a control character is no half of a surrogate pair. -/
theorem joined_control {n : Nat} (h : n < 0x20) (ps : List Piece) :
    joined (.unit n :: ps) = (joined ps).map (Char.ofNat n :: ·) := by
  have hhigh : isHigh n = false := by simp [isHigh]; omega
  have hlow : isLow n = false := by simp [isLow]; omega
  cases ps with
  | nil => simp [joined, hhigh, hlow]
  | cons p ps => cases p <;> simp [joined, hhigh, hlow]

theorem joined_of_standsFor {cs : List Char} {ps : List Piece}
    (h : List.Forall₂ StandsFor cs ps) : joined ps = some cs := by
  induction h with
  | nil => rfl
  | cons hp _ ih =>
    cases hp with
    | char => rw [joined, ih]; rfl
    | control hc => rw [joined_control hc, ih, Char.ofNat_toNat]; rfl

theorem token?_quoted (s : String) (rest : List Char) :
    token? (quoted s ++ rest) = some (.string (some s), rest) := by
  obtain ⟨ps, hps, hread⟩ := pieces_quoted s.toList rest
  rw [quoted, List.cons_append, List.append_assoc, List.singleton_append, token?, hread]
  simp [joined_of_standsFor hps]

/-! ### Tokens -/

theorem token?_of_numeral? {cs rest : List Char} {s : Numeral}
    (h : numeral? cs = some (s, rest)) : token? cs = some (.number s.value?, rest) := by
  unfold token?
  split
  case h_11 => rw [h]; rfl
  all_goals cases h

theorem token?_number (n : Number) {rest : List Char} (hr : Delimited rest) :
    token? (numberText n ++ rest) = some (.number (rereadNumber n), rest) := by
  obtain ⟨s, hread, hvalue⟩ := numeral?_numberText n hr
  rw [token?_of_numeral? hread, hvalue]

/-- Text in front of which some tokens are read, with what is left behind them. -/
def Scans (cs : List Char) (ts : List Token) (rest : List Char) : Prop :=
  ∀ fuel, cs.length < fuel → ∃ left, rest.length < left ∧
    tokensFrom fuel cs = ts ++ tokensFrom left rest

theorem Scans.append {cs mid rest : List Char} {ts us : List Token} (h : Scans cs ts mid)
    (h' : Scans mid us rest) : Scans cs (ts ++ us) rest := by
  intro fuel hfuel
  obtain ⟨fuel', hfuel', hts⟩ := h fuel hfuel
  obtain ⟨left, hleft, hus⟩ := h' fuel' hfuel'
  exact ⟨left, hleft, by rw [hts, hus, List.append_assoc]⟩

theorem Scans.cons {cs mid rest : List Char} {t : Token} {us : List Token}
    (h : Scans cs [t] mid) (h' : Scans mid us rest) : Scans cs (t :: us) rest := h.append h'

theorem scans_token {c : Char} {cs rest : List Char} {t : Token} (hc : isSpace c = false)
    (h : token? (c :: cs ++ rest) = some (t, rest)) : Scans (c :: cs ++ rest) [t] rest := by
  intro fuel hfuel
  obtain _ | fuel := fuel
  · exact absurd hfuel (Nat.not_lt_zero _)
  · refine ⟨fuel, ?_, ?_⟩
    · simp only [List.cons_append, List.length_cons, List.length_append] at hfuel
      omega
    · have hspaces : (c :: cs ++ rest).dropWhile isSpace = c :: cs ++ rest := by simp [hc]
      rw [tokensFrom, hspaces]
      dsimp only [List.cons_append] at h ⊢
      rw [h]
      rfl

/-- A token of one character. -/
theorem scans_sign {c : Char} {t : Token} (hc : isSpace c = false)
    (h : ∀ rest, token? (c :: rest) = some (t, rest)) (rest : List Char) :
    Scans (c :: rest) [t] rest :=
  @scans_token c [] rest t hc (h rest)

theorem scans_spaces {spaces rest : List Char} (h : ∀ c ∈ spaces, isSpace c = true) :
    Scans (spaces ++ rest) [] rest := by
  intro fuel hfuel
  rw [List.length_append] at hfuel
  obtain _ | fuel := fuel
  · exact absurd hfuel (Nat.not_lt_zero _)
  · refine ⟨fuel + 1, by omega, ?_⟩
    rw [tokensFrom, List.dropWhile_append_of_pos h, List.nil_append, tokensFrom]

theorem tokens_of_scans {cs : List Char} {ts : List Token} (h : Scans cs ts []) :
    tokens cs = ts := by
  obtain ⟨left, hleft, hts⟩ := h (cs.length + 1) (Nat.lt_succ_self _)
  obtain _ | left := left
  · exact absurd hleft (Nat.not_lt_zero _)
  · rw [tokens, hts, tokensFrom, List.dropWhile_nil, List.append_nil]

mutual

/-- The tokens of a value. -/
def spelled : Json → List Token
  | .null => [.null]
  | .bool b => [.bool b]
  | .number n => [.number (rereadNumber n)]
  | .string s => [.string (some s)]
  | .array [] => [.openArray, .closeArray]
  | .array (j :: js) => .openArray :: (spelled j ++ spelledItems js)
  | .object [] => [.openObject, .closeObject]
  | .object ((n, j) :: ms) =>
    .openObject :: .string (some n) :: .colon :: (spelled j ++ spelledMembers ms)

/-- The tokens behind the first item. -/
def spelledItems : List Json → List Token
  | [] => [.closeArray]
  | j :: js => .comma :: (spelled j ++ spelledItems js)

/-- The tokens behind the first member. -/
def spelledMembers : List (String × Json) → List Token
  | [] => [.closeObject]
  | (n, j) :: ms => .comma :: .string (some n) :: .colon :: (spelled j ++ spelledMembers ms)

end

theorem exists_cons_numberText (n : Number) :
    ∃ c cs, numberText n = c :: cs ∧ isSpace c = false := by
  obtain ⟨s, hread, -⟩ := numeral?_numberText n delimited_nil
  rw [List.append_nil] at hread
  rcases htext : numberText n with _ | ⟨c, cs⟩
  · rw [htext] at hread
    cases hread
  · refine ⟨c, cs, rfl, ?_⟩
    by_contra hspace
    rw [htext] at hread
    have hc : c = ' ' ∨ c = '\n' ∨ c = '\t' ∨ c = '\r' := by
      rw [Bool.not_eq_false] at hspace
      simpa only [isSpace, Bool.or_eq_true, beq_iff_eq, or_assoc] using hspace
    rcases hc with rfl | rfl | rfl | rfl <;> cases hread

theorem scans_number (n : Number) {rest : List Char} (hr : Delimited rest) :
    Scans (numberText n ++ rest) [.number (rereadNumber n)] rest := by
  obtain ⟨c, cs, htext, hc⟩ := exists_cons_numberText n
  have hread := token?_number n hr
  rw [htext] at hread ⊢
  exact scans_token hc hread

theorem scans_quoted (s : String) (rest : List Char) :
    Scans (quoted s ++ rest) [.string (some s)] rest :=
  scans_token (by decide) (token?_quoted s rest)

theorem delimited_cons {c : Char} {cs : List Char}
    (h : c.isDigit = false ∧ c ≠ '.' ∧ c ≠ 'e' ∧ c ≠ 'E') : Delimited (c :: cs) := by
  intro d hd
  cases hd
  exact h

section Signs
variable (rest : List Char)

theorem scans_openArray : Scans ('[' :: rest) [.openArray] rest :=
  scans_sign (by decide) (fun _ => rfl) rest

theorem scans_closeArray : Scans (']' :: rest) [.closeArray] rest :=
  scans_sign (by decide) (fun _ => rfl) rest

theorem scans_openObject : Scans ('\x7b' :: rest) [.openObject] rest :=
  scans_sign (by decide) (fun _ => rfl) rest

theorem scans_closeObject : Scans ('\x7d' :: rest) [.closeObject] rest :=
  scans_sign (by decide) (fun _ => rfl) rest

theorem scans_comma : Scans (',' :: rest) [.comma] rest :=
  scans_sign (by decide) (fun _ => rfl) rest

theorem scans_colon : Scans (':' :: rest) [.colon] rest :=
  scans_sign (by decide) (fun _ => rfl) rest

theorem scans_null : Scans ('n' :: 'u' :: 'l' :: 'l' :: rest) [.null] rest :=
  @scans_token 'n' ['u', 'l', 'l'] rest .null (by decide) rfl

theorem scans_bool (b : Bool) : Scans (boolText b ++ rest) [.bool b] rest := by
  cases b <;> exact scans_token (by decide) rfl

end Signs

/-! ### Compact text -/

theorem delimited_compactItems (js : List Json) (rest : List Char) :
    Delimited (compactItems js ++ rest) := by
  cases js <;> exact delimited_cons (by decide)

theorem delimited_compactMembers (ms : List (String × Json)) (rest : List Char) :
    Delimited (compactMembers ms ++ rest) := by
  cases ms <;> exact delimited_cons (by decide)

mutual

theorem scans_compactChars (j : Json) {rest : List Char} (hr : Delimited rest) :
    Scans (j.compactChars ++ rest) (spelled j) rest := by
  cases j with
  | null => exact scans_null rest
  | bool b => exact scans_bool rest b
  | number n => exact scans_number n hr
  | string s => exact scans_quoted s rest
  | array js =>
    cases js with
    | nil => exact (scans_openArray _).cons (scans_closeArray rest)
    | cons j js =>
      rw [compactChars, spelled, List.cons_append, List.append_assoc]
      exact (scans_openArray _).cons
        ((scans_compactChars j (delimited_compactItems js rest)).append
          (scans_compactItems js rest))
  | object ms =>
    cases ms with
    | nil => exact (scans_openObject _).cons (scans_closeObject rest)
    | cons m ms =>
      obtain ⟨n, j⟩ := m
      rw [compactChars, spelled, List.cons_append, List.append_assoc, List.cons_append,
        List.append_assoc]
      exact (scans_openObject _).cons ((scans_quoted n _).cons ((scans_colon _).cons
        ((scans_compactChars j (delimited_compactMembers ms rest)).append
          (scans_compactMembers ms rest))))

theorem scans_compactItems (js : List Json) (rest : List Char) :
    Scans (compactItems js ++ rest) (spelledItems js) rest := by
  cases js with
  | nil => exact scans_closeArray rest
  | cons j js =>
    rw [compactItems, spelledItems, List.cons_append, List.append_assoc]
    exact (scans_comma _).cons
      ((scans_compactChars j (delimited_compactItems js rest)).append (scans_compactItems js rest))

theorem scans_compactMembers (ms : List (String × Json)) (rest : List Char) :
    Scans (compactMembers ms ++ rest) (spelledMembers ms) rest := by
  cases ms with
  | nil => exact scans_closeObject rest
  | cons m ms =>
    obtain ⟨n, j⟩ := m
    rw [compactMembers, spelledMembers, List.cons_append, List.append_assoc, List.cons_append,
      List.append_assoc]
    exact (scans_comma _).cons ((scans_quoted n _).cons ((scans_colon _).cons
      ((scans_compactChars j (delimited_compactMembers ms rest)).append
        (scans_compactMembers ms rest))))

end

theorem tokens_compactChars (j : Json) : tokens j.compactChars = spelled j := by
  refine tokens_of_scans ?_
  have h := scans_compactChars j delimited_nil
  rwa [List.append_nil] at h

/-! ### Indented text -/

theorem scans_newLine (depth : Nat) (rest : List Char) : Scans (newLine depth ++ rest) [] rest := by
  refine scans_spaces fun c hc => ?_
  rcases List.mem_cons.mp hc with rfl | hc
  · rfl
  · rw [List.eq_of_mem_replicate hc]
    rfl

theorem scans_blank (rest : List Char) : Scans (' ' :: rest) [] rest :=
  @scans_spaces [' '] rest fun _ hc => congrArg isSpace (List.mem_singleton.mp hc)

theorem delimited_indentedItems (depth : Nat) (js : List Json) (rest : List Char) :
    Delimited (indentedItems depth js ++ rest) := by
  cases js <;> exact delimited_cons (by decide)

theorem delimited_indentedMembers (depth : Nat) (ms : List (String × Json)) (rest : List Char) :
    Delimited (indentedMembers depth ms ++ rest) := by
  cases ms <;> exact delimited_cons (by decide)

mutual

theorem scans_indentedChars (depth : Nat) (j : Json) {rest : List Char} (hr : Delimited rest) :
    Scans (j.indentedChars depth ++ rest) (spelled j) rest := by
  cases j with
  | null => exact scans_null rest
  | bool b => exact scans_bool rest b
  | number n => exact scans_number n hr
  | string s => exact scans_quoted s rest
  | array js =>
    cases js with
    | nil => exact (scans_openArray _).cons (scans_closeArray rest)
    | cons j js =>
      rw [indentedChars, spelled, List.cons_append, List.append_assoc, List.append_assoc]
      exact (scans_openArray _).cons ((scans_newLine _ _).append
        ((scans_indentedChars _ j (delimited_indentedItems depth js rest)).append
          (scans_indentedItems depth js rest)))
  | object ms =>
    cases ms with
    | nil => exact (scans_openObject _).cons (scans_closeObject rest)
    | cons m ms =>
      obtain ⟨n, j⟩ := m
      rw [indentedChars, spelled, List.cons_append, List.append_assoc, List.append_assoc,
        List.cons_append, List.cons_append, List.append_assoc]
      exact (scans_openObject _).cons ((scans_newLine _ _).append ((scans_quoted n _).cons
        ((scans_colon _).cons ((scans_blank _).append
          ((scans_indentedChars _ j (delimited_indentedMembers depth ms rest)).append
            (scans_indentedMembers depth ms rest))))))

theorem scans_indentedItems (depth : Nat) (js : List Json) (rest : List Char) :
    Scans (indentedItems depth js ++ rest) (spelledItems js) rest := by
  cases js with
  | nil =>
    rw [indentedItems, List.append_assoc]
    exact (scans_newLine _ _).append (scans_closeArray rest)
  | cons j js =>
    rw [indentedItems, spelledItems, List.cons_append, List.append_assoc, List.append_assoc]
    exact (scans_comma _).cons ((scans_newLine _ _).append
      ((scans_indentedChars _ j (delimited_indentedItems depth js rest)).append
        (scans_indentedItems depth js rest)))

theorem scans_indentedMembers (depth : Nat) (ms : List (String × Json)) (rest : List Char) :
    Scans (indentedMembers depth ms ++ rest) (spelledMembers ms) rest := by
  cases ms with
  | nil =>
    rw [indentedMembers, List.append_assoc]
    exact (scans_newLine _ _).append (scans_closeObject rest)
  | cons m ms =>
    obtain ⟨n, j⟩ := m
    rw [indentedMembers, spelledMembers, List.cons_append, List.append_assoc, List.append_assoc,
      List.cons_append, List.cons_append, List.append_assoc]
    exact (scans_comma _).cons ((scans_newLine _ _).append ((scans_quoted n _).cons
      ((scans_colon _).cons ((scans_blank _).append
        ((scans_indentedChars _ j (delimited_indentedMembers depth ms rest)).append
          (scans_indentedMembers depth ms rest))))))

end

theorem tokens_indentedChars (j : Json) : tokens (j.indentedChars 0) = spelled j := by
  refine tokens_of_scans ?_
  have h := scans_indentedChars 0 j delimited_nil
  rwa [List.append_nil] at h

end LocatorQuery.Json
