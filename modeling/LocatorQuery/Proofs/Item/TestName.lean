import Mathlib.Data.List.Infix
import LocatorQuery.Item.TestName
import LocatorQuery.Proofs.Locator.Nesting

/-! Test names as they are composed. The parts of a name are found again, whatever its parameters hold. -/
namespace LocatorQuery
open Nesting

namespace Text

theorem trimStart_eq_self {cs : List Char} (first : cs.head?.any isBlank = false) :
    trimStart cs = cs := by
  cases cs with
  | nil => rfl
  | cons c cs =>
    have hc : isBlank c = false := first
    rw [trimStart, List.dropWhile_cons_of_neg (by simp [hc])]

/-- A text without blanks at its ends stays as it is. -/
theorem trim_eq_self {cs : List Char} (first : cs.head?.any isBlank = false)
    (last : cs.getLast?.any isBlank = false) : trim cs = cs := by
  rw [← List.head?_reverse] at last
  rw [trim, trimStart_eq_self first, trimEnd, trimStart_eq_self last, List.reverse_reverse]

end Text

namespace TestName

theorem takeWhile_append_of_notMem {c : Char} {cs : List Char} (h : c ∉ cs) (rest : List Char) :
    (cs ++ rest).takeWhile (· != c) = cs ++ rest.takeWhile (· != c) := by
  refine List.takeWhile_append_of_pos fun d hd => ?_
  rw [bne_iff_ne]
  rintro rfl
  exact h hd

/-! The suite ends at the first colon with a space behind it. -/

theorem cutSuite_cons (c : Char) (cs : List Char) :
    cutSuite (c :: cs) =
      if c = ':' ∧ cs.head? = some ' ' then some ([], cs.tail)
      else (cutSuite cs).map fun (a, b) => (c :: a, b) := by
  split
  · next h =>
    obtain ⟨rfl, hspace⟩ := h
    cases cs with
    | nil => cases hspace
    | cons d cs =>
      cases hspace
      rfl
  · next h =>
    rw [cutSuite]
    rintro rest rfl rfl
    exact h ⟨rfl, rfl⟩

/-- The mark between a suite and the rest of a name. -/
def mark : List Char := [':', ' ']

theorem cutSuite_eq_none_iff {cs : List Char} : cutSuite cs = none ↔ ¬ mark <:+: cs := by
  induction cs with
  | nil => simp [cutSuite, mark]
  | cons c cs ih =>
    have hprefix : mark <+: c :: cs ↔ c = ':' ∧ cs.head? = some ' ' := by
      cases cs with
      | nil => simp [mark, List.cons_prefix_cons]
      | cons d cs => simp [mark, List.cons_prefix_cons, eq_comm]
    rw [cutSuite_cons, List.infix_cons_iff, not_or, hprefix, ← ih]
    split
    · next h => simp [h]
    · next h => simp [h]

/-- No mark lies across two parts if the second does not start with a space. -/
theorem cutSuite_append {a : List Char} (ha : cutSuite a = none) {x : Char} (hx : x ≠ ' ')
    (b : List Char) :
    cutSuite (a ++ x :: b) = (cutSuite (x :: b)).map fun (s, rest) => (a ++ s, rest) := by
  induction a with
  | nil => simp
  | cons c a ih =>
    rw [cutSuite_cons] at ha
    split at ha
    · cases ha
    · next hmark =>
      rw [Option.map_eq_none_iff] at ha
      have hnext : ¬ (c = ':' ∧ (a ++ x :: b).head? = some ' ') := by
        rintro ⟨hc, hspace⟩
        cases a with
        | nil => exact hx (Option.some.inj hspace)
        | cons d a => exact hmark ⟨hc, hspace⟩
      rw [List.cons_append, cutSuite_cons, if_neg hnext, ih ha, Option.map_map]
      rfl

theorem splitSuite_marked {suite : List Char} (hopen : '(' ∉ suite) (hmark : ¬ mark <:+: suite)
    (rest : List Char) :
    splitSuite (suite ++ mark ++ rest) = (Text.trim suite, Text.trim rest) := by
  have hahead : (suite ++ mark ++ rest).takeWhile (· != '(') =
      suite ++ ':' :: ' ' :: rest.takeWhile (· != '(') := by
    rw [List.append_assoc, takeWhile_append_of_notMem hopen]
    rfl
  have hcut : cutSuite (suite ++ ':' :: ' ' :: rest.takeWhile (· != '(')) =
      some (suite, rest.takeWhile (· != '(')) := by
    rw [cutSuite_append (cutSuite_eq_none_iff.mpr hmark) (by decide)]
    simp [cutSuite]
  have hdrop : (suite ++ mark ++ rest).drop (suite.length + 2) = rest :=
    List.drop_left' (by simp [mark])
  rw [splitSuite, hahead, hcut]
  dsimp only
  rw [hdrop]

theorem splitSuite_unmarked {head parameters : List Char} (hopen : '(' ∉ head)
    (hmark : ¬ mark <:+: head) (hparameters : ∀ c ∈ parameters.head?, c = '(') :
    splitSuite (head ++ parameters) = ([], Text.trim (head ++ parameters)) := by
  have hahead : (head ++ parameters).takeWhile (· != '(') = head := by
    rw [takeWhile_append_of_notMem hopen]
    cases parameters with
    | nil => simp
    | cons c cs => simp [hparameters c rfl]
  rw [splitSuite, hahead, cutSuite_eq_none_iff.mpr hmark]

/-! The parameters are found from behind: their groups close where they opened. -/

theorem cutGroup_ordinary {c : Char} (h : IsOrdinary c) (d : Nat) (cs : List Char) :
    cutGroup d (c :: cs) = (cutGroup d cs).map fun (a, b) => (c :: a, b) := by
  rw [cutGroup]
  · exact h.2
  · exact h.1

/-- Going back over a character undoes what it does to the depth. -/
theorem cutGroup_step {c : Char} {d e : Nat} (h : depth? d [c] = some e) (rest : List Char) :
    cutGroup (e + 1) (c :: rest) =
      (cutGroup (d + 1) rest).map fun (group, head) => (c :: group, head) := by
  -- Met from behind, an opening parenthesis ends a group and a closing one begins it.
  rcases char_cases c with rfl | rfl | hc
  · rw [depth?_open, depth?_nil] at h
    cases h
    rw [cutGroup, if_neg (by omega), Nat.add_sub_cancel]
  · cases d with
    | zero => cases h
    | succ d =>
      rw [depth?_close_succ, depth?_nil] at h
      cases h
      rw [cutGroup]
  · rw [depth?_ordinary hc, depth?_nil] at h
    cases h
    exact cutGroup_ordinary hc (d + 1) rest

/-- Going back over a text leaves as many groups open as it started in. -/
theorem cutGroup_reverse_append {b : List Char} {d e : Nat} (h : depth? d b = some e)
    (rest : List Char) :
    cutGroup (e + 1) (b.reverse ++ rest) =
      (cutGroup (d + 1) rest).map fun (group, head) => (b.reverse ++ group, head) := by
  induction b generalizing d rest with
  | nil =>
    rw [depth?_nil] at h
    cases h
    simp
  | cons c b ih =>
    rw [← List.singleton_append, depth?_append, Option.bind_eq_some_iff] at h
    obtain ⟨d', hc, hb⟩ := h
    rw [List.reverse_cons, List.append_assoc, List.singleton_append, ih hb, cutGroup_step hc,
      Option.map_map]
    refine congrArg (Option.map · _) (funext fun (group, head) => ?_)
    simp

theorem splitParameters_group {body : List Char} (h : Balanced body) (head : List Char) :
    splitParameters (head ++ '(' :: (body ++ [')'])) = (head, '(' :: (body ++ [')'])) := by
  have hreverse : (head ++ '(' :: (body ++ [')'])).reverse =
      ')' :: (body.reverse ++ '(' :: head.reverse) := by
    simp
  have hcut : cutGroup 0 (')' :: (body.reverse ++ '(' :: head.reverse)) =
      some (')' :: (body.reverse ++ ['(']), head.reverse) := by
    rw [cutGroup, cutGroup_reverse_append (balanced_iff_depth?.mp h)]
    rfl
  rw [splitParameters, hreverse, hcut]
  simp

theorem splitParameters_none {text : List Char} (h : ')' ∉ text) :
    splitParameters text = (text, []) := by
  rw [splitParameters]
  split
  · next rest hreverse =>
    have hmem : ')' ∈ text.reverse := hreverse ▸ List.mem_cons_self
    exact absurd (List.mem_reverse.mp hmem) h
  · rfl

/-! The class and the method are what stands behind the last dots. -/

theorem splitLastDot_append (before : List Char) {last : List Char} (h : '.' ∉ last) :
    splitLastDot (before ++ '.' :: last) = (before, last) := by
  have hlast : ((before ++ '.' :: last).reverse.takeWhile (· != '.')).reverse = last := by
    have hreverse : (before ++ '.' :: last).reverse = last.reverse ++ '.' :: before.reverse := by simp
    rw [hreverse, takeWhile_append_of_notMem (mt List.mem_reverse.mp h)]
    simp
  have hlength : (before ++ '.' :: last).length - last.length - 1 = before.length := by
    rw [List.length_append, List.length_cons]
    omega
  rw [splitLastDot, hlast, if_pos (by simp), hlength, List.take_left]

theorem splitLastDot_none {text : List Char} (h : '.' ∉ text) : splitLastDot text = ([], text) := by
  rw [splitLastDot, if_neg (by simpa using h)]

/-- The parts of which a full name is composed. -/
structure Parts where
  suite : Option String := none
  package : Option String := none
  className : String
  method : String
  parameters : String := ""

namespace Parts

/-- What follows the suite. -/
def remainder (p : Parts) : String :=
  p.package.elim "" (· ++ ".") ++ p.className ++ "." ++ p.method ++ p.parameters

def compose (p : Parts) : String := p.suite.elim "" (· ++ ": ") ++ p.remainder

/-- The parts that stand between the suite and the parameters. -/
def inner (p : Parts) : List String := [p.package.getD "", p.className, p.method]

/-- The conditions under which the parts of a name can be told apart. The package may hold dots, and
inside the parameters there may stand anything but a parenthesis without its partner. -/
structure Proper (p : Parts) : Prop where
  suite : ∀ suite ∈ p.suite,
    Text.trimmed suite = suite ∧ '(' ∉ suite.toList ∧ ¬ mark <:+: suite.toList
  package : p.package ≠ some ""
  className : '.' ∉ p.className.toList
  method : '.' ∉ p.method.toList
  flat : ∀ part ∈ p.inner, '(' ∉ part.toList ∧ ')' ∉ part.toList
  unmarked : p.suite = none → ∀ part ∈ p.inner, ¬ mark <:+: part.toList
  first : p.remainder.toList.head?.any Text.isBlank = false
  last : p.method.toList.getLast?.any Text.isBlank = false
  parameters : p.parameters = "" ∨
    ∃ body : String, Balanced body.toList ∧ p.parameters = "(" ++ body ++ ")"

/-- The package and the class. -/
def path (p : Parts) : List Char :=
  (p.package.elim [] fun package => package.toList ++ ['.']) ++ p.className.toList

def head (p : Parts) : List Char := p.path ++ '.' :: p.method.toList

theorem toList_remainder (p : Parts) : p.remainder.toList = p.head ++ p.parameters.toList := by
  rw [remainder, head, path]
  cases p.package with
  | none => simp
  | some package => simp

theorem unmarked_dot {a b : List Char} (ha : ¬ mark <:+: a) (hb : ¬ mark <:+: b) :
    ¬ mark <:+: a ++ '.' :: b := by
  rw [← cutSuite_eq_none_iff] at ha hb ⊢
  rw [cutSuite_append ha (by decide), cutSuite_cons, if_neg (by simp), hb]
  rfl

theorem notMem_head {p : Parts} {c : Char} (hdot : c ≠ '.') (h : ∀ part ∈ p.inner, c ∉ part.toList) :
    c ∉ p.head := by
  simp only [inner, List.forall_mem_cons] at h
  obtain ⟨hpackage, hclassName, hmethod, -⟩ := h
  rw [head, path]
  cases hp : p.package with
  | none => simp [hdot, hclassName, hmethod]
  | some package =>
    rw [hp] at hpackage
    simpa [hdot, hclassName, hmethod] using hpackage

namespace Proper

variable {p : Parts} (h : p.Proper)
include h

theorem unmarked_head (hsuite : p.suite = none) : ¬ mark <:+: p.head := by
  have hunmarked := h.unmarked hsuite
  simp only [inner, List.forall_mem_cons] at hunmarked
  obtain ⟨hpackage, hclassName, hmethod, -⟩ := hunmarked
  refine unmarked_dot ?_ hmethod
  rw [path]
  cases hp : p.package with
  | none => exact hclassName
  | some package =>
    rw [hp] at hpackage
    have hpath := unmarked_dot hpackage hclassName
    simpa using hpath

theorem splitLastDot_path :
    splitLastDot p.path = ((p.package.getD "").toList, p.className.toList) := by
  rw [path]
  cases p.package with
  | none => exact splitLastDot_none h.className
  | some package =>
    have hpath := splitLastDot_append package.toList h.className
    simpa using hpath

theorem splitParameters_remainder :
    splitParameters p.remainder.toList = (p.head, p.parameters.toList) := by
  rw [toList_remainder]
  rcases h.parameters with hnone | ⟨body, hbody, hsome⟩
  · have hclose : ')' ∉ p.head := notMem_head (by decide) fun part hpart => (h.flat part hpart).2
    rw [hnone, String.toList_empty, List.append_nil, splitParameters_none hclose]
  · have hgroup : p.parameters.toList = '(' :: (body.toList ++ [')']) := by simp [hsome]
    rw [hgroup, splitParameters_group hbody]

theorem trim_remainder : Text.trim p.remainder.toList = p.remainder.toList := by
  refine Text.trim_eq_self h.first ?_
  rw [toList_remainder]
  rcases h.parameters with hnone | ⟨body, -, hsome⟩
  · rw [hnone, String.toList_empty, List.append_nil, head, List.getLast?_append_cons,
      List.getLast?_cons]
    have hlast := h.last
    cases hmethod : p.method.toList.getLast? with
    | none => rfl
    | some c => rwa [hmethod] at hlast
  · have hparameters : p.parameters.toList = ('(' :: body.toList) ++ [')'] := by simp [hsome]
    rw [hparameters, ← List.append_assoc, List.getLast?_concat]
    rfl

theorem splitSuite_compose :
    splitSuite p.compose.toList = ((p.suite.getD "").toList, p.remainder.toList) := by
  rw [compose]
  cases hsuite : p.suite with
  | none =>
    have hopen : '(' ∉ p.head := notMem_head (by decide) fun part hpart => (h.flat part hpart).1
    have hparameters : ∀ c ∈ p.parameters.toList.head?, c = '(' := by
      rcases h.parameters with hnone | ⟨body, -, hsome⟩
      · simp [hnone]
      · simp [hsome]
    have hsplit := splitSuite_unmarked hopen (h.unmarked_head hsuite) hparameters
    rw [← toList_remainder, h.trim_remainder] at hsplit
    simpa using hsplit
  | some suite =>
    obtain ⟨htrimmed, hopen, hmark⟩ := h.suite suite hsuite
    have htrim : Text.trim suite.toList = suite.toList := by
      have htoList := congrArg String.toList htrimmed
      rwa [Text.trimmed, String.toList_ofList] at htoList
    have hsplit := splitSuite_marked hopen hmark p.remainder.toList
    rw [htrim, h.trim_remainder] at hsplit
    have hcompose : (suite ++ ": " ++ p.remainder).toList = suite.toList ++ mark ++ p.remainder.toList := by
      simp [mark]
    exact hcompose ▸ hsplit

end Proper

end Parts

/-- A name that is composed of proper parts is read back as these parts, the parameters with the method. -/
theorem parse_compose {p : Parts} (h : p.Proper) :
    parse p.compose =
      { suite := p.suite.getD ""
        package := p.package.getD defaultPackage
        className := p.className
        method := p.method ++ p.parameters } := by
  have hmethod := splitLastDot_append p.path h.method
  rw [parse, ofChars, h.splitSuite_compose]
  dsimp only
  rw [h.splitParameters_remainder]
  dsimp only
  rw [Parts.head, hmethod]
  dsimp only
  rw [h.splitLastDot_path]
  dsimp only
  have hpackage : (if (p.package.getD "").toList.isEmpty then defaultPackage
      else String.ofList (p.package.getD "").toList) = p.package.getD defaultPackage := by
    cases hp : p.package with
    | none => rfl
    | some package =>
      have hne : package ≠ "" := fun hempty => h.package (hempty ▸ hp)
      simp [hne]
  rw [hpackage]
  simp

theorem parse_compose_of_parts :
    let nested : Parts :=
      { suite := some "unit:fast", package := some "com.acme", className := "Cart",
        method := "adds two", parameters := "(a.b: (1.5, 2.0), c(d).e)" }
    let bare : Parts := { className := "Cart", method := "adds" }
    nested.Proper ∧ bare.Proper ∧
      parse "unit:fast: com.acme.Cart.adds two(a.b: (1.5, 2.0), c(d).e)" =
        { suite := "unit:fast", package := "com.acme", className := "Cart",
          method := "adds two" ++ "(a.b: (1.5, 2.0), c(d).e)" } ∧
      parse "Cart.adds" =
        { suite := "", package := "<default>", className := "Cart", method := "adds" ++ "" } := by
  intro nested bare
  have hnested : nested.Proper :=
    { suite := by decide +kernel
      package := by decide
      className := by decide
      method := by decide
      flat := by decide
      unmarked := nofun
      first := by decide +kernel
      last := by decide
      parameters := .inr ⟨"a.b: (1.5, 2.0), c(d).e", isBalanced_iff.mp (by decide), rfl⟩ }
  have hbare : bare.Proper :=
    { suite := nofun
      package := nofun
      className := by decide
      method := by decide
      flat := by decide
      unmarked := fun _ => by decide
      first := by decide +kernel
      last := by decide
      parameters := .inl rfl }
  have hnestedText : nested.compose =
      "unit:fast: com.acme.Cart.adds two(a.b: (1.5, 2.0), c(d).e)" := by decide +kernel
  have hbareText : bare.compose = "Cart.adds" := by decide +kernel
  rw [← hnestedText, ← hbareText]
  exact ⟨hnested, hbare, parse_compose hnested, parse_compose hbare⟩

end TestName

end LocatorQuery
