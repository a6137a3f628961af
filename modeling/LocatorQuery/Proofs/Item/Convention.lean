import Mathlib.Data.List.TakeWhile
import LocatorQuery.Proofs.Item.TestName

/-! Names that do not end in parameters. By the convention they are parted at the first mark and at the last
two dots, wherever parentheses stand. A parenthesis ahead of the mark hides it. -/
namespace LocatorQuery

namespace Text

/-- The last character of a trimmed text is the last one that is not blank. -/
theorem getLast?_trim (cs : List Char) :
    (trim cs).getLast? = cs.reverse.find? fun c => !isBlank c := by
  have hblank : ((cs.takeWhile isBlank).reverse.find? fun c => !isBlank c) = none := by
    rw [List.find?_eq_none]
    intro c hc
    simpa using List.mem_takeWhile_imp (List.mem_reverse.mp hc)
  have hparts : cs.reverse = (trimStart cs).reverse ++ (cs.takeWhile isBlank).reverse := by
    rw [← List.reverse_append, trimStart, List.takeWhile_append_dropWhile]
  rw [hparts, List.find?_append, hblank, Option.or_none, List.find?_not_eq_head?_dropWhile, trim,
    trimEnd, List.getLast?_reverse]
  rfl

theorem getLast?_trim_append (a : List Char) {b : List Char} (h : trim b ≠ []) :
    (trim (a ++ b)).getLast? = (trim b).getLast? := by
  obtain ⟨c, hc⟩ := Option.ne_none_iff_exists'.mp (mt List.getLast?_eq_none_iff.mp h)
  rw [hc]
  rw [getLast?_trim] at hc ⊢
  rw [List.reverse_append, List.find?_append, hc]
  rfl

theorem mem_trim {c : Char} {cs : List Char} (hc : isBlank c = false) (h : c ∈ cs) : c ∈ trim cs := by
  have hstart : ∀ {cs : List Char}, c ∈ cs → c ∈ trimStart cs := by
    intro cs h
    rw [← List.takeWhile_append_dropWhile (p := isBlank) (l := cs), List.mem_append] at h
    refine h.resolve_left fun hmem => ?_
    rw [List.mem_takeWhile_imp hmem] at hc
    cases hc
  rw [trim, trimEnd, List.mem_reverse]
  exact hstart (List.mem_reverse.mpr (hstart h))

end Text

namespace TestName

/-! The parts that the convention tells apart. -/

/-- The suite and the rest of a name, with the first mark between them. -/
inductive Suited : List Char → List Char → List Char → Prop
  | marked {suite rest : List Char} :
    ¬ mark <:+: suite → Suited (suite ++ mark ++ rest) (Text.trim suite) (Text.trim rest)
  | unmarked {full : List Char} : ¬ mark <:+: full → Suited full [] (Text.trim full)

/-- The parts ahead of and behind the last dot. -/
inductive Dotted : List Char → List Char → List Char → Prop
  | dot {before last : List Char} : '.' ∉ last → Dotted (before ++ '.' :: last) before last
  | plain {text : List Char} : '.' ∉ text → Dotted text [] text

/-- A full name without parameters, read by its convention. -/
def Conventional (full : String) (name : TestName) : Prop :=
  ∃ suite rest path method package className, Suited full.toList suite rest ∧
    Dotted rest path method ∧ Dotted path package className ∧
    name =
      { suite := String.ofList suite
        package := if package = [] then defaultPackage else String.ofList package
        className := String.ofList className
        method := String.ofList method }

theorem cutSuite_eq_some_iff {cs suite rest : List Char} :
    cutSuite cs = some (suite, rest) ↔ cs = suite ++ mark ++ rest ∧ ¬ mark <:+: suite := by
  constructor
  · intro h
    induction cs generalizing suite with
    | nil => cases h
    | cons c cs ih =>
      rw [cutSuite_cons] at h
      split at h
      · next hmark =>
        obtain ⟨rfl, hspace⟩ := hmark
        cases h
        rw [List.head?_eq_some_iff] at hspace
        obtain ⟨rest, rfl⟩ := hspace
        exact ⟨rfl, by simp [mark]⟩
      · next hmark =>
        rw [Option.map_eq_some_iff] at h
        obtain ⟨⟨suite, rest⟩, h, he⟩ := h
        cases he
        obtain ⟨rfl, hnone⟩ := ih h
        refine ⟨rfl, ?_⟩
        rw [← cutSuite_eq_none_iff] at hnone ⊢
        rw [cutSuite_cons, hnone, if_neg]
        · rfl
        · rintro ⟨hc, hspace⟩
          refine hmark ⟨hc, ?_⟩
          rw [List.head?_eq_some_iff] at hspace
          obtain ⟨tail, rfl⟩ := hspace
          rfl
  · rintro ⟨rfl, hnone⟩
    rw [List.append_assoc, mark, List.cons_append, cutSuite_append (cutSuite_eq_none_iff.mpr hnone)
      (by decide)]
    simp [cutSuite]

theorem suited_iff {full suite rest : List Char} :
    Suited full suite rest ↔ (suite, rest) =
      match cutSuite full with
      | some (a, b) => (Text.trim a, Text.trim b)
      | none => ([], Text.trim full) := by
  constructor
  · rintro (⟨h⟩ | ⟨h⟩)
    · rw [cutSuite_eq_some_iff.mpr ⟨rfl, h⟩]
    · rw [cutSuite_eq_none_iff.mpr h]
  · intro h
    cases hcut : cutSuite full with
    | none =>
      rw [hcut] at h
      cases h
      exact .unmarked (cutSuite_eq_none_iff.mp hcut)
    | some parts =>
      obtain ⟨a, b⟩ := parts
      rw [hcut] at h
      cases h
      obtain ⟨rfl, hnone⟩ := cutSuite_eq_some_iff.mp hcut
      exact .marked hnone

theorem dotted_iff {text before last : List Char} :
    Dotted text before last ↔ splitLastDot text = (before, last) := by
  constructor
  · rintro (⟨h⟩ | ⟨h⟩)
    · exact splitLastDot_append before h
    · exact splitLastDot_none h
  · intro h
    by_cases hdot : '.' ∈ text
    · obtain ⟨a, b, hreverse, ha⟩ := List.eq_append_cons_of_mem (List.mem_reverse.mpr hdot)
      have htext : text = b.reverse ++ '.' :: a.reverse := by
        rw [← List.reverse_reverse text, hreverse]
        simp
      have hlast : '.' ∉ a.reverse := mt List.mem_reverse.mp ha
      rw [htext, splitLastDot_append b.reverse hlast] at h
      cases h
      exact htext ▸ .dot hlast
    · rw [splitLastDot_none hdot] at h
      cases h
      exact .plain hdot

/-- The convention reads a name in one way. -/
theorem Conventional.unique {full : String} {name name' : TestName} (h : Conventional full name)
    (h' : Conventional full name') : name = name' := by
  obtain ⟨suite, rest, path, method, package, className, hsuite, hmethod, hclass, rfl⟩ := h
  obtain ⟨suite', rest', path', method', package', className', hsuite', hmethod', hclass', rfl⟩ := h'
  rw [suited_iff] at hsuite hsuite'
  cases hsuite.trans hsuite'.symm
  rw [dotted_iff] at hmethod hmethod' hclass hclass'
  cases hmethod.symm.trans hmethod'
  cases hclass.symm.trans hclass'
  rfl

theorem Conventional.suite_eq {full : String} {name : TestName} (h : Conventional full name)
    {suite rest : List Char} (hcut : cutSuite full.toList = some (suite, rest)) :
    name.suite = String.ofList (Text.trim suite) := by
  obtain ⟨_, _, _, _, _, _, hsuite, -, -, rfl⟩ := h
  rw [suited_iff, hcut] at hsuite
  cases hsuite
  rfl

/-! What a name is read as, once its suite is known. -/

theorem splitParameters_of_getLast? {text : List Char} (h : text.getLast? ≠ some ')') :
    splitParameters text = (text, []) := by
  rw [splitParameters]
  split
  · next rest hreverse =>
    refine absurd ?_ h
    rw [← List.head?_reverse, hreverse]
    rfl
  · rfl

theorem parse_of_splitSuite {full : String} {suite rest : List Char}
    (hsuite : splitSuite full.toList = (suite, rest)) (plain : rest.getLast? ≠ some ')') :
    ∃ path method package className, Dotted rest path method ∧ Dotted path package className ∧
      parse full =
        { suite := String.ofList suite
          package := if package = [] then defaultPackage else String.ofList package
          className := String.ofList className
          method := String.ofList method } := by
  obtain ⟨⟨path, method⟩, hmethod⟩ : ∃ parts, splitLastDot rest = parts := ⟨_, rfl⟩
  obtain ⟨⟨package, className⟩, hclass⟩ : ∃ parts, splitLastDot path = parts := ⟨_, rfl⟩
  refine ⟨path, method, package, className, dotted_iff.mpr hmethod, dotted_iff.mpr hclass, ?_⟩
  rw [parse, ofChars, hsuite]
  dsimp only
  rw [splitParameters_of_getLast? plain]
  dsimp only
  rw [hmethod]
  dsimp only
  rw [hclass]
  simp

/-- Without a mark ahead of the first parenthesis the whole name is taken for the rest. -/
theorem splitSuite_of_hidden {full : List Char} (h : ¬ mark <:+: full.takeWhile (· != '(')) :
    splitSuite full = ([], Text.trim full) := by
  rw [splitSuite, cutSuite_eq_none_iff.mpr h]

theorem splitSuite_of_mem {suite : List Char} (hopen : '(' ∈ suite) (hnone : ¬ mark <:+: suite)
    (rest : List Char) :
    splitSuite (suite ++ mark ++ rest) = ([], Text.trim (suite ++ mark ++ rest)) := by
  refine splitSuite_of_hidden ?_
  obtain ⟨a, b, rfl, ha⟩ := List.eq_append_cons_of_mem hopen
  rw [List.append_assoc, List.append_assoc, takeWhile_append_of_notMem ha, List.cons_append,
    List.takeWhile_cons_of_neg (by simp), List.append_nil]
  exact fun h => hnone (h.trans (List.prefix_append a _).isInfix)

/-- A name that does not end in a parenthesis is read by its convention just when no parenthesis opens ahead
of its first mark. -/
theorem parse_conventional_iff {full : String}
    (plain : (Text.trim full.toList).getLast? ≠ some ')') :
    Conventional full (parse full) ↔
      ∀ suite rest, full.toList = suite ++ mark ++ rest → ¬ mark <:+: suite → '(' ∉ suite := by
  cases hcut : cutSuite full.toList with
  | none =>
    have hnone := cutSuite_eq_none_iff.mp hcut
    have hhidden : ¬ mark <:+: full.toList.takeWhile (· != '(') := fun h =>
      hnone (h.trans (List.takeWhile_prefix _).isInfix)
    obtain ⟨path, method, package, className, hmethod, hclass, hparse⟩ :=
      parse_of_splitSuite (splitSuite_of_hidden hhidden) plain
    refine iff_of_true ?_ ?_
    · exact ⟨_, _, path, method, package, className, .unmarked hnone, hmethod, hclass, hparse⟩
    · intro suite rest hfull _
      exact absurd (hfull ▸ List.infix_append suite mark rest) hnone
  | some parts =>
    obtain ⟨suite, rest⟩ := parts
    obtain ⟨hfull, hnone⟩ := cutSuite_eq_some_iff.mp hcut
    by_cases hopen : '(' ∈ suite
    · -- Then the name is read without a suite, although the convention gives it one.
      obtain ⟨_, _, _, _, -, -, hparse⟩ :=
        parse_of_splitSuite (hfull ▸ splitSuite_of_mem hopen hnone rest) (hfull ▸ plain)
      refine iff_of_false (fun hconventional => ?_) fun h => h suite rest hfull hnone hopen
      have hsuite := hconventional.suite_eq hcut
      rw [hparse] at hsuite
      have hmem : '(' ∈ Text.trim suite := Text.mem_trim (by decide) hopen
      rw [← String.ofList_inj.mp hsuite] at hmem
      cases hmem
    · have hsplit : splitSuite full.toList = (Text.trim suite, Text.trim rest) :=
        hfull ▸ splitSuite_marked hopen hnone rest
      have hlast : (Text.trim rest).getLast? ≠ some ')' := by
        by_cases hrest : Text.trim rest = []
        · rw [hrest]
          exact nofun
        · rwa [hfull, Text.getLast?_trim_append _ hrest] at plain
      obtain ⟨path, method, package, className, hmethod, hclass, hparse⟩ :=
        parse_of_splitSuite hsplit hlast
      refine iff_of_true ?_ ?_
      · exact ⟨_, _, path, method, package, className, hfull ▸ .marked hnone, hmethod, hclass, hparse⟩
      · intro suite' rest' hfull' hnone'
        cases hcut.symm.trans (cutSuite_eq_some_iff.mpr ⟨hfull', hnone'⟩)
        exact hopen

theorem parse_conventional_of_late_parentheses :
    let full := " unit:a : com.(acme).Cart(b: c).adds(1) two "
    (Text.trim full.toList).getLast? ≠ some ')' ∧
      (∀ suite rest, full.toList = suite ++ mark ++ rest → ¬ mark <:+: suite → '(' ∉ suite) ∧
      Conventional full
        { suite := "unit:a", package := "com.(acme)", className := "Cart(b: c)",
          method := "adds(1) two" } := by
  intro full
  have plain : (Text.trim full.toList).getLast? ≠ some ')' := by decide +kernel
  have hcut : cutSuite full.toList =
      some (" unit:a ".toList, "com.(acme).Cart(b: c).adds(1) two ".toList) := by
    decide +kernel
  have hahead : ∀ suite rest, full.toList = suite ++ mark ++ rest → ¬ mark <:+: suite →
      '(' ∉ suite := by
    intro suite rest hfull hnone
    cases hcut.symm.trans (cutSuite_eq_some_iff.mpr ⟨hfull, hnone⟩)
    decide
  have hparse : parse full =
      { suite := "unit:a", package := "com.(acme)", className := "Cart(b: c)",
        method := "adds(1) two" } := by
    decide +kernel
  exact ⟨plain, hahead, hparse ▸ (parse_conventional_iff plain).mpr hahead⟩

/-- Parentheses in the suite make it part of the package. -/
theorem suite_lost_behind_parenthesis :
    let full := "unit (fast): com.acme.CartTest.adds"
    let name : TestName :=
      { suite := "unit (fast)", package := "com.acme", className := "CartTest", method := "adds" }
    (Text.trim full.toList).getLast? ≠ some ')' ∧ Conventional full name ∧
      parse full = { name with suite := "", package := "unit (fast): com.acme" } ∧
      ¬ Conventional full (parse full) := by
  intro full name
  have hconventional : Conventional full name := by
    refine ⟨"unit (fast)".toList, "com.acme.CartTest.adds".toList, "com.acme.CartTest".toList,
      "adds".toList, "com.acme".toList, "CartTest".toList, ?_, ?_, ?_, ?_⟩
    · exact suited_iff.mpr (by decide +kernel)
    · exact dotted_iff.mpr (by decide +kernel)
    · exact dotted_iff.mpr (by decide +kernel)
    · decide +kernel
  have hparse : parse full = { name with suite := "", package := "unit (fast): com.acme" } := by
    decide +kernel
  refine ⟨by decide +kernel, hconventional, hparse, fun h => ?_⟩
  have hsuite := congrArg TestName.suite (h.unique hconventional)
  rw [hparse] at hsuite
  revert hsuite
  decide

end TestName

end LocatorQuery
