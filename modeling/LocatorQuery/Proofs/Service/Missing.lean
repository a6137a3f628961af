import LocatorQuery.Service.Session
import LocatorQuery.Proofs.Catalog.Completeness
import LocatorQuery.Proofs.Scope.Refusal

/-! What is not found. An error response says `not_found` when one item was asked for by a locator that
names nothing, and `bad_request` in every other case. -/
namespace LocatorQuery
open Outcome

namespace Failure

def IsRefusal (f : Failure) : Prop := f.kind = .badRequest

def IsMiss (f : Failure) : Prop := f.kind = .notFound

theorem IsRefusal.not_isMiss (f : Failure) (h : f.IsRefusal) : ¬ f.IsMiss := by
  rw [IsMiss, h]
  exact nofun

end Failure

namespace Result

variable {α : Type}

theorem refuses_ofLocator {x : Except LocatorError α} (h : FailsOnly LocatorError.IsRefusal x) :
    FailsOnly Failure.IsRefusal (ofLocator x) := h.mapError fun _ he => he

theorem failsWith_ofLocator_iff {x : Except LocatorError α} :
    FailsWith Failure.IsMiss (ofLocator x) ↔ FailsWith LocatorError.IsMiss x :=
  failsWith_mapError_iff

theorem refuses_ofData (x : Except DataFault α) : FailsOnly Failure.IsRefusal (ofData x) := by
  cases x with
  | ok a => exact .ok a
  | error fault => exact .error rfl

end Result

theorem Params.refuses_read {α : Type} (method : Method) (schema : Schema α) (params : Json) :
    FailsOnly Failure.IsRefusal (read method schema params) :=
  (Result.refuses_ofData _).mapError fun _ hcause => hcause

theorem FinderKind.refuses_parse (raw : String) : FailsOnly Failure.IsRefusal (parse raw) := by
  rw [parse]
  split
  · exact .ok _
  · exact .error rfl

theorem FinderKind.parse_eq_ok_iff {raw : String} {kind : FinderKind} :
    parse raw = .ok kind ↔ ofName? raw = some kind := by
  rw [parse]
  cases ofName? raw with
  | none => simp
  | some k => simp

theorem Method.name_of_ofName? {name : String} {m : Method} (h : ofName? name = some m) :
    name = m.name := by
  have hname := List.find?_some h
  exact (beq_iff_eq.mp hname).symm

/-- An error response with its kind. -/
def IsError (kind : String) (answer : Json) : Prop :=
  ∃ id message, answer =
    .object [("id", id), ("error", .object [("kind", .string kind), ("message", .string message)])]

theorem isError_response_iff (kind : LocatorError.Kind) {id : Json} {r : Result Json} :
    IsError kind.name (response id r) ↔ FailsWith (fun failure => failure.kind = kind) r := by
  cases r with
  | ok result =>
    refine iff_of_false ?_ (not_failsWith_ok result)
    simp [IsError, response]
  | error failure =>
    have hname : ∀ k k' : LocatorError.Kind, k.name = k'.name ↔ k = k' := by
      intro k k'
      cases k <;> cases k' <;> decide
    rw [failsWith_error_iff]
    simp [IsError, response, hname]

namespace Catalog

/-- Nothing that a locator asks of one finder is there. -/
def Misses (c : Catalog) (kind : FinderKind) (l : Locator) : Prop :=
  match kind with
  | .builds => c.builds.Misses l
  | .testRuns => c.testRuns.Misses l
  | .problems => c.problems.Misses l

/-- A request for one item whose locator is one, but names nothing. -/
def Missed (c : Catalog) (method : String) (params : Json) : Prop :=
  method = "find_one" ∧
    ∃ finder text kind l, Params.read .findOne Params.findOne params = .ok (finder, text, ()) ∧
      FinderKind.ofName? finder = some kind ∧ Locator.parse text = .ok l ∧ c.Misses kind l

variable {c : Catalog}

theorem refuses_listMethods (params : Json) : FailsOnly Failure.IsRefusal (listMethods params) := by
  have hrest : ∀ format : Option String, FailsOnly Failure.IsRefusal
      (if ["names", "name", "list"].contains (Text.trimmed (format.getD "details")).toLower then
        .ok (.strings Method.names)
      else .ok Method.listing) := by
    intro format
    split
    · exact .ok _
    · exact .ok _
  rw [listMethods.eq_def]
  split
  · exact hrest none
  · exact (Result.refuses_ofData _).bind fun (format, _) => hrest format

theorem refuses_parseLocator (text : String) : FailsOnly Failure.IsRefusal (parseLocator text) :=
  (Result.refuses_ofLocator (Locator.refuses_parse text)).bind fun _ => .ok _

section
variable (h : c.OnlyRefuses)
include h

theorem OnlyRefuses.findMany (kind : FinderKind) (text : Option String) :
    FailsOnly LocatorError.IsRefusal (c.findMany kind text) := by
  cases kind with
  | builds => exact (h.builds.findMany text).map _
  | testRuns => exact (h.testRuns.findMany text).map _
  | problems => exact (h.problems.findMany text).map _

theorem OnlyRefuses.answer {method : Method} (hmethod : method ≠ .findOne) (params : Json) :
    FailsOnly Failure.IsRefusal (c.answer method params) := by
  cases method with
  | findOne => exact absurd rfl hmethod
  | help => exact .ok _
  | listMethods => exact refuses_listMethods params
  | parseLocator =>
    exact (Params.refuses_read _ _ _).bind fun (text, _) => refuses_parseLocator text
  | findMany =>
    refine (Params.refuses_read _ _ _).bind fun (finder, text, _) => ?_
    refine (FinderKind.refuses_parse finder).bind fun kind => ?_
    exact Result.refuses_ofLocator (h.findMany kind text)
  | groupInto =>
    refine (Params.refuses_read _ _ _).bind fun (level, locator, filter, _) => ?_
    exact Result.refuses_ofLocator ((h.testRuns.groupInto level locator filter).map _)
  | testScopes =>
    refine (Params.refuses_read _ _ _).bind fun (text, _) => ?_
    exact Result.refuses_ofLocator ((h.testRuns.testScopes text).map _)

theorem OnlyRefuses.findOne (kind : FinderKind) (text : String) :
    FailsWith LocatorError.IsMiss (c.findOne kind text) ↔
      ∃ l, Locator.parse text = .ok l ∧ c.Misses kind l := by
  cases kind with
  | builds => exact failsWith_map_iff.trans (h.builds.findOne text)
  | testRuns => exact failsWith_map_iff.trans (h.testRuns.findOne text)
  | problems => exact failsWith_map_iff.trans (h.problems.findOne text)

theorem OnlyRefuses.answer_findOne (params : Json) :
    FailsWith Failure.IsMiss (c.answer .findOne params) ↔ c.Missed "find_one" params := by
  have hread := Params.refuses_read .findOne Params.findOne params
  refine (hread.failsWith_bind_iff Failure.IsRefusal.not_isMiss).trans ?_
  constructor
  · rintro ⟨⟨finder, text, ⟨⟩⟩, hdecoded, hmiss⟩
    have hkind := FinderKind.refuses_parse finder
    obtain ⟨kind, hfinder, hmiss⟩ :=
      (hkind.failsWith_bind_iff Failure.IsRefusal.not_isMiss).mp hmiss
    obtain ⟨l, hl, hmisses⟩ := (h.findOne kind text).mp (Result.failsWith_ofLocator_iff.mp hmiss)
    exact ⟨rfl, finder, text, kind, l, hdecoded, FinderKind.parse_eq_ok_iff.mp hfinder, hl, hmisses⟩
  · rintro ⟨-, finder, text, kind, l, hdecoded, hfinder, hl, hmisses⟩
    refine ⟨(finder, text, ()), hdecoded, ?_⟩
    have hkind := FinderKind.refuses_parse finder
    refine (hkind.failsWith_bind_iff Failure.IsRefusal.not_isMiss).mpr ⟨kind, ?_, ?_⟩
    · exact FinderKind.parse_eq_ok_iff.mpr hfinder
    · exact Result.failsWith_ofLocator_iff.mpr ((h.findOne kind text).mpr ⟨l, hl, hmisses⟩)

/-- A request fails as missing just when it is for one item and misses it. -/
theorem OnlyRefuses.handle (method : String) (params : Json) :
    FailsWith Failure.IsMiss (c.handle method params) ↔ c.Missed method params := by
  have hfindOne : Method.ofName? "find_one" = some .findOne := by rfl
  rw [Catalog.handle]
  cases hmethod : Method.ofName? method with
  | none =>
    refine iff_of_false (failsWith_error_iff.not.mpr nofun) ?_
    rintro ⟨rfl, -⟩
    cases hmethod.symm.trans hfindOne
  | some m =>
    refine failsWith_map_iff.trans ?_
    by_cases hm : m = .findOne
    · rw [hm, h.answer_findOne, Method.name_of_ofName? hmethod, hm]
      rfl
    · refine iff_of_false ((h.answer hm params).not_failsWith Failure.IsRefusal.not_isMiss) ?_
      rintro ⟨rfl, -⟩
      exact hm (Option.some.inj (hmethod.symm.trans hfindOne))

end

/-- The finders of a dataset never say that something is missing while they read a query. Of any finders
that do not, a response says so just when the request is for one item and its locator names none. All
other failures are bad requests. -/
theorem isError_notFound_iff :
    (∀ d settings, (ofDataset d settings).OnlyRefuses) ∧
      ∀ c : Catalog, c.OnlyRefuses → ∀ (id : Json) (method : String) (params : Json),
        let answer := response id (c.handle method params)
        (IsError "not_found" answer ↔ c.Missed method params) ∧
          ((∃ failure, c.handle method params = .error failure) → ¬ c.Missed method params →
            IsError "bad_request" answer) := by
  refine ⟨refuses_ofDataset, fun c h id method params => ?_⟩
  intro answer
  have hmissed := h.handle method params
  constructor
  · exact (isError_response_iff .notFound).trans hmissed
  · rintro ⟨failure, hfails⟩ hnot
    refine (isError_response_iff .badRequest).mpr ⟨failure, hfails, ?_⟩
    cases hkind : failure.kind with
    | badRequest => exact hkind
    | notFound => exact absurd (hmissed.mp ⟨failure, hfails, hkind⟩) hnot

/-- A key that no build has is missed. A status that is none is a bad request also in a locator of builds
inside one of test runs. -/
theorem isError_notFound_iff_of_threeBuilds :
    let c := ofDataset threeBuilds {}
    let one := Json.object [("finder", .string "builds"), ("locator", .string "9")]
    let many := Json.object [("finder", .string "tests"), ("locator", .string "build:(status:FINE)")]
    let failure := Failure.locator (.badValue "status" "FINE" .notStatus)
    c.OnlyRefuses ∧
      c.Missed "find_one" one ∧
      IsError "not_found" (response (.natural 1) (c.handle "find_one" one)) ∧
      c.handle "find_many" many = .error failure ∧
      ¬ c.Missed "find_many" many ∧
      IsError "bad_request" (response (.natural 2) (c.handle "find_many" many)) := by
  intro c one many failure
  have honly : c.OnlyRefuses := isError_notFound_iff.1 threeBuilds {}
  have hmissed : c.Missed "find_one" one := by
    refine ⟨rfl, "builds", "9", .builds, .ofValue "9", by rfl, by rfl, by decide +kernel, ?_⟩
    change ∀ item ∈ threeBuilds.builds, toString item.id ≠ "9"
    decide +kernel
  have hparse : Locator.parse "build:(status:FINE)" =
      .ok (.dimensions [{ name := "build", value := "status:FINE" }]) := by
    decide +kernel
  have hfindMany : c.testRuns.findMany (some "build:(status:FINE)") =
      .error (.badValue "status" "FINE" .notStatus) := by
    refine bind_eq_error_iff.mpr (.inr ⟨_, hparse, ?_⟩)
    decide +kernel
  have hanswer : c.answer .findMany many = .error failure := by
    have hread : Params.read .findMany Params.findMany many =
        .ok ("tests", some "build:(status:FINE)", ()) := by rfl
    have hkind : FinderKind.parse "tests" = .ok .testRuns := by rfl
    rw [Catalog.answer, hread]
    simp only [bind, Except.bind, hkind]
    rw [Catalog.findMany, hfindMany]
    rfl
  have hfails : c.handle "find_many" many = .error failure := by
    have hmethod : Method.ofName? "find_many" = some .findMany := by rfl
    rw [Catalog.handle, hmethod]
    dsimp only
    rw [hanswer]
    rfl
  have hnot : ¬ c.Missed "find_many" many := by
    rintro ⟨hname, -⟩
    exact absurd hname (by decide)
  have hone := (isError_notFound_iff.2 c honly (.natural 1) "find_one" one).1.mpr hmissed
  have hmany := (isError_notFound_iff.2 c honly (.natural 2) "find_many" many).2 ⟨_, hfails⟩ hnot
  exact ⟨honly, hmissed, hone, hfails, hnot, hmany⟩

end Catalog

end LocatorQuery
