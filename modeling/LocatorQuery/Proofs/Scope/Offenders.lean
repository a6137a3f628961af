import LocatorQuery.Proofs.Catalog.Refusal
import LocatorQuery.Proofs.Scope.Grammar

/-! What a refused scope filter is blamed on. Conditions are read one counter after the other, and the first one
that cannot be read ends the reading, so names that no filter has are reported only when all conditions can
be read. -/
namespace LocatorQuery
open Outcome

/-- A name stands somewhere in a message. -/
def Mentions (message name : String) : Prop := name.toList <:+: message.toList

namespace Mentions

theorem refl (name : String) : Mentions name name := List.infix_rfl

variable {message name : String}

theorem append (h : Mentions message name) (behind : String) : Mentions (message ++ behind) name := by
  rw [Mentions, String.toList_append]
  exact h.trans (List.prefix_append _ _).isInfix

theorem behind (h : Mentions message name) (ahead : String) : Mentions (ahead ++ message) name := by
  rw [Mentions, String.toList_append]
  exact h.trans (List.suffix_append _ _).isInfix

theorem intercalate (h : Mentions message name) {messages : List String} (hmem : message ∈ messages)
    (between : String) : Mentions (between.intercalate messages) name := by
  rw [Mentions, String.toList_intercalate]
  exact h.trans (Nesting.part_infix_intercalate (List.mem_map_of_mem hmem) _)

end Mentions

/-- What is left over is named in full. -/
theorem FilterFault.mentions_leftover {unknown repeated known : List String} {name : String}
    (h : name ∈ unknown ∨ name ∈ repeated) :
    Mentions (FilterFault.leftover unknown repeated known).message name := by
  have hlist : ∀ {listed : List String}, name ∈ listed → Mentions (", ".intercalate listed) name :=
    fun hmem => (Mentions.refl name).intercalate hmem _
  dsimp only [message]
  rcases h with h | h
  · rw [List.isEmpty_eq_false_iff.mpr (List.ne_nil_of_mem h)]
    have hunknown := ((((hlist h).behind ("unknown filter " ++ plural unknown "key" ++ ": ")).append
      " (supported: ").append (", ".intercalate known)).append ")"
    exact hunknown.intercalate (List.mem_append_left _ List.mem_cons_self) _
  · rw [List.isEmpty_eq_false_iff.mpr (List.ne_nil_of_mem h)]
    have hrepeated := (hlist h).behind ("filter " ++ plural repeated "key" ++ " given more than once: ")
    exact hrepeated.intercalate (List.mem_append_right _ List.mem_cons_self) _

theorem LocatorError.mentions_badValue (dimension value : String) (fault : ValueFault) :
    Mentions (badValue dimension value fault).message dimension :=
  (((Mentions.refl dimension).behind ("invalid value '" ++ value ++ "' for dimension '")).append
    "': ").append fault.message

namespace ScopeFilter

/-- The names that no filter has. -/
def unknownNames (ds : List Dimension) : List String :=
  (ds.map Dimension.name).filter fun name => !names.contains name

/-- The counters whose conditions cannot be read, in the order in which they are read. -/
def refusedCounters (ds : List Dimension) : List Counter :=
  Counter.all.filter fun counter =>
    ds.any fun d => d.name == counter.name && !(Condition.parse counter.name d.value).isOk

/-- The names of all that is wrong with a filter. -/
def offenders (ds : List Dimension) : List String :=
  unknownNames ds ++ (refusedCounters ds).map Counter.name

theorem conditionOf_of_head? {text : String} {counter : Counter} {values : List String} {raw : String}
    (h : values.head? = some raw) {e : LocatorError} (he : Condition.parse counter.name raw = .error e) :
    conditionOf text counter values = .error (.badFilter text (.nested e.message)) := by
  rw [List.head?_eq_some_iff] at h
  obtain ⟨rest, rfl⟩ := h
  rw [conditionOf, he]

theorem leftover_of_unknown {text : String} {unused : List String} (hne : unused ≠ [])
    (unknown : ∀ name ∈ unused, name ∉ names) :
    leftover text unused = .error (.badFilter text (.leftover unused [] names)) := by
  have hcontains : ∀ name ∈ unused, names.contains name = false := by
    intro name hname
    rw [List.contains_eq_mem]
    exact decide_eq_false (unknown name hname)
  have hrepeated : unused.filter names.contains = [] := by
    rw [List.filter_eq_nil_iff]
    intro name hname
    rw [hcontains name hname]
    exact nofun
  have hunknown : unused.filter (not ∘ names.contains) = unused := by
    rw [List.filter_eq_self]
    intro name hname
    rw [Function.comp_apply, hcontains name hname]
    rfl
  rw [leftover, List.isEmpty_eq_false_iff.mpr hne, List.partition_eq_filter_filter, hrepeated, hunknown]
  rfl

theorem mem_refusedCounters_iff {ds : List Dimension} {counter : Counter} :
    counter ∈ refusedCounters ds ↔ ∃ d ∈ ds, d.name = counter.name ∧
      ∃ e, Condition.parse counter.name d.value = .error e := by
  rw [refusedCounters, List.mem_filter, and_iff_right (mem_all counter), List.any_eq_true]
  refine exists_congr fun d => and_congr_right fun _ => ?_
  rw [Bool.and_eq_true, beq_iff_eq]
  refine and_congr_right fun _ => ?_
  cases Condition.parse counter.name d.value with
  | ok condition => simp [Except.isOk, Except.toBool]
  | error e => simp [Except.isOk, Except.toBool]

section Once
variable {ds : List Dimension} (once : (ds.map Dimension.name).Nodup)
include once

theorem eraseDups_restAll_filterDemands :
    ((Demand.restAll filterDemands ds).map Dimension.name).eraseDups = unknownNames ds := by
  have hmap : (ds.filter fun d => !names.contains d.name).map Dimension.name = unknownNames ds := by
    rw [unknownNames, List.filter_map]
    rfl
  rw [Demand.restAll_of_nodup (by decide) once, ← names_eq, hmap]
  exact eraseDups_of_nodup (once.filter _)

theorem exists_conditionOf_of_notMem {text : String} {counter : Counter}
    (h : counter ∉ refusedCounters ds) :
    ∃ found, conditionOf text counter ((Locator.dimensions ds).valuesOf counter.name) = .ok found := by
  refine (exists_conditionOf_valuesOf_iff once).mpr fun d hd hname => ?_
  cases hparse : Condition.parse counter.name d.value with
  | ok condition => exact ⟨condition, rfl⟩
  | error e => exact absurd (mem_refusedCounters_iff.mpr ⟨d, hd, hname, e, hparse⟩) h

/-- The first counter with a condition that cannot be read decides on the error. -/
theorem conditionsOf_of_refused {text : String} {counter : Counter}
    (h : (refusedCounters ds).head? = some counter) {d : Dimension} (hd : d ∈ ds)
    (hname : d.name = counter.name) {e : LocatorError}
    (he : Condition.parse counter.name d.value = .error e) :
    conditionsOf text Counter.all (Locator.dimensions ds).valuesOf =
      .error (.badFilter text (.nested e.message)) := by
  rw [refusedCounters, List.head?_filter, List.find?_eq_some_iff_append] at h
  obtain ⟨-, before, after, hall, hbefore⟩ := h
  have hread : ∀ earlier ∈ before, ∃ found,
      conditionOf text earlier ((Locator.dimensions ds).valuesOf earlier.name) = .ok found := by
    intro earlier hmem
    refine exists_conditionOf_of_notMem once fun hrefused => ?_
    have hnot := hbefore earlier hmem
    rw [(List.mem_filter.mp hrefused).2] at hnot
    cases hnot
  have hhead := (Locator.head?_valuesOf_eq_some_iff once).mpr ⟨d, hd, hname, rfl⟩
  rw [conditionsOf, hall, mapM_eq_error_of_first hread (conditionOf_of_head? hhead he)]
  rfl

end Once

section Read
variable {text : String} {ds : List Dimension} (h : Locator.parse text = .ok (.dimensions ds))
  (once : (ds.map Dimension.name).Nodup)
  (known : ∀ d ∈ ds, d.name = typeName →
    ∃ level : ScopeLevel, (Text.trimmed d.value).toLower = level.name)
include h once known

/-- Of the conditions that cannot be read the first is reported, and nothing else is. -/
theorem parse_of_refused {counter : Counter} (hfirst : (refusedCounters ds).head? = some counter) :
    ∃ d ∈ ds, d.name = counter.name ∧ ∃ e, Condition.parse counter.name d.value = .error e ∧
      parse text = .error (.badFilter text (.nested e.message)) := by
  obtain ⟨d, hd, hname, e, he⟩ := mem_refusedCounters_iff.mp (List.mem_of_head? hfirst)
  obtain ⟨level, hlevel⟩ := (exists_levelOf_valuesOf_iff once).mpr known
  refine ⟨d, hd, hname, e, he, ?_⟩
  rw [parse_eq h, partsOf, hlevel, conditionsOf_of_refused once hfirst hd hname he]
  rfl

/-- Unknown names are reported once all conditions can be read. -/
theorem parse_of_unknown (hread : refusedCounters ds = []) (hunknown : unknownNames ds ≠ []) :
    parse text = .error (.badFilter text (.leftover (unknownNames ds) [] names)) := by
  have hconditions : ∀ counter : Counter,
      ∃ found, conditionOf text counter ((Locator.dimensions ds).valuesOf counter.name) = .ok found := by
    intro counter
    refine exists_conditionOf_of_notMem once ?_
    rw [hread]
    exact List.not_mem_nil
  obtain ⟨filter, hfilter⟩ :=
    exists_partsOf_iff.mpr ⟨(exists_levelOf_valuesOf_iff once).mpr known, hconditions⟩
  have hstrange : ∀ name ∈ unknownNames ds, name ∉ names := by
    intro name hname hmem
    have hnot := (List.mem_filter.mp hname).2
    rw [List.contains_iff_mem.mpr hmem] at hnot
    cases hnot
  rw [parse_eq h, hfilter, eraseDups_restAll_filterDemands once]
  change (do leftover text (unknownNames ds); return filter) = _
  rw [leftover_of_unknown hunknown hstrange]
  rfl

/-- A filter with unknown names or conditions that cannot be read is refused. All of them are named unless a
condition that cannot be read comes with something else that is wrong: then only the first condition is. -/
theorem parse_names_offenders (bad : offenders ds ≠ []) :
    ∃ fault, parse text = .error (.badFilter text fault) ∧
      (refusedCounters ds = [] → fault = .leftover (unknownNames ds) [] names) ∧
      (∀ counter, (refusedCounters ds).head? = some counter →
        Mentions fault.message counter.name ∧
          ∃ d ∈ ds, d.name = counter.name ∧ ∃ e, Condition.parse counter.name d.value = .error e ∧
            fault = .nested e.message) ∧
      (refusedCounters ds = [] ∨ (offenders ds).length = 1 →
        ∀ name ∈ offenders ds, Mentions fault.message name) := by
  cases hrefused : refusedCounters ds with
  | nil =>
    rw [offenders, hrefused, List.map_nil, List.append_nil] at bad
    refine ⟨_, parse_of_unknown h once known hrefused bad, fun _ => rfl, nofun, fun _ name hname => ?_⟩
    rw [offenders, hrefused, List.map_nil, List.append_nil] at hname
    exact FilterFault.mentions_leftover (.inl hname)
  | cons counter rest =>
    have hfirst : (refusedCounters ds).head? = some counter := by
      rw [hrefused]
      rfl
    obtain ⟨d, hd, hname, e, he, hparse⟩ := parse_of_refused h once known hfirst
    have hmentions : Mentions (FilterFault.nested e.message).message counter.name := by
      obtain ⟨fault, rfl⟩ := Condition.blames_parse _ _ e he
      exact LocatorError.mentions_badValue _ _ fault
    refine ⟨_, hparse, nofun, ?_, ?_⟩
    · rintro _ ⟨⟩
      exact ⟨hmentions, d, hd, hname, e, he, rfl⟩
    · rintro (hnone | hone) name hmem
      · cases hnone
      · have hown : counter.name ∈ offenders ds := by
          rw [offenders, hrefused]
          exact List.mem_append_right _ List.mem_cons_self
        obtain ⟨only, honly⟩ := List.length_eq_one_iff.mp hone
        rw [honly, List.mem_singleton] at hown hmem
        rw [hmem, ← hown]
        exact hmentions

end Read

/-- Two names that no filter has, beside a level and a counter that is set to `any`. -/
theorem parse_names_offenders_of_two :
    let text := "slow:1,type:Suite,failed:any,odd:(b:c)"
    let ds : List Dimension := [{ name := "slow", value := "1" }, { name := "type", value := "Suite" },
      { name := "failed", value := "any" }, { name := "odd", value := "b:c" }]
    offenders ds = ["slow", "odd"] ∧
      ∃ fault, parse text = .error (.badFilter text fault) ∧
        fault = .leftover ["slow", "odd"] [] names ∧ Mentions fault.message "slow" ∧
          Mentions fault.message "odd" := by
  intro text ds
  have h : Locator.parse text = .ok (.dimensions ds) := by decide +kernel
  have hoffenders : offenders ds = ["slow", "odd"] := by decide +kernel
  have hknown : ∀ d ∈ ds, d.name = typeName →
      ∃ level : ScopeLevel, (Text.trimmed d.value).toLower = level.name := by
    intro d hd hname
    have hd' : d = { name := "type", value := "Suite" } := by
      revert d
      decide
    rw [hd']
    exact ⟨.suite, by decide +kernel⟩
  have hread : refusedCounters ds = [] := by decide +kernel
  obtain ⟨fault, hparse, hfault, -, hmentions⟩ :=
    parse_names_offenders h (by decide) hknown (by rw [hoffenders]; exact nofun)
  have hall := hmentions (.inl hread)
  rw [hoffenders] at hall
  exact ⟨hoffenders, fault, hparse, hfault hread, hall "slow" (by decide), hall "odd" (by decide)⟩

/-- The condition on one counter cannot be read, so the unknown name beside it is not reported. -/
theorem offender_unnamed_behind_condition :
    let text := "failed:lots,slow:1"
    let ds : List Dimension := [{ name := "failed", value := "lots" }, { name := "slow", value := "1" }]
    Locator.parse text = .ok (.dimensions ds) ∧ (ds.map Dimension.name).Nodup ∧
      (∀ d ∈ ds, d.name ≠ typeName) ∧ offenders ds = ["slow", "failed"] ∧
      ∃ report, parse text = .error (.badFilter text (.nested report)) ∧
        ¬ Mentions (FilterFault.nested report).message "slow" := by
  intro text ds
  refine ⟨by decide +kernel, by decide, by decide, by decide +kernel,
    "invalid value 'lots' for dimension 'failed': " ++
      "expected a number, 'any' or (condition:<op>,value:<n>)", by decide +kernel, ?_⟩
  unfold Mentions
  decide +kernel

end ScopeFilter

end LocatorQuery
