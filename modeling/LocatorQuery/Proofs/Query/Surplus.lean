import LocatorQuery.Proofs.Locator.Surplus
import LocatorQuery.Proofs.Query.Leniency
import LocatorQuery.Proofs.Query.Reference

/-! Surplus dimensions. A strict finder refuses a list of dimensions just when some of them are of no use to
it, and it names them all; what it answers it has taken entirely. -/
namespace LocatorQuery
open Outcome Reading

variable {α : Type}

namespace Finder

/-- Whether a finder has no use for a dimension behind some others. It supports no such name, or it takes
one value of the name and a dimension before has it. -/
def isSurplus (f : Finder α) (before : List Dimension) (d : Dimension) : Bool :=
  !f.supported.contains d.name || !f.repeats d.name && before.any fun b => b.name == d.name

/-- The dimensions for which a finder has no use, in order. -/
def surplus (f : Finder α) (ds : List Dimension) : List Dimension :=
  (ds.zipIdx.filter fun (d, i) => f.isSurplus (ds.take i) d).map Prod.fst

theorem isSurplus_iff {f : Finder α} {before : List Dimension} {d : Dimension} :
    f.isSurplus before d = true ↔
      d.name ∉ f.supported ∨ f.repeats d.name = false ∧ ∃ b ∈ before, b.name = d.name := by
  simp [isSurplus]

theorem mem_surplus_iff {f : Finder α} {ds : List Dimension} {d : Dimension} :
    d ∈ f.surplus ds ↔ ∃ i, ds[i]? = some d ∧ f.isSurplus (ds.take i) d = true := by
  simp only [surplus, List.mem_map, List.mem_filter, Prod.exists, exists_and_right, exists_eq_right,
    List.mem_zipIdx_iff_getElem?]

theorem surplus_concat (f : Finder α) (ds : List Dimension) (d : Dimension) :
    f.surplus (ds ++ [d]) = f.surplus ds ++ if f.isSurplus ds d then [d] else [] := by
  have hbefore : (ds.zipIdx.filter fun (e, i) => f.isSurplus ((ds ++ [d]).take i) e) =
      ds.zipIdx.filter fun (e, i) => f.isSurplus (ds.take i) e := by
    refine List.filter_congr fun (e, i) hmem => ?_
    have hi : i ≤ ds.length := Nat.le_of_lt (List.mem_zipIdx' hmem).1
    simp only [List.take_append_of_le_length hi]
  have hlast : (([d].zipIdx (0 + ds.length)).filter fun (e, i) =>
      f.isSurplus ((ds ++ [d]).take i) e) = if f.isSurplus ds d then [(d, ds.length)] else [] := by
    simp [List.zipIdx_cons, List.filter_cons]
  rw [surplus, List.zipIdx_append, List.filter_append, hbefore, hlast, List.map_append, ← surplus]
  split
  · rfl
  · rfl

theorem isSurplus_eq (f : Finder α) (before : List Dimension) (d : Dimension) :
    f.isSurplus before d = !f.demands.any (·.meets before d) := by
  rw [Bool.eq_iff_iff, Bool.not_eq_true', ← Bool.not_eq_true, List.any_eq_true, isSurplus_iff]
  simp only [Demand.meets_iff]
  constructor
  · rintro hsurplus ⟨e, he, hname, hmet⟩
    rcases hsurplus with hunsupported | ⟨hrepeats, b, hb, hbefore⟩
    · exact hunsupported (mem_supported_iff.mpr (hname ▸ List.mem_map_of_mem he))
    · rcases hmet with hall | hfirst
      · rw [repeats_iff.mpr ⟨e, he, hname.symm, hall⟩] at hrepeats
        cases hrepeats
      · exact hfirst b hb (hbefore.trans hname)
  · intro hunmet
    by_cases hsupported : d.name ∈ f.supported
    · obtain ⟨e, he, hname⟩ := List.mem_map.mp (mem_supported_iff.mp hsupported)
      refine .inr ⟨?_, ?_⟩
      · rw [Bool.eq_false_iff]
        intro hrepeats
        obtain ⟨e', he', hname', hall⟩ := repeats_iff.mp hrepeats
        exact hunmet ⟨e', he', hname'.symm, .inl hall⟩
      · by_contra hfirst
        exact hunmet ⟨e, he, hname.symm, .inr fun b hb hbefore => hfirst ⟨b, hb, hbefore.trans hname⟩⟩
    · exact .inl hsupported

/-- What the demands of a finder leave is what it has no use for. -/
theorem restAll_demands {f : Finder α} (distinct : f.supported.Nodup) (ds : List Dimension) :
    Demand.restAll f.demands ds = f.surplus ds := by
  induction ds using List.reverseRecOn with
  | nil => exact List.sublist_nil.mp (Demand.restAll_sublist f.demands [])
  | append_singleton ds d ih =>
    have hdemands := f.supported_perm.nodup_iff.mp distinct
    rw [Demand.restAll_concat hdemands, ih, surplus_concat, isSurplus_eq]
    cases f.demands.any (·.meets ds d) with
    | true => rfl
    | false => rfl

/-- Fresh dimensions of which everything that a finder makes use of can be used. The window can be read,
what is required is there and every test can be built. -/
structure Usable (f : Finder α) (defaultCount : Option Nat) (ds : List Dimension) : Prop where
  untaken : (Locator.dimensions ds).Untaken
  window : ∃ w, (f.readWindow defaultCount).answer (.dimensions ds) = .ok w
  required : f.checkRequired.answer (.dimensions ds) = .ok ()
  tests : ∀ c ∈ f.criteria, ∀ raw ∈ c.chosen ((Locator.dimensions ds).valuesOf c.name),
    ∃ test, c.test raw = .ok test

theorem exists_testsFor {f : Finder α} {o : String → List String}
    (h : ∀ c ∈ f.criteria, ∀ raw ∈ c.chosen (o c.name), ∃ test, c.test raw = .ok test) :
    ∃ tests, f.testsFor o = .ok tests := by
  have hcriteria : ∀ c ∈ f.criteria, ∃ tests, c.testsOf (o c.name) = .ok tests := by
    intro c hc
    obtain ⟨built, hbuilt⟩ := exists_mapM_eq_ok (h c hc)
    exact ⟨built.reduceOption, map_eq_ok_iff.mpr ⟨built, hbuilt, rfl⟩⟩
  obtain ⟨tests, htests⟩ := exists_mapM_eq_ok hcriteria
  exact ⟨_, bind_eq_ok_iff.mpr ⟨tests, htests, rfl⟩⟩

/-- An evaluation of usable dimensions fails, if at all, over what is left over. -/
theorem Usable.answer {f : Finder α} (distinct : f.supported.Nodup) {defaultCount : Option Nat}
    {ds : List Dimension} (h : f.Usable defaultCount ds) :
    ∃ page, (f.evaluateWith defaultCount).answer (.dimensions ds) =
      (f.leftover (.dimensions ds)).map fun _ => page := by
  obtain ⟨w, hw⟩ := h.window
  rw [(reads_readWindow f defaultCount).answer] at hw
  have hrequired : f.required (.dimensions ds) = .ok () := by
    rw [← h.required, Reading.answer, run_checkRequired]
  obtain ⟨tests, htests⟩ := exists_testsFor h.tests
  refine ⟨.ofScan w (fun item => tests.all fun test => test item) f.source, ?_⟩
  rw [answer_evaluateWith distinct, hw, hrequired, Locator.openValues_of_untaken h.untaken, htests]
  cases f.leftover (.dimensions ds) with
  | ok u => rfl
  | error e => rfl

/-- A strict finder refuses surplus dimensions by their names. -/
theorem leftover_of_strict {f : Finder α} (distinct : f.supported.Nodup)
    (strict : f.settings.strict = true) {ds : List Dimension}
    (untaken : (Locator.dimensions ds).Untaken) :
    f.leftover (.dimensions ds) =
      if f.surplus ds = [] then .ok ()
      else .error (.unusedDimensions ((f.surplus ds).map Dimension.name).eraseDups f.supported) := by
  rw [leftover, if_pos strict, Locator.finish, Locator.unused_serveAll_of_untaken untaken,
    restAll_demands distinct]
  cases f.surplus ds with
  | nil => rfl
  | cons d rest =>
    rw [List.map_cons, List.eraseDups_cons]
    rfl

/-- A strict finder refuses usable dimensions just when one of them is surplus: it has a name that is not
supported, or it repeats a name of which one value is taken. The error names all that are surplus, each
name once and where it is first surplus. An answer has taken all dimensions. -/
theorem strict_refuses_surplus {f : Finder α} (distinct : f.supported.Nodup)
    (strict : f.settings.strict = true) (defaultCount : Option Nat) {ds : List Dimension}
    (h : f.Usable defaultCount ds) :
    let evaluation := f.evaluateWith defaultCount
    let l := Locator.dimensions ds
    ((∃ e, evaluation.answer l = .error e) ↔ ∃ i d, ds[i]? = some d ∧
        (d.name ∉ f.supported ∨ f.repeats d.name = false ∧ ∃ b ∈ ds.take i, b.name = d.name)) ∧
      (∀ e, evaluation.answer l = .error e →
        e = .unusedDimensions ((f.surplus ds).map Dimension.name).eraseDups f.supported) ∧
      ∀ page, evaluation.answer l = .ok page →
        (evaluation.run l).2 = .dimensions (ds.map fun d => { d with taken := true }) := by
  intro evaluation l
  have hsurplus : f.surplus ds ≠ [] ↔ ∃ i d, ds[i]? = some d ∧
      (d.name ∉ f.supported ∨ f.repeats d.name = false ∧ ∃ b ∈ ds.take i, b.name = d.name) := by
    rw [Ne, List.eq_nil_iff_forall_not_mem, not_forall_not, exists_comm]
    refine exists_congr fun d => ?_
    simp only [mem_surplus_iff, isSurplus_iff]
  obtain ⟨page, hanswer⟩ := h.answer distinct
  rw [leftover_of_strict distinct strict h.untaken] at hanswer
  rw [← hsurplus]
  by_cases hnone : f.surplus ds = []
  · rw [if_pos hnone] at hanswer
    have hanswer : evaluation.answer l = .ok page := hanswer
    have hleft : (evaluation.run l).2 = .dimensions (ds.map fun d => { d with taken := true }) := by
      rw [left_evaluateWith distinct hanswer]
      exact Locator.serveAll_of_restAll_nil h.untaken (restAll_demands distinct ds ▸ hnone)
    rw [hanswer]
    refine ⟨iff_of_false ?_ (not_not.mpr hnone), nofun, fun _ _ => hleft⟩
    rintro ⟨e, he⟩
    cases he
  · rw [if_neg hnone] at hanswer
    have hanswer : evaluation.answer l =
        .error (.unusedDimensions ((f.surplus ds).map Dimension.name).eraseDups f.supported) := hanswer
    rw [hanswer]
    refine ⟨iff_of_true ⟨_, rfl⟩ hnone, ?_, nofun⟩
    intro e he
    exact (Except.error.inj he).symm

theorem strict_refuses_surplus_of_builds :
    let f := Finder.ofBuilds [⟨1, "Core", "17", none, .success, true, ["a", "b"]⟩] {}
    let ds : List Dimension := [{ name := "tag", value := "a" }, { name := "colour", value := "red" },
      { name := "number", value := "17" }, { name := "tag", value := "b" },
      { name := "count", value := "1" }, { name := "colour", value := "blue" },
      { name := "count", value := "many" }, { name := "number", value := "18" }]
    let rest : List Dimension := [{ name := "tag", value := "a" }, { name := "number", value := "17" },
      { name := "tag", value := "b" }, { name := "count", value := "1" }]
    f.supported.Nodup ∧ f.settings.strict = true ∧ f.Usable none ds ∧ f.Usable none rest ∧
      (f.evaluateWith none).answer (.dimensions ds) =
        .error (.unusedDimensions ["colour", "count", "number"] f.supported) ∧
      ((f.evaluateWith none).run (.dimensions rest)).2 =
        .dimensions (rest.map fun d => { d with taken := true }) := by
  intro f ds rest
  have distinct : f.supported.Nodup := by decide
  have hds : f.Usable none ds := by
    have htests : ∃ tests, f.testsFor (Locator.dimensions ds).valuesOf = .ok tests := ⟨_, rfl⟩
    exact ⟨by decide, ⟨_, rfl⟩, rfl, exists_of_testsFor htests.choose_spec⟩
  have hrest : f.Usable none rest := by
    have htests : ∃ tests, f.testsFor (Locator.dimensions rest).valuesOf = .ok tests := ⟨_, rfl⟩
    exact ⟨by decide, ⟨_, rfl⟩, rfl, exists_of_testsFor htests.choose_spec⟩
  obtain ⟨hfails, hnames, -⟩ := strict_refuses_surplus distinct rfl none hds
  obtain ⟨-, -, hleft⟩ := strict_refuses_surplus distinct rfl none hrest
  obtain ⟨e, he⟩ := hfails.mpr ⟨1, _, rfl, .inl (by decide)⟩
  have hsurplus : ((f.surplus ds).map Dimension.name).eraseDups = ["colour", "count", "number"] := by
    decide +kernel
  refine ⟨distinct, rfl, hds, hrest, ?_, hleft _ rfl⟩
  rw [he, hnames e he, hsurplus]

end Finder

end LocatorQuery
