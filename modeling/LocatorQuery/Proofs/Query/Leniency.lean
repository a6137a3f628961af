import LocatorQuery.Proofs.Locator.Erasure
import LocatorQuery.Proofs.Query.Transfer

/-! Leniency. A lenient finder lets pass what a strict one refuses and does nothing else differently: it
answers what the strict one answers, and it answers a list of dimensions by those that it understands. -/
namespace LocatorQuery
open Outcome Reading

variable {α β : Type}

namespace Finder

/-- The second finder asks the same of the same source and lets leftovers pass. -/
structure Relaxed (o : String → List String) (f g : Finder α) : Prop extends Carries o f g where
  defaultLocator : g.defaultLocator = f.defaultLocator
  pageSize : g.settings.pageSize = f.settings.pageSize
  limit : g.settings.lookupLimit = f.settings.lookupLimit
  lenient : g.settings.strict = false

theorem leftover_of_lenient {f : Finder α} (lenient : f.settings.strict = false) (l : Locator) :
    f.leftover l = .ok () := by
  rw [leftover, lenient]
  rfl

theorem Relaxed.answer {f g : Finder α} {l : Locator} (h : Relaxed l.openValues f g)
    (distinct : f.supported.Nodup) {defaultCount : Option Nat} {page : Page α}
    (hpage : (f.evaluateWith defaultCount).answer l = .ok page) :
    (g.evaluateWith defaultCount).answer l = .ok page := by
  cases l with
  | single key taken =>
    rw [h.toCarries.answer_single]
    exact hpage
  | dimensions ds =>
    obtain ⟨w, passes, hw, rfl, hlenient⟩ := h.toCarries.answer_dimensions distinct
      (fun _ => leftover_of_lenient h.lenient _) hpage
    apply hlenient
    rw [windowOf, h.limit]
    exact hw

/-- The locator of an optional text; without one everything is asked for. -/
def asked : Option String → Except LocatorError Locator
  | some text => Locator.parse text
  | none => .ok .empty

theorem findMany_eq (f : Finder α) (text : Option String) :
    f.findMany text = asked (text.or f.defaultLocator) >>= f.evaluate.answer := by
  rw [findMany]
  cases text.or f.defaultLocator with
  | some text => rfl
  | none => rfl

theorem Relaxed.findMany {f g : Finder α} (h : ∀ o, Relaxed o f g) (distinct : f.supported.Nodup)
    {text : Option String} {page : Page α} (hpage : f.findMany text = .ok page) :
    g.findMany text = .ok page := by
  rw [findMany_eq, bind_eq_ok_iff] at hpage ⊢
  obtain ⟨l, hl, hpage⟩ := hpage
  have hrelaxed := h l.openValues
  refine ⟨l, hrelaxed.defaultLocator ▸ hl, ?_⟩
  rw [evaluate, hrelaxed.pageSize]
  exact hrelaxed.answer distinct hpage

/-- Whether all values of a name are taken, and not just the first. -/
def repeats (f : Finder α) (name : String) : Bool :=
  f.criteria.any fun c => c.repeatable && c.name == name

/-- The dimensions that a finder makes use of: it supports their names, and where it takes one value of a
name, it is the first. -/
def understood (f : Finder α) : List Dimension → List Dimension
  | [] => []
  | d :: ds =>
    if d.name ∈ f.supported then
      d :: if f.repeats d.name then f.understood ds
        else (f.understood ds).filter fun e => e.name != d.name
    else f.understood ds

/-- What is heeded of all that stands under a name. -/
def heeded (f : Finder α) (name : String) (values : List β) : List β :=
  if name ∈ f.supported then if f.repeats name then values else values.head?.toList else []

theorem heeded_nil (f : Finder α) (name : String) : f.heeded name ([] : List β) = [] := by
  rw [heeded]
  split
  · split
    · rfl
    · rfl
  · rfl

theorem understood_sublist (f : Finder α) (ds : List Dimension) : (f.understood ds).Sublist ds := by
  induction ds with
  | nil => exact .slnil
  | cons d ds ih =>
    rw [understood]
    split
    · refine .cons_cons d ?_
      split
      · exact ih
      · exact List.filter_sublist.trans ih
    · exact ih.cons d

theorem filter_understood (f : Finder α) (name : String) (ds : List Dimension) :
    ((f.understood ds).filter fun d => d.name == name) =
      f.heeded name (ds.filter fun d => d.name == name) := by
  induction ds with
  | nil => rw [understood, List.filter_nil, heeded_nil]
  | cons d ds ih =>
    rw [understood]
    by_cases hname : d.name = name
    · have hcons : ∀ es : List Dimension, ((d :: es).filter fun e => e.name == name) =
          d :: es.filter fun e => e.name == name := by
        intro es
        exact List.filter_cons_of_pos (by simpa using hname)
      -- This occurrence stays. What is behind it stays too if the name repeats, and goes if not.
      rw [hcons, hname, heeded]
      rw [heeded] at ih
      split
      · next hsupported =>
        rw [if_pos hsupported] at ih
        split
        · next hrepeats => rw [hcons, ih, if_pos hrepeats]
        · rw [hcons, Dimension.filter_name_erased, if_pos rfl]
          rfl
      · next hsupported => rw [ih, if_neg hsupported]
    · have hcons : ∀ es : List Dimension, ((d :: es).filter fun e => e.name == name) =
          es.filter fun e => e.name == name := by
        intro es
        exact List.filter_cons_of_neg (by simpa using hname)
      rw [hcons, ← ih]
      split
      · rw [hcons]
        split
        · rfl
        · rw [Dimension.filter_name_erased, if_neg fun h => hname h.symm]
      · rfl

theorem untaken_understood (f : Finder α) {ds : List Dimension}
    (untaken : (Locator.dimensions ds).Untaken) : (Locator.dimensions (f.understood ds)).Untaken :=
  fun d hd => untaken d ((f.understood_sublist ds).mem hd)

theorem valuesOf_understood (f : Finder α) (ds : List Dimension) (name : String) :
    (Locator.dimensions (f.understood ds)).valuesOf name =
      f.heeded name ((Locator.dimensions ds).valuesOf name) := by
  have hmap : ∀ ds : List Dimension,
      (f.heeded name ds).map Dimension.value = f.heeded name (ds.map Dimension.value) := by
    intro ds
    rw [heeded, heeded]
    split
    · split
      · rfl
      · cases ds with
        | nil => rfl
        | cons d ds => rfl
    · rfl
  rw [Locator.valuesOf, Locator.valuesOf, ← hmap]
  exact congrArg (List.map Dimension.value) (f.filter_understood name ds)

theorem head?_heeded {f : Finder α} {name : String} (h : name ∈ f.supported) (values : List β) :
    (f.heeded name values).head? = values.head? := by
  rw [heeded, if_pos h]
  split
  · rfl
  · cases values with
    | nil => rfl
    | cons v vs => rfl

theorem chosen_heeded {f : Finder α} {c : Criterion α} (hc : c ∈ f.criteria)
    (values : List String) : c.chosen (f.heeded c.name values) = c.chosen values := by
  have hsupported : c.name ∈ f.supported :=
    List.mem_append_left _ (List.mem_cons_of_mem _ (List.mem_map_of_mem hc))
  rw [Criterion.chosen, Criterion.chosen]
  split
  · next hrepeatable =>
    have hrepeats : f.repeats c.name = true :=
      List.any_eq_true.mpr ⟨c, hc, by simp [hrepeatable]⟩
    rw [heeded, if_pos hsupported, if_pos hrepeats]
  · rw [head?_heeded hsupported]

theorem eq_of_head? {read : List String → β} (first : ∀ vs, read vs = read vs.head?.toList)
    {vs vs' : List String} (h : vs.head? = vs'.head?) : read vs = read vs' := by
  rw [first vs, h, ← first]

theorem windowOf_congr (f : Finder α) (defaultCount : Option Nat) {o o' : String → List String}
    (h : ∀ d ∈ windowDemands, (o d.name).head? = (o' d.name).head?) :
    f.windowOf defaultCount o = f.windowOf defaultCount o' := by
  simp only [windowDemands, List.forall_mem_cons] at h
  obtain ⟨hstart, hcount, hlimit, -⟩ := h
  have start : ofFirst (naturalOf startName) (o startName) =
      ofFirst (naturalOf startName) (o' startName) :=
    eq_of_head? (fun vs => by cases vs <;> rfl) hstart
  have count : countOf defaultCount (o countName) = countOf defaultCount (o' countName) :=
    eq_of_head? (fun vs => by cases vs <;> rfl) hcount
  have limit : limitOf f.settings.lookupLimit (o limitName) =
      limitOf f.settings.lookupLimit (o' limitName) :=
    eq_of_head? (fun vs => by cases vs <;> rfl) hlimit
  rw [windowOf, windowOf, start, count, limit]

theorem testsFor_congr (f : Finder α) {o o' : String → List String}
    (key : (o keyName).head? = (o' keyName).head?)
    (chosen : ∀ c ∈ f.criteria, c.chosen (o c.name) = c.chosen (o' c.name)) :
    f.testsFor o = f.testsFor o' := by
  have htests : (f.criteria.mapM fun c => c.testsOf (o c.name)) =
      f.criteria.mapM fun c => c.testsOf (o' c.name) := by
    refine mapM_congr fun c hc => ?_
    rw [Criterion.testsOf, Criterion.testsOf, chosen c hc]
  rw [testsFor, testsFor, htests, key]

theorem supported_perm (f : Finder α) : f.supported.Perm (f.demands.map Demand.name) := by
  have hcriteria : (f.criteria.map Criterion.demand).map Demand.name =
      f.criteria.map Criterion.name := List.map_map
  rw [supported, demands, List.map_append, testDemands, List.map_cons, hcriteria]
  exact List.perm_append_comm

theorem mem_supported_iff {f : Finder α} {name : String} :
    name ∈ f.supported ↔ name ∈ f.demands.map Demand.name := f.supported_perm.mem_iff

theorem repeats_iff {f : Finder α} {name : String} :
    f.repeats name = true ↔ ∃ d ∈ f.demands, d.name = name ∧ d.all = true := by
  constructor
  · intro h
    obtain ⟨c, hc, hrepeatable⟩ := List.any_eq_true.mp h
    rw [Bool.and_eq_true, beq_iff_eq] at hrepeatable
    have hdemand : c.demand ∈ f.demands :=
      List.mem_append_right _ (List.mem_cons_of_mem _ (List.mem_map_of_mem hc))
    exact ⟨c.demand, hdemand, hrepeatable.2, hrepeatable.1⟩
  · rintro ⟨d, hd, rfl, hall⟩
    rw [demands, List.mem_append, testDemands, List.mem_cons] at hd
    rcases hd with hwindow | rfl | hd
    · have hfirst : ∀ d ∈ windowDemands, d.all = false := by decide
      rw [hfirst d hwindow] at hall
      cases hall
    · cases hall
    · obtain ⟨c, hc, rfl⟩ := List.mem_map.mp hd
      have hrepeatable : c.repeatable = true := hall
      exact List.any_eq_true.mpr ⟨c, hc, by simp [hrepeatable, Criterion.demand]⟩

theorem isPresent_understood {f : Finder α} {ds : List Dimension} {name : String} :
    (Locator.dimensions (f.understood ds)).isPresent name = true ↔
      name ∈ f.supported ∧ (Locator.dimensions ds).isPresent name = true := by
  rw [Locator.isPresent_iff, Locator.isPresent_iff, valuesOf_understood]
  by_cases hsupported : name ∈ f.supported
  · rw [Ne, Ne, ← List.head?_eq_none_iff, head?_heeded hsupported, List.head?_eq_none_iff,
      and_iff_right hsupported]
  · rw [heeded, if_neg hsupported]
    exact iff_of_false (fun h => h rfl) fun h => hsupported h.1

/-- Where a required name is there, one that the finder supports is there too. -/
def RequiredKnown (f : Finder α) (l : Locator) : Prop :=
  ∀ name ∈ f.requiredAny, l.isPresent name = true →
    ∃ other ∈ keyName :: f.requiredAny, other ∈ f.supported ∧ l.isPresent other = true

instance (f : Finder α) (l : Locator) : Decidable (f.RequiredKnown l) :=
  inferInstanceAs (Decidable (∀ name ∈ f.requiredAny, l.isPresent name = true →
    ∃ other ∈ keyName :: f.requiredAny, other ∈ f.supported ∧ l.isPresent other = true))

theorem requiredKnown_of_supported {f : Finder α} (h : ∀ name ∈ f.requiredAny, name ∈ f.supported)
    (l : Locator) : f.RequiredKnown l :=
  fun name hname hpresent => ⟨name, List.mem_cons_of_mem _ hname, h name hname, hpresent⟩

theorem required_understood {f : Finder α} {ds : List Dimension}
    (known : f.RequiredKnown (.dimensions ds)) :
    f.required (.dimensions (f.understood ds)) = f.required (.dimensions ds) := by
  refine f.required_congr_iff ?_
  simp only [isPresent_understood]
  constructor
  · rintro ⟨name, hname, -, hpresent⟩
    exact ⟨name, hname, hpresent⟩
  · rintro ⟨name, hname, hpresent⟩
    rcases List.mem_cons.mp hname with rfl | hrequired
    · exact ⟨keyName, hname, List.mem_cons_self, hpresent⟩
    · exact known name hrequired hpresent

/-- The same finder, strict. -/
def strict (f : Finder α) : Finder α := { f with settings := { f.settings with strict := true } }

theorem understood_strict (f : Finder α) (ds : List Dimension) :
    f.strict.understood ds = f.understood ds := by
  induction ds with
  | nil => rfl
  | cons d ds ih =>
    rw [understood, understood, ih]
    rfl

section Understood
variable {f : Finder α} {ds : List Dimension} (untaken : (Locator.dimensions ds).Untaken)
include untaken

theorem openValues_understood (name : String) :
    (Locator.dimensions (f.understood ds)).openValues name =
      f.heeded name ((Locator.dimensions ds).openValues name) := by
  rw [Locator.openValues_of_untaken (f.untaken_understood untaken),
    Locator.openValues_of_untaken untaken, valuesOf_understood]

/-- A strict finder has nothing to refuse in what it understands. -/
theorem leftover_understood : f.leftover (.dimensions (f.understood ds)) = .ok () := by
  have hunused : ((Locator.dimensions (f.understood ds)).serveAll f.demands).unused = [] := by
    refine Locator.unused_serveAll_eq_nil fun name hopen => ?_
    rw [openValues_understood untaken, heeded] at hopen ⊢
    -- All values of a name that repeats are taken; of any other name at most one is there.
    split at hopen
    · next hsupported =>
      rw [if_pos hsupported]
      split at hopen
      · next hrepeats =>
        obtain ⟨d, hd, hname, hall⟩ := repeats_iff.mp hrepeats
        exact ⟨d, hd, hname, .inl hall⟩
      · next hrepeats =>
        obtain ⟨d, hd, rfl⟩ := List.mem_map.mp (mem_supported_iff.mp hsupported)
        rw [if_neg hrepeats]
        exact ⟨d, hd, rfl, .inr Option.length_toList_le⟩
    · exact absurd rfl hopen
  rw [leftover]
  split
  · exact Locator.finish_eq_ok_iff.mpr hunused
  · rfl

/-- A lenient finder ignores just what it does not understand. A required name that is there but not
supported would be missed, if it is the only one. -/
theorem answer_understood (distinct : f.supported.Nodup) (lenient : f.settings.strict = false)
    (known : f.RequiredKnown (.dimensions ds)) (defaultCount : Option Nat) :
    (f.evaluateWith defaultCount).answer (.dimensions ds) =
      (f.evaluateWith defaultCount).answer (.dimensions (f.understood ds)) := by
  have hheads : ∀ name ∈ f.supported, ((Locator.dimensions ds).openValues name).head? =
      ((Locator.dimensions (f.understood ds)).openValues name).head? := by
    intro name hname
    rw [openValues_understood untaken, head?_heeded hname]
  have hwindow : f.windowOf defaultCount (Locator.dimensions ds).openValues =
      f.windowOf defaultCount (Locator.dimensions (f.understood ds)).openValues := by
    refine f.windowOf_congr defaultCount fun d hd => hheads d.name ?_
    exact mem_supported_iff.mpr (List.mem_map_of_mem (List.mem_append_left _ hd))
  have htests : f.testsFor (Locator.dimensions ds).openValues =
      f.testsFor (Locator.dimensions (f.understood ds)).openValues := by
    refine f.testsFor_congr (hheads keyName List.mem_cons_self) fun c hc => ?_
    rw [openValues_understood untaken, chosen_heeded hc]
  rw [answer_evaluateWith distinct, answer_evaluateWith distinct, hwindow, htests,
    required_understood known, leftover_of_lenient lenient, leftover_of_lenient lenient]

theorem answer_strict_understood (distinct : f.supported.Nodup) (defaultCount : Option Nat) :
    (f.strict.evaluateWith defaultCount).answer (.dimensions (f.understood ds)) =
      (f.evaluateWith defaultCount).answer (.dimensions (f.understood ds)) := by
  have hleft : f.strict.leftover (.dimensions (f.understood ds)) = .ok () := by
    rw [← understood_strict]
    exact leftover_understood untaken
  rw [answer_evaluateWith (f := f.strict) distinct, answer_evaluateWith distinct, hleft,
    leftover_understood untaken]
  rfl

end Understood

end Finder

end LocatorQuery
