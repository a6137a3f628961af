import LocatorQuery.Locator.Basic

/-! What taking values does to a locator. Under each name a locator holds a list of open values: taking
one drops the head of that list, taking all empties it, and nothing else changes. -/
namespace LocatorQuery

namespace Dimension

theorem isOpen_iff {name : String} {d : Dimension} :
    d.isOpen name = true ↔ d.taken = false ∧ d.name = name := by
  simp [isOpen]

def openValues (name : String) (ds : List Dimension) : List String :=
  (ds.filter (isOpen name)).map value

theorem openValues_eq (name : String) (ds : List Dimension) :
    openValues name ds = ((ds.filter fun d => d.name == name).filter fun d => !d.taken).map value := by
  rw [openValues, List.filter_filter]
  rfl

/-- The list with the first open dimension of a name marked, if there is one. -/
def markFirst (name : String) : List Dimension → List Dimension
  | [] => []
  | d :: ds => if d.isOpen name then { d with taken := true } :: ds else d :: markFirst name ds

theorem openValues_cons (name : String) (d : Dimension) (ds : List Dimension) :
    openValues name (d :: ds) =
      if d.isOpen name then d.value :: openValues name ds else openValues name ds := by
  rw [openValues, List.filter_cons]
  split
  · rfl
  · rfl

theorem openValues_append (name : String) (ds es : List Dimension) :
    openValues name (ds ++ es) = openValues name ds ++ openValues name es := by
  simp only [openValues, List.filter_append, List.map_append]

theorem openValues_eq_nil_iff {name : String} {ds : List Dimension} :
    openValues name ds = [] ↔ ∀ d ∈ ds, d.name = name → d.taken = true := by
  rw [openValues, List.map_eq_nil_iff, List.filter_eq_nil_iff]
  refine forall₂_congr fun d _ => ?_
  rw [isOpen_iff, not_and', Bool.not_eq_false]

theorem openValues_of_forall_ne {name : String} {ds : List Dimension} (h : ∀ d ∈ ds, d.name ≠ name) :
    openValues name ds = [] :=
  openValues_eq_nil_iff.mpr fun d hd hname => absurd hname (h d hd)

theorem isOpen_taken (name : String) (d : Dimension) :
    ({ d with taken := true } : Dimension).isOpen name = false := rfl

theorem isOpen_ne {m n : String} {d : Dimension} (h : d.isOpen n = true) (hmn : m ≠ n) :
    d.isOpen m = false := by
  rw [isOpen_iff] at h
  rw [Bool.eq_false_iff, Ne, isOpen_iff]
  rintro ⟨-, hm⟩
  exact hmn (hm.symm.trans h.2)

theorem takeFirst_eq (name : String) (ds : List Dimension) :
    takeFirst name ds = (openValues name ds).head?.map fun v => (v, markFirst name ds) := by
  induction ds with
  | nil => rfl
  | cons d ds ih =>
    rw [takeFirst, openValues_cons, markFirst]
    split
    · rfl
    · rw [ih, Option.map_map]
      rfl

theorem markFirst_of_openValues_nil {name : String} {ds : List Dimension}
    (h : openValues name ds = []) : markFirst name ds = ds := by
  induction ds with
  | nil => rfl
  | cons d ds ih =>
    rw [openValues_cons] at h
    rw [markFirst]
    split at h
    · cases h
    · next ho =>
      rw [if_neg ho, ih h]

theorem markAll_cons (name : String) (d : Dimension) (ds : List Dimension) :
    markAll name (d :: ds) =
      (if d.isOpen name then { d with taken := true } else d) :: markAll name ds := rfl

theorem markAll_of_openValues_nil {name : String} {ds : List Dimension}
    (h : openValues name ds = []) : markAll name ds = ds := by
  induction ds with
  | nil => rfl
  | cons d ds ih =>
    rw [openValues_cons] at h
    split at h
    · cases h
    · next ho => rw [markAll_cons, if_neg ho, ih h]

theorem openValues_markFirst (name other : String) (ds : List Dimension) :
    openValues other (markFirst name ds) =
      if other = name then (openValues name ds).tail else openValues other ds := by
  induction ds with
  | nil => simp [markFirst, openValues]
  | cons d ds ih =>
    rw [markFirst]
    split
    · next ho =>
      rw [openValues_cons, isOpen_taken, if_neg Bool.false_ne_true]
      split
      · next he => rw [openValues_cons, if_pos ho, List.tail_cons, he]
      · next hne => rw [openValues_cons, isOpen_ne ho hne, if_neg Bool.false_ne_true]
    · next ho =>
      rw [openValues_cons, ih, openValues_cons name, if_neg ho, openValues_cons other]
      split
      · next hd =>
        split
        · next he => exact absurd (he ▸ hd) ho
        · rfl
      · rfl

theorem openValues_markAll (name other : String) (ds : List Dimension) :
    openValues other (markAll name ds) = if other = name then [] else openValues other ds := by
  induction ds with
  | nil => simp [markAll, openValues]
  | cons d ds ih =>
    rw [markAll_cons, openValues_cons, ih, openValues_cons other]
    cases ho : d.isOpen name with
    | true =>
      rw [if_pos rfl, isOpen_taken, if_neg Bool.false_ne_true]
      split
      · rfl
      · next hne => rw [isOpen_ne ho hne, if_neg Bool.false_ne_true]
    | false =>
      rw [if_neg Bool.false_ne_true]
      split
      · next hd =>
        split
        · next he => rw [he, ho] at hd; cases hd
        · rfl
      · rfl

theorem map_markFirst {β : Type} (g : Dimension → β)
    (hg : ∀ d : Dimension, g { d with taken := true } = g d) (name : String)
    (ds : List Dimension) : (markFirst name ds).map g = ds.map g := by
  induction ds with
  | nil => rfl
  | cons d ds ih =>
    rw [markFirst]
    split
    · rw [List.map_cons, hg, List.map_cons]
    · rw [List.map_cons, ih, List.map_cons]

theorem map_markAll {β : Type} (g : Dimension → β)
    (hg : ∀ d : Dimension, g { d with taken := true } = g d) (name : String)
    (ds : List Dimension) : (markAll name ds).map g = ds.map g := by
  rw [markAll, List.map_map]
  apply List.map_congr_left
  intro d _
  rw [Function.comp_apply]
  split
  · exact hg d
  · rfl

end Dimension

namespace Locator
open Dimension

/-- The values under a name that have not been taken, in order. -/
def openValues (l : Locator) (name : String) : List String := Dimension.openValues name l.items

/-- The names and values of a locator, whether or not they have been taken. -/
def pairs (l : Locator) : List (String × String) := l.items.map fun d => (d.name, d.value)

theorem take_eq (name : String) (l : Locator) :
    (l.take name).1 = (l.openValues name).head? ∧
      (l.take name).2.items = markFirst name l.items := by
  cases l with
  | single v t => exact ⟨rfl, rfl⟩
  | dimensions ds =>
    rw [take, takeFirst_eq]
    change _ = (Dimension.openValues name ds).head? ∧ _ = markFirst name ds
    cases h : Dimension.openValues name ds with
    | nil => exact ⟨rfl, (markFirst_of_openValues_nil h).symm⟩
    | cons v vs => exact ⟨rfl, rfl⟩

theorem takeAll_eq (name : String) (l : Locator) :
    (l.takeAll name).1 = l.openValues name ∧ (l.takeAll name).2.items = markAll name l.items := by
  cases l with
  | single v t => exact ⟨rfl, rfl⟩
  | dimensions ds => exact ⟨rfl, rfl⟩

theorem take_dimensions (name : String) (ds : List Dimension) :
    ((dimensions ds).take name).2 = .dimensions (markFirst name ds) := by
  rw [take, takeFirst_eq]
  cases h : Dimension.openValues name ds with
  | nil =>
    rw [markFirst_of_openValues_nil h]
    rfl
  | cons v vs => rfl

theorem openValues_append_of_nil {name : String} {ds : List Dimension}
    (h : Dimension.openValues name ds = []) (es : List Dimension) :
    (dimensions (ds ++ es)).openValues name = Dimension.openValues name es :=
  (openValues_append name ds es).trans (by rw [h, List.nil_append])

theorem openValues_take (name other : String) (l : Locator) :
    (l.take name).2.openValues other =
      if other = name then (l.openValues name).tail else l.openValues other := by
  rw [openValues, (take_eq name l).2]
  exact openValues_markFirst name other l.items

theorem openValues_takeAll (name other : String) (l : Locator) :
    (l.takeAll name).2.openValues other = if other = name then [] else l.openValues other := by
  rw [openValues, (takeAll_eq name l).2]
  exact openValues_markAll name other l.items

theorem pairs_take (name : String) (l : Locator) : (l.take name).2.pairs = l.pairs := by
  rw [pairs, (take_eq name l).2]
  exact map_markFirst _ (fun _ => rfl) name l.items

theorem pairs_takeAll (name : String) (l : Locator) : (l.takeAll name).2.pairs = l.pairs := by
  rw [pairs, (takeAll_eq name l).2]
  exact map_markAll _ (fun _ => rfl) name l.items

/-- All values of a name, taken or not. -/
def valuesOf (l : Locator) (name : String) : List String :=
  (l.items.filter fun d => d.name == name).map Dimension.value

def Untaken (l : Locator) : Prop := ∀ d ∈ l.items, d.taken = false

instance (l : Locator) : Decidable l.Untaken :=
  inferInstanceAs (Decidable (∀ d ∈ l.items, d.taken = false))

theorem openValues_of_untaken {l : Locator} (h : l.Untaken) : l.openValues = l.valuesOf := by
  funext name
  have hfilter : l.items.filter (Dimension.isOpen name) =
      l.items.filter fun d => d.name == name := by
    refine List.filter_congr fun d hd => ?_
    rw [Dimension.isOpen, h d hd]
    rfl
  rw [openValues, Dimension.openValues, hfilter, valuesOf]

theorem isPresent_iff {l : Locator} {name : String} :
    l.isPresent name = true ↔ l.valuesOf name ≠ [] := by
  rw [isPresent, valuesOf, Ne, List.map_eq_nil_iff, List.filter_eq_nil_iff, List.any_eq_true]
  simp

theorem peek?_of_untaken {l : Locator} (h : l.Untaken) (name : String) :
    l.peek? name = (l.openValues name).head? := by
  rw [openValues_of_untaken h, valuesOf, List.head?_map, List.head?_filter, peek?]

end Locator

end LocatorQuery
