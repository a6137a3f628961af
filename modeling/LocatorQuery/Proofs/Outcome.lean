import Mathlib.Data.List.Forall2

/-! Steps that can fail: when a sequence of them has an answer and when it has an error. -/
namespace LocatorQuery.Outcome

variable {ε α β : Type}

theorem bind_eq_ok_iff {x : Except ε α} {f : α → Except ε β} {b : β} :
    x >>= f = .ok b ↔ ∃ a, x = .ok a ∧ f a = .ok b := by
  cases x with
  | error e => exact ⟨nofun, fun ⟨_, h, _⟩ => nomatch h⟩
  | ok a =>
    constructor
    · intro h
      exact ⟨a, rfl, h⟩
    · rintro ⟨a', ha, h⟩
      cases ha
      exact h

theorem bind_eq_error_iff {x : Except ε α} {f : α → Except ε β} {e : ε} :
    x >>= f = .error e ↔ x = .error e ∨ ∃ a, x = .ok a ∧ f a = .error e := by
  cases x with
  | error e' =>
    constructor
    · intro h
      cases h
      exact .inl rfl
    · rintro (h | ⟨_, h, -⟩)
      · cases h
        rfl
      · cases h
  | ok a =>
    constructor
    · intro h
      exact .inr ⟨a, rfl, h⟩
    · rintro (h | ⟨a', ha, h⟩)
      · cases h
      · cases ha
        exact h

/-- A result that is handed on behind a check is there when the check succeeds. -/
theorem checked_eq_ok_iff {x : Except ε α} {check : Except ε Unit} {a : α} :
    (do let found ← x; check; return found) = .ok a ↔ x = .ok a ∧ check = .ok () := by
  rw [bind_eq_ok_iff]
  constructor
  · rintro ⟨found, hx, h⟩
    obtain ⟨done, hcheck, hfound⟩ := bind_eq_ok_iff.mp h
    cases hfound
    exact ⟨hx, hcheck⟩
  · rintro ⟨hx, hcheck⟩
    exact ⟨a, hx, bind_eq_ok_iff.mpr ⟨(), hcheck, rfl⟩⟩

theorem bind_congr_of_ok {x : Except ε α} {f g : α → Except ε β}
    (h : ∀ a, x = .ok a → f a = g a) : x >>= f = x >>= g := by
  cases x with
  | error e => rfl
  | ok a => exact h a rfl

theorem map_eq_ok_iff {x : Except ε α} {f : α → β} {b : β} :
    x.map f = .ok b ↔ ∃ a, x = .ok a ∧ f a = b := by
  cases x <;> simp [Except.map]

theorem map_eq_error_iff {x : Except ε α} {f : α → β} {e : ε} :
    x.map f = .error e ↔ x = .error e := by
  cases x <;> simp [Except.map]

theorem mapError_eq_ok_iff {ε' : Type} {x : Except ε α} {f : ε → ε'} {a : α} :
    x.mapError f = .ok a ↔ x = .ok a := by
  cases x <;> simp [Except.mapError]

theorem map_map {γ : Type} (x : Except ε α) (f : α → β) (g : β → γ) :
    (x.map f).map g = x.map (g ∘ f) := by
  cases x <;> rfl

theorem mapM_congr {f g : α → Except ε β} {as : List α} (h : ∀ a ∈ as, f a = g a) :
    as.mapM f = as.mapM g := by
  induction as with
  | nil => rfl
  | cons a as ih =>
    rw [List.forall_mem_cons] at h
    rw [List.mapM_cons, List.mapM_cons, h.1, ih h.2]

/-- A list of steps succeeds when each of them does. -/
theorem mapM_eq_ok_iff {f : α → Except ε β} {as : List α} {bs : List β} :
    as.mapM f = .ok bs ↔ List.Forall₂ (fun a b => f a = .ok b) as bs := by
  induction as generalizing bs with
  | nil =>
    rw [List.forall₂_nil_left_iff]
    exact ⟨fun h => by cases h; rfl, fun h => by rw [h]; rfl⟩
  | cons a as ih =>
    rw [List.mapM_cons, bind_eq_ok_iff, List.forall₂_cons_left_iff]
    refine exists_congr fun b => ?_
    rw [bind_eq_ok_iff, ← exists_and_left]
    refine exists_congr fun bs' => ?_
    rw [ih]
    refine and_congr_right fun _ => and_congr_right fun _ => ?_
    exact ⟨fun h => by cases h; rfl, fun h => by rw [h]; rfl⟩

/-- Steps that give what those of another list give succeed with it. -/
theorem mapM_of_forall₂ {γ : Type} {f : α → Except ε γ} {g : β → Except ε γ} {as : List α}
    {bs : List β} {cs : List γ} (h : as.mapM f = .ok cs)
    (hstep : List.Forall₂ (fun a b => ∀ c, f a = .ok c → g b = .ok c) as bs) :
    bs.mapM g = .ok cs := by
  rw [mapM_eq_ok_iff] at h ⊢
  induction hstep generalizing cs with
  | nil => exact List.forall₂_nil_left_iff.mp h ▸ .nil
  | cons hab _ ih =>
    cases h with
    | cons ha hrest => exact .cons (hab _ ha) (ih hrest)

theorem exists_of_mapM_eq_ok {f : α → Except ε β} {as : List α} {bs : List β}
    (h : as.mapM f = .ok bs) {a : α} (ha : a ∈ as) : ∃ b, f a = .ok b := by
  rw [mapM_eq_ok_iff] at h
  induction h with
  | nil => cases ha
  | cons hb _ ih =>
    rcases List.mem_cons.mp ha with rfl | ha
    · exact ⟨_, hb⟩
    · exact ih ha

/-- A list of steps fails with the error of one of them. -/
theorem exists_of_mapM_eq_error {f : α → Except ε β} {as : List α} {e : ε}
    (h : as.mapM f = .error e) : ∃ a ∈ as, f a = .error e := by
  induction as with
  | nil => cases h
  | cons a as ih =>
    rw [List.mapM_cons, bind_eq_error_iff] at h
    rcases h with h | ⟨b, -, h⟩
    · exact ⟨a, List.mem_cons_self, h⟩
    · rw [bind_eq_error_iff] at h
      rcases h with h | ⟨bs, -, h⟩
      · obtain ⟨a', ha', he⟩ := ih h
        exact ⟨a', List.mem_cons_of_mem a ha', he⟩
      · cases h

theorem exists_mapM_eq_ok {f : α → Except ε β} {as : List α} (h : ∀ a ∈ as, ∃ b, f a = .ok b) :
    ∃ bs, as.mapM f = .ok bs := by
  cases hm : as.mapM f with
  | ok bs => exact ⟨bs, rfl⟩
  | error e =>
    obtain ⟨a, ha, he⟩ := exists_of_mapM_eq_error hm
    obtain ⟨b, hb⟩ := h a ha
    cases hb.symm.trans he

/-- The error is that of the one step that fails. -/
theorem mapM_eq_error_of_only {f : α → Except ε β} {as : List α} {a : α} {e : ε} (ha : a ∈ as)
    (h : f a = .error e) (others : ∀ a' ∈ as, a' ≠ a → ∃ b, f a' = .ok b) :
    as.mapM f = .error e := by
  cases hm : as.mapM f with
  | ok bs =>
    obtain ⟨b, hb⟩ := exists_of_mapM_eq_ok hm ha
    rw [h] at hb
    cases hb
  | error e' =>
    obtain ⟨a', ha', he'⟩ := exists_of_mapM_eq_error hm
    by_cases hne : a' = a
    · rw [hne, h] at he'
      cases he'
      rfl
    · obtain ⟨b, hb⟩ := others a' ha' hne
      rw [hb] at he'
      cases he'

/-- The error is that of the first step that fails. -/
theorem mapM_eq_error_of_first {f : α → Except ε β} {before after : List α} {a : α} {e : ε}
    (hbefore : ∀ a' ∈ before, ∃ b, f a' = .ok b) (h : f a = .error e) :
    (before ++ a :: after).mapM f = .error e := by
  induction before with
  | nil =>
    rw [List.nil_append, List.mapM_cons, h]
    rfl
  | cons a' before ih =>
    rw [List.forall_mem_cons] at hbefore
    obtain ⟨⟨b, hb⟩, hrest⟩ := hbefore
    rw [List.cons_append, List.mapM_cons, hb, ih hrest]
    rfl

/-- Both have a result, or both fail with the same error. -/
inductive FailsAlike : Except ε α → Except ε β → Prop
  | ok (a : α) (b : β) : FailsAlike (.ok a) (.ok b)
  | error (e : ε) : FailsAlike (.error e) (.error e)

namespace FailsAlike

variable {γ δ : Type} {x : Except ε α} {y : Except ε β}

theorem refl (x : Except ε α) : FailsAlike x x := by
  cases x with
  | ok a => exact .ok a a
  | error e => exact .error e

theorem bind {f : α → Except ε γ} {g : β → Except ε δ} (h : FailsAlike x y)
    (hnext : ∀ a b, FailsAlike (f a) (g b)) : FailsAlike (x >>= f) (y >>= g) := by
  cases h with
  | ok a b => exact hnext a b
  | error e => exact .error e

/-- Runs that go on from the same result may make use of it. -/
theorem bind_same (x : Except ε α) {f : α → Except ε γ} {g : α → Except ε δ}
    (hnext : ∀ a, FailsAlike (f a) (g a)) : FailsAlike (x >>= f) (x >>= g) := by
  cases x with
  | ok a => exact hnext a
  | error e => exact .error e

theorem map (h : FailsAlike x y) (f : α → γ) (g : β → δ) : FailsAlike (x.map f) (y.map g) := by
  cases h with
  | ok a b => exact .ok (f a) (g b)
  | error e => exact .error e

theorem mapError {ε' : Type} (h : FailsAlike x y) (f : ε → ε') :
    FailsAlike (x.mapError f) (y.mapError f) := by
  cases h with
  | ok a b => exact .ok a b
  | error e => exact .error (f e)

theorem mapM {f : γ → Except ε α} {g : γ → Except ε β} (h : ∀ c, FailsAlike (f c) (g c))
    (cs : List γ) : FailsAlike (cs.mapM f) (cs.mapM g) := by
  induction cs with
  | nil => exact .ok [] []
  | cons c cs ih =>
    rw [List.mapM_cons, List.mapM_cons]
    exact (h c).bind fun a b => ih.bind fun as bs => .ok (a :: as) (b :: bs)

end FailsAlike

/-- Whatever error there is, it satisfies a condition. -/
def FailsOnly (P : ε → Prop) (x : Except ε α) : Prop := ∀ e, x = .error e → P e

namespace FailsOnly

variable {P : ε → Prop}

theorem ok (a : α) : FailsOnly P (.ok a) := nofun

theorem error {e : ε} (h : P e) : FailsOnly P (.error e : Except ε α) := by
  rintro _ ⟨⟩
  exact h

theorem bind {x : Except ε α} {f : α → Except ε β} (hx : FailsOnly P x)
    (hf : ∀ a, FailsOnly P (f a)) : FailsOnly P (x >>= f) := by
  intro e h
  rcases bind_eq_error_iff.mp h with h | ⟨a, -, h⟩
  · exact hx e h
  · exact hf a e h

theorem map {x : Except ε α} (h : FailsOnly P x) (f : α → β) : FailsOnly P (x.map f) :=
  fun e he => h e (map_eq_error_iff.mp he)

theorem mapError {ε' : Type} {Q : ε' → Prop} {g : ε' → ε} {x : Except ε' α} (h : FailsOnly Q x)
    (hg : ∀ e, Q e → P (g e)) : FailsOnly P (x.mapError g) := by
  cases x with
  | ok a => exact .ok a
  | error e => exact .error (hg e (h e rfl))

theorem mapM {f : α → Except ε β} {as : List α} (h : ∀ a ∈ as, FailsOnly P (f a)) :
    FailsOnly P (as.mapM f) := by
  intro e he
  obtain ⟨a, ha, he⟩ := exists_of_mapM_eq_error he
  exact h a ha e he

theorem foldlM {f : β → α → Except ε β} (h : ∀ b a, FailsOnly P (f b a)) (as : List α) (b : β) :
    FailsOnly P (as.foldlM f b) := by
  induction as generalizing b with
  | nil => exact ok b
  | cons a as ih =>
    rw [List.foldlM_cons]
    exact (h b a).bind ih

end FailsOnly

/-- There is an error, and it satisfies a condition. -/
def FailsWith (P : ε → Prop) (x : Except ε α) : Prop := ∃ e, x = .error e ∧ P e

section FailsWith

variable {P : ε → Prop} {x : Except ε α}

theorem failsWith_error_iff {e : ε} : FailsWith P (.error e : Except ε α) ↔ P e := by
  simp [FailsWith]

theorem not_failsWith_ok (a : α) : ¬ FailsWith P (.ok a) := by
  simp [FailsWith]

theorem failsWith_map_iff {f : α → β} : FailsWith P (x.map f) ↔ FailsWith P x :=
  exists_congr fun _ => and_congr_left' map_eq_error_iff

theorem failsWith_mapError_iff {ε' : Type} {P : ε' → Prop} {g : ε → ε'} :
    FailsWith P (x.mapError g) ↔ FailsWith (fun e => P (g e)) x := by
  cases x with
  | ok a => exact iff_of_false (not_failsWith_ok a) (not_failsWith_ok a)
  | error e =>
    rw [failsWith_error_iff]
    exact failsWith_error_iff

theorem FailsOnly.not_failsWith {Q : ε → Prop} (h : FailsOnly Q x) (hne : ∀ e, Q e → ¬ P e) :
    ¬ FailsWith P x := by
  rintro ⟨e, he, hp⟩
  exact hne e (h e he) hp

/-- After a step that never fails in a way, a run fails in that way only later on. -/
theorem FailsOnly.failsWith_bind_iff {Q : ε → Prop} {f : α → Except ε β} (h : FailsOnly Q x)
    (hne : ∀ e, Q e → ¬ P e) :
    FailsWith P (x >>= f) ↔ ∃ a, x = .ok a ∧ FailsWith P (f a) := by
  constructor
  · rintro ⟨e, he, hp⟩
    rcases bind_eq_error_iff.mp he with he | ⟨a, ha, he⟩
    · exact absurd hp (hne e (h e he))
    · exact ⟨a, ha, e, he, hp⟩
  · rintro ⟨a, ha, e, he, hp⟩
    exact ⟨e, bind_eq_error_iff.mpr (.inr ⟨a, ha, he⟩), hp⟩

end FailsWith

end LocatorQuery.Outcome
