/-!
# Computations that may fail

A computation in steps returns if each of its steps does (`exists_bind_eq_ok_iff`), and if one step
is taken for each item of a list, the first failure is the one that counts (`mapM_eq_error`).  If
the steps also change a state, an invariant of the state is shown step by step: `Keeps P Q x` says
that wherever `P` holds of the state, `x` fails, or returns something of which `Q` holds and leaves
a state of which `P` holds.
-/

namespace Cyclometry

variable {ε σ α β : Type}

/-- A computation in steps succeeds only if its first step does. -/
theorem exists_of_bind_eq_ok {x : Except ε α} {f : α → Except ε β} {b : β}
    (h : x >>= f = .ok b) : ∃ a, x = .ok a ∧ f a = .ok b := by
  cases x with
  | error e => cases h
  | ok a => exact ⟨a, rfl, h⟩

theorem exists_bind_eq_ok_iff {x : Except ε α} {f : α → Except ε β} :
    (∃ b, x >>= f = .ok b) ↔ ∃ a, x = .ok a ∧ ∃ b, f a = .ok b := by
  constructor
  · rintro ⟨b, h⟩
    obtain ⟨a, ha, hb⟩ := exists_of_bind_eq_ok h
    exact ⟨a, ha, b, hb⟩
  · rintro ⟨a, rfl, b, hb⟩
    exact ⟨b, hb⟩

/-! ## Results -/

theorem toOption_eq_some_iff {x : Except ε α} {a : α} : x.toOption = some a ↔ x = .ok a := by
  cases x <;> simp [Except.toOption]

theorem exists_map_eq_ok_iff {x : Except ε α} {f : α → β} :
    (∃ b, x.map f = .ok b) ↔ ∃ a, x = .ok a := by
  cases x <;> simp [Except.map]

/-! ## The same step for each item of a list -/

theorem mapM_eq_ok {f : α → Except ε β} {g : α → β} {xs : List α}
    (h : ∀ x ∈ xs, f x = .ok (g x)) : xs.mapM f = .ok (xs.map g) := by
  induction xs with
  | nil => rfl
  | cons x xs ih =>
    obtain ⟨hx, hxs⟩ := List.forall_mem_cons.mp h
    rw [List.mapM_cons, hx, ih hxs]
    rfl

/-- All steps return if the row of them does. -/
theorem exists_of_mapM_eq_ok {f : α → Except ε β} {xs : List α} {ys : List β}
    (h : xs.mapM f = .ok ys) : ∀ x ∈ xs, ∃ y, f x = .ok y := by
  induction xs generalizing ys with
  | nil => simp
  | cons x xs ih =>
    rw [List.mapM_cons] at h
    obtain ⟨y, hy, h⟩ := exists_of_bind_eq_ok h
    obtain ⟨rest, hrest, -⟩ := exists_of_bind_eq_ok h
    exact List.forall_mem_cons.mpr ⟨⟨y, hy⟩, ih hrest⟩

/-- The first step that fails is the one that counts. -/
theorem mapM_eq_error {f : α → Except ε β} {before after : List α} {x : α} {e : ε}
    (hbefore : ∀ y ∈ before, ∃ z, f y = .ok z) (hx : f x = .error e) :
    (before ++ x :: after).mapM f = .error e := by
  induction before with
  | nil =>
    rw [List.nil_append, List.mapM_cons, hx]
    rfl
  | cons y before ih =>
    obtain ⟨⟨z, hz⟩, hrest⟩ := List.forall_mem_cons.mp hbefore
    rw [List.cons_append, List.mapM_cons, hz, ih hrest]
    rfl

theorem exists_of_mapM_eq_error {f : α → Except ε β} {xs : List α} {e : ε}
    (h : xs.mapM f = .error e) : ∃ x ∈ xs, f x = .error e := by
  induction xs with
  | nil => cases h
  | cons x xs ih =>
    rw [List.mapM_cons] at h
    cases hx : f x with
    | error e' =>
      rw [hx] at h
      cases h
      exact ⟨x, List.mem_cons_self, hx⟩
    | ok b =>
      rw [hx] at h
      cases hxs : xs.mapM f with
      | error e' =>
        rw [hxs] at h
        cases h
        obtain ⟨y, hy, hfail⟩ := ih hxs
        exact ⟨y, List.mem_cons_of_mem x hy, hfail⟩
      | ok bs =>
        rw [hxs] at h
        cases h

/-- Steps that are taken for their errors alone. -/
theorem forM_eq_mapM (f : α → Except ε PUnit) (xs : List α) :
    xs.forM f = (xs.mapM f).map fun _ => ⟨⟩ := by
  induction xs with
  | nil => rfl
  | cons x xs ih =>
    change (f x >>= fun _ => xs.forM f) = _
    rw [ih, List.mapM_cons]
    cases f x with
    | error e => rfl
    | ok b => cases xs.mapM f <;> rfl

/-- Items that were made one by one are told one by one. -/
theorem mapM_map_eq_some {γ : Type} (kind : β → Option γ) (make : α → β) (view : α → γ)
    (h : ∀ a, kind (make a) = some (view a)) (as : List α) :
    (as.map make).mapM kind = some (as.map view) := by
  induction as with
  | nil => rfl
  | cons a as ih =>
    rw [List.map_cons, List.mapM_cons, h, ih]
    rfl

/-! ## Invariants of a state -/

/-- A computation keeps `P`, and returns only what `Q` holds of. -/
def Keeps (P : σ → Prop) (Q : α → Prop) (x : StateT σ (Except ε) α) : Prop :=
  ∀ s, P s → ∀ a s', x s = .ok (a, s') → P s' ∧ Q a

variable {P : σ → Prop} {Q : α → Prop} {R : β → Prop} {x : StateT σ (Except ε) α}

theorem keeps_pure {a : α} (h : Q a) : Keeps P Q (pure a : StateT σ (Except ε) α) := by
  rintro s hs _ _ ⟨⟩
  exact ⟨hs, h⟩

theorem keeps_throw {e : ε} : Keeps P Q (throw e : StateT σ (Except ε) α) := by
  rintro s hs _ _ ⟨⟩

theorem Keeps.bind {f : α → StateT σ (Except ε) β} (hx : Keeps P Q x)
    (hf : ∀ a, Q a → Keeps P R (f a)) : Keeps P R (x >>= f) := by
  intro s hs b s' h
  obtain ⟨⟨a, s₁⟩, ha, hb⟩ := exists_of_bind_eq_ok (x := x s) h
  obtain ⟨hs₁, hQ⟩ := hx s hs a s₁ ha
  exact hf a hQ s₁ hs₁ b s' hb

/-- The invariant holds of the state that is read. -/
theorem keeps_get : Keeps P P (get : StateT σ (Except ε) σ) := by
  rintro s hs _ _ ⟨⟩
  exact ⟨hs, hs⟩

theorem keeps_set {s : σ} (h : P s) :
    Keeps P (fun _ => True) (set s : StateT σ (Except ε) PUnit) := by
  rintro _ _ _ _ ⟨⟩
  exact ⟨h, trivial⟩

theorem keeps_modify {f : σ → σ} (h : ∀ s, P s → P (f s)) :
    Keeps P (fun _ => True) (modify f : StateT σ (Except ε) PUnit) := by
  rintro s hs _ _ ⟨⟩
  exact ⟨h s hs, trivial⟩

/-- A step that does not depend on the state leaves it as it is. -/
theorem keeps_lift {y : Except ε α} :
    Keeps P (fun a => y = .ok a) (liftM y : StateT σ (Except ε) α) := by
  intro s hs a s' h
  obtain ⟨b, hb, h⟩ := exists_of_bind_eq_ok (x := y) h
  cases h
  exact ⟨hs, hb⟩

theorem keeps_mapM {f : α → StateT σ (Except ε) β} (h : ∀ a, Keeps P R (f a)) (as : List α) :
    Keeps P (fun bs => ∀ b ∈ bs, R b) (as.mapM f) := by
  induction as with
  | nil =>
    rw [List.mapM_nil]
    exact keeps_pure fun b hb => absurd hb List.not_mem_nil
  | cons a as ih =>
    rw [List.mapM_cons]
    refine (h a).bind fun b hb => ih.bind fun bs hbs => keeps_pure fun c hc => ?_
    rcases List.mem_cons.mp hc with rfl | hc
    · exact hb
    · exact hbs c hc

theorem keeps_forM {f : α → StateT σ (Except ε) PUnit} (h : ∀ a, Keeps P (fun _ => True) (f a))
    (as : List α) : Keeps P (fun _ => True) (as.forM f) := by
  induction as with
  | nil => exact keeps_pure trivial
  | cons a as ih => exact (h a).bind fun _ _ => ih

end Cyclometry
