import Mathlib.Logic.Basic

/-!
# Statements over a mutable state

A statement runs to a result or to an error.  An error keeps the state that the
steps before it have reached: only `transaction` puts the first state back.
-/

namespace Relational

/-- A program over the state `σ` that ends with a result or an error, and with a
state in both cases. -/
def Statement (ε σ α : Type) : Type := σ → Except ε α × σ

namespace Statement

variable {ε σ α β γ : Type}

instance : Monad (Statement ε σ) where
  pure a := fun s => (.ok a, s)
  bind x f := fun s =>
    match x s with
    | (.ok a, t) => f a t
    | (.error e, t) => (.error e, t)

/-- The value of a function of the state. -/
def read (f : σ → α) : Statement ε σ α := fun s => (.ok (f s), s)

def fail (e : ε) : Statement ε σ α := fun s => (.error e, s)

/-- The result of `x` as a value.  The state is the one `x` leaves, also after an
error. -/
def attempt (x : Statement ε σ α) : Statement ε σ (Except ε α) := fun s =>
  (.ok (x s).1, (x s).2)

/-- Run `x` and keep its state only when it gives a result. -/
def transaction (x : Statement ε σ α) : Statement ε σ α := fun s =>
  match x s with
  | (.ok a, t) => (.ok a, t)
  | (.error e, _) => (.error e, s)

/-- The same run with another name for its errors. -/
def mapError {ε' : Type} (f : ε → ε') (x : Statement ε σ α) : Statement ε' σ α := fun s =>
  match x s with
  | (.ok a, t) => (.ok a, t)
  | (.error e, t) => (.error (f e), t)

/-- `f` on each element of `xs` in order, up to the first error. -/
def forEach (f : β → Statement ε σ Unit) : List β → Statement ε σ Unit
  | [] => pure ()
  | b :: xs => f b >>= fun _ => forEach f xs

theorem forEach_cons (f : β → Statement ε σ Unit) (b : β) (xs : List β) :
    forEach f (b :: xs) = f b >>= fun _ => forEach f xs := rfl

theorem forEach_map (f : β → Statement ε σ Unit) (g : γ → β) (xs : List γ) :
    forEach f (xs.map g) = forEach (fun c => f (g c)) xs := by
  induction xs with
  | nil => rfl
  | cons c xs ih => rw [List.map_cons, forEach_cons, forEach_cons, ih]

theorem pure_run (a : α) (s : σ) : (pure a : Statement ε σ α) s = (.ok a, s) := rfl

theorem bind_run (x : Statement ε σ α) (f : α → Statement ε σ β) (s : σ) :
    (x >>= f) s = match x s with
      | (.ok a, t) => f a t
      | (.error e, t) => (.error e, t) := rfl

theorem bind_run_ok {x : Statement ε σ α} {f : α → Statement ε σ β} {s t : σ} {a : α}
    (hx : x s = (.ok a, t)) : (x >>= f) s = f a t := by
  rw [bind_run, hx]

theorem bind_run_error {x : Statement ε σ α} {f : α → Statement ε σ β} {s t : σ} {e : ε}
    (hx : x s = (.error e, t)) : (x >>= f) s = (.error e, t) := by
  rw [bind_run, hx]

theorem read_bind_run (f : σ → α) (g : α → Statement ε σ β) (s : σ) :
    (read f >>= g) s = g (f s) s := rfl

theorem pure_bind_run (a : α) (g : α → Statement ε σ β) (s : σ) :
    ((pure a : Statement ε σ α) >>= g) s = g a s := rfl

instance : LawfulMonad (Statement ε σ) := by
  apply LawfulMonad.mk'
  · intro α x
    funext s
    change (match x s with
      | (.ok a, t) => (.ok a, t)
      | (.error e, t) => (.error e, t)) = x s
    rcases x s with ⟨_ | _, _⟩ <;> rfl
  · intro α β a f
    rfl
  · intro α β γ x f g
    funext s
    simp only [bind_run]
    rcases x s with ⟨_ | _, _⟩ <;> rfl
  · intro α β a x
    rfl
  · intro α β x y
    rfl
  · intro α β x y
    rfl
  · intro α β f x
    rfl
  · intro α β f x
    rfl

theorem mapError_ok {ε' : Type} {f : ε → ε'} {x : Statement ε σ α} {s t : σ} {a : α} :
    mapError f x s = (.ok a, t) ↔ x s = (.ok a, t) := by
  unfold mapError
  rcases x s with ⟨e | b, u⟩ <;> simp

theorem mapError_state {ε' : Type} (f : ε → ε') (x : Statement ε σ α) (s : σ) :
    (mapError f x s).2 = (x s).2 := by
  unfold mapError
  rcases x s with ⟨e | a, t⟩ <;> rfl

theorem transaction_ok {x : Statement ε σ α} {s t : σ} {a : α} :
    transaction x s = (.ok a, t) ↔ x s = (.ok a, t) := by
  unfold transaction
  rcases x s with ⟨e | b, u⟩ <;> simp

theorem mapError_run_error {ε' : Type} (f : ε → ε') {x : Statement ε σ α} {s t : σ} {e : ε}
    (hx : x s = (.error e, t)) : mapError f x s = (.error (f e), t) := by
  rw [mapError, hx]

theorem bind_pure_state (x : Statement ε σ α) (f : α → β) (s : σ) :
    ((x >>= fun a => pure (f a)) s).2 = (x s).2 := by
  rw [bind_run]
  rcases x s with ⟨e | a, t⟩ <;> rfl

theorem transaction_error {x : Statement ε σ α} {s t : σ} {e : ε}
    (h : transaction x s = (.error e, t)) : t = s := by
  unfold transaction at h
  rcases hx : x s with ⟨e' | a, u⟩
  · rw [hx] at h
    cases h
    rfl
  · rw [hx] at h
    cases h

theorem exists_ok {run : Except ε α × σ} (h : run.1.isOk = true) :
    ∃ a, run = (.ok a, run.2) := by
  obtain ⟨e | a, s⟩ := run
  · cases h
  · exact ⟨a, rfl⟩

theorem bind_ok {x : Statement ε σ α} {f : α → Statement ε σ β} {s u : σ} {b : β}
    (h : (x >>= f) s = (.ok b, u)) : ∃ a t, x s = (.ok a, t) ∧ f a t = (.ok b, u) := by
  rw [bind_run] at h
  rcases hx : x s with ⟨e | a, t⟩
  · rw [hx] at h
    cases h
  · rw [hx] at h
    exact ⟨a, t, rfl, h⟩

/-- The observation `f` of the state is the same after `x`, whatever its result. -/
def Leaves (f : σ → γ) (x : Statement ε σ α) : Prop := ∀ s, f (x s).2 = f s

namespace Leaves

variable {f : σ → γ}

theorem run {x : Statement ε σ α} (hx : Leaves f x) {s t : σ} {r : Except ε α}
    (h : x s = (r, t)) : f t = f s := by
  have hsame := hx s
  rw [h] at hsame
  exact hsame

theorem pure (a : α) : Leaves f (pure a : Statement ε σ α) := fun _ => rfl

theorem read (g : σ → α) : Leaves f (read g : Statement ε σ α) := fun _ => rfl

theorem fail (e : ε) : Leaves f (fail e : Statement ε σ α) := fun _ => rfl

theorem bind {x : Statement ε σ α} {g : α → Statement ε σ β} (hx : Leaves f x)
    (hg : ∀ a, Leaves f (g a)) : Leaves f (x >>= g) := by
  intro s
  rw [bind_run]
  have h := hx s
  rcases hs : x s with ⟨e | a, t⟩
  · rw [hs] at h
    exact h
  · rw [hs] at h
    exact (hg a t).trans h

theorem forEach {xs : List β} {g : β → Statement ε σ Unit} (hg : ∀ b ∈ xs, Leaves f (g b)) :
    Leaves f (forEach g xs) := by
  induction xs with
  | nil => exact Leaves.pure ()
  | cons b xs ih => exact (hg b (by simp)).bind fun _ => ih fun c hc => hg c (by simp [hc])

theorem ite {p : Prop} [Decidable p] {x y : Statement ε σ α} (hx : Leaves f x)
    (hy : Leaves f y) : Leaves f (if p then x else y) := by
  split
  · exact hx
  · exact hy

theorem attempt {x : Statement ε σ α} (hx : Leaves f x) : Leaves f (attempt x) := hx

theorem mapError {ε' : Type} {g : ε → ε'} {x : Statement ε σ α} (hx : Leaves f x) :
    Leaves f (mapError g x) := by
  intro s
  have h := hx s
  unfold Statement.mapError
  rcases hs : x s with ⟨e | a, t⟩
  · rw [hs] at h
    exact h
  · rw [hs] at h
    exact h

theorem transaction {x : Statement ε σ α} (hx : Leaves f x) : Leaves f (transaction x) := by
  intro s
  have h := hx s
  unfold Statement.transaction
  rcases hs : x s with ⟨e | a, t⟩
  · rfl
  · rw [hs] at h
    exact h

end Leaves

/-- From related states `x` gives the same result and related states. -/
def Respects (R : σ → σ → Prop) (x : Statement ε σ α) : Prop :=
  ∀ s t, R s t → (x s).1 = (x t).1 ∧ R (x s).2 (x t).2

namespace Respects

variable {R : σ → σ → Prop}

theorem pure (a : α) : Respects R (pure a : Statement ε σ α) := fun _ _ h => ⟨rfl, h⟩

theorem read {g : σ → α} (hg : ∀ s t, R s t → g s = g t) :
    Respects R (read g : Statement ε σ α) :=
  fun s t h => ⟨congrArg Except.ok (hg s t h), h⟩

theorem fail (e : ε) : Respects R (fail e : Statement ε σ α) := fun _ _ h => ⟨rfl, h⟩

theorem bind {x : Statement ε σ α} {g : α → Statement ε σ β} (hx : Respects R x)
    (hg : ∀ a, Respects R (g a)) : Respects R (x >>= g) := by
  intro s t h
  obtain ⟨hres, hst⟩ := hx s t h
  rw [bind_run, bind_run]
  rcases hs : x s with ⟨e | a, s'⟩ <;> rcases ht : x t with ⟨e' | a', t'⟩ <;>
    rw [hs, ht] at hres hst <;> simp only [Except.error.injEq, Except.ok.injEq, reduceCtorEq]
      at hres hst
  · exact ⟨congrArg Except.error hres, hst⟩
  · subst hres
    exact hg a s' t' hst

theorem forEach {xs : List β} {g : β → Statement ε σ Unit} (hg : ∀ b ∈ xs, Respects R (g b)) :
    Respects R (forEach g xs) := by
  induction xs with
  | nil => exact Respects.pure ()
  | cons b xs ih => exact (hg b (by simp)).bind fun _ => ih fun c hc => hg c (by simp [hc])

theorem ite {p : Prop} [Decidable p] {x y : Statement ε σ α} (hx : Respects R x)
    (hy : Respects R y) : Respects R (if p then x else y) := by
  split
  · exact hx
  · exact hy

theorem transaction {x : Statement ε σ α} (hx : Respects R x) :
    Respects R (transaction x) := by
  intro s t h
  obtain ⟨hres, hst⟩ := hx s t h
  unfold Statement.transaction
  rcases hs : x s with ⟨e | a, s'⟩ <;> rcases ht : x t with ⟨e' | a', t'⟩ <;>
    rw [hs, ht] at hres hst <;> simp only [Except.error.injEq, Except.ok.injEq, reduceCtorEq]
      at hres hst
  · exact ⟨congrArg Except.error hres, h⟩
  · exact ⟨congrArg Except.ok hres, hst⟩

end Respects

end Statement
end Relational
