import Mathlib.Order.Defs.Unbundled
import Mathlib.Order.Basic
import Stophammer.Relational.Write

/-!
# Relations between the first and the last state

A statement steps along a preorder when the state after it, with a result or with an error,
is above the state before it.  An invariant is the preorder of the states that keep it.
-/

namespace Relational

namespace Statement

variable {ε σ α β γ : Type}

/-- The state after `x` is in relation to the state before it, whatever the result. -/
def Steps (R : σ → σ → Prop) (x : Statement ε σ α) : Prop := ∀ s, R s (x s).2

/-- `I` holds of `t` if it holds of `s`. -/
def Keeps (I : σ → Prop) (s t : σ) : Prop := I s → I t

instance (I : σ → Prop) : IsPreorder σ (Keeps I) where
  refl _ := id
  trans _ _ _ hst htu hs := htu (hst hs)

/-- What `f` sees stays, or it ends in `C`. -/
def EndsIn (f : σ → γ) (C : γ → Prop) (s t : σ) : Prop := f t = f s ∨ C (f t)

instance (f : σ → γ) (C : γ → Prop) : IsPreorder σ (EndsIn f C) where
  refl _ := .inl rfl
  trans _ _ _ hst htu := by
    rcases htu with hsame | hC
    · exact hst.imp hsame.trans fun hC => hsame ▸ hC
    · exact .inr hC

/-- The mark does not go down, and what `f` sees stays while the mark stays. -/
def Marks {μ : Type} [PartialOrder μ] (mark : σ → μ) (f : σ → γ) (s t : σ) : Prop :=
  mark s ≤ mark t ∧ (mark t = mark s → f t = f s)

section Marks

variable {μ : Type} [PartialOrder μ] {mark : σ → μ} {f : σ → γ} {s t : σ}

instance : IsPreorder σ (Marks mark f) where
  refl _ := ⟨le_rfl, fun _ => rfl⟩
  trans _ _ _ hst htu := by
    refine ⟨hst.1.trans htu.1, fun hsame => ?_⟩
    have hfirst := le_antisymm (hsame ▸ htu.1) hst.1
    exact (htu.2 (hsame.trans hfirst.symm)).trans (hst.2 hfirst)

theorem Marks.of_lt (h : mark s < mark t) : Marks mark f s t :=
  ⟨h.le, fun hsame => absurd hsame h.ne'⟩

theorem Marks.of_same (h : mark s ≤ mark t) (hf : f t = f s) : Marks mark f s t :=
  ⟨h, fun _ => hf⟩

end Marks

namespace Steps

variable {R : σ → σ → Prop} [IsPreorder σ R]

omit [IsPreorder σ R] in
theorem run {x : Statement ε σ α} (hx : Steps R x) {s t : σ} {r : Except ε α}
    (h : x s = (r, t)) : R s t := by
  have hstep := hx s
  rw [h] at hstep
  exact hstep

theorem pure (a : α) : Steps R (pure a : Statement ε σ α) := fun s => refl_of R s

theorem read (f : σ → α) : Steps R (read f : Statement ε σ α) := fun s => refl_of R s

theorem fail (e : ε) : Steps R (fail e : Statement ε σ α) := fun s => refl_of R s

theorem after {x : Statement ε σ α} {f : α → Statement ε σ β} {s : σ} (hx : R s (x s).2)
    (hf : ∀ a t, x s = (.ok a, t) → R t (f a t).2) : R s ((x >>= f) s).2 := by
  rw [bind_run]
  rcases hs : x s with ⟨e | a, t⟩
  · rw [hs] at hx
    exact hx
  · rw [hs] at hx
    exact trans_of R hx (hf a t hs)

theorem bind {x : Statement ε σ α} {f : α → Statement ε σ β} (hx : Steps R x)
    (hf : ∀ a, Steps R (f a)) : Steps R (x >>= f) := fun s => after (hx s) fun a t _ => hf a t

theorem read_then {f : σ → β} {g : β → Statement ε σ α} (hg : ∀ b, Steps R (g b)) :
    Steps R (Statement.read f >>= g) := (Steps.read f).bind hg

omit [IsPreorder σ R] in
theorem read_bind {f : σ → β} {g : β → Statement ε σ α} (hg : ∀ s, R s (g (f s) s).2) :
    Steps R (Statement.read f >>= g) := hg

theorem forEach {f : β → Statement ε σ Unit} {xs : List β} (hf : ∀ b ∈ xs, Steps R (f b)) :
    Steps R (forEach f xs) := by
  induction xs with
  | nil => exact Steps.pure ()
  | cons b xs ih => exact (hf b (by simp)).bind fun _ => ih fun c hc => hf c (by simp [hc])

omit [IsPreorder σ R] in
theorem ite {p : Prop} [Decidable p] {x y : Statement ε σ α} (hx : Steps R x)
    (hy : Steps R y) : Steps R (if p then x else y) := by
  split
  · exact hx
  · exact hy

omit [IsPreorder σ R] in
theorem mapError {ε' : Type} {f : ε → ε'} {x : Statement ε σ α} (hx : Steps R x) :
    Steps R (mapError f x) := by
  intro s
  rw [mapError_state]
  exact hx s

theorem transaction_at {x : Statement ε σ α} {s : σ} (hx : R s (x s).2) :
    R s (Statement.transaction x s).2 := by
  unfold Statement.transaction
  rcases hs : x s with ⟨e | a, t⟩
  · exact refl_of R s
  · rw [hs] at hx
    exact hx

theorem transaction {x : Statement ε σ α} (hx : Steps R x) : Steps R (transaction x) :=
  fun s => transaction_at (hx s)

theorem transaction_ok_at {x : Statement ε σ α} {s : σ} (hx : ∀ a t, x s = (.ok a, t) → R s t) :
    R s (Statement.transaction x s).2 := by
  rcases hs : Statement.transaction x s with ⟨e | a, t⟩
  · rw [transaction_error hs]
    exact refl_of R s
  · exact hx a t (Statement.transaction_ok.mp hs)

theorem transaction_ok {x : Statement ε σ α} (hx : ∀ s a t, x s = (.ok a, t) → R s t) :
    Steps R (Statement.transaction x) := fun s => transaction_ok_at (hx s)

omit [IsPreorder σ R] in
theorem mapError_at {ε' : Type} {f : ε → ε'} {x : Statement ε σ α} {s : σ}
    (hx : R s (x s).2) : R s (Statement.mapError f x s).2 := by
  rw [mapError_state]
  exact hx

omit [IsPreorder σ R] in
theorem of_leaves {f : σ → γ} {x : Statement ε σ α} (hx : Leaves f x)
    (hR : ∀ s t, f t = f s → R s t) : Steps R x := fun s => hR s _ (hx s)

omit [IsPreorder σ R] in
theorem mono {R' : σ → σ → Prop} {x : Statement ε σ α} (hx : Steps R x)
    (h : ∀ s t, R s t → R' s t) : Steps R' x := fun s => h s _ (hx s)

end Steps
end Statement

open Statement

variable {S : Schema} {ts : List S.Table} {R : Database S → Database S → Prop} {α : Type}

theorem Writes.steps {us : List S.Table} {x : Query S α} (hx : Writes us x)
    (hdisjoint : ∀ t ∈ ts, t ∉ us) (hR : ∀ d e : Database S, (∀ t ∈ ts, e t = d t) → R d e) :
    Steps R x := fun d => hR d _ fun t ht => hx t (hdisjoint t ht) d

/-- The rows of the tables outside `ts` are the same. -/
def SameOutside (ts : List S.Table) (d e : Database S) : Prop := ∀ u, u ∉ ts → e u = d u

instance (ts : List S.Table) : IsPreorder (Database S) (SameOutside ts) where
  refl _ _ _ := rfl
  trans _ _ _ hde hef u hu := (hef u hu).trans (hde u hu)

theorem SameOutside.mono {us : List S.Table} (h : ts ⊆ us) {d e : Database S}
    (hde : SameOutside ts d e) : SameOutside us d e := fun u hu => hde u fun ht => hu (h ht)

theorem Writes.sameOutside {us : List S.Table} {x : Query S α} (hx : Writes ts x) (h : ts ⊆ us) :
    Steps (SameOutside us) x := fun d u hu => hx u (fun ht => hu (h ht)) d

theorem Statement.Steps.of_sameOutside {ε : Type} {us : List S.Table}
    {x : Statement ε (Database S) α} (hx : Steps (SameOutside us) x)
    (hdisjoint : ∀ t ∈ ts, t ∉ us) (hR : ∀ d e : Database S, (∀ t ∈ ts, e t = d t) → R d e) :
    Steps R x := fun d => hR d _ fun t ht => hx d t (hdisjoint t ht)

/-- New rows are at the end of the table `t`, all with `P`, and beside `ts` the tables are the same. -/
structure ExtendsOnly (ts : List S.Table) (t : S.Table) (P : S.Row t → Prop)
    (d e : Database S) : Prop where
  frame : SameOutside ts d e
  appended : ∃ rows, e t = d t ++ rows ∧ ∀ r ∈ rows, P r

namespace ExtendsOnly

variable {t : S.Table} {P : S.Row t → Prop}

instance : IsPreorder (Database S) (ExtendsOnly ts t P) where
  refl d := ⟨refl_of _ d, [], (List.append_nil _).symm, fun _ hr => absurd hr List.not_mem_nil⟩
  trans d e f hde hef := by
    obtain ⟨rows, hrows, hall⟩ := hde.appended
    obtain ⟨rows', hrows', hall'⟩ := hef.appended
    refine ⟨trans_of _ hde.frame hef.frame, rows ++ rows', ?_, fun r hr => ?_⟩
    · rw [hrows', hrows, List.append_assoc]
    · exact (List.mem_append.mp hr).elim (hall r) (hall' r)

theorem of_writes {us : List S.Table} {x : Query S α} (hx : Writes us x) (hus : us ⊆ ts)
    (ht : t ∉ us) : Steps (ExtendsOnly ts t P) x := fun d =>
  ⟨hx.sameOutside hus d, [], (hx t ht d).trans (List.append_nil _).symm,
    fun _ hr => absurd hr List.not_mem_nil⟩

theorem mono {us : List S.Table} {Q : S.Row t → Prop} {d e : Database S}
    (h : ExtendsOnly ts t P d e) (hts : ts ⊆ us) (hPQ : ∀ r, P r → Q r) :
    ExtendsOnly us t Q d e := by
  obtain ⟨rows, hrows, hall⟩ := h.appended
  exact ⟨h.frame.mono hts, rows, hrows, fun r hr => hPQ r (hall r hr)⟩

end ExtendsOnly

end Relational
