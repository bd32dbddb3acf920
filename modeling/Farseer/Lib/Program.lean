import Mathlib

/-! Programs that change a state and may throw. An `EStateM` keeps the state it had when it
threw, as an imperative program does, so that a handler sees what was done before. The
lemmas here say how such programs compose. -/

namespace Program

variable {ε σ α β : Type} {x : EStateM ε σ α} {f : α → EStateM ε σ β} {s t : σ}

theorem bind_ok {a : α} (h : x s = .ok a t) : (x >>= f) s = f a t := by
  change EStateM.bind x f s = f a t
  rw [EStateM.bind, h]

theorem bind_error {e : ε} (h : x s = .error e t) : (x >>= f) s = .error e t := by
  change EStateM.bind x f s = .error e t
  rw [EStateM.bind, h]

/-- A sequence depends on its first part only through the run from the state it starts in. -/
theorem bind_eq_bind {y : EStateM ε σ α} (h : x s = y s) : (x >>= f) s = (y >>= f) s := by
  change EStateM.bind x f s = EStateM.bind y f s
  rw [EStateM.bind, h, EStateM.bind]

/-- A sequence that returned ran both its parts. -/
theorem bind_eq_ok {b : β} (h : (x >>= f) s = .ok b t) : ∃ a u, x s = .ok a u ∧ f a u = .ok b t := by
  cases hx : x s with
  | ok a u => exact ⟨a, u, rfl, (bind_ok hx).symm.trans h⟩
  | error e u =>
    rw [bind_error hx] at h
    cases h

/-- A sequence that threw did so in one of its parts. -/
theorem bind_eq_error {e : ε} (h : (x >>= f) s = .error e t) :
    x s = .error e t ∨ ∃ a u, x s = .ok a u ∧ f a u = .error e t := by
  cases hx : x s with
  | ok a u => exact .inr ⟨a, u, rfl, (bind_ok hx).symm.trans h⟩
  | error e' u =>
    obtain ⟨rfl, rfl⟩ : e' = e ∧ u = t := by simpa [bind_error hx] using h
    exact .inl rfl

/-- Run a program on a part of the state. -/
def zoom {τ : Type} (view : σ → τ) (update : τ → σ → σ) (x : EStateM ε τ α) : EStateM ε σ α := fun s =>
  match x (view s) with
  | .ok a t => .ok a (update t s)
  | .error e t => .error e (update t s)

/-- `SCOPE_FAILURE`: run the cleanup if the rest of the scope throws, and go on throwing. -/
def scopeFailure (cleanup : σ → σ) (rest : EStateM ε σ α) : EStateM ε σ α := fun s =>
  match rest s with
  | .ok a t => .ok a t
  | .error e t => .error e (cleanup t)

/-- `SCOPE_EXIT`: run the cleanup however the rest of the scope ends. -/
def scopeExit (cleanup : σ → σ) (rest : EStateM ε σ α) : EStateM ε σ α := fun s =>
  match rest s with
  | .ok a t => .ok a (cleanup t)
  | .error e t => .error e (cleanup t)

theorem scopeExit_ok {cleanup : σ → σ} {a : α} (h : x s = .ok a t) :
    scopeExit cleanup x s = .ok a (cleanup t) := by
  rw [scopeExit, h]

theorem scopeExit_error {cleanup : σ → σ} {e : ε} (h : x s = .error e t) :
    scopeExit cleanup x s = .error e (cleanup t) := by
  rw [scopeExit, h]

/-- The state in which a program ended, however it ended. -/
def final : EStateM.Result ε σ α → σ
  | .ok _ t => t
  | .error _ t => t

/-- A handler that swallows every exception. -/
def catchAll (x : EStateM ε σ Unit) : EStateM ε σ Unit := fun s => .ok () (final (x s))

/-- A handler that runs after every exception, from the state that the exception left. -/
def tryCatchAll (x handler : EStateM ε σ α) : EStateM ε σ α := fun s =>
  match x s with
  | .ok a t => .ok a t
  | .error _ t => handler t

theorem tryCatchAll_eq {x y handler : EStateM ε σ α} (h : x s = y t) :
    tryCatchAll x handler s = tryCatchAll y handler t := by
  rw [tryCatchAll, h, tryCatchAll]

/-- Run a fallible function that has no effect. -/
def lift (r : Except ε α) : EStateM ε σ α := fun s =>
  match r with
  | .ok a => .ok a s
  | .error e => .error e s

@[simp] theorem lift_ok (a : α) : (lift (.ok a) : EStateM ε σ α) s = .ok a s := rfl

@[simp] theorem lift_error (e : ε) : (lift (.error e) : EStateM ε σ α) s = .error e s := rfl

@[simp] theorem pure_apply (a : α) : (pure a : EStateM ε σ α) s = .ok a s := rfl

@[simp] theorem throw_apply (e : ε) : (throw e : EStateM ε σ α) s = .error e s := rfl

@[simp] theorem get_apply : (get : EStateM ε σ σ) s = .ok s s := rfl

@[simp] theorem set_apply (t : σ) : (set t : EStateM ε σ PUnit) s = .ok ⟨⟩ t := rfl

@[simp] theorem modify_apply (g : σ → σ) : (modify g : EStateM ε σ PUnit) s = .ok ⟨⟩ (g s) := rfl

/-- However it ends, the run of `x` from `s` leads to a state that `R` allows after `s`. -/
def Within (R : σ → σ → Prop) (x : EStateM ε σ α) (s : σ) : Prop := R s (final (x s))

namespace Within

variable {R : σ → σ → Prop}

theorem of_ok {a : α} (h : x s = .ok a t) (hR : R s t) : Within R x s := by
  rw [Within, h]
  exact hR

theorem of_error {e : ε} (h : x s = .error e t) (hR : R s t) : Within R x s := by
  rw [Within, h]
  exact hR

theorem ok {a : α} (h : Within R x s) (hx : x s = .ok a t) : R s t := by
  rw [Within, hx] at h
  exact h

theorem error {e : ε} (h : Within R x s) (hx : x s = .error e t) : R s t := by
  rw [Within, hx] at h
  exact h

theorem scopeExit {cleanup : σ → σ} (h : R s (cleanup (final (x s)))) :
    Within R (Program.scopeExit cleanup x) s := by
  unfold Within Program.scopeExit
  cases hx : x s with
  | ok a t => rwa [hx] at h
  | error e t => rwa [hx] at h

theorem scopeFailure [IsPreorder σ R] {cleanup : σ → σ} (h : Within R x s) (hcleanup : ∀ t, R t (cleanup t)) :
    Within R (Program.scopeFailure cleanup x) s := by
  unfold Within Program.scopeFailure
  cases hx : x s with
  | ok a t => exact h.ok hx
  | error e t => exact trans_of R (h.error hx) (hcleanup t)

theorem modify {g : σ → σ} (h : R s (g s)) : Within R (modify g : EStateM ε σ PUnit) s := h

theorem get_bind {f : σ → EStateM ε σ β} (h : Within R (f s) s) : Within R (get >>= f) s := by
  rw [Within, bind_ok get_apply]
  exact h

variable [IsPreorder σ R]

theorem pure (a : α) : Within R (pure a : EStateM ε σ α) s := refl_of R s

theorem throw (e : ε) : Within R (throw e : EStateM ε σ α) s := refl_of R s

/-- The second part starts where the first returned. -/
theorem bind (hx : Within R x s) (hf : ∀ a t, x s = .ok a t → Within R (f a) t) : Within R (x >>= f) s := by
  cases h : x s with
  | ok a t =>
    rw [Within, bind_ok h]
    exact trans_of R (hx.ok h) (hf a t h)
  | error e t => exact of_error (bind_error h) (hx.error h)

theorem tryCatchAll {handler : EStateM ε σ α} (hx : Within R x s)
    (hhandler : ∀ e t, x s = .error e t → Within R handler t) : Within R (Program.tryCatchAll x handler) s := by
  unfold Within Program.tryCatchAll
  cases h : x s with
  | ok a t => exact hx.ok h
  | error e t => exact trans_of R (hx.error h) (hhandler e t h)

/-- What comes after the first part, with a handler around both. -/
theorem tryCatchAll_after {handler : EStateM ε σ β} (hf : ∀ a t, x s = .ok a t → Within R (f a) t)
    (hhandler : ∀ t, Within R handler t) : R (final (x s)) (final (Program.tryCatchAll (x >>= f) handler s)) := by
  unfold Program.tryCatchAll
  cases h : x s with
  | error e t =>
    rw [bind_error h]
    exact hhandler t
  | ok a t =>
    rw [bind_ok h]
    have hrest := hf a t h
    cases hlast : f a t with
    | ok b u => exact hrest.ok hlast
    | error e u => exact trans_of R (hrest.error hlast) (hhandler u)

end Within

/-! A part of a sequence may do what `R` does not allow by itself but together with what came
before, from `s₀` on. -/

section Parts

variable {R : σ → σ → Prop} {s₀ : σ}

theorem after_ok {a : α} (hx : x s = .ok a t) (h : R s₀ (final (f a t))) : R s₀ (final ((x >>= f) s)) := by
  rw [bind_ok hx]
  exact h

theorem after_error {e : ε} (hx : x s = .error e t) (h : R s₀ t) : R s₀ (final ((x >>= f) s)) := by
  rw [bind_error hx]
  exact h

theorem after [IsPreorder σ R] (hx : R s₀ (final (x s))) (hf : ∀ a t, x s = .ok a t → Within R (f a) t) :
    R s₀ (final ((x >>= f) s)) := by
  cases h : x s with
  | ok a t =>
    rw [h] at hx
    exact after_ok h (trans_of R hx (hf a t h))
  | error e t =>
    rw [h] at hx
    exact after_error h hx

end Parts

/-- The run of `x` from `s` returns as `Q` says, or throws in a state that `E` allows. -/
def Ends (Q : α → σ → Prop) (E : σ → Prop) (x : EStateM ε σ α) (s : σ) : Prop :=
  match x s with
  | .ok a t => Q a t
  | .error _ t => E t

namespace Ends

variable {Q : α → σ → Prop} {E : σ → Prop}

theorem of_ok {a : α} (h : x s = .ok a t) (hQ : Q a t) : Ends Q E x s := by
  rw [Ends, h]
  exact hQ

theorem of_error {e : ε} (h : x s = .error e t) (hE : E t) : Ends Q E x s := by
  rw [Ends, h]
  exact hE

theorem ok {a : α} (h : Ends Q E x s) (hx : x s = .ok a t) : Q a t := by
  rw [Ends, hx] at h
  exact h

theorem error {e : ε} (h : Ends Q E x s) (hx : x s = .error e t) : E t := by
  rw [Ends, hx] at h
  exact h

theorem of_within {R : σ → σ → Prop} (h : Within R x s) (hQ : ∀ a t, R s t → Q a t) (hE : ∀ t, R s t → E t) :
    Ends Q E x s := by
  cases hx : x s with
  | ok a t => exact of_ok hx (hQ a t (h.ok hx))
  | error e t => exact of_error hx (hE t (h.error hx))

theorem bind {Q' : β → σ → Prop} (hx : Ends Q E x s)
    (hf : ∀ a t, x s = .ok a t → Q a t → Ends Q' E (f a) t) : Ends Q' E (x >>= f) s := by
  cases h : x s with
  | ok a t =>
    rw [Ends, Program.bind_ok h]
    exact hf a t h (hx.ok h)
  | error e t => exact of_error (Program.bind_error h) (hx.error h)

theorem bind_ok {Q' : β → σ → Prop} {a : α} (hx : x s = .ok a t) (h : Ends Q' E (f a) t) :
    Ends Q' E (x >>= f) s := by
  rw [Ends, Program.bind_ok hx]
  exact h

theorem bind_error {Q' : β → σ → Prop} {e : ε} (hx : x s = .error e t) (h : E t) : Ends Q' E (x >>= f) s :=
  of_error (Program.bind_error hx) h

theorem get_bind {Q' : β → σ → Prop} {f : σ → EStateM ε σ β} (h : Ends Q' E (f s) s) :
    Ends Q' E (get >>= f) s := bind_ok get_apply h

/-- What is known only of a return is known of the last part. -/
theorem last {Q' : β → σ → Prop} (hf : ∀ a t, x s = .ok a t → Ends Q' (fun _ => True) (f a) t) :
    Ends Q' (fun _ => True) (x >>= f) s := by
  cases h : x s with
  | ok a t =>
    rw [Ends, Program.bind_ok h]
    exact hf a t h
  | error e t => exact of_error (Program.bind_error h) trivial

theorem mono {Q' : α → σ → Prop} {E' : σ → Prop} (h : Ends Q E x s) (hQ : ∀ a t, Q a t → Q' a t)
    (hE : ∀ t, E t → E' t) : Ends Q' E' x s := by
  cases hx : x s with
  | ok a t => exact of_ok hx (hQ a t (h.ok hx))
  | error e t => exact of_error hx (hE t (h.error hx))

theorem scopeFailure {E' : σ → Prop} {cleanup : σ → σ} (h : Ends Q E' x s) (hcleanup : ∀ t, E' t → E (cleanup t)) :
    Ends Q E (Program.scopeFailure cleanup x) s := by
  unfold Ends Program.scopeFailure
  cases hx : x s with
  | ok a t => exact h.ok hx
  | error e t => exact hcleanup t (h.error hx)

/-- A handler makes good what an exception left undone. -/
theorem tryCatchAll {P : σ → Prop} {handler : EStateM ε σ α} (hx : Ends (fun _ => P) E x s)
    (hhandler : ∀ t, E t → P (final (handler t))) : P (final (Program.tryCatchAll x handler s)) := by
  unfold Program.tryCatchAll
  cases h : x s with
  | ok a t => exact hx.ok h
  | error e t => exact hhandler t (hx.error h)

end Ends

/-- Two runs end alike: both return the same value or both throw, in states that `R` relates. -/
def Alike {τ : Type} (R : σ → τ → Prop) (x : EStateM ε σ α) (y : EStateM ε τ α) (s : σ) (t : τ) : Prop :=
  match x s, y t with
  | .ok a s', .ok b t' => a = b ∧ R s' t'
  | .error _ s', .error _ t' => R s' t'
  | _, _ => False

namespace Alike

variable {τ : Type} {R : σ → τ → Prop} {y : EStateM ε τ α} {g : α → EStateM ε τ β} {s' : σ} {t t' : τ}

theorem of_ok {a : α} (hx : x s = .ok a s') (hy : y t = .ok a t') (hR : R s' t') : Alike R x y s t := by
  rw [Alike, hx, hy]
  exact ⟨rfl, hR⟩

theorem of_error {e e' : ε} (hx : x s = .error e s') (hy : y t = .error e' t') (hR : R s' t') :
    Alike R x y s t := by
  rw [Alike, hx, hy]
  exact hR

/-- The two ways in which both runs can end. -/
theorem cases (h : Alike R x y s t) :
    (∃ a s' t', x s = .ok a s' ∧ y t = .ok a t' ∧ R s' t') ∨
      ∃ e e' s' t', x s = .error e s' ∧ y t = .error e' t' ∧ R s' t' := by
  unfold Alike at h
  cases hx : x s with
  | ok a s' =>
    cases hy : y t with
    | ok b t' =>
      rw [hx, hy] at h
      obtain ⟨rfl, hR⟩ := h
      exact .inl ⟨a, s', t', rfl, rfl, hR⟩
    | error e t' =>
      rw [hx, hy] at h
      exact h.elim
  | error e s' =>
    cases hy : y t with
    | ok b t' =>
      rw [hx, hy] at h
      exact h.elim
    | error e' t' =>
      rw [hx, hy] at h
      exact .inr ⟨e, e', s', t', rfl, rfl, h⟩

theorem final (h : Alike R x y s t) : R (Program.final (x s)) (Program.final (y t)) := by
  rcases h.cases with ⟨a, s', t', hx, hy, hR⟩ | ⟨e, e', s', t', hx, hy, hR⟩ <;>
  · rw [hx, hy]
    exact hR

theorem pure (a : α) (h : R s t) : Alike R (pure a : EStateM ε σ α) (pure a) s t := ⟨rfl, h⟩

theorem throw (e : ε) (h : R s t) : Alike R (throw e : EStateM ε σ α) (throw e) s t := h

theorem modify {f : σ → σ} {g : τ → τ} (h : R (f s) (g t)) :
    Alike R (modify f : EStateM ε σ PUnit) (modify g) s t := ⟨rfl, h⟩

theorem lift (r : Except ε α) (h : R s t) : Alike R (lift r) (lift r) s t := by
  cases r with
  | ok a => exact ⟨rfl, h⟩
  | error e => exact h

/-- The second parts run on what the first parts returned. -/
theorem bind {R' : σ → τ → Prop} (h : Alike R x y s t)
    (hrest : ∀ a s' t', R s' t' → Alike R' (f a) (g a) s' t') (herror : ∀ s' t', R s' t' → R' s' t') :
    Alike R' (x >>= f) (y >>= g) s t := by
  rcases h.cases with ⟨a, s', t', hx, hy, hR⟩ | ⟨e, e', s', t', hx, hy, hR⟩
  · rw [Alike, bind_ok hx, bind_ok hy]
    exact hrest a s' t' hR
  · exact of_error (bind_error hx) (bind_error hy) (herror s' t' hR)

theorem get_bind {f : σ → EStateM ε σ β} {g : τ → EStateM ε τ β} (h : Alike R (f s) (g t) s t) :
    Alike R (get >>= f) (get >>= g) s t := by
  rw [Alike, bind_ok get_apply, bind_ok get_apply]
  exact h

theorem scopeExit {R' : σ → τ → Prop} {cleanup : σ → σ} {cleanup' : τ → τ} (h : Alike R x y s t)
    (hcleanup : ∀ s t, R s t → R' (cleanup s) (cleanup' t)) :
    Alike R' (Program.scopeExit cleanup x) (Program.scopeExit cleanup' y) s t := by
  rcases h.cases with ⟨a, s', t', hx, hy, hR⟩ | ⟨e, e', s', t', hx, hy, hR⟩
  · exact of_ok (scopeExit_ok hx) (scopeExit_ok hy) (hcleanup s' t' hR)
  · exact of_error (scopeExit_error hx) (scopeExit_error hy) (hcleanup s' t' hR)

end Alike

end Program
