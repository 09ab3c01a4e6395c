/-
# Stateful computations whose exceptions keep the state

An object whose method throws is still there afterwards, with what the method had
changed by then.  So a program over such an object is an `EStateM ε σ` program: it
ends with a value or with an exception, and in a state either way (`final`).

`wp x Q E s` says that `x` started in `s` ends with a value and a state that satisfy
`Q`, or with an exception and a state that satisfy `E`.  It is computed from the text
of a program, one constructor at a time, and what a step found out about the state is
at hand in the rest.  The `run_` lemmas do the same where the result is wanted itself.
-/

import Mathlib.Logic.Basic

universe u v

namespace Persistent

variable {σ ε α β : Type u} {ι : Type v}

/-- The state a computation ends in, normally or not. -/
def final : EStateM.Result ε σ α → σ
  | .ok _ s => s
  | .error _ s => s

/-- A computation without state. -/
def lift (x : Except ε α) : EStateM ε σ α := fun s =>
  match x with
  | .ok a => .ok a s
  | .error e => .error e s

/-! ### Running -/

/-- Running a sequence whose first step succeeds is running the rest from where it ends. -/
theorem run_bind_ok {x : EStateM ε σ α} {f : α → EStateM ε σ β} {s s' : σ} {a : α}
    (h : x s = .ok a s') : (x >>= f) s = f a s' := by
  show EStateM.bind x f s = _
  unfold EStateM.bind
  rw [h]

/-- A sequence stops where its first step throws. -/
theorem run_bind_error {x : EStateM ε σ α} {f : α → EStateM ε σ β} {s s' : σ} {e : ε}
    (h : x s = .error e s') : (x >>= f) s = .error e s' := by
  show EStateM.bind x f s = _
  unfold EStateM.bind
  rw [h]

/-- A sequence that starts by reading the state. -/
theorem run_bind_get (f : σ → EStateM ε σ β) (s : σ) : (get >>= f) s = f s s := rfl

/-- A sequence that starts by changing the state. -/
theorem run_bind_modify (g : σ → σ) (f : PUnit → EStateM ε σ β) (s : σ) :
    (modify g >>= f) s = f ⟨⟩ (g s) := rfl

/-! ### Weakest preconditions -/

/-- `x` started in `s` ends with `Q`, or throws with `E`. -/
def wp (x : EStateM ε σ α) (Q : α → σ → Prop) (E : ε → σ → Prop) (s : σ) : Prop :=
  match x s with
  | .ok a s' => Q a s'
  | .error e s' => E e s'

variable {Q Q' : α → σ → Prop} {E E' : ε → σ → Prop} {x y : EStateM ε σ α} {s : σ}

theorem wp_of_ok {a : α} {s' : σ} (h : x s = .ok a s') : wp x Q E s ↔ Q a s' := by
  unfold wp
  rw [h]

theorem wp_of_error {e : ε} {s' : σ} (h : x s = .error e s') : wp x Q E s ↔ E e s' := by
  unfold wp
  rw [h]

theorem wp_mono (h : wp x Q E s) (hQ : ∀ a s', Q a s' → Q' a s') (hE : ∀ e s', E e s' → E' e s') :
    wp x Q' E' s := by
  unfold wp at h ⊢
  split at h
  · exact hQ _ _ h
  · exact hE _ _ h

theorem wp_and (h : wp x Q E s) (h' : wp x Q' E' s) :
    wp x (fun a s' => Q a s' ∧ Q' a s') (fun e s' => E e s' ∧ E' e s') s := by
  unfold wp at h h' ⊢
  cases hx : x s with
  | ok a s' =>
    rw [hx] at h h'
    exact ⟨h, h'⟩
  | error e s' =>
    rw [hx] at h h'
    exact ⟨h, h'⟩

@[simp] theorem wp_pure (a : α) : wp (pure a : EStateM ε σ α) Q E s ↔ Q a s := Iff.rfl

@[simp] theorem wp_throw (e : ε) : wp (throw e : EStateM ε σ α) Q E s ↔ E e s := Iff.rfl

@[simp] theorem wp_get {Q : σ → σ → Prop} : wp (get : EStateM ε σ σ) Q E s ↔ Q s s := Iff.rfl

@[simp] theorem wp_set {Q : PUnit → σ → Prop} (t : σ) :
    wp (set t : EStateM ε σ PUnit) Q E s ↔ Q ⟨⟩ t := Iff.rfl

@[simp] theorem wp_modify {Q : PUnit → σ → Prop} (g : σ → σ) :
    wp (modify g : EStateM ε σ PUnit) Q E s ↔ Q ⟨⟩ (g s) := Iff.rfl

@[simp] theorem wp_bind {f : α → EStateM ε σ β} {Q : β → σ → Prop} :
    wp (x >>= f) Q E s ↔ wp x (fun a s' => wp (f a) Q E s') E s := by
  cases h : x s with
  | ok a s' =>
    rw [wp_of_ok h]
    unfold wp
    rw [run_bind_ok h]
  | error e s' => rw [wp_of_error h, wp_of_error (run_bind_error h)]

/-- A computation without state gives its value, or throws. -/
theorem wp_lift {c : Except ε α} (hQ : ∀ a, c = .ok a → Q a s) (hE : ∀ e, c = .error e → E e s) :
    wp (lift c : EStateM ε σ α) Q E s := by
  cases c with
  | ok a => exact hQ a rfl
  | error e => exact hE e rfl

@[simp] theorem wp_lift_ok (a : α) : wp (lift (.ok a) : EStateM ε σ α) Q E s ↔ Q a s := Iff.rfl

theorem wp_ite {c : Prop} [Decidable c] (hx : c → wp x Q E s) (hy : ¬ c → wp y Q E s) :
    wp (if c then x else y) Q E s := by
  split
  · exact hx ‹_›
  · exact hy ‹_›

/-- A loop whose turns keep `I`. -/
theorem wp_forM {f : ι → EStateM ε σ PUnit} {I : σ → Prop} {l : List ι}
    (h : ∀ i ∈ l, ∀ s, I s → wp (f i) (fun _ => I) E s) (hs : I s) :
    wp (l.forM f) (fun _ => I) E s := by
  induction l generalizing s with
  | nil => exact hs
  | cons i l ih =>
    show wp (f i >>= fun _ => l.forM f) _ E s
    rw [wp_bind]
    refine wp_mono (h i (List.mem_cons_self ..) s hs) (fun _ s' hs' => ?_) fun _ _ hE => hE
    exact ih (fun j hj => h j (List.mem_cons_of_mem _ hj)) hs'

/-- Where a computation ends, whether or not it throws. -/
theorem wp_final {I : σ → Prop} : wp x (fun _ => I) (fun _ => I) s ↔ I (final (x s)) := by
  unfold wp final
  split <;> rfl

end Persistent
