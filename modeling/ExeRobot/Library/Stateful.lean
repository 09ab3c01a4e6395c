/-
# Stateful computations that may fail

A computation with a state `σ` and exceptions `ε` is a `StateT σ (Except ε)`
program.  The rules here say what running one from a state gives, one
constructor at a time, so that a proof about a program follows its text:
`run_bind_ok` and `run_bind_error` execute the first step of a sequence,
`bind_eq_ok` takes a finished run of a sequence apart, and `mapM_cons_ok` does the
same for a loop over a list, from what one turn does.
-/

import Mathlib.Control.Monad.Basic

universe u v w

namespace Stateful

variable {σ : Type u} {ε : Type v} {α β : Type u} {ι : Type w}

@[simp] theorem run_pure (a : α) (s : σ) : (pure a : StateT σ (Except ε) α) s = .ok (a, s) := rfl

/-- Running a sequence whose first step succeeds is running the rest from where it ends. -/
theorem run_bind_ok {x : StateT σ (Except ε) α} {f : α → StateT σ (Except ε) β} {s s' : σ} {a : α}
    (h : x s = .ok (a, s')) : (x >>= f) s = f a s' := by
  simp only [bind, StateT.bind, Except.bind, h]

/-- A sequence fails where its first step fails. -/
theorem run_bind_error {x : StateT σ (Except ε) α} {f : α → StateT σ (Except ε) β} {s : σ} {e : ε}
    (h : x s = .error e) : (x >>= f) s = .error e := by
  simp only [bind, StateT.bind, Except.bind, h]

/-- A sequence that starts by reading the state. -/
theorem run_bind_get (f : σ → StateT σ (Except ε) β) (s : σ) : (get >>= f) s = f s s := rfl

/-- A sequence that starts by changing the state. -/
theorem run_bind_modify (g : σ → σ) (f : PUnit → StateT σ (Except ε) β) (s : σ) :
    (modify g >>= f) s = f ⟨⟩ (g s) := rfl

/-- A finished sequence is a finished first step and a finished rest. -/
theorem bind_eq_ok {x : StateT σ (Except ε) α} {f : α → StateT σ (Except ε) β} {s t : σ} {b : β} :
    (x >>= f) s = .ok (b, t) ↔ ∃ a s', x s = .ok (a, s') ∧ f a s' = .ok (b, t) := by
  constructor
  · intro h
    cases hx : x s with
    | error e => rw [run_bind_error hx] at h; cases h
    | ok r => exact ⟨r.1, r.2, rfl, by rwa [run_bind_ok hx] at h⟩
  · rintro ⟨a, s', hx, hf⟩
    rw [run_bind_ok hx, hf]

/-- A computation without state, run in a state. -/
@[simp] theorem run_lift (x : Except ε α) (s : σ) :
    (liftM x : StateT σ (Except ε) α) s = x.map fun a => (a, s) := by
  cases x <;> rfl

/-- A sequence whose first step does not look at the state. -/
theorem run_bind_lift (x : Except ε α) (f : α → StateT σ (Except ε) β) (s : σ) :
    ((liftM x : StateT σ (Except ε) α) >>= f) s = x.bind fun a => f a s := by
  cases x with
  | error e => exact run_bind_error (by simp [Except.map])
  | ok a => exact run_bind_ok (by simp [Except.map])

/-- The results of a loop that collects them, one turn after the other. -/
theorem mapM_cons_ok {f : ι → StateT σ (Except ε) α} {i : ι} {l : List ι} {s t : σ} {bs : List α} :
    (i :: l).mapM f s = .ok (bs, t) ↔
      ∃ b s' bs', f i s = .ok (b, s') ∧ l.mapM f s' = .ok (bs', t) ∧ bs = b :: bs' := by
  rw [List.mapM_cons, bind_eq_ok]
  refine exists_congr fun b => exists_congr fun s' => ?_
  rw [bind_eq_ok]
  constructor
  · rintro ⟨hf, bs', t', hl, hbs⟩
    obtain ⟨rfl, rfl⟩ : b :: bs' = bs ∧ t' = t := by simpa using hbs
    exact ⟨bs', hf, hl, rfl⟩
  · rintro ⟨bs', hf, hl, rfl⟩
    exact ⟨hf, bs', t, hl, rfl⟩

/-- A loop collects one result a turn. -/
theorem mapM_length {f : ι → StateT σ (Except ε) α} {l : List ι} {s t : σ} {bs : List α}
    (h : l.mapM f s = .ok (bs, t)) : bs.length = l.length := by
  induction l generalizing s bs with
  | nil =>
    obtain ⟨rfl, -⟩ : [] = bs ∧ s = t := by simpa using h
    rfl
  | cons i l ih =>
    obtain ⟨b, s', bs', -, hl, rfl⟩ := mapM_cons_ok.1 h
    rw [List.length_cons, List.length_cons, ih hl]

/-- What every turn of a loop makes sure of its result. -/
theorem mapM_forall {f : ι → StateT σ (Except ε) α} {p : α → Prop}
    (hf : ∀ i s b t, f i s = .ok (b, t) → p b) {l : List ι} {s t : σ} {bs : List α}
    (h : l.mapM f s = .ok (bs, t)) : ∀ b ∈ bs, p b := by
  induction l generalizing s bs with
  | nil =>
    obtain ⟨rfl, -⟩ : [] = bs ∧ s = t := by simpa using h
    exact fun b hb => absurd hb List.not_mem_nil
  | cons i l ih =>
    obtain ⟨b, s', bs', hb, hl, rfl⟩ := mapM_cons_ok.1 h
    intro b' hb'
    rcases List.mem_cons.1 hb' with rfl | hb'
    · exact hf i s b' s' hb
    · exact ih hl b' hb'

/-- A loop whose turns do nothing. -/
theorem forM_skip {f : ι → StateT σ (Except ε) PUnit} {s : σ} (h : ∀ i, f i s = .ok (⟨⟩, s))
    (l : List ι) : l.forM f s = .ok (⟨⟩, s) := by
  induction l with
  | nil => rfl
  | cons i l ih => exact (run_bind_ok (h i)).trans ih

end Stateful
