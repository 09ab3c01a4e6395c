/-
# Simulation of stateful programs

A program with a small state, `StateT σ (Except ε)`, and one with a larger state whose
exceptions keep it, `EStateM δ τ`.  `Simulates R V x y s t` says that `y` started in `t`
does what `x` does from `s`: if `x` ends normally, so does `y`, with a result that is
related by `V` and in a state that is related by `R`.  When `x` throws, nothing is said.

The rules follow the shape of the two programs, and keep the states at hand, since a
program may read its state first and go by that.
-/

import ExeRobot.Library.Persistent
import ExeRobot.Library.Stateful

universe u v w

namespace Persistent

variable {σ τ δ α β γ κ : Type u} {ε : Type v} {ι : Type w}

/-- If `x` ends normally from `s`, then `y` does from `t`, in a related state. -/
def Simulates (R : σ → τ → Prop) (V : α → β → Prop) (x : StateT σ (Except ε) α) (y : EStateM δ τ β)
    (s : σ) (t : τ) : Prop :=
  ∀ a s', x s = .ok (a, s') → wp y (fun b t' => V a b ∧ R s' t') (fun _ _ => False) t

namespace Simulates

variable {R : σ → τ → Prop} {V : α → β → Prop} {W : γ → κ → Prop} {x : StateT σ (Except ε) α}
  {y : EStateM δ τ β} {s : σ} {t : τ}

theorem pure {a : α} {b : β} (hV : V a b) (hR : R s t) :
    Simulates R V (Pure.pure a : StateT σ (Except ε) α) (Pure.pure b : EStateM δ τ β) s t := by
  intro a' s' h
  obtain ⟨rfl, rfl⟩ : a = a' ∧ s = s' := by simpa using h
  exact ⟨hV, hR⟩

/-- What the first program does is known. -/
theorem of_run {a : α} {s' : σ} (hx : x s = .ok (a, s'))
    (h : wp y (fun b t' => V a b ∧ R s' t') (fun _ _ => False) t) : Simulates R V x y s t := by
  intro a' s'' hrun
  obtain ⟨rfl, rfl⟩ : a = a' ∧ s' = s'' := by simpa [hx] using hrun
  exact h

theorem modify {f : σ → σ} {g : τ → τ} (h : R (f s) (g t)) :
    Simulates R Eq (modify f : StateT σ (Except ε) PUnit) (modify g : EStateM δ τ PUnit) s t := by
  intro a s' hrun
  cases hrun
  exact ⟨rfl, h⟩

theorem bind {f : α → StateT σ (Except ε) γ} {g : β → EStateM δ τ κ} (h : Simulates R V x y s t)
    (hrest : ∀ a b s' t', V a b → R s' t' → Simulates R W (f a) (g b) s' t') :
    Simulates R W (x >>= f) (y >>= g) s t := by
  intro c s'' hrun
  obtain ⟨a, s', hx, hf⟩ := Stateful.bind_eq_ok.1 hrun
  rw [wp_bind]
  exact wp_mono (h a s' hx) (fun b t' hb => hrest a b s' t' hb.1 hb.2 c s'' hf) fun _ _ hE => hE

/-- Both programs read their states. -/
theorem get_bind {f : σ → StateT σ (Except ε) γ} {g : τ → EStateM δ τ κ}
    (h : Simulates R W (f s) (g t) s t) :
    Simulates R W (get >>= f) (get >>= g) s t := h

/-- The first program reads its state. -/
theorem get_left {f : σ → StateT σ (Except ε) γ} {y : EStateM δ τ κ} (h : Simulates R W (f s) y s t) :
    Simulates R W (get >>= f) y s t := h

/-- The second program reads its state. -/
theorem get_right {x : StateT σ (Except ε) γ} {g : τ → EStateM δ τ κ} (h : Simulates R W x (g t) s t) :
    Simulates R W x (get >>= g) s t := h

/-- A choice that both programs make in the same way. -/
theorem ite {c c' : Prop} [Decidable c] [Decidable c'] {x' : StateT σ (Except ε) α} {y' : EStateM δ τ β}
    (hc : c ↔ c') (h : c → Simulates R V x y s t) (h' : ¬ c → Simulates R V x' y' s t) :
    Simulates R V (if c then x else x') (if c' then y else y') s t := by
  by_cases hcond : c
  · rw [if_pos hcond, if_pos (hc.1 hcond)]
    exact h hcond
  · rw [if_neg hcond, if_neg fun hn => hcond (hc.2 hn)]
    exact h' hcond

/-- A loop over the same list. -/
theorem forM {f : ι → StateT σ (Except ε) PUnit} {g : ι → EStateM δ τ PUnit}
    (h : ∀ i s t, R s t → Simulates R Eq (f i) (g i) s t) (l : List ι) (hR : R s t) :
    Simulates R Eq (l.forM f) (l.forM g) s t := by
  induction l generalizing s t with
  | nil => exact pure rfl hR
  | cons i l ih => exact bind (h i s t hR) fun _ _ _ _ _ hR => ih hR

end Simulates
end Persistent
