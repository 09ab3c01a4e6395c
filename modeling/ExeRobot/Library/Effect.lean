/-
# Effects of stateful computations

An effect system for `StateT σ (Except ε)` programs.  An `Effect` says what a
program may do to the state by relations `rel m`, one for each element `m` of a
type of descriptions, with a description `unit` of doing nothing and a
composition `comp` of two descriptions in sequence; no laws are asked of them.
`Has x m` says that every run of `x` that ends normally does what `m` describes.

The rules follow the shape of a program: `Has.pure`, `Has.bind`, `Has.ite`, and
one rule for each kind of loop over a list, whose description is the composition
of those of its turns (`seq`).  With traces for descriptions the rules compute
the trace of a program; with the one-element type they are the rules of an
invariant, or of a frame condition.
-/

import ExeRobot.Library.Stateful

universe u v w

namespace Stateful

/-- Descriptions of what a program does to the state. -/
structure Effect (σ : Type u) (M : Type w) where
  rel : M → σ → σ → Prop
  unit : M
  comp : M → M → M
  refl : ∀ s, rel unit s s
  trans : ∀ {m n s s' t}, rel m s s' → rel n s' t → rel (comp m n) s t

namespace Effect

variable {σ : Type u} {ε : Type v} {M : Type w} {α β : Type u} {ι : Type*} (E : Effect σ M)

/-- Every run of `x` that ends normally does what `m` describes. -/
def Has (x : StateT σ (Except ε) α) (m : M) : Prop := ∀ ⦃s a t⦄, x s = .ok (a, t) → E.rel m s t

/-- The descriptions `l` in sequence. -/
def seq (l : List M) : M := l.foldr E.comp E.unit

variable {E}

namespace Has

variable {x : StateT σ (Except ε) α} {m n : M}

theorem of_eq (h : E.Has x m) (e : m = n) : E.Has x n := e ▸ h

theorem pure (a : α) : E.Has (Pure.pure a : StateT σ (Except ε) α) E.unit := by
  intro s a' t h
  obtain ⟨rfl, rfl⟩ : a = a' ∧ s = t := by simpa using h
  exact E.refl s

theorem bind {f : α → StateT σ (Except ε) β} (hx : E.Has x m) (hf : ∀ a, E.Has (f a) n) :
    E.Has (x >>= f) (E.comp m n) := by
  intro s b t h
  obtain ⟨a, s', hx', hf'⟩ := bind_eq_ok.1 h
  exact E.trans (hx hx') (hf a hf')

/-- A computation that does not look at the state. -/
theorem lift (y : Except ε α) : E.Has (liftM y : StateT σ (Except ε) α) E.unit := by
  intro s a t h
  rw [run_lift] at h
  cases y with
  | error e => cases h
  | ok v =>
    obtain ⟨rfl, rfl⟩ : v = a ∧ s = t := by simpa [Except.map] using h
    exact E.refl s

theorem ite {c : Prop} [Decidable c] {y : StateT σ (Except ε) α} (hx : E.Has x m) (hy : E.Has y m) :
    E.Has (if c then x else y) m := by
  split
  · exact hx
  · exact hy

theorem forM {f : ι → StateT σ (Except ε) PUnit} {g : ι → M} (h : ∀ i, E.Has (f i) (g i)) (l : List ι) :
    E.Has (l.forM f) (E.seq (l.map g)) := by
  induction l with
  | nil => exact pure _
  | cons i l ih => exact bind (h i) fun _ => ih

theorem foldlM {f : α → ι → StateT σ (Except ε) α} {g : ι → M} (h : ∀ a i, E.Has (f a i) (g i))
    (l : List ι) (a : α) : E.Has (l.foldlM f a) (E.seq (l.map g)) := by
  induction l generalizing a with
  | nil => exact pure _
  | cons i l ih =>
    rw [List.foldlM_cons]
    exact bind (h a i) fun a => ih a

end Has

theorem Has.mapM {f : ι → StateT σ (Except ε) α} {g : ι → M} (h : ∀ i, E.Has (f i) (g i)) (l : List ι) :
    E.Has (l.mapM f) (E.seq (l.map g)) := by
  induction l with
  | nil => exact Has.pure _
  | cons i l ih =>
    intro s bs t hrun
    obtain ⟨b, s', bs', hf, hl, -⟩ := mapM_cons_ok.1 hrun
    exact E.trans (h i hf) (ih hl)

end Effect
end Stateful
