/-
# Computations that end normally

`Ends I x` is total correctness with an invariant: from every state with `I` the
program `x` ends without an exception, in a state with `I` again.  The rules follow
the shape of a program, with one rule for each kind of loop over a list.
-/

import ExeRobot.Library.Stateful

universe u v w

namespace Stateful

variable {σ : Type u} {ε : Type v} {α β : Type u} {ι : Type w}

/-- From every state with `I`, `x` ends normally, with `I` again. -/
def Ends (I : σ → Prop) (x : StateT σ (Except ε) α) : Prop :=
  ∀ ⦃s⦄, I s → ∃ a t, x s = .ok (a, t) ∧ I t

namespace Ends

variable {I : σ → Prop} {x y : StateT σ (Except ε) α}

theorem pure (a : α) : Ends I (Pure.pure a : StateT σ (Except ε) α) := fun s hs => ⟨a, s, rfl, hs⟩

theorem bind {f : α → StateT σ (Except ε) β} (hx : Ends I x) (hf : ∀ a, Ends I (f a)) :
    Ends I (x >>= f) := by
  intro s hs
  obtain ⟨a, s', hrun, hs'⟩ := hx hs
  obtain ⟨b, t, hrest, ht⟩ := hf a hs'
  exact ⟨b, t, (run_bind_ok hrun).trans hrest, ht⟩

theorem modify {g : σ → σ} (h : ∀ s, I s → I (g s)) :
    Ends I (modify g : StateT σ (Except ε) PUnit) := fun s hs => ⟨⟨⟩, g s, rfl, h s hs⟩

/-- A sequence that starts by reading the state. -/
theorem get_bind {f : σ → StateT σ (Except ε) β} (h : ∀ s, I s → Ends I (f s)) :
    Ends I (get >>= f) := fun s hs => h s hs hs

theorem ite {c : Prop} [Decidable c] (hx : Ends I x) (hy : Ends I y) :
    Ends I (if c then x else y) := by
  split
  · exact hx
  · exact hy

theorem forM {f : ι → StateT σ (Except ε) PUnit} (h : ∀ i, Ends I (f i)) (l : List ι) :
    Ends I (l.forM f) := by
  induction l with
  | nil => exact pure _
  | cons i l ih => exact bind (h i) fun _ => ih

theorem foldlM {f : α → ι → StateT σ (Except ε) α} (h : ∀ a i, Ends I (f a i)) (l : List ι) (a : α) :
    Ends I (l.foldlM f a) := by
  induction l generalizing a with
  | nil => exact pure _
  | cons i l ih =>
    rw [List.foldlM_cons]
    exact bind (h a i) ih

theorem mapM {f : ι → StateT σ (Except ε) α} (h : ∀ i, Ends I (f i)) (l : List ι) :
    Ends I (l.mapM f) := by
  induction l with
  | nil => exact pure _
  | cons i l ih =>
    intro s hs
    obtain ⟨b, s', hturn, hs'⟩ := h i hs
    obtain ⟨bs, t, hrest, ht⟩ := ih hs'
    exact ⟨b :: bs, t, mapM_cons_ok.2 ⟨b, s', bs, hturn, hrest, rfl⟩, ht⟩

end Ends
end Stateful
