/-
# Labelled transitions

A transition system whose steps carry labels, and its paths with labels from a given
set.  A property that every such step keeps holds along the path (`Steps.invariant`);
with more labels allowed there are more paths (`Steps.mono`).  A program is connected to
a system of this kind by showing that where it ends can be reached by a path, which is
then all that a proof about the program's states needs.
-/

import Mathlib.Logic.Relation

namespace Labelled

variable {σ Λ : Type*} {step : Λ → σ → σ → Prop}

/-- A path from one state to another whose steps have labels in `ok`. -/
def Steps (step : Λ → σ → σ → Prop) (ok : Λ → Prop) : σ → σ → Prop :=
  Relation.ReflTransGen fun s t => ∃ l, ok l ∧ step l s t

namespace Steps

variable {ok ok' : Λ → Prop} {s t u : σ}

theorem refl (s : σ) : Steps step ok s s := Relation.ReflTransGen.refl

theorem trans (h : Steps step ok s t) (h' : Steps step ok t u) : Steps step ok s u :=
  Relation.ReflTransGen.trans h h'

/-- A path of one step. -/
theorem single {l : Λ} (hl : ok l) (h : step l s t) : Steps step ok s t :=
  Relation.ReflTransGen.single ⟨l, hl, h⟩

theorem mono (h : Steps step ok s t) (hok : ∀ l, ok l → ok' l) : Steps step ok' s t :=
  Relation.ReflTransGen.mono (fun _ _ ⟨l, hl, hstep⟩ => ⟨l, hok l hl, hstep⟩) _ _ h

/-- What every step keeps holds where the path ends. -/
theorem invariant {I : σ → Prop} (hI : ∀ l s t, ok l → step l s t → I s → I t)
    (h : Steps step ok s t) (hs : I s) : I t := by
  induction h with
  | refl => exact hs
  | tail _ hstep ih =>
    obtain ⟨l, hl, hstep⟩ := hstep
    exact hI l _ _ hl hstep ih

end Steps
end Labelled
