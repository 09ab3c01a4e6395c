/-
# `gaussJordan` solves the system

The loop specifications of `ExeRobot.Nav.Elimination` put together.  The run as a
whole is a computation with the tolerance `pD` (`eliminate_tolerant`): it gives up
at every tolerance and the matrix is singular, or it has one result, and the
matrix is invertible.  A run of `gaussJordan` in exact arithmetic never divides by
zero and never leaves the arrays; when it returns `0`, `aI` is a permutation and
the components `a2[aI[j]]` solve the system that was passed in
(`gaussJordan_solves`).
-/

import ExeRobot.Nav.Elimination
import Mathlib.Algebra.Order.Ring.Rat
import Mathlib.LinearAlgebra.Matrix.Notation

namespace ExeRobot
namespace Nav

open Loop LinearSystem Matrix

variable {K : Type} [Field K] [LinearOrder K] {n : ℕ}

/-- The arrays hold a solution of `A · x = b`, listed by `aI`. -/
def HoldsSolution (A : Matrix (Fin n) (Fin n) K) (b : Fin n → K) (s : Arrays K n) : Prop :=
  ∃ σ : Equiv.Perm (Fin n), Lists s.aI σ ∧ A *ᵥ (fun j => s.a2 (σ j)) = b

section
variable [IsStrictOrderedRing K]

/-- **The whole run as a computation with a tolerance.** -/
theorem eliminate_tolerant (A : Matrix (Fin n) (Fin n) K) (b a2 : Fin n → K) (aI : Fin n → ℤ) :
    Tolerant (A.det ≠ 0) (fun s => HoldsSolution A b s ∧ A.det ≠ 0) IsSingular
      fun t => eliminate t ⟨A, b, a2, aI⟩ := by
  refine tolerant_bind (P := Scaled A b n) ?_ fun st hst => ?_
  · rw [finRange_eq_indices]
    exact tolerant_indices le_rfl one_pos (Scaled A b) (Nat.zero_le n)
      ⟨rfl, rfl, fun j hj => absurd hj (Nat.not_lt_zero _), fun j hj => absurd hj (Nat.not_lt_zero _)⟩
      fun i s _ _ h => scaleStep_tolerant h
  have hstart : Reduced A b 0 st.1 := by
    refine ⟨1, fun i => hst.aI i i.2, ?_⟩
    have hA : upper 0 st.1.aD 1 = A := by
      funext p j
      simp [upper, hst.aD]
    rw [hA]
    simpa [hst.a1] using RowEquivalent.refl A b
  refine tolerant_bind (P := Reduced A b (n - 1)) ?_ fun s hs => ?_
  · exact tolerant_indices (Nat.sub_le n 1) one_pos (Reduced A b) (Nat.zero_le _) hstart
      fun k s _ _ h => columnStep_tolerant (fun r => hst.scale r r.2) h
  obtain ⟨σ, hσ, hred⟩ := hs
  have hupper : ∀ p j, j < p → upper (n - 1) s.aD σ p j = 0 := fun p j hj => by
    rw [upper_last, if_pos hj]
  have hdiag : A.det ≠ 0 ↔ ∀ p, s.aD (σ p) p ≠ 0 := by
    rw [ne_eq, ← hred.det, ← ne_eq, det_ne_zero_iff_of_upper hupper]
    simp [upper_last]
  have hback := tolerant_reverse (N := A.det ≠ 0) (E := IsSingular) (q := (1 : K)) one_pos (Solved s σ)
    (f := backStep) (s := s)
    ⟨rfl, rfl, rfl, fun p hp => absurd p.2 (not_lt.2 hp), fun p hp => absurd p.2 (not_lt.2 hp)⟩
    fun i s' h => backStep_tolerant hσ hdiag.1 h
  refine hback.mono fun s' hs' => ⟨⟨σ, hs'.aI ▸ hσ, (hred.solves _).1 ?_⟩, ?_⟩
  · exact funext fun p => hs'.equation p (Nat.zero_le _)
  · exact hdiag.2 fun p => hs'.diagonal p (Nat.zero_le _)

/-- A call returns `0` and holds the solution, the matrix being invertible, or it
returns `1`. -/
theorem gaussJordan_spec (A : Matrix (Fin n) (Fin n) K) (b a2 : Fin n → K) (aI : Fin n → ℤ) {pD : K}
    (hpD : 0 < pD) :
    (∃ s, gaussJordan pD ⟨A, b, a2, aI⟩ = .ok (0, s) ∧ HoldsSolution A b s ∧ A.det ≠ 0) ∨
      ∃ s, gaussJordan pD ⟨A, b, a2, aI⟩ = .ok (1, s) := by
  have hexit : (∃ e, eliminate pD ⟨A, b, a2, aI⟩ = .error e ∧ IsSingular e) →
      ∃ s, gaussJordan pD ⟨A, b, a2, aI⟩ = .ok (1, s) := by
    rintro ⟨e, he, s, rfl⟩
    exact ⟨s, by simp only [gaussJordan, he]⟩
  rcases eliminate_tolerant A b a2 aI with ⟨-, hall⟩ | ⟨s, hs, hall, -⟩
  · exact .inr (hexit (hall pD hpD))
  · rcases hall pD hpD with he | he
    · exact .inl ⟨s, by simp only at he; simp only [gaussJordan, he], hs⟩
    · exact .inr (hexit he)

/-- **`gaussJordan` solves the system.**  Whatever the output arrays held, the
call ends without a division by zero, and with code `0` the array `aI` is a
permutation `σ` of the positions and the components `a2[aI[j]]` solve every
equation of the system at entry. -/
theorem gaussJordan_solves (A : Matrix (Fin n) (Fin n) K) (b a2 : Fin n → K) (aI : Fin n → ℤ) (pD : K)
    (hpD : 0 < pD) :
    ∃ code s, gaussJordan pD ⟨A, b, a2, aI⟩ = .ok (code, s) ∧
      (code = 0 → ∃ σ : Equiv.Perm (Fin n), (∀ j, s.aI j = ((σ j : ℕ) : ℤ)) ∧
        ∀ i, ∑ j, A i j * s.a2 (σ j) = b i) := by
  rcases gaussJordan_spec A b a2 aI hpD with ⟨s, hrun, ⟨σ, hσ, hsol⟩, -⟩ | ⟨s, hrun⟩
  · exact ⟨0, s, hrun, fun _ => ⟨σ, hσ, fun i => congrFun hsol i⟩⟩
  · exact ⟨1, s, hrun, fun h => absurd h one_ne_zero⟩

end

/-- `gaussJordan_solves` on a system whose first pivot is in the second row, with
the tolerance of the navigation. -/
theorem gaussJordan_solves_exchange :
    ∃ code s, gaussJordan (1 / 10 ^ 15 : ℚ)
        ⟨!![0, 2; 1, 1], ![4, 3], ![0, 0], ![0, 0]⟩ = .ok (code, s) ∧
      (code = 0 → ∃ σ : Equiv.Perm (Fin 2), (∀ j, s.aI j = ((σ j : ℕ) : ℤ)) ∧
        ∀ i, ∑ j, !![0, 2; 1, 1] i j * s.a2 (σ j) = ![4, 3] i) :=
  gaussJordan_solves !![0, 2; 1, 1] ![4, 3] ![0, 0] ![0, 0] (1 / 10 ^ 15) (by norm_num)

end Nav
end ExeRobot
