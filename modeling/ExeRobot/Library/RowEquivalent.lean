/-
# Row operations on a linear system

A linear system is a square matrix `M` and a right-hand side `c`; `x` solves it
when `M *ᵥ x = c`.  Two systems are `RowEquivalent` when they have the same
solutions and their matrices are singular together.  Permuting the equations
(`RowEquivalent.permute`) and subtracting multiples of one equation from the
others (`RowEquivalent.rowSub`) lead to equivalent systems: these are the moves
of Gaussian elimination with pivoting.

Where elimination ends, or gets stuck, the matrix tells: an upper triangular
matrix is singular when a diagonal entry is zero and only then
(`det_ne_zero_iff_of_upper`), and a matrix whose columns `0, …, k - 1` are zero
below the diagonal and whose column `k` is zero from the diagonal down is
singular (`det_eq_zero_of_stuck`).
-/

import Mathlib.LinearAlgebra.Matrix.Block
import Mathlib.LinearAlgebra.Matrix.NonsingularInverse

namespace LinearSystem

open Matrix

variable {K : Type*} [Field K] {ι : Type*} [Fintype ι] [DecidableEq ι]

/-- The same solutions, and singular together. -/
structure RowEquivalent (M : Matrix ι ι K) (c : ι → K) (A : Matrix ι ι K) (b : ι → K) : Prop where
  solves : ∀ x, M *ᵥ x = c ↔ A *ᵥ x = b
  det : M.det = 0 ↔ A.det = 0

namespace RowEquivalent

variable {M N A : Matrix ι ι K} {c d b : ι → K}

theorem refl (A : Matrix ι ι K) (b : ι → K) : RowEquivalent A b A b :=
  ⟨fun _ => Iff.rfl, Iff.rfl⟩

theorem trans (h : RowEquivalent N d M c) (h' : RowEquivalent M c A b) : RowEquivalent N d A b :=
  ⟨fun x => (h.solves x).trans (h'.solves x), h.det.trans h'.det⟩

/-- Listing the equations in another order. -/
theorem permute (τ : Equiv.Perm ι) (M : Matrix ι ι K) (c : ι → K) :
    RowEquivalent (fun i j => M (τ i) j) (fun i => c (τ i)) M c where
  solves x := by
    constructor
    · intro h
      funext i
      have := congrFun h (τ.symm i)
      simpa [mulVec, dotProduct] using this
    · rintro rfl
      rfl
  det := by
    have h : Matrix.det (fun i j => M (τ i) j) = Equiv.Perm.sign τ * M.det := det_permute τ M
    rw [h]
    rcases Int.units_eq_one_or (Equiv.Perm.sign τ) with hs | hs <;> simp [hs]

/-- Subtracting multiples of the equation `k` from the other equations. -/
theorem rowSub {k : ι} {t : ι → K} (ht : t k = 0) (hN : ∀ i j, N i j = M i j - t i * M k j)
    (hd : ∀ i, d i = c i - t i * c k) : RowEquivalent N d M c where
  solves x := by
    have hrow : ∀ i, (N *ᵥ x) i = (M *ᵥ x) i - t i * (M *ᵥ x) k := by
      intro i
      simp only [mulVec, dotProduct, hN, sub_mul, Finset.sum_sub_distrib, Finset.mul_sum, mul_assoc]
    constructor
    · intro h
      have hk : (M *ᵥ x) k = c k := by
        have := congrFun h k
        rwa [hrow, hd, ht, zero_mul, zero_mul, sub_zero, sub_zero] at this
      funext i
      have := congrFun h i
      rw [hrow, hd, hk] at this
      exact sub_left_injective this
    · rintro rfl
      funext i
      rw [hrow, hd]
  det := by
    have h : N.det = M.det :=
      det_eq_of_forall_row_eq_smul_add_const (fun i => -t i) k (by simp [ht]) fun i j => by
        rw [hN]; ring
    rw [h]

end RowEquivalent

/-- An upper triangular matrix is invertible when no diagonal entry is zero, and
only then. -/
theorem det_ne_zero_iff_of_upper {n : ℕ} {M : Matrix (Fin n) (Fin n) K}
    (hM : ∀ i j, j < i → M i j = 0) : M.det ≠ 0 ↔ ∀ i, M i i ≠ 0 := by
  rw [det_of_isUpperTriangular fun i j h => hM i j h, Finset.prod_ne_zero_iff]
  simp

/-- **Elimination stuck at column `k`:** with the columns before `k` cleared below
the diagonal and nothing left in column `k` from the diagonal down, the first
`k + 1` columns live in the first `k` rows. -/
theorem det_eq_zero_of_stuck {n : ℕ} {M : Matrix (Fin n) (Fin n) K} {k : Fin n}
    (hM : ∀ i j, j < i → j < k → M i j = 0) (hk : ∀ i, k ≤ i → M i k = 0) : M.det = 0 := by
  have hblock := twoBlockTriangular_det M (fun i => i ≤ k) fun i hi j hj => by
    rcases lt_or_eq_of_le hj with hj | rfl
    · exact hM i j (hj.trans (not_le.1 hi)) hj
    · exact hk i (le_of_not_ge hi)
  have hupper : (toSquareBlockProp M fun i => i ≤ k).det = 0 := by
    rw [det_of_isUpperTriangular]
    · exact Finset.prod_eq_zero (Finset.mem_univ (⟨k, le_rfl⟩ : {i // i ≤ k})) (hk k le_rfl)
    · rintro ⟨i, hi⟩ ⟨j, hj⟩ hij
      rcases lt_or_eq_of_le hj with hj | rfl
      · exact hM i j hij hj
      · exact hk i (le_of_lt hij)
  rw [hblock, hupper, zero_mul]

end LinearSystem
