/-
# The positions `newtonRaphson` can settle on

Over the reals, with the exact square root and the cosines of the two angles as
given numbers, a pass whose Jacobian is accepted leaves the location `P` where it
is when `math(P) = (0, 0)` and only then (`newtonStep_eq_self_iff`): the
correction solves a system with an invertible matrix, so it is zero exactly when
the right-hand side is.

`math` is the law of cosines in the triangle of `P`, the origin and a beacon,
once for the beacon `(x, 0)` and once for `(0, y)`.  So the locations a pass does
not move are those from which the origin and each of the two beacons are seen
under the angle set for it (`pass_fixed_iff`).
-/

import ExeRobot.Nav.NewtonRaphson
import Mathlib.Analysis.InnerProductSpace.PiL2

namespace ExeRobot
namespace Nav

open Loop Matrix WithLp

/-- A point of the plane, from its two coordinates. -/
noncomputable def point (p : Fin 2 → ℝ) : EuclideanSpace ℝ (Fin 2) := toLp _ p

theorem point_sub (p q : Fin 2 → ℝ) : point (p - q) = point p - point q := toLp_sub 2 p q

/-- From `P` the origin and the beacon `B` are seen under an angle of cosine `c`. -/
structure SeenUnder (c : ℝ) (B P : EuclideanSpace ℝ (Fin 2)) : Prop where
  inner_eq : ‖P - B‖ * ‖P‖ * c = inner ℝ (P - B) P

/-- **The law of cosines** for the triangle of `P`, the origin and `B`. -/
theorem seenUnder_iff (c : ℝ) (B P : EuclideanSpace ℝ (Fin 2)) :
    SeenUnder c B P ↔ ‖P - B‖ ^ 2 + ‖P‖ ^ 2 - 2 * ‖P - B‖ * ‖P‖ * c - ‖B‖ ^ 2 = 0 := by
  have hB : ‖B‖ ^ 2 = ‖P - B‖ ^ 2 - 2 * inner ℝ (P - B) P + ‖P‖ ^ 2 := by
    rw [← norm_sub_sq_real, sub_sub_cancel_left, norm_neg]
  constructor
  · intro h
    rw [hB]
    linarith [h.inner_eq]
  · intro h
    rw [hB] at h
    exact ⟨by linarith⟩

theorem sqrt_eq_norm (p : Fin 2 → ℝ) : Real.sqrt (p 0 * p 0 + p 1 * p 1) = ‖point p‖ := by
  rw [EuclideanSpace.norm_eq, Fin.sum_univ_two]
  simp [point, pow_two]

theorem sq_eq_norm_sq (p : Fin 2 → ℝ) : p 0 * p 0 + p 1 * p 1 = ‖point p‖ ^ 2 := by
  rw [← sqrt_eq_norm, Real.sq_sqrt (by nlinarith [mul_self_nonneg (p 0), mul_self_nonneg (p 1)])]

/-- The location `P` sees the origin and `(x, 0)` under `angle1`, and the origin
and `(0, y)` under `angle2`. -/
def SeesBeacons (cos : ℝ → ℝ) (nav : Nav ℝ) (p : Fin 2 → ℝ) : Prop :=
  SeenUnder (cos nav.angle1) (point ![nav.x, 0]) (point p) ∧
    SeenUnder (cos nav.angle2) (point ![0, nav.y]) (point p)

/-- The residual vanishes at the locations that see the beacons. -/
theorem math_eq_zero_iff (cos : ℝ → ℝ) (nav : Nav ℝ) (p : Fin 2 → ℝ) :
    math Real.sqrt cos nav p = 0 ↔ SeesBeacons cos nav p := by
  have hx : ‖point p - point ![nav.x, 0]‖ ^ 2 = (p 0 - nav.x) * (p 0 - nav.x) + p 1 * p 1 := by
    rw [← point_sub, ← sq_eq_norm_sq]
    simp
  have hy : ‖point p - point ![0, nav.y]‖ ^ 2 = p 0 * p 0 + (p 1 - nav.y) * (p 1 - nav.y) := by
    rw [← point_sub, ← sq_eq_norm_sq]
    simp
  have hroot : ∀ {v w : EuclideanSpace ℝ (Fin 2)}, Real.sqrt (‖v - w‖ ^ 2) = ‖v - w‖ := fun {v w} =>
    Real.sqrt_sq (norm_nonneg _)
  have hBx : ‖point ![nav.x, 0]‖ ^ 2 = nav.x * nav.x := by
    rw [← sq_eq_norm_sq]; simp
  have hBy : ‖point ![0, nav.y]‖ ^ 2 = nav.y * nav.y := by
    rw [← sq_eq_norm_sq]; simp
  unfold SeesBeacons
  rw [seenUnder_iff, seenUnder_iff, hBx, hBy]
  unfold math
  simp only
  rw [← hx, ← hy, hroot, hroot, sqrt_eq_norm, sq_eq_norm_sq]
  constructor
  · intro h
    exact ⟨congrFun h 0, congrFun h 1⟩
  · rintro ⟨h0, h1⟩
    funext i
    fin_cases i
    · exact h0
    · exact h1

/-- A step of Newton's method with an invertible Jacobian moves every location but
the zeros of the residual. -/
theorem newtonStep_eq_self_iff {math : (Fin 2 → ℝ) → Fin 2 → ℝ} {p : Fin 2 → ℝ}
    (hdet : (jacobian math p).det ≠ 0) : newtonStep math p = p ↔ math p = 0 := by
  have hunit : IsUnit (jacobian math p).det := isUnit_iff_ne_zero.2 hdet
  unfold newtonStep correction
  rw [sub_eq_self]
  constructor
  · intro h
    have hzero : jacobian math p *ᵥ ((jacobian math p)⁻¹ *ᵥ math p) = jacobian math p *ᵥ 0 :=
      congrArg (jacobian math p *ᵥ ·) h
    rwa [mulVec_mulVec, mul_nonsing_inv _ hunit, one_mulVec, mulVec_zero] at hzero
  · intro h
    rw [h, mulVec_zero]

/-- **Where `newtonRaphson` can settle.**  A pass at a location whose Jacobian is
accepted leaves the location as it is exactly when the residual vanishes there,
that is when the location sees the origin and the beacon `(x, 0)` under `angle1`,
and the origin and the beacon `(0, y)` under `angle2`. -/
theorem pass_fixed_iff (cos : ℝ → ℝ) (nav : Nav ℝ) (st : Pass ℝ)
    (hacc : AcceptsAt (math Real.sqrt cos nav) st.location) :
    ∃ st', pass (math Real.sqrt cos nav) st = .ok st' ∧
      (st'.location = st.location ↔ math Real.sqrt cos nav st.location = 0) ∧
      (math Real.sqrt cos nav st.location = 0 ↔ SeesBeacons cos nav st.location) := by
  obtain ⟨aD1, aI, hpass⟩ := pass_eq hacc
  obtain ⟨-, -, -, hdet⟩ := hacc.solves pivotTol_pos 0 0 0
  exact ⟨_, hpass, newtonStep_eq_self_iff hdet, math_eq_zero_iff cos nav st.location⟩

/-- Seen under right angles the beacons lie on circles through the corner. -/
theorem math_of_right {nav : Nav ℝ} (h₁ : nav.angle1 = Real.arccos 0) (h₂ : nav.angle2 = Real.arccos 0)
    (p : Fin 2 → ℝ) : math Real.sqrt Real.cos nav p =
      ![2 * (p 0 ^ 2 + p 1 ^ 2 - nav.x * p 0), 2 * (p 0 ^ 2 + p 1 ^ 2 - nav.y * p 1)] := by
  have hcos : Real.cos (Real.arccos 0) = 0 := Real.cos_arccos (by norm_num) (by norm_num)
  simp only [math, h₁, h₂, hcos]
  congr 1
  · ring
  · congr 1
    ring

/-- Whether a rational Jacobian is accepted can be computed. -/
theorem acceptsAt_of_code {F : (Fin 2 → ℝ) → Fin 2 → ℝ} {p : Fin 2 → ℝ} {A : Matrix (Fin 2) (Fin 2) ℚ}
    (hmap : jacobian F p = A.map (Rat.castHom ℝ))
    (hcode : (gaussJordan (pivotTol : ℚ) ⟨A, 0, 0, 0⟩).map Prod.fst = .ok 0) : AcceptsAt F p := by
  have htol : (pivotTol : ℝ) = Rat.castHom ℝ pivotTol := by
    rw [Rat.coe_castHom]
    norm_num [pivotTol]
  unfold AcceptsAt
  rw [hmap, htol]
  exact (accepts_of_code hcode).map Rat.cast_strictMono

/-- Both beacons at distance `16` from the corner and both angles right. -/
noncomputable def square : Nav ℝ :=
  { (init : Nav ℝ) with angle1 := Real.arccos 0, angle2 := Real.arccos 0, x := 16, y := 16 }

theorem math_square (p : Fin 2 → ℝ) :
    math Real.sqrt Real.cos square p =
      ![2 * (p 0 ^ 2 + p 1 ^ 2 - 16 * p 0), 2 * (p 0 ^ 2 + p 1 ^ 2 - 16 * p 1)] :=
  math_of_right rfl rfl p

theorem acceptsAt_square : AcceptsAt (math Real.sqrt Real.cos square) ![8, 8] := by
  have hmap : jacobian (math Real.sqrt Real.cos square) ![8, 8] =
      (!![0, 32; 32, 0] : Matrix (Fin 2) (Fin 2) ℚ).map (Rat.castHom ℝ) := by
    ext i j
    rw [jacobian_apply, math_square, math_square, Matrix.map_apply, Rat.coe_castHom]
    fin_cases i <;> fin_cases j <;> norm_num [inc, Function.update]
  exact acceptsAt_of_code hmap (by decide +kernel)

/-- `pass_fixed_iff` at the centre of the square of the two beacons. -/
theorem pass_fixed_iff_square :
    ∃ st', pass (math Real.sqrt Real.cos square) ⟨![8, 8], 0, 0, true, 0⟩ = .ok st' ∧
      (st'.location = ![8, 8] ↔ math Real.sqrt Real.cos square ![8, 8] = 0) ∧
      (math Real.sqrt Real.cos square ![8, 8] = 0 ↔ SeesBeacons Real.cos square ![8, 8]) :=
  pass_fixed_iff Real.cos square ⟨![8, 8], 0, 0, true, 0⟩ acceptsAt_square

end Nav
end ExeRobot
