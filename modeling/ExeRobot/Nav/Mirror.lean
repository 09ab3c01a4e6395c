/-
# The mirror symmetry of the field

Reflecting the field in the diagonal exchanges the two axes: the beacon of the first
angle comes to lie on the second axis and the other way round.  The residual follows
(`math_mirror`), and with it everything Newton's method makes of it: the Jacobian has
its rows and its columns exchanged (`jacobian_mirror`), so the correction has its
components exchanged (`correction_mirror`), whichever rows the elimination has chosen
as pivots in the two runs, since an accepted system has one solution.

The two runs are compared pass by pass (`Mirrored`).  The half widths, the tolerances
and the starting location are the same for both axes, so the passes of the two runs
are left together, and the runs end with the same code and with the two components of
the location exchanged (`newtonRaphson_mirror`).
-/

import ExeRobot.Nav.Convergence
import Mathlib.Analysis.Real.Pi.Bounds
import ExeRobot.Nav.FixedPoint

namespace ExeRobot
namespace Nav

open Loop Matrix

variable {K : Type} [Field K]

/-- The reflection of the axes. -/
def axes : Equiv.Perm (Fin 2) := Fin.revPerm

/-- The reflection of a point. -/
def mirror (p : Fin 2 → K) : Fin 2 → K := p ∘ axes

/-- A new object with these angles and coordinates. -/
def fresh (angle1 angle2 x y : K) : Nav K :=
  { (init : Nav K) with angle1 := angle1, angle2 := angle2, x := x, y := y }

/-- What `setAngles` and `setCoordinates` make of a new object. -/
theorem setCoordinates_setAngles_init (d1 d2 x y : K) :
    ((init : Nav K).setAngles d1 d2).setCoordinates x y =
      fresh (d1 * (1745329251994329 / 10 ^ 17)) (d2 * (1745329251994329 / 10 ^ 17)) x y := rfl

/-! ### The residual and the Jacobian -/

theorem math_mirror (sqrt cos : K → K) (angle1 angle2 x y : K) (p : Fin 2 → K) :
    math sqrt cos (fresh angle2 angle1 y x) (mirror p) =
      mirror (math sqrt cos (fresh angle1 angle2 x y) p) := by
  have h₀ : axes 0 = 1 := by decide
  have h₁ : axes 1 = 0 := by decide
  unfold math mirror fresh
  simp only [Function.comp_apply, h₀, h₁, add_comm (p 1 * p 1) (p 0 * p 0),
    add_comm ((p 1 - y) * (p 1 - y)) (p 0 * p 0), add_comm (p 1 * p 1) ((p 0 - x) * (p 0 - x))]
  funext i
  fin_cases i
  · rfl
  · rfl

theorem inc_axes (j : Fin 2) : (inc (axes j) : K) = inc j := by
  fin_cases j
  · rfl
  · rfl

section
variable {F F' : (Fin 2 → K) → Fin 2 → K} (hF : ∀ p, F' (mirror p) = mirror (F p))

include hF

/-- Rows and columns are exchanged. -/
theorem jacobian_mirror (p : Fin 2 → K) :
    jacobian F' (mirror p) = (jacobian F p).submatrix axes axes := by
  have hupdate : ∀ j v, Function.update (mirror p) j v = mirror (Function.update p (axes j) v) :=
    fun j v => by
      unfold mirror
      rw [Function.update_comp_equiv]
      congr 1
      exact (Equiv.symm_apply_apply axes j).symm
  ext i j
  rw [submatrix_apply, jacobian_apply, jacobian_apply, hupdate, hupdate, hF, hF, inc_axes]
  rfl

theorem correction_mirror (p : Fin 2 → K) : correction F' (mirror p) = mirror (correction F p) := by
  unfold correction
  rw [jacobian_mirror hF, hF, inv_submatrix_equiv, submatrix_mulVec_equiv]
  unfold mirror
  rw [Function.comp_assoc, Equiv.self_comp_symm, Function.comp_id]

theorem newtonStep_mirror (p : Fin 2 → K) : newtonStep F' (mirror p) = mirror (newtonStep F p) := by
  unfold newtonStep
  rw [correction_mirror hF]
  rfl

end

/-! ### Two runs -/

variable [LinearOrder K]

/-- The passes of the two runs agree, with the axes exchanged. -/
structure Mirrored (st st' : Pass K) : Prop where
  location : st'.location = mirror st.location
  m : st'.m = st.m

/-- The tolerance test looks at both components alike. -/
theorem within_mirror (v : Fin 2 → K) : (∀ i, |mirror v i| ≤ tol i) ↔ ∀ i, |v i| ≤ tol i := by
  have h₀ : axes 0 = 1 := by decide
  have h₁ : axes 1 = 0 := by decide
  unfold mirror
  simp only [Fin.forall_fin_two, Function.comp_apply, h₀, h₁]
  exact and_comm

theorem anglesInRange_mirror (angle1 angle2 x y : K) :
    (fresh angle2 angle1 y x).AnglesInRange ↔ (fresh angle1 angle2 x y).AnglesInRange :=
  and_comm

/-- A run in the range that meets no rejected Jacobian. -/
theorem passes_of_newtonRaphsonWith {F : (Fin 2 → K) → Fin 2 → K} {nav r : Nav K} {code : ℤ}
    (hrange : nav.AnglesInRange) (h : newtonRaphsonWith F nav = .ok (code, r)) (hcode : code ≠ 2) :
    ∃ st, passes F nav.iterations = .ok st ∧ code = 0 ∧ r.location = st.location := by
  cases hrun : passes F nav.iterations with
  | ok st =>
    rw [newtonRaphsonWith_of_passes hrange hrun] at h
    cases h
    exact ⟨st, rfl, rfl, rfl⟩
  | error e =>
    unfold newtonRaphsonWith at h
    rw [if_pos hrange.1, if_pos hrange.2, hrun] at h
    cases e with
    | trap t => cases h
    | singular p =>
      cases h
      exact absurd rfl hcode

variable [IsStrictOrderedRing K]

/-- **Two passes that are both accepted keep the runs mirrored.** -/
theorem Mirrored.pass {F F' : (Fin 2 → K) → Fin 2 → K} (hF : ∀ p, F' (mirror p) = mirror (F p))
    {st st' t t' : Pass K} (h : Mirrored st st') (hpass : Nav.pass F st = .ok t)
    (hpass' : Nav.pass F' st' = .ok t') : Mirrored t t' := by
  obtain ⟨aD1, aI, hrun⟩ := pass_eq (acceptsAt_of_pass hpass)
  obtain ⟨aD1', aI', hrun'⟩ := pass_eq (acceptsAt_of_pass hpass')
  obtain rfl := Except.ok.inj (hpass.symm.trans hrun)
  obtain rfl := Except.ok.inj (hpass'.symm.trans hrun')
  constructor
  · show newtonStep F' st'.location = _
    rw [h.location, newtonStep_mirror hF]
  · show (st'.m && decide (∀ i, |correction F' st'.location i| ≤ tol i)) = _
    simp only [h.location, h.m, correction_mirror hF, within_mirror]

theorem passes_mirror {F F' : (Fin 2 → K) → Fin 2 → K} (hF : ∀ p, F' (mirror p) = mirror (F p)) {n : ℕ}
    {st st' : Pass K} (h : passes F n = .ok st) (h' : passes F' n = .ok st') : Mirrored st st' := by
  have hstart : Mirrored (⟨initial, fun _ => 0, fun _ => 0, true, 0⟩ : Pass K)
      ⟨initial, fun _ => 0, fun _ => 0, true, 0⟩ := by
    refine ⟨?_, rfl⟩
    funext i
    fin_cases i
    · rfl
    · rfl
  exact forBreak_related Mirrored (fun _ _ _ _ hR => hR.pass hF) (fun _ _ hR => hR.m.symm) hstart h h'

/-- **The mirror symmetry.**  Two runs on new objects, the second with the angles and
the coordinates exchanged, neither of which meets a Jacobian that `gaussJordan`
rejects: they return the same code, and one location is the other with its components
exchanged. -/
theorem newtonRaphson_mirror (sqrt cos : K → K) (angle1 angle2 x y : K) {code code' : ℤ} {r r' : Nav K}
    (h : (fresh angle1 angle2 x y).newtonRaphson sqrt cos = .ok (code, r))
    (h' : (fresh angle2 angle1 y x).newtonRaphson sqrt cos = .ok (code', r'))
    (hcode : code ≠ 2) (hcode' : code' ≠ 2) :
    code = code' ∧ r'.location = ![r.location 1, r.location 0] := by
  have hswap : ∀ p : Fin 2 → K, mirror p = ![p 1, p 0] := fun p => by
    funext i
    fin_cases i
    · rfl
    · rfl
  rw [← hswap]
  unfold newtonRaphson at h h'
  by_cases hrange : (fresh angle1 angle2 x y).AnglesInRange
  · obtain ⟨st, hpasses, rfl, hr⟩ := passes_of_newtonRaphsonWith hrange h hcode
    obtain ⟨st', hpasses', rfl, hr'⟩ :=
      passes_of_newtonRaphsonWith ((anglesInRange_mirror angle1 angle2 x y).2 hrange) h' hcode'
    have hend := passes_mirror (math_mirror sqrt cos angle1 angle2 x y) hpasses hpasses'
    exact ⟨rfl, by rw [hr, hr', hend.location]⟩
  · rw [newtonRaphsonWith_outOfRange hrange] at h
    rw [newtonRaphsonWith_outOfRange (mt (anglesInRange_mirror angle1 angle2 x y).1 hrange)] at h'
    cases h
    cases h'
    exact ⟨rfl, (hswap ![0, 0]).symm⟩

/-! ### Two runs that converge -/

/-- Both angles right, and the beacons at the distances `x` and `y` from the corner. -/
noncomputable abbrev right (x y : ℝ) : Nav ℝ := fresh (Real.arccos 0) (Real.arccos 0) x y

theorem math_right (x y : ℝ) (p : Fin 2 → ℝ) :
    math Real.sqrt Real.cos (right x y) p =
      ![2 * (p 0 ^ 2 + p 1 ^ 2 - x * p 0), 2 * (p 0 ^ 2 + p 1 ^ 2 - y * p 1)] :=
  math_of_right rfl rfl p

theorem right_inRange (x y : ℝ) : (right x y).AnglesInRange := by
  have hlow := Real.pi_gt_d2
  have hhigh := Real.pi_lt_d2
  unfold AnglesInRange right fresh
  rw [Real.arccos_zero]
  norm_num
  constructor <;> linarith

/-- The residual is quadratic, so that its central differences are its derivatives. -/
theorem jacobian_right (x y : ℚ) : jacobian (math Real.sqrt Real.cos (right x y)) ![8, 8] =
    (!![2 * (16 - x), 32; 32, 2 * (16 - y)] : Matrix (Fin 2) (Fin 2) ℚ).map (Rat.castHom ℝ) := by
  ext i j
  rw [jacobian_apply, math_right, math_right, Matrix.map_apply, Rat.coe_castHom]
  fin_cases i <;> fin_cases j <;> norm_num [inc, Function.update] <;> ring

omit [LinearOrder K] [IsStrictOrderedRing K] in
/-- A solution is the correction. -/
theorem correction_of_mulVec {F : (Fin 2 → K) → Fin 2 → K} {p δ : Fin 2 → K}
    (hdet : (jacobian F p).det ≠ 0) (h : jacobian F p *ᵥ δ = F p) : correction F p = δ := by
  unfold correction
  rw [← h, mulVec_mulVec, nonsing_inv_mul _ (isUnit_iff_ne_zero.2 hdet), one_mulVec]

/-- With beacons near those of the square the first pass converges to `p`, if that is a solution
near the centre. -/
theorem newtonRaphson_right {x y : ℚ} {p : Fin 2 → ℚ}
    (hcode : (gaussJordan (pivotTol : ℚ) ⟨!![2 * (16 - x), 32; 32, 2 * (16 - y)], 0, 0, 0⟩).map
      Prod.fst = .ok 0)
    (h₀ : 2 * (16 - x) * (8 - p 0) + 32 * (8 - p 1) = 2 * (128 - x * 8))
    (h₁ : 32 * (8 - p 0) + 2 * (16 - y) * (8 - p 1) = 2 * (128 - y * 8)) (hp : ∀ i, |8 - p i| ≤ tol i) :
    (right x y).newtonRaphson Real.sqrt Real.cos =
      .ok (0, { right x y with location := fun i => (p i : ℝ) }) := by
  have hinitial : newton (math Real.sqrt Real.cos (right x y)) 0 = ![8, 8] := rfl
  have hacc : AcceptsAt (math Real.sqrt Real.cos (right x y)) ![8, 8] :=
    acceptsAt_of_code (jacobian_right x y) hcode
  obtain ⟨-, -, -, hdet⟩ := hacc.solves pivotTol_pos 0 0 0
  have hcorrection : correction (math Real.sqrt Real.cos (right x y)) ![8, 8] =
      fun i => 8 - (p i : ℝ) := by
    refine correction_of_mulVec hdet ?_
    rw [jacobian_right, math_right, Rat.coe_castHom]
    have h₀' : 2 * (16 - (x : ℝ)) * (8 - p 0) + 32 * (8 - p 1) = 2 * (128 - x * 8) := by
      exact_mod_cast h₀
    have h₁' : 32 * (8 - (p 0 : ℝ)) + 2 * (16 - y) * (8 - p 1) = 2 * (128 - y * 8) := by
      exact_mod_cast h₁
    funext i
    fin_cases i
    · simpa [mulVec, dotProduct, Fin.sum_univ_two] using h₀'.trans (by norm_num)
    · simpa [mulVec, dotProduct, Fin.sum_univ_two] using h₁'.trans (by norm_num)
  have hconv : Converges (math Real.sqrt Real.cos (right x y)) 0 := by
    intro i
    rw [hinitial, hcorrection]
    calc |8 - (p i : ℝ)| = ((|8 - p i| : ℚ) : ℝ) := by push_cast; rfl
      _ ≤ ((tol i : ℚ) : ℝ) := Rat.cast_le.2 (hp i)
      _ = tol i := by fin_cases i <;> norm_num [tol]
  obtain ⟨st, hrun, hloc, -⟩ := passes_of_first (n := 100) (by decide) hconv (hinitial ▸ hacc)
  have hend : st.location = fun i => (p i : ℝ) := by
    rw [hloc, newton_succ, hinitial, newtonStep, hcorrection]
    funext i
    fin_cases i
    · exact sub_sub_cancel _ _
    · exact sub_sub_cancel _ _
  rw [← hend]
  exact newtonRaphsonWith_of_passes (right_inRange x y) hrun

/-- A beacon that is a little farther from the corner than `16`. -/
def far : ℚ := 16 + 1 / 10 ^ 7

/-- Beside the centre of the square. -/
def beside : Fin 2 → ℚ := ![8 + 1 / (2 * 10 ^ 7), 8]

/-- The same with the axes exchanged. -/
def beside' : Fin 2 → ℚ := ![8, 8 + 1 / (2 * 10 ^ 7)]

/-- With one beacon farther than the other each run moves along one axis. -/
theorem newtonRaphson_mirror_far :
    let r : Nav ℝ := { right (16 : ℚ) far with location := fun i => (beside i : ℝ) }
    let r' : Nav ℝ := { right far (16 : ℚ) with location := fun i => (beside' i : ℝ) }
    (right (16 : ℚ) far).newtonRaphson Real.sqrt Real.cos = .ok (0, r) ∧
      (right far (16 : ℚ)).newtonRaphson Real.sqrt Real.cos = .ok (0, r') ∧
      (0 : ℤ) = 0 ∧ r'.location = ![r.location 1, r.location 0] := by
  intro r r'
  have hrun : (right (16 : ℚ) far).newtonRaphson Real.sqrt Real.cos = .ok (0, r) :=
    newtonRaphson_right (by decide +kernel) (by decide +kernel) (by decide +kernel) (by decide +kernel)
  have hrun' : (right far (16 : ℚ)).newtonRaphson Real.sqrt Real.cos = .ok (0, r') :=
    newtonRaphson_right (by decide +kernel) (by decide +kernel) (by decide +kernel) (by decide +kernel)
  refine ⟨hrun, hrun', ?_⟩
  exact newtonRaphson_mirror Real.sqrt Real.cos (Real.arccos 0) (Real.arccos 0) (16 : ℚ) far hrun hrun'
    (by decide) (by decide)

end Nav
end ExeRobot
