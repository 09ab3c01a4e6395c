/-
# The position solver: `Nav.newtonRaphson`

`Nav.java`, lines 3-91, in exact arithmetic.  A pass takes the residual `math` at
the current location, its Jacobian by central differences of half width `inc`,
solves for the correction by `gaussJordan`, and subtracts the correction from the
location.  The passes start from `initial = (8, 8)`; there are at most
`iterations` of them.

Two locals decide the verdict.  `m` is set to `true` before the loop and to
`false` by a correction above the tolerance, never back; the loop is left when it
is `true` after a pass.  `k` is `0` throughout, and the method returns `1` when
it is `100`.  The work arrays `aD1` and `aI` outlive a pass, so they are part of
the state of the loop (`Pass`); `aD` and `aD2` are filled anew by each pass.

The residual is a parameter of the loop, `math` being the one the code has, and
so are `Math.sqrt` and `Math.cos` in `math`.  In the terms of Newton's method the
correction of an accepted pass is `J⁻¹ F` (`pass_eq`).
-/

import ExeRobot.Nav.Singularity

namespace ExeRobot

/-- The fields of a `Nav` object that its methods or its callers write. -/
structure Nav (K : Type) where
  angle1 : K
  angle2 : K
  x : K
  y : K
  location : Fin 2 → K
  iterations : ℕ

namespace Nav

open Loop Matrix

variable {K : Type} [Field K]

/-- A new object. -/
def init : Nav K := ⟨0, 0, 0, 0, ![0, 0], 100⟩

/-- The half widths of the central differences. -/
def inc : Fin 2 → K := ![1 / 100, 1 / 100]

/-- The tolerances of the two corrections. -/
def tol : Fin 2 → K := ![1 / 10 ^ 6, 1 / 10 ^ 6]

/-- The location the passes start from. -/
def initial : Fin 2 → K := ![8, 8]

/-- The tolerance handed to `gaussJordan`. -/
def pivotTol : K := 1 / 10 ^ 15

/-- `setAngles(d1, d2)`, from degrees. -/
def setAngles (nav : Nav K) (d1 d2 : K) : Nav K :=
  { nav with
    angle1 := d1 * (1745329251994329 / 10 ^ 17)
    angle2 := d2 * (1745329251994329 / 10 ^ 17) }

/-- `setCoordinates(d1, d2)`. -/
def setCoordinates (nav : Nav K) (d1 d2 : K) : Nav K := { nav with x := d1, y := d2 }

/-- `math(a1, a2)`, the values it stores in `a2`. -/
def math (sqrt cos : K → K) (nav : Nav K) (a1 : Fin 2 → K) : Fin 2 → K :=
  let d1 := (a1 0 - nav.x) * (a1 0 - nav.x) + a1 1 * a1 1
  let d2 := sqrt d1
  let d3 := a1 0 * a1 0 + (a1 1 - nav.y) * (a1 1 - nav.y)
  let d4 := sqrt d3
  let d5 := a1 0 * a1 0 + a1 1 * a1 1
  let d6 := sqrt d5
  ![d1 + d5 - 2 * d2 * d6 * cos nav.angle1 - nav.x * nav.x,
    d3 + d5 - 2 * d4 * d6 * cos nav.angle2 - nav.y * nav.y]

/-- The Jacobian `aD` of lines 45-56: column `j` from the residuals at the location
with `inc[j]` taken from, and added to, its component `j`. -/
def jacobian (math : (Fin 2 → K) → Fin 2 → K) (location : Fin 2 → K) : Matrix (Fin 2) (Fin 2) K :=
  Matrix.of fun i j =>
    let aD3 := math (Function.update location j (location j - inc j))
    let aD4 := math (Function.update location j (location j + inc j))
    (aD4 i - aD3 i) / (2 * inc j)

theorem jacobian_apply (math : (Fin 2 → K) → Fin 2 → K) (p : Fin 2 → K) (i j : Fin 2) :
    jacobian math p i j = (math (Function.update p j (p j + inc j)) i -
      math (Function.update p j (p j - inc j)) i) / (2 * inc j) := rfl

/-- What outlives a pass of the loop; `passes` counts the passes made. -/
structure Pass (K : Type) where
  location : Fin 2 → K
  aD1 : Fin 2 → K
  aI : Fin 2 → ℤ
  m : Bool
  passes : ℕ

variable [LinearOrder K]

/-- One turn of the loop of lines 60-65: the location and `m`. -/
def correct (s : Arrays K 2) (st : (Fin 2 → K) × Bool) (i : Fin 2) :
    Except (Exit (Fin 2 → K)) ((Fin 2 → K) × Bool) := do
  let r ← row s i
  pure (Function.update st.1 i (st.1 i - s.a2 r), if |s.a2 r| > tol i then false else st.2)

/-- One pass, lines 44-65.  The exit `singular` is the `return 2`, with the location. -/
def pass (math : (Fin 2 → K) → Fin 2 → K) (st : Pass K) : Except (Exit (Fin 2 → K)) (Pass K) :=
  match gaussJordan pivotTol ⟨jacobian math st.location, math st.location, st.aD1, st.aI⟩ with
  | .error t => .error (.trap t)
  | .ok (code, s) =>
    if code ≠ 0 then .error (.singular st.location)
    else do
      let (location, m) ← (List.finRange 2).foldlM (correct s) (st.location, st.m)
      pure ⟨location, s.a2, s.aI, m, st.passes + 1⟩

/-- The loop of lines 43-69 on an object with `iterations` passes allowed. -/
def passes (math : (Fin 2 → K) → Fin 2 → K) (iterations : ℕ) :
    Except (Exit (Fin 2 → K)) (Pass K) :=
  forBreak (pass math) Pass.m iterations ⟨initial, fun _ => 0, fun _ => 0, true, 0⟩

/-- `newtonRaphson()` with the residual `math`: the returned code and the object
the call leaves. -/
def newtonRaphsonWith (math : (Fin 2 → K) → Fin 2 → K) (nav : Nav K) : Except Trap (ℤ × Nav K) :=
  let k : ℤ := 0
  if nav.angle1 ≥ 7853 / 10000 ∧ nav.angle1 ≤ 2618 / 1000 then
    if nav.angle2 ≥ 7853 / 10000 ∧ nav.angle2 ≤ 2618 / 1000 then
      match passes math nav.iterations with
      | .error (.trap t) => .error t
      | .error (.singular location) => .ok (2, { nav with location := location })
      | .ok st => .ok (if k = 100 then 1 else 0, { nav with location := st.location })
    else .ok (3, nav)
  else .ok (3, nav)

/-- `newtonRaphson()`. -/
def newtonRaphson (sqrt cos : K → K) (nav : Nav K) : Except Trap (ℤ × Nav K) :=
  newtonRaphsonWith (math sqrt cos nav) nav

/-- Both angles are in the range `newtonRaphson` accepts. -/
def AnglesInRange (nav : Nav K) : Prop :=
  (nav.angle1 ≥ 7853 / 10000 ∧ nav.angle1 ≤ 2618 / 1000) ∧
    nav.angle2 ≥ 7853 / 10000 ∧ nav.angle2 ≤ 2618 / 1000

theorem newtonRaphsonWith_of_passes {math : (Fin 2 → K) → Fin 2 → K} {nav : Nav K} {st : Pass K}
    (hrange : nav.AnglesInRange) (hst : passes math nav.iterations = .ok st) :
    newtonRaphsonWith math nav = .ok (0, { nav with location := st.location }) := by
  unfold newtonRaphsonWith
  rw [if_pos hrange.1, if_pos hrange.2, hst]
  rfl

theorem newtonRaphsonWith_outOfRange {math : (Fin 2 → K) → Fin 2 → K} {nav : Nav K}
    (h : ¬ nav.AnglesInRange) :
    newtonRaphsonWith math nav = .ok (3, nav) := by
  unfold newtonRaphsonWith
  by_cases h₁ : nav.angle1 ≥ 7853 / 10000 ∧ nav.angle1 ≤ 2618 / 1000
  · rw [if_pos h₁, if_neg fun h₂ => h ⟨h₁, h₂⟩]
  · rw [if_neg h₁]

/-- **The code `1` is never returned:** `k` is never incremented. -/
theorem newtonRaphsonWith_ne_one {math : (Fin 2 → K) → Fin 2 → K} {nav nav' : Nav K} {code : ℤ}
    (h : newtonRaphsonWith math nav = .ok (code, nav')) : code ≠ 1 := by
  unfold newtonRaphsonWith at h
  by_cases h1 : nav.angle1 ≥ 7853 / 10000 ∧ nav.angle1 ≤ 2618 / 1000
  · by_cases h2 : nav.angle2 ≥ 7853 / 10000 ∧ nav.angle2 ≤ 2618 / 1000
    · rw [if_pos h1, if_pos h2] at h
      cases hrun : passes math nav.iterations with
      | error e => cases e <;> rw [hrun] at h <;> simp at h; omega
      | ok st => rw [hrun] at h; simp at h; omega
    · rw [if_pos h1, if_neg h2] at h
      simp at h; omega
  · rw [if_neg h1] at h
    simp at h; omega

/-! ### A pass is a step of Newton's method -/

/-- The correction of Newton's method: the `δ` with `J δ = F`. -/
noncomputable def correction (math : (Fin 2 → K) → Fin 2 → K) (p : Fin 2 → K) : Fin 2 → K :=
  (jacobian math p)⁻¹ *ᵥ math p

/-- One step of Newton's method. -/
noncomputable def newtonStep (math : (Fin 2 → K) → Fin 2 → K) (p : Fin 2 → K) : Fin 2 → K :=
  p - correction math p

/-- `gaussJordan` accepts the Jacobian assembled at `p`. -/
def AcceptsAt (math : (Fin 2 → K) → Fin 2 → K) (p : Fin 2 → K) : Prop :=
  Accepts pivotTol (jacobian math p)

theorem pivotTol_pos [IsStrictOrderedRing K] : (0 : K) < pivotTol := by
  unfold pivotTol
  positivity

/-- **What an accepted pass does.**  The location moves by the correction of
Newton's method, read through the permutation, and `m` stays `true` only when
both components of the correction are within their tolerance. -/
theorem pass_eq [IsStrictOrderedRing K] {math : (Fin 2 → K) → Fin 2 → K} {st : Pass K}
    (h : AcceptsAt math st.location) :
    ∃ aD1 aI, pass math st = .ok ⟨newtonStep math st.location, aD1, aI,
      st.m && decide (∀ i, |correction math st.location i| ≤ tol i), st.passes + 1⟩ := by
  obtain ⟨s, hrun, ⟨σ, hσ, hsol⟩, hdet⟩ := h.solves pivotTol_pos (math st.location) st.aD1 st.aI
  have hunit : IsUnit (jacobian math st.location).det := isUnit_iff_ne_zero.2 hdet
  have hδ : ∀ i, s.a2 (σ i) = correction math st.location i := fun i => by
    unfold correction
    rw [← hsol, mulVec_mulVec, nonsing_inv_mul _ hunit, one_mulVec]
  refine ⟨s.a2, s.aI, ?_⟩
  unfold pass
  rw [hrun]
  have hcorrect : ∀ (p : Fin 2 → K) (m : Bool) (i : Fin 2), correct s (p, m) i =
      .ok (Function.update p i (p i - correction math st.location i),
        m && decide (|correction math st.location i| ≤ tol i)) := fun p m i => by
    unfold correct
    rw [row_of_lists hσ]
    show Except.ok (Function.update p i (p i - s.a2 (σ i)), if |s.a2 (σ i)| > tol i then false else m) = _
    rw [hδ]
    by_cases hle : |correction math st.location i| ≤ tol i
    · simp [hle, hle.not_gt]
    · simp [hle, not_le.1 hle]
  show (List.finRange 2).foldlM (correct s) (st.location, st.m) >>= _ = _
  simp only [List.finRange_succ, List.finRange_zero, List.map_cons, List.map_nil, List.foldlM_cons,
    List.foldlM_nil, hcorrect, bind, Except.bind, pure, Except.pure]
  congr 2
  · funext i
    fin_cases i <;> simp [newtonStep]
  · simp [Fin.forall_fin_two, Bool.and_assoc]

end Nav
end ExeRobot
