/-
# Running the solver again

A `Nav` object is used by `setAngles`, `setCoordinates` and `newtonRaphson`, in any
order and any number of times.  A run whose angles are in the range starts from
`initial` and reads nothing an earlier run has left, so its code and its location
depend on the two angles and the two coordinates alone (`newtonRaphsonWith_inRange`).

A run whose angles are not in the range returns `3` before it touches the location:
what `getLocation` then returns is what the object held before
(`newtonRaphsonWith_outOfRange`), the location found for earlier angles if there were
any.  So the code never depends on the history, and the location does exactly when
the angles are out of range and the two histories have left different locations
(`newtonRaphson_again_iff`).
-/

import ExeRobot.Nav.Convergence
import Mathlib.Analysis.SpecialFunctions.Trigonometric.Basic

namespace ExeRobot
namespace Nav

open Loop Matrix

variable {K : Type} [Field K] [LinearOrder K]

/-! ### Histories -/

/-- A call on a `Nav` object. -/
inductive Call (K : Type) where
  | setAngles (d1 d2 : K)
  | setCoordinates (d1 d2 : K)
  | newtonRaphson

/-- What a call leaves. -/
def Call.run (sqrt cos : K → K) (nav : Nav K) : Call K → Except Trap (Nav K)
  | .setAngles d1 d2 => .ok (nav.setAngles d1 d2)
  | .setCoordinates d1 d2 => .ok (nav.setCoordinates d1 d2)
  | .newtonRaphson => (nav.newtonRaphson sqrt cos).map Prod.snd

/-- What a history of calls on a new object leaves. -/
def history (sqrt cos : K → K) (calls : List (Call K)) : Except Trap (Nav K) :=
  calls.foldlM (Call.run sqrt cos) init

/-! ### What a run depends on -/

variable {math : (Fin 2 → K) → Fin 2 → K} {sqrt cos : K → K} {nav nav' : Nav K}

omit [LinearOrder K] in
/-- The residual looks at the angles and the coordinates. -/
theorem math_congr (h₁ : nav.angle1 = nav'.angle1) (h₂ : nav.angle2 = nav'.angle2) (hx : nav.x = nav'.x)
    (hy : nav.y = nav'.y) : Nav.math sqrt cos nav = Nav.math sqrt cos nav' := by
  unfold Nav.math
  rw [h₁, h₂, hx, hy]

section
variable [IsStrictOrderedRing K]

/-- A pass fails only by a rejected Jacobian. -/
theorem pass_error {st : Pass K} {e : Exit (Fin 2 → K)} (h : pass math st = .error e) :
    ∃ p, e = .singular p := by
  rcases gaussJordan_spec (jacobian math st.location) (math st.location) st.aD1 st.aI
    (pivotTol_pos (K := K)) with ⟨s, hrun, -, -⟩ | ⟨s, hrun⟩
  · have haccepts : AcceptsAt math st.location := ⟨_, _, _, s, hrun⟩
    obtain ⟨aD1, aI, hpass⟩ := pass_eq haccepts
    rw [hpass] at h
    cases h
  · unfold pass at h
    rw [hrun] at h
    refine ⟨st.location, ?_⟩
    simpa using h.symm

/-- **A run in the range** returns a code and a location that depend on the residual
and the number of passes alone. -/
theorem newtonRaphsonWith_inRange (math : (Fin 2 → K) → Fin 2 → K) (n : ℕ) :
    ∃ code p, ∀ nav : Nav K, nav.AnglesInRange → nav.iterations = n →
      newtonRaphsonWith math nav = .ok (code, { nav with location := p }) := by
  cases hrun : passes math n with
  | ok st =>
    refine ⟨0, st.location, fun nav hnav hn => ?_⟩
    subst hn
    exact newtonRaphsonWith_of_passes hnav hrun
  | error e =>
    obtain ⟨p, rfl⟩ := forBreak_error (P := fun e => ∃ p, e = .singular p) (fun _ _ => pass_error) hrun
    refine ⟨2, p, fun nav hnav hn => ?_⟩
    subst hn
    unfold newtonRaphsonWith
    rw [if_pos hnav.1, if_pos hnav.2, hrun]

/-- A call ends normally and leaves the number of passes. -/
theorem Call.run_spec (sqrt cos : K → K) (nav : Nav K) (call : Call K) :
    ∃ nav', call.run sqrt cos nav = .ok nav' ∧ nav'.iterations = nav.iterations := by
  cases call with
  | setAngles d1 d2 => exact ⟨_, rfl, rfl⟩
  | setCoordinates d1 d2 => exact ⟨_, rfl, rfl⟩
  | newtonRaphson =>
    show ∃ nav', (newtonRaphsonWith (Nav.math sqrt cos nav) nav).map Prod.snd = .ok nav' ∧ _
    by_cases hrange : nav.AnglesInRange
    · obtain ⟨code, p, hrun⟩ := newtonRaphsonWith_inRange (Nav.math sqrt cos nav) nav.iterations
      rw [hrun nav hrange rfl]
      exact ⟨_, rfl, rfl⟩
    · rw [newtonRaphsonWith_outOfRange hrange]
      exact ⟨_, rfl, rfl⟩

/-- **Every history ends normally**, with as many passes allowed as a new object has. -/
theorem history_spec (sqrt cos : K → K) (calls : List (Call K)) :
    ∃ nav, history sqrt cos calls = .ok nav ∧ nav.iterations = (init : Nav K).iterations := by
  suffices ∀ nav : Nav K, ∃ nav', calls.foldlM (Call.run sqrt cos) nav = .ok nav' ∧
      nav'.iterations = nav.iterations from this init
  induction calls with
  | nil => exact fun nav => ⟨nav, rfl, rfl⟩
  | cons call calls ih =>
    intro nav
    obtain ⟨nav₁, hcall, hn⟩ := call.run_spec sqrt cos nav
    obtain ⟨nav₂, hrest, hn'⟩ := ih nav₁
    refine ⟨nav₂, ?_, hn'.trans hn⟩
    rw [List.foldlM_cons, hcall]
    exact hrest

/-- **When a run does not depend on the history.**  Two histories that end with the
same angles and coordinates are followed by runs with the same code; they leave the
same location exactly when the angles are in the range, or the histories left the
same location. -/
theorem newtonRaphson_again_iff (sqrt cos : K → K) {calls calls' : List (Call K)} {nav nav' : Nav K}
    (h : history sqrt cos calls = .ok nav) (h' : history sqrt cos calls' = .ok nav')
    (h₁ : nav.angle1 = nav'.angle1) (h₂ : nav.angle2 = nav'.angle2) (hx : nav.x = nav'.x)
    (hy : nav.y = nav'.y) :
    ∃ code r r', nav.newtonRaphson sqrt cos = .ok (code, r) ∧
      nav'.newtonRaphson sqrt cos = .ok (code, r') ∧
      (r.location = r'.location ↔ nav.AnglesInRange ∨ nav.location = nav'.location) := by
  obtain ⟨_, hend, hn⟩ := history_spec sqrt cos calls
  obtain rfl := Except.ok.inj (h.symm.trans hend)
  obtain ⟨_, hend', hn'⟩ := history_spec sqrt cos calls'
  obtain rfl := Except.ok.inj (h'.symm.trans hend')
  have hsame : nav.AnglesInRange ↔ nav'.AnglesInRange := by
    unfold AnglesInRange
    rw [h₁, h₂]
  unfold newtonRaphson
  rw [← math_congr h₁ h₂ hx hy]
  by_cases hrange : nav.AnglesInRange
  · obtain ⟨code, p, hrun⟩ := newtonRaphsonWith_inRange (Nav.math sqrt cos nav) (init : Nav K).iterations
    refine ⟨code, _, _, hrun nav hrange hn, hrun nav' (hsame.1 hrange) hn', ?_⟩
    exact iff_of_true rfl (.inl hrange)
  · refine ⟨3, nav, nav', newtonRaphsonWith_outOfRange hrange,
      newtonRaphsonWith_outOfRange (mt hsame.2 hrange), ?_⟩
    rw [or_iff_right hrange]

/-- A pass at a location whose Jacobian is singular ends the run there. -/
theorem pass_of_det_eq_zero {st : Pass K} (h : (jacobian math st.location).det = 0) :
    pass math st = .error (.singular st.location) := by
  rcases gaussJordan_spec (jacobian math st.location) (math st.location) st.aD1 st.aI
    (pivotTol_pos (K := K)) with ⟨-, -, -, hdet⟩ | ⟨s, hrun⟩
  · exact absurd h hdet
  · unfold pass
    rw [hrun]
    exact if_pos one_ne_zero

end

/-! ### A location left by earlier angles -/

/-- With both coordinates zero the two residuals are multiples of each other. -/
theorem math_of_coordinates_zero {nav : Nav ℝ} {cos : ℝ → ℝ} (hx : nav.x = 0) (hy : nav.y = 0)
    (p : Fin 2 → ℝ) (i : Fin 2) :
    Nav.math Real.sqrt cos nav p i =
      (2 - 2 * cos (![nav.angle1, nav.angle2] i)) * (p 0 * p 0 + p 1 * p 1) := by
  have hsq : Real.sqrt (p 0 * p 0 + p 1 * p 1) * Real.sqrt (p 0 * p 0 + p 1 * p 1) =
      p 0 * p 0 + p 1 * p 1 :=
    Real.mul_self_sqrt (add_nonneg (mul_self_nonneg _) (mul_self_nonneg _))
  unfold Nav.math
  simp only [hx, hy, sub_zero]
  revert i
  refine Fin.forall_fin_two.2 ⟨?_, ?_⟩
  · show p 0 * p 0 + p 1 * p 1 + (p 0 * p 0 + p 1 * p 1) -
      2 * Real.sqrt (p 0 * p 0 + p 1 * p 1) * Real.sqrt (p 0 * p 0 + p 1 * p 1) * cos nav.angle1 - 0 * 0 =
        (2 - 2 * cos nav.angle1) * (p 0 * p 0 + p 1 * p 1)
    linear_combination -2 * cos nav.angle1 * hsq
  · show p 0 * p 0 + p 1 * p 1 + (p 0 * p 0 + p 1 * p 1) -
      2 * Real.sqrt (p 0 * p 0 + p 1 * p 1) * Real.sqrt (p 0 * p 0 + p 1 * p 1) * cos nav.angle2 - 0 * 0 =
        (2 - 2 * cos nav.angle2) * (p 0 * p 0 + p 1 * p 1)
    linear_combination -2 * cos nav.angle2 * hsq

/-- So every Jacobian is singular, and a run ends where it starts. -/
theorem newtonRaphson_of_coordinates_zero (cos : ℝ → ℝ) {nav : Nav ℝ} (hx : nav.x = 0) (hy : nav.y = 0)
    (hrange : nav.AnglesInRange) (hn : 0 < nav.iterations) :
    nav.newtonRaphson Real.sqrt cos = .ok (2, { nav with location := initial }) := by
  have hdet : (jacobian (Nav.math Real.sqrt cos nav) initial).det = 0 := by
    obtain ⟨g, hg⟩ : ∃ g : Fin 2 → ℝ, ∀ i j, jacobian (Nav.math Real.sqrt cos nav) initial i j =
        (2 - 2 * cos (![nav.angle1, nav.angle2] i)) * g j := by
      let sq : (Fin 2 → ℝ) → ℝ := fun p => p 0 * p 0 + p 1 * p 1
      refine ⟨fun j => (sq (Function.update initial j (initial j + inc j)) -
        sq (Function.update initial j (initial j - inc j))) / (2 * inc j), fun i j => ?_⟩
      rw [jacobian_apply, math_of_coordinates_zero hx hy, math_of_coordinates_zero hx hy, ← mul_sub,
        mul_div_assoc]
    rw [det_fin_two, hg, hg, hg, hg]
    ring
  obtain ⟨n, hn'⟩ := Nat.exists_eq_add_of_lt hn
  have hpass : pass (Nav.math Real.sqrt cos nav) ⟨initial, fun _ => 0, fun _ => 0, true, 0⟩ =
      .error (.singular initial) := pass_of_det_eq_zero hdet
  have hrun : passes (Nav.math Real.sqrt cos nav) nav.iterations = .error (.singular initial) := by
    rw [hn', Nat.zero_add]
    unfold passes
    rw [forBreak, hpass]
    rfl
  unfold newtonRaphson newtonRaphsonWith
  rw [if_pos hrange.1, if_pos hrange.2, hrun]

/-- A run with both angles right and no beacons, and then two angles out of the range. -/
noncomputable def reused : Nav ℝ :=
  setAngles { (init : Nav ℝ).setAngles 90 90 with location := initial } 0 0

theorem history_reused :
    history Real.sqrt Real.cos [.setAngles 90 90, .newtonRaphson, .setAngles 0 0] = .ok reused := by
  have hrange : ((init : Nav ℝ).setAngles 90 90).AnglesInRange := by
    unfold AnglesInRange setAngles
    norm_num
  have hrun := newtonRaphson_of_coordinates_zero Real.cos rfl rfl hrange (by decide)
  unfold history
  rw [List.foldlM_cons]
  show (((init : Nav ℝ).setAngles 90 90).newtonRaphson Real.sqrt Real.cos).map Prod.snd >>= _ = _
  rw [hrun]
  rfl

theorem newtonRaphson_again_iff_reused :
    ∃ code r r', (init : Nav ℝ).newtonRaphson Real.sqrt Real.cos = .ok (code, r) ∧
      reused.newtonRaphson Real.sqrt Real.cos = .ok (code, r') ∧
      (r.location = r'.location ↔ (init : Nav ℝ).AnglesInRange ∨ (init : Nav ℝ).location = reused.location) :=
  newtonRaphson_again_iff Real.sqrt Real.cos (show history Real.sqrt Real.cos [] = .ok init from rfl)
    history_reused
    (zero_mul _).symm (zero_mul _).symm rfl rfl

/-- After this history a run returns `3` and the location of the earlier run, `(8, 8)`;
on a new object, which has the same angles and coordinates, it returns `3` and `(0, 0)`. -/
theorem not_newtonRaphson_again :
    ∃ nav nav' r r', history Real.sqrt Real.cos [] = .ok nav ∧
      history Real.sqrt Real.cos [.setAngles 90 90, .newtonRaphson, .setAngles 0 0] = .ok nav' ∧
      nav.angle1 = nav'.angle1 ∧ nav.angle2 = nav'.angle2 ∧ nav.x = nav'.x ∧ nav.y = nav'.y ∧
      nav.newtonRaphson Real.sqrt Real.cos = .ok (3, r) ∧
      nav'.newtonRaphson Real.sqrt Real.cos = .ok (3, r') ∧ r.location ≠ r'.location := by
  have hout : ∀ nav : Nav ℝ, nav.angle1 = 0 → ¬ nav.AnglesInRange := fun nav h₁ hrange => by
    have := hrange.1.1
    rw [h₁] at this
    norm_num at this
  refine ⟨init, reused, init, reused, rfl, history_reused, (zero_mul _).symm, (zero_mul _).symm, rfl, rfl,
    newtonRaphsonWith_outOfRange (hout _ rfl), newtonRaphsonWith_outOfRange (hout _ (zero_mul _)), ?_⟩
  intro h
  have h₀ : (0 : ℝ) = 8 := congrFun h 0
  norm_num at h₀

end Nav
end ExeRobot
