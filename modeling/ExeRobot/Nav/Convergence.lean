/-
# When `newtonRaphson` reports convergence truthfully

Newton's method from `(8, 8)` on a residual is the sequence `newton math t`; its
pass `t` converges when both components of the correction computed there are
within their tolerance.  The verdict one expects of `newtonRaphson` is
`ReportsConvergence`: at the first pass `t` that converges it stops, with the
location that pass computed and the code `0`, and when none of the `iterations`
passes converges it returns `1`.

The code gives that verdict in two situations only (`reportsConvergence_iff`).
`m` can only fall: a pass that converges after one that did not does not stop the
loop, which then makes all its passes (`passes_of_late`).  And the code `1` is
never returned.  So the first converging pass has to be the very first, or the
last one allowed.
-/

import ExeRobot.Nav.NewtonRaphson
import Mathlib.Algebra.Order.Floor.Ring
import Mathlib.Data.Rat.Floor

namespace ExeRobot
namespace Nav

open Loop Matrix

variable {K : Type} [Field K] [LinearOrder K]

/-- Newton's method from the starting location. -/
noncomputable def newton (math : (Fin 2 → K) → Fin 2 → K) (t : ℕ) : Fin 2 → K :=
  (newtonStep math)^[t] initial

/-- Both corrections of the pass `t` are within their tolerance. -/
def Converges (math : (Fin 2 → K) → Fin 2 → K) (t : ℕ) : Prop :=
  ∀ i, |correction math (newton math t) i| ≤ tol i

/-- The pass `t` is the first that converges. -/
def FirstConverges (math : (Fin 2 → K) → Fin 2 → K) (t : ℕ) : Prop :=
  Converges math t ∧ ∀ u < t, ¬ Converges math u

/-- **The verdict.**  The loop stops at the first converging pass, leaving the
location of that pass, and the code is `0`; without one among the passes allowed
the code is `1`. -/
structure ReportsConvergence (math : (Fin 2 → K) → Fin 2 → K) (nav : Nav K) : Prop where
  stops : ∀ t < nav.iterations, FirstConverges math t →
    (∃ st, passes math nav.iterations = .ok st ∧ st.passes = t + 1) ∧
      newtonRaphsonWith math nav = .ok (0, { nav with location := newton math (t + 1) })
  diverges : (∀ t < nav.iterations, ¬ Converges math t) →
    ∃ nav', newtonRaphsonWith math nav = .ok (1, nav')

omit [LinearOrder K] in
theorem newton_succ (math : (Fin 2 → K) → Fin 2 → K) (t : ℕ) :
    newton math (t + 1) = newtonStep math (newton math t) :=
  Function.iterate_succ_apply' ..

theorem firstConverges_unique {math : (Fin 2 → K) → Fin 2 → K} {t u : ℕ}
    (ht : FirstConverges math t) (hu : FirstConverges math u) : t = u := by
  rcases lt_trichotomy t u with h | h | h
  · exact absurd ht.1 (hu.2 t h)
  · exact h
  · exact absurd hu.1 (ht.2 u h)

/-- One of the passes converges first when one of them converges. -/
theorem exists_firstConverges {math : (Fin 2 → K) → Fin 2 → K} {n : ℕ}
    (h : ∃ t < n, Converges math t) : ∃ t < n, FirstConverges math t := by
  classical
  obtain ⟨t, ht, hc⟩ := h
  have hex : ∃ t, Converges math t := ⟨t, hc⟩
  exact ⟨Nat.find hex, (Nat.find_min' hex hc).trans_lt ht, Nat.find_spec hex,
    fun u hu => Nat.find_min hex hu⟩

variable {math : (Fin 2 → K) → Fin 2 → K}

/-- The passes before the loop is left: pass `k` is at the location `newton k`,
and `m` has fallen unless no pass was made. -/
structure Running (math : (Fin 2 → K) → Fin 2 → K) (k : ℕ) (st : Pass K) : Prop where
  location : st.location = newton math k
  passes : st.passes = k
  m : 0 < k → st.m = false

omit [LinearOrder K] in
theorem running_start : Running math 0 ⟨initial, fun _ => 0, fun _ => 0, true, 0⟩ :=
  ⟨rfl, rfl, fun h => absurd h (Nat.lt_irrefl 0)⟩

/-- A pass that ends normally had an accepted Jacobian. -/
theorem acceptsAt_of_pass {st st' : Pass K} (h : pass math st = .ok st') :
    AcceptsAt math st.location := by
  unfold pass at h
  cases hrun : gaussJordan pivotTol ⟨jacobian math st.location, math st.location, st.aD1, st.aI⟩ with
  | error t => simp [hrun] at h
  | ok r =>
    obtain ⟨code, s⟩ := r
    by_cases hcode : code = 0
    · exact ⟨_, _, _, s, hcode ▸ hrun⟩
    · simp [hrun, hcode] at h

variable [IsStrictOrderedRing K]

/-- An accepted pass, and what it does to `m`. -/
theorem Running.next {k : ℕ} {st : Pass K} (h : Running math k st)
    (hacc : AcceptsAt math (newton math k)) :
    ∃ st', pass math st = .ok st' ∧ st'.location = newton math (k + 1) ∧ st'.passes = k + 1 ∧
      (st'.m = true ↔ st.m = true ∧ Converges math k) := by
  obtain ⟨aD1, aI, hpass⟩ := pass_eq (h.location ▸ hacc)
  refine ⟨_, hpass, by rw [h.location, newton_succ], by rw [h.passes], ?_⟩
  simp [Converges, h.location]

/-- A pass after one that did not converge does not stop the loop. -/
theorem Running.next_late {k : ℕ} {st : Pass K} (h : Running math k st)
    (h0 : ¬ Converges math 0) (hacc : AcceptsAt math (newton math k)) :
    ∃ st', pass math st = .ok st' ∧ st'.m = false ∧ Running math (k + 1) st' := by
  obtain ⟨st', hpass, hloc, hpasses, hm⟩ := h.next hacc
  have hfalse : st'.m = false := by
    rw [Bool.eq_false_iff]
    intro htrue
    obtain ⟨hst, hconv⟩ := hm.1 htrue
    rcases Nat.eq_zero_or_pos k with rfl | hk
    · exact h0 hconv
    · exact absurd hst (by simp [h.m hk])
  exact ⟨st', hpass, hfalse, hloc, hpasses, fun _ => hfalse⟩

/-- A first pass that converges is the only one. -/
theorem passes_of_first {n : ℕ} (hn : 0 < n) (h0 : Converges math 0)
    (hacc : AcceptsAt math (newton math 0)) :
    ∃ st, passes math n = .ok st ∧ st.location = newton math 1 ∧ st.passes = 1 := by
  obtain ⟨st, hpass, hloc, hpasses, hm⟩ := running_start.next hacc
  obtain ⟨n, rfl⟩ : ∃ n', n = n' + 1 := ⟨n - 1, by omega⟩
  exact ⟨st, forBreak_stop hpass (hm.2 ⟨rfl, h0⟩), hloc, hpasses⟩

/-- **After a first pass that does not converge the loop makes all its passes.** -/
theorem passes_of_late {n : ℕ} {st : Pass K} (h0 : ¬ Converges math 0)
    (hrun : passes math n = .ok st) : st.passes = n := by
  have hend : Running math (0 + n) st := by
    refine forBreak_inv (Running math) running_start (fun k st st' hst hpass => ?_) hrun
    have hacc := acceptsAt_of_pass hpass
    rw [hst.location] at hacc
    obtain ⟨st'', hpass', hm, hnext⟩ := hst.next_late h0 hacc
    obtain rfl : st' = st'' := Except.ok.inj (hpass.symm.trans hpass')
    exact ⟨hm, hnext⟩
  rw [hend.passes, Nat.zero_add]

/-- The same run, when every Jacobian on the way is accepted. -/
theorem passes_all {n : ℕ} (h0 : ¬ Converges math 0)
    (hacc : ∀ t < n, AcceptsAt math (newton math t)) :
    ∃ st, passes math n = .ok st ∧ st.location = newton math n ∧ st.passes = n := by
  obtain ⟨st, hrun, hend⟩ := forBreak_all (Running math) (n := n) running_start
    fun k st hk hst => hst.next_late h0 (hacc k (by omega))
  rw [Nat.zero_add] at hend
  exact ⟨st, hrun, hend.location, hend.passes⟩

/-- **The verdict is right when the first pass converges, or when the last pass
allowed is the first that does, and otherwise it is not.**  The angles are in the
accepted range, and no pass up to the first converging one meets a Jacobian that
`gaussJordan` rejects. -/
theorem reportsConvergence_iff (nav : Nav K) (hrange : nav.AnglesInRange)
    (hacc : ∀ t < nav.iterations, (∀ u < t, ¬ Converges math u) → AcceptsAt math (newton math t)) :
    ReportsConvergence math nav ↔
      ∃ t < nav.iterations, FirstConverges math t ∧ (t = 0 ∨ t + 1 = nav.iterations) := by
  refine ⟨fun h => ?_, ?_⟩
  · by_cases hex : ∃ t < nav.iterations, Converges math t
    · obtain ⟨t, ht, hfirst⟩ := exists_firstConverges hex
      refine ⟨t, ht, hfirst, ?_⟩
      by_contra hlate
      obtain ⟨⟨st, hrun, hpasses⟩, -⟩ := h.stops t ht hfirst
      have := passes_of_late (hfirst.2 0 (by omega)) hrun
      omega
    · obtain ⟨nav', hnav⟩ := h.diverges fun t ht hc => hex ⟨t, ht, hc⟩
      exact absurd rfl (newtonRaphsonWith_ne_one hnav)
  · rintro ⟨t, ht, hfirst, hcase⟩
    refine ⟨fun u _ hu => ?_, fun hnone => absurd hfirst.1 (hnone t ht)⟩
    obtain rfl := firstConverges_unique hfirst hu
    suffices ∃ st, passes math nav.iterations = .ok st ∧ st.location = newton math (t + 1) ∧
        st.passes = t + 1 by
      obtain ⟨st, hrun, hloc, hpasses⟩ := this
      exact ⟨⟨st, hrun, hpasses⟩, hloc ▸ newtonRaphsonWith_of_passes hrange hrun⟩
    by_cases ht0 : t = 0
    · subst ht0
      exact passes_of_first ht hfirst.1 (hacc 0 ht hfirst.2)
    · have hlast : t + 1 = nav.iterations := by omega
      rw [hlast]
      exact passes_all (hfirst.2 0 (by omega)) fun u hu =>
        hacc u hu fun v hv => hfirst.2 v (by omega)

/-! ### Two residuals over the rationals -/

/-- An object with angles in the accepted range. -/
def rightAngles : Nav ℚ := { (init : Nav ℚ) with angle1 := 157 / 100, angle2 := 157 / 100 }

theorem rightAngles_inRange : rightAngles.AnglesInRange := by
  unfold AnglesInRange rightAngles
  norm_num

theorem accepts_one : Accepts (pivotTol : ℚ) (1 : Matrix (Fin 2) (Fin 2) ℚ) := by
  have hrun : (gaussJordan (pivotTol : ℚ) (⟨1, 0, 0, 0⟩ : Arrays ℚ 2)).map Prod.fst = .ok 0 := by
    decide +kernel
  exact accepts_of_code hrun

theorem correction_of_jacobian_one {math : (Fin 2 → ℚ) → Fin 2 → ℚ} {p : Fin 2 → ℚ}
    (h : jacobian math p = 1) : correction math p = math p := by
  rw [correction, h, inv_one, one_mulVec]

/-- The residual of a location that should be `(8, 8)`. -/
def offset (p : Fin 2 → ℚ) (i : Fin 2) : ℚ := p i - 8

theorem jacobian_offset (p : Fin 2 → ℚ) : jacobian offset p = 1 := by
  ext i j
  rw [jacobian_apply]
  fin_cases i <;> fin_cases j <;> norm_num [offset, inc]

/-- `reportsConvergence_iff` at a residual whose first pass converges. -/
theorem reportsConvergence_iff_offset :
    ReportsConvergence offset rightAngles ↔
      ∃ t < rightAngles.iterations,
        FirstConverges offset t ∧ (t = 0 ∨ t + 1 = rightAngles.iterations) :=
  reportsConvergence_iff rightAngles rightAngles_inRange fun t _ _ => by
    unfold AcceptsAt
    rw [jacobian_offset]
    exact accepts_one

/-- A residual whose graph along either axis is a sawtooth: `1` with slope `1` at
every whole number. -/
def sawtooth (p : Fin 2 → ℚ) (i : Fin 2) : ℚ := Int.fract (p i + 1 / 2) + 1 / 2

theorem sawtooth_add (z : Fin 2 → ℤ) {i : Fin 2} {e : ℚ} (h₁ : -1 / 2 ≤ e) (h₂ : e < 1 / 2)
    {p : Fin 2 → ℚ} (hp : p i = z i + e) : sawtooth p i = 1 + e := by
  unfold sawtooth
  rw [hp, show (z i : ℚ) + e + 1 / 2 = (e + 1 / 2) + z i by ring, Int.fract_add_intCast,
    Int.fract_eq_self.2 ⟨by linarith, by linarith⟩]
  ring

theorem jacobian_sawtooth (z : Fin 2 → ℤ) : jacobian sawtooth (fun i => (z i : ℚ)) = 1 := by
  ext i j
  rw [jacobian_apply]
  by_cases hij : i = j
  · subst hij
    have hinc : (inc i : ℚ) = 1 / 100 := by fin_cases i <;> rfl
    rw [sawtooth_add z (e := inc i) (by norm_num [hinc]) (by norm_num [hinc]) (Function.update_self ..),
      sawtooth_add z (e := -inc i) (by norm_num [hinc]) (by norm_num [hinc])
        ((Function.update_self ..).trans (sub_eq_add_neg ..)), hinc]
    norm_num
  · have hout : ∀ v, sawtooth (Function.update (fun i => (z i : ℚ)) j v) i = 1 + 0 := fun v =>
      sawtooth_add z (by norm_num) (by norm_num)
        ((Function.update_of_ne hij ..).trans (add_zero _).symm)
    rw [hout, hout, sub_self, zero_div, one_apply_ne hij]

theorem newton_sawtooth (t : ℕ) : newton sawtooth t = fun _ => (((8 - t : ℤ)) : ℚ) := by
  induction t with
  | zero =>
    funext i
    fin_cases i <;> simp [newton, initial]
  | succ t ih =>
    rw [newton_succ, ih, newtonStep, correction_of_jacobian_one (jacobian_sawtooth fun _ => 8 - t)]
    funext i
    rw [Pi.sub_apply, sawtooth_add (fun _ => 8 - t) (e := 0) (by norm_num) (by norm_num) (by simp)]
    push_cast
    ring

/-- On the sawtooth every pass moves the location by `1`, none converges, every
Jacobian is the identity, and the code is `0`. -/
theorem not_reportsConvergence_sawtooth :
    rightAngles.AnglesInRange ∧ (∀ t, AcceptsAt sawtooth (newton sawtooth t)) ∧
      (∀ t, ¬ Converges sawtooth t) ∧
      (∃ nav', newtonRaphsonWith sawtooth rightAngles = .ok (0, nav')) ∧
      ¬ ReportsConvergence sawtooth rightAngles := by
  have hacc : ∀ t, AcceptsAt sawtooth (newton sawtooth t) := fun t => by
    unfold AcceptsAt
    rw [newton_sawtooth, jacobian_sawtooth fun _ => 8 - t]
    exact accepts_one
  have hnone : ∀ t, ¬ Converges sawtooth t := fun t h => by
    have hle := h 0
    rw [newton_sawtooth, correction_of_jacobian_one (jacobian_sawtooth fun _ => 8 - t),
      sawtooth_add (fun _ => 8 - t) (e := 0) (by norm_num) (by norm_num) (by simp)] at hle
    norm_num [tol] at hle
  refine ⟨rightAngles_inRange, hacc, hnone, ?_, fun h => ?_⟩
  · obtain ⟨st, hrun, -⟩ := passes_all (n := rightAngles.iterations) (hnone 0) fun t _ => hacc t
    exact ⟨_, newtonRaphsonWith_of_passes rightAngles_inRange hrun⟩
  · obtain ⟨nav', hnav⟩ := h.diverges fun t _ => hnone t
    exact newtonRaphsonWith_ne_one hnav rfl

end Nav
end ExeRobot
