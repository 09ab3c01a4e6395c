/-
# What each loop of `gaussJordan` does

The three loops of `ExeRobot.Nav.GaussJordan`, one specification each, written
as a computation with the tolerance `pD` (`ExeRobot.Library.Tolerance`): a loop
either gives up at every tolerance, and then the matrix is singular, or it has
one result, which every run that does not give up reaches.

The rows are listed by a permutation `σ` kept in `aI` (`Lists`).  At column `k`
the system the arrays stand for is not `aD` itself: the entries that the
elimination has cleared are still there, stale.  `upper k aD σ` reads the rows in
pivot order and takes the entries below the diagonal in the columns before `k`
as `0`.  The invariant of the second loop is that this system is
`RowEquivalent` to the one at entry (`columnStep_tolerant`); at the end it is
upper triangular, and back substitution solves it from the last equation up
(`backStep_tolerant`).
-/

import ExeRobot.Library.RowEquivalent
import ExeRobot.Library.Tolerance
import ExeRobot.Nav.GaussJordan
import Mathlib.Algebra.Order.AbsoluteValue.Basic

namespace ExeRobot
namespace Nav

open Loop LinearSystem Matrix

variable {K : Type} [Field K] [LinearOrder K] {n : ℕ}

/-- `aI` holds the order `σ` of the rows. -/
def Lists (aI : Fin n → ℤ) (σ : Equiv.Perm (Fin n)) : Prop := ∀ i, aI i = ((σ i : ℕ) : ℤ)

omit [Field K] [LinearOrder K] in
theorem row_of_lists {ρ : Type} {s : Arrays K n} {σ : Equiv.Perm (Fin n)} (h : Lists s.aI σ)
    (i : Fin n) :
    (row s i : Except (Exit ρ) (Fin n)) = .ok (σ i) := by
  simp [row, h i]

theorem divide_of_ne {ρ : Type} {x y : K} (h : y ≠ 0) :
    (divide x y : Except (Exit ρ) K) = .ok (x / y) := if_neg h

/-- The exit `return 1`. -/
def IsSingular (e : Exit (Arrays K n)) : Prop := ∃ s, e = .singular s

/-! ### The scale factors -/

/-- `rowMax r` is the largest of the `|r j|`. -/
theorem rowMax_spec (r : Fin n → K) (i : Fin n) :
    (∀ j, |r j| ≤ rowMax r i) ∧ ∃ j, rowMax r i = |r j| := by
  have h := foldl_indices (le_refl n)
    (f := fun v j => if |r j| > v then |r j| else v) (s := |r ⟨0, i.pos⟩|)
    (fun c v => (∀ j : Fin n, j < c → |r j| ≤ v) ∧ ∃ j, v = |r j|) (Nat.succ_le_of_lt i.pos)
    ⟨fun j hj => by rw [show j = ⟨0, i.pos⟩ from Fin.ext (by simpa using hj)], _, rfl⟩
    fun c v _ _ ⟨hle, j₀, hv⟩ => by
      have hcase : ∀ j : Fin n, (j : ℕ) < c + 1 → j < c ∨ j = c := fun j hj => by
        rcases Nat.lt_succ_iff_lt_or_eq.1 hj with h | h
        · exact .inl h
        · exact .inr (Fin.ext h)
      by_cases hgt : |r c| > v
      · simp only [if_pos hgt]
        refine ⟨fun j hj => ?_, c, rfl⟩
        rcases hcase j hj with h | rfl
        · exact (hle j h).trans hgt.le
        · exact le_rfl
      · simp only [if_neg hgt]
        refine ⟨fun j hj => ?_, j₀, hv⟩
        rcases hcase j hj with h | rfl
        · exact hle j h
        · exact not_lt.1 hgt
  exact ⟨fun j => h.1 j j.2, h.2⟩

/-- After the first loop has passed the positions below `k`: the matrix and the
right-hand side are untouched, and those positions have their index and a
positive scale factor. -/
structure Scaled (A : Matrix (Fin n) (Fin n) K) (b : Fin n → K) (k : ℕ)
    (st : Arrays K n × (Fin n → K)) : Prop where
  aD : st.1.aD = A
  a1 : st.1.a1 = b
  aI : ∀ j : Fin n, j < k → st.1.aI j = ((j : ℕ) : ℤ)
  scale : ∀ j : Fin n, j < k → 0 < st.2 j

variable [IsStrictOrderedRing K]

theorem scaleStep_tolerant {A : Matrix (Fin n) (Fin n) K} {b : Fin n → K} {i : Fin n}
    {st : Arrays K n × (Fin n → K)} (h : Scaled A b i st) :
    Tolerant (A.det ≠ 0) (Scaled A b (i + 1)) IsSingular fun t => scaleStep t st i := by
  obtain ⟨s, v⟩ := st
  obtain ⟨hle, j₀, hj₀⟩ := rowMax_spec (s.aD i) i
  have hcase : ∀ j : Fin n, (j : ℕ) < i + 1 → j ≠ i → j < i := fun j hj hne =>
    lt_of_le_of_ne (Nat.lt_succ_iff.1 hj) hne
  refine tolerant_guard ⟨_, rfl⟩ (fun hdet => ?_) fun hpos => ?_
  · rw [Function.update_self]
    by_contra hx
    refine hdet (det_eq_zero_of_row_eq_zero i fun j => ?_)
    rw [← h.aD]
    exact abs_eq_zero.1 (le_antisymm ((hle j).trans (not_lt.1 hx)) (abs_nonneg _))
  · refine tolerant_ok (fun _ => rfl) ⟨h.aD, h.a1, fun j hj => ?_, fun j hj => ?_⟩ one_pos
    · by_cases hji : j = i
      · subst hji; exact Function.update_self ..
      · exact (Function.update_of_ne hji ..).trans (h.aI j (hcase j hj hji))
    · by_cases hji : j = i
      · subst hji; exact hpos
      · exact (h.scale j (hcase j hj hji)).trans_eq (Function.update_of_ne hji ..).symm

/-! ### The elimination -/

/-- The rows in pivot order, the entries below the diagonal in the columns before
`k` taken as cleared. -/
def upper (k : ℕ) (aD : Matrix (Fin n) (Fin n) K) (σ : Equiv.Perm (Fin n)) : Matrix (Fin n) (Fin n) K :=
  fun p j => if (j : ℕ) < min (p : ℕ) k then 0 else aD (σ p) j

omit [IsStrictOrderedRing K] in
theorem ratio_of_lists {s : Arrays K n} {σ : Equiv.Perm (Fin n)} {scale : Fin n → K}
    (hσ : Lists s.aI σ) (hs : ∀ r, 0 < scale r) (k i : Fin n) :
    ratio s scale k i = .ok (|s.aD (σ i) k| / scale (σ i)) := by
  unfold ratio
  rw [row_of_lists hσ]
  exact divide_of_ne (hs _).ne'

omit [IsStrictOrderedRing K] in
/-- The search finds a position from `k` on whose ratio none of the others exceeds. -/
theorem pivotSearch_spec {s : Arrays K n} {σ : Equiv.Perm (Fin n)} {scale : Fin n → K}
    (hσ : Lists s.aI σ) (hs : ∀ r, 0 < scale r) (k : Fin n) :
    ∃ best, pivotSearch s scale k = .ok best ∧ k ≤ best.1 ∧
      best.2 = |s.aD (σ best.1) k| / scale (σ best.1) ∧
      ∀ i, k ≤ i → |s.aD (σ i) k| / scale (σ i) ≤ best.2 := by
  let f := fun i => |s.aD (σ i) k| / scale (σ i)
  have hratio := ratio_of_lists hσ hs k
  obtain ⟨best, hrun, hk, hbest, hmax⟩ := foldlM_indices (le_refl n) (f := pivotStep s scale k)
    (fun c (best : Fin n × K) => k ≤ best.1 ∧ best.2 = f best.1 ∧
      ∀ i : Fin n, k ≤ i → (i : ℕ) < c → f i ≤ best.2)
    (s := (k, f k)) (Nat.succ_le_of_lt k.2)
    ⟨le_rfl, rfl, fun i hki hi => by rw [show i = k from le_antisymm (Nat.lt_succ_iff.1 hi) hki]⟩
    fun c best hc _ ⟨hk, hbest, hmax⟩ => by
      have hcase : ∀ i : Fin n, (i : ℕ) < c + 1 → (i : ℕ) < c ∨ i = c := fun i hi => by
        rcases Nat.lt_succ_iff_lt_or_eq.1 hi with h | h
        · exact .inl h
        · exact .inr (Fin.ext h)
      refine ⟨if f c > best.2 then (c, f c) else best, by unfold pivotStep; rw [hratio]; rfl, ?_⟩
      by_cases hgt : f c > best.2
      · simp only [if_pos hgt]
        refine ⟨Fin.le_def.2 (by omega), trivial, fun i hki hi => ?_⟩
        rcases hcase i hi with h | rfl
        · exact (hmax i hki h).trans hgt.le
        · exact le_rfl
      · simp only [if_neg hgt]
        refine ⟨hk, hbest, fun i hki hi => ?_⟩
        rcases hcase i hi with h | rfl
        · exact hmax i hki h
        · exact not_lt.1 hgt
  refine ⟨best, ?_, hk, hbest, fun i hi => hmax i hi i.2⟩
  unfold pivotSearch
  rw [hratio]
  exact hrun

omit [Field K] [LinearOrder K] [IsStrictOrderedRing K] in
/-- Exchanging two entries of `aI` exchanges two positions of the order. -/
theorem exchange_lists {aI : Fin n → ℤ} {σ : Equiv.Perm (Fin n)} (h : Lists aI σ) (k m : Fin n) :
    Lists (exchange aI k m) (σ * Equiv.swap k m) := by
  intro i
  rw [Equiv.Perm.mul_apply]
  unfold exchange
  by_cases hmk : m = k
  · subst hmk
    simpa using h i
  · rw [if_pos hmk]
    by_cases hik : i = k
    · subst hik
      rw [Function.update_self, Equiv.swap_apply_left, h]
    · rw [Function.update_of_ne hik]
      by_cases him : i = m
      · subst him
        rw [Function.update_self, Equiv.swap_apply_right, h]
      · rw [Function.update_of_ne him, Equiv.swap_apply_of_ne_of_ne hik him, h]

omit [LinearOrder K] [IsStrictOrderedRing K] in
/-- The row `r` with `d1` times the row `p` taken from its entries after `k`. -/
theorem subtractRow_apply (aD : Matrix (Fin n) (Fin n) K) (d1 : K) {r p : Fin n} (hrp : p ≠ r)
    (k r' j : Fin n) :
    subtractRow aD d1 r p k r' j = if r' = r ∧ k < j then aD r j - d1 * aD p j else aD r' j := by
  have h := foldl_indices (le_refl n)
    (f := fun (aD : Matrix (Fin n) (Fin n) K) j =>
      aD.updateRow r (Function.update (aD r) j (aD r j - d1 * aD p j)))
    (s := aD)
    (fun c aD' => ∀ r' j, aD' r' j =
      if r' = r ∧ k < j ∧ (j : ℕ) < c then aD r j - d1 * aD p j else aD r' j)
    (Nat.succ_le_of_lt k.2)
    (fun r' j => by
      rw [if_neg]
      rintro ⟨-, hkj, hj⟩
      exact absurd (Fin.lt_def.1 hkj) (by omega))
    fun c aD' hc _ haD r' j => by
      by_cases hr : r' = r
      · subst hr
        rw [updateRow_self]
        by_cases hj : j = c
        · subst hj
          have hkj : k < j := Fin.lt_def.2 (by omega)
          simp [haD, hrp, hkj]
        · have hjc : (j : ℕ) ≠ c := fun e => hj (Fin.ext e)
          have hiff : (j : ℕ) < c ↔ (j : ℕ) < c + 1 := by omega
          rw [Function.update_of_ne hj, haD]
          simp only [hiff]
      · rw [updateRow_ne hr, haD]
        simp [hr]
  have hrow := h r' j
  unfold subtractRow
  simpa only [Fin.is_lt, and_true] using hrow

/-- The arrays `s` after the elimination loop at column `k` has passed the
positions below `i`. -/
structure Cleared (s : Arrays K n) (σ : Equiv.Perm (Fin n)) (k : Fin n) (i : ℕ) (s' : Arrays K n) :
    Prop where
  aI : s'.aI = s.aI
  aD : ∀ r j, s'.aD r j = if k < σ.symm r ∧ (σ.symm r : ℕ) < i ∧ k < j
    then s.aD r j - s.aD r k / s.aD (σ k) k * s.aD (σ k) j else s.aD r j
  a1 : ∀ r, s'.a1 r = if k < σ.symm r ∧ (σ.symm r : ℕ) < i
    then s.a1 r - s.aD r k / s.aD (σ k) k * s.a1 (σ k) else s.a1 r

omit [IsStrictOrderedRing K] in
theorem eliminateStep_eq {s : Arrays K n} {σ : Equiv.Perm (Fin n)} {k i : Fin n}
    (hσ : Lists s.aI σ) (hpivot : s.aD (σ k) k ≠ 0) :
    eliminateStep k s i = .ok { s with
      aD := subtractRow s.aD (s.aD (σ i) k / s.aD (σ k) k) (σ i) (σ k) k
      a1 := Function.update s.a1 (σ i)
        (s.a1 (σ i) - s.aD (σ i) k / s.aD (σ k) k * s.a1 (σ k)) } := by
  unfold eliminateStep
  rw [row_of_lists hσ, row_of_lists hσ]
  show (divide (s.aD (σ i) k) (s.aD (σ k) k) >>= _) = _
  rw [divide_of_ne hpivot]
  rfl

omit [IsStrictOrderedRing K] in
/-- One turn of the elimination loop clears one more position. -/
theorem eliminateStep_spec {s s' : Arrays K n} {σ : Equiv.Perm (Fin n)} {k i : Fin n}
    (hσ : Lists s.aI σ) (hpivot : s.aD (σ k) k ≠ 0) (hki : k < i) (h : Cleared s σ k i s') :
    ∃ s'', eliminateStep k s' i = .ok s'' ∧ Cleared s σ k (i + 1) s'' := by
  have hne : σ k ≠ σ i := fun e => hki.ne (σ.injective e)
  have hk : ∀ r, s'.aD r k = s.aD r k := fun r => by rw [h.aD, if_neg (by simp)]
  have hp : ∀ j, s'.aD (σ k) j = s.aD (σ k) j := fun j => by rw [h.aD, if_neg (by simp)]
  have hi : ∀ j, s'.aD (σ i) j = s.aD (σ i) j := fun j => by rw [h.aD, if_neg (by simp)]
  have hp1 : s'.a1 (σ k) = s.a1 (σ k) := by rw [h.a1, if_neg (by simp)]
  have hi1 : s'.a1 (σ i) = s.a1 (σ i) := by rw [h.a1, if_neg (by simp)]
  have hpos : ∀ r, r ≠ σ i → ((σ.symm r : ℕ) < i ↔ (σ.symm r : ℕ) < i + 1) := fun r hr => by
    have : (σ.symm r : ℕ) ≠ i := fun e => hr (by rw [← Fin.ext e]; simp)
    omega
  refine ⟨_, eliminateStep_eq (h.aI ▸ hσ) (by rwa [hk]), h.aI, fun r j => ?_, fun r => ?_⟩
  · show subtractRow s'.aD _ (σ i) (σ k) k r j = _
    rw [subtractRow_apply _ _ hne]
    by_cases hr : r = σ i
    · subst hr
      simp [hki, hi, hp]
    · simp only [hr, false_and, if_false, h.aD, hpos r hr]
  · by_cases hr : r = σ i
    · subst hr
      simp [hki, hi, hi1, hp, hp1]
    · simp only [Function.update_of_ne hr, h.a1, hpos r hr]

omit [IsStrictOrderedRing K] in
/-- The elimination loop at column `k` clears every position after `k`. -/
theorem eliminateLoop_spec {s : Arrays K n} {σ : Equiv.Perm (Fin n)} {k : Fin n}
    (hσ : Lists s.aI σ) (hpivot : s.aD (σ k) k ≠ 0) :
    ∃ s', (indices n (k + 1) n).foldlM (eliminateStep k) s = .ok s' ∧ Cleared s σ k n s' :=
  foldlM_indices le_rfl (Cleared s σ k) k.2
    ⟨rfl, fun r j => by
        rw [if_neg]; rintro ⟨hk, hlt, -⟩; exact absurd (Fin.lt_def.1 hk) (by omega),
      fun r => by
        rw [if_neg]; rintro ⟨hk, hlt⟩; exact absurd (Fin.lt_def.1 hk) (by omega)⟩
    fun _ _ hi _ h => eliminateStep_spec hσ hpivot (Fin.lt_def.2 (by omega)) h

omit [LinearOrder K] [IsStrictOrderedRing K] in
/-- Listing the rows from position `k` on in another order. -/
theorem upper_permute (aD : Matrix (Fin n) (Fin n) K) (σ : Equiv.Perm (Fin n)) {k m : Fin n}
    (hkm : k ≤ m)
    (p j : Fin n) :
    upper k aD (σ * Equiv.swap k m) p j = upper k aD σ (Equiv.swap k m p) j := by
  have hmin : min (p : ℕ) k = min (Equiv.swap k m p : ℕ) k := by
    by_cases hpk : p = k
    · subst hpk
      rw [Equiv.swap_apply_left, min_self, min_eq_right (Fin.le_def.1 hkm)]
    · by_cases hpm : p = m
      · subst hpm
        rw [Equiv.swap_apply_right, min_self, min_eq_right (Fin.le_def.1 hkm)]
      · rw [Equiv.swap_apply_of_ne_of_ne hpk hpm]
  unfold upper
  rw [hmin, Equiv.Perm.mul_apply]

omit [LinearOrder K] [IsStrictOrderedRing K] in
/-- Clearing the column `k` is subtracting multiples of the equation `k`. -/
theorem upper_cleared {s s' : Arrays K n} {σ : Equiv.Perm (Fin n)} {k : Fin n}
    (hpivot : s.aD (σ k) k ≠ 0) (h : Cleared s σ k n s') :
    RowEquivalent (upper (k + 1) s'.aD σ) (fun p => s'.a1 (σ p))
      (upper k s.aD σ) (fun p => s.a1 (σ p)) := by
  refine RowEquivalent.rowSub (k := k)
    (t := fun p => if k < p then s.aD (σ p) k / s.aD (σ k) k else 0) (by simp)
    (fun p j => ?_) (fun p => ?_)
  · unfold upper
    rw [h.aD, Equiv.symm_apply_apply]
    by_cases hkp : k < p
    · have hp : min (p : ℕ) (k + 1) = k + 1 := min_eq_right (Fin.lt_def.1 hkp)
      have hp' : min (p : ℕ) k = k := min_eq_right (Fin.lt_def.1 hkp).le
      rw [hp, hp', min_self, if_pos hkp]
      rcases lt_trichotomy j k with hj | rfl | hj
      · have := Fin.lt_def.1 hj
        rw [if_pos (by omega), if_pos (by omega), if_pos (by omega)]
        ring
      · rw [if_pos (by omega), if_neg (by omega), if_neg (by omega), div_mul_cancel₀ _ hpivot, sub_self]
      · have := Fin.lt_def.1 hj
        have h₁ : ¬ (j : ℕ) < k + 1 := by omega
        have h₂ : ¬ (j : ℕ) < k := by omega
        rw [if_neg h₁, if_neg h₂, if_neg h₂, if_pos ⟨hkp, p.2, hj⟩]
    · have hp : min (p : ℕ) (k + 1) = p := min_eq_left (by have := not_lt.1 hkp; omega)
      have hp' : min (p : ℕ) k = p := min_eq_left (not_lt.1 hkp)
      have hc : ¬ (k < p ∧ (p : ℕ) < n ∧ k < j) := fun hc => hkp hc.1
      rw [hp, hp', if_neg hc, if_neg hkp]
      ring
  · simp only [h.a1, Equiv.symm_apply_apply]
    by_cases hkp : k < p
    · simp [hkp]
    · simp [hkp]

/-- After the second loop has passed the columns below `k`: `aI` lists the rows in
some order, and the rows in that order, cleared below the diagonal, are a system
equivalent to the one at entry. -/
def Reduced (A : Matrix (Fin n) (Fin n) K) (b : Fin n → K) (k : ℕ) (s : Arrays K n) : Prop :=
  ∃ σ, Lists s.aI σ ∧ RowEquivalent (upper k s.aD σ) (fun p => s.a1 (σ p)) A b

/-- **One column of the elimination.**  The largest ratio is zero only when nothing
is left in the column, and then the matrix is singular. -/
theorem columnStep_tolerant {A : Matrix (Fin n) (Fin n) K} {b scale : Fin n → K} {k : Fin n}
    {s : Arrays K n} (hs : ∀ r, 0 < scale r) (h : Reduced A b k s) :
    Tolerant (A.det ≠ 0) (Reduced A b (k + 1)) IsSingular fun t => columnStep t scale s k := by
  obtain ⟨σ, hσ, hred⟩ := h
  obtain ⟨⟨m, d3⟩, hrun, hkm, hd3, hmax⟩ := pivotSearch_spec hσ hs k
  simp only at hkm hd3 hmax
  have hstep : (fun t => columnStep t scale s k) = fun t => if d3 < t then .error (.singular s) else
      (indices n (k + 1) n).foldlM (eliminateStep k) { s with aI := exchange s.aI k m } := by
    funext t
    unfold columnStep
    rw [hrun]
    rfl
  rw [hstep]
  refine tolerant_guard ⟨s, rfl⟩ (fun hdet => ?_) fun hpos => ?_
  · by_contra hd
    refine hdet (hred.det.1 (det_eq_zero_of_stuck (k := k) (fun p j hjp hjk => ?_) fun p hkp => ?_))
    · exact if_pos (lt_min hjp hjk)
    · have hle := (hmax p hkp).trans (not_lt.1 hd)
      have habs : |s.aD (σ p) k| ≤ 0 := by
        rwa [div_le_iff₀ (hs _), zero_mul] at hle
      have hmin : ¬ (k : ℕ) < min (p : ℕ) k := by omega
      exact (if_neg hmin).trans (abs_nonpos_iff.1 habs)
  · have hpivot : s.aD ((σ * Equiv.swap k m) k) k ≠ 0 := by
      rw [Equiv.Perm.mul_apply, Equiv.swap_apply_left]
      intro h0
      rw [hd3] at hpos
      simp [h0] at hpos
    obtain ⟨s', hloop, hclear⟩ := eliminateLoop_spec
      (s := { s with aI := exchange s.aI k m }) (exchange_lists hσ k m) hpivot
    refine tolerant_ok (fun _ => hloop) ⟨σ * Equiv.swap k m, ?_, ?_⟩ one_pos
    · rw [hclear.aI]
      exact exchange_lists hσ k m
    · refine (upper_cleared (s := { s with aI := exchange s.aI k m }) hpivot hclear).trans
        (RowEquivalent.trans ?_ hred)
      have hperm := RowEquivalent.permute (Equiv.swap k m) (upper k s.aD σ) fun p => s.a1 (σ p)
      rwa [show (fun p j => upper k s.aD σ (Equiv.swap k m p) j) = upper k s.aD (σ * Equiv.swap k m) from
        funext fun p => funext fun j => (upper_permute s.aD σ hkm p j).symm] at hperm

/-! ### The back substitution -/

omit [LinearOrder K] [IsStrictOrderedRing K] in
/-- The system the second loop leaves is upper triangular. -/
theorem upper_last (aD : Matrix (Fin n) (Fin n) K) (σ : Equiv.Perm (Fin n)) (p j : Fin n) :
    upper (n - 1) aD σ p j = if j < p then 0 else aD (σ p) j := by
  have hp : min (p : ℕ) (n - 1) = p := min_eq_left (by omega)
  simp only [upper, hp]
  rfl

/-- After the third loop has passed the positions from `i` on: their diagonal
entries are not zero and their equations hold of the stored components. -/
structure Solved (s : Arrays K n) (σ : Equiv.Perm (Fin n)) (i : ℕ) (s' : Arrays K n) : Prop where
  aD : s'.aD = s.aD
  a1 : s'.a1 = s.a1
  aI : s'.aI = s.aI
  diagonal : ∀ p : Fin n, i ≤ p → s.aD (σ p) p ≠ 0
  equation : ∀ p : Fin n, i ≤ p → (upper (n - 1) s.aD σ *ᵥ fun j => s'.a2 (σ j)) p = s.a1 (σ p)

omit [LinearOrder K] [IsStrictOrderedRing K] in
/-- The running difference of the inner loop. -/
theorem backSum_spec {s : Arrays K n} {σ : Equiv.Perm (Fin n)} (hσ : Lists s.aI σ) (i : Fin n) :
    (indices n (i + 1) n).foldlM (backTerm s (σ i)) (s.a1 (σ i)) =
    (.ok (s.a1 (σ i) - ∑ j, if i < j then s.aD (σ i) j * s.a2 (σ j) else 0) :
      Except (Exit (Arrays K n)) K) := by
  let f := fun j => s.aD (σ i) j * s.a2 (σ j)
  obtain ⟨d2, hrun, hd2⟩ := foldlM_indices (le_refl n) (f := backTerm s (σ i))
    (fun c d2 => d2 = s.a1 (σ i) - ∑ j : Fin n, if i < j ∧ (j : ℕ) < c then f j else 0)
    (s := s.a1 (σ i)) (Nat.succ_le_of_lt i.2)
    (by
      rw [Finset.sum_eq_zero fun j _ => if_neg ?_, sub_zero]
      rintro ⟨hij, hj⟩
      exact absurd (Fin.lt_def.1 hij) (by omega))
    fun c d2 hc _ hd2 => by
      refine ⟨d2 - f c, by unfold backTerm; rw [row_of_lists hσ]; rfl, ?_⟩
      have hsplit : ∀ j : Fin n, (if i < j ∧ (j : ℕ) < c + 1 then f j else 0) =
          (if i < j ∧ (j : ℕ) < c then f j else 0) + if j = c then f j else 0 := fun j => by
        by_cases hj : j = c
        · subst hj
          rw [if_pos ⟨Fin.lt_def.2 (by omega), by omega⟩, if_neg (by simp), if_pos rfl, zero_add]
        · have hjc : (j : ℕ) ≠ c := fun e => hj (Fin.ext e)
          have hiff : (j : ℕ) < c + 1 ↔ (j : ℕ) < c := by omega
          simp only [hiff, if_neg hj, add_zero]
      rw [hd2, Finset.sum_congr rfl fun j _ => hsplit j, Finset.sum_add_distrib, Finset.sum_ite_eq',
        if_pos (Finset.mem_univ c), sub_add_eq_sub_sub]
  rw [hrun, hd2]
  simp only [Fin.is_lt, and_true, f]

omit [LinearOrder K] [IsStrictOrderedRing K] in
/-- A further component solves one more equation. -/
theorem Solved.step {s s' : Arrays K n} {σ : Equiv.Perm (Fin n)} {i : Fin n}
    (h : Solved s σ (i + 1) s') (hne : s'.aD (σ i) i ≠ 0) :
    let d2 := s'.a1 (σ i) - ∑ j, if i < j then s'.aD (σ i) j * s'.a2 (σ j) else 0
    Solved s σ i { s' with a2 := Function.update s'.a2 (σ i) (d2 / s'.aD (σ i) i) } := by
  intro d2
  refine ⟨h.aD, h.a1, h.aI, fun p hp => ?_, fun p hp => ?_⟩
  · rcases (Fin.le_def.2 hp : i ≤ p).eq_or_lt with rfl | hip
    · rwa [← h.aD]
    · exact h.diagonal p hip
  simp only [mulVec, dotProduct, upper_last]
  by_cases hpi : p = i
  · subst hpi
    have hterm : ∀ j, (if j < p then 0 else s.aD (σ p) j) *
        Function.update s'.a2 (σ p) (d2 / s'.aD (σ p) p) (σ j) =
        (if p < j then s'.aD (σ p) j * s'.a2 (σ j) else 0) +
          if j = p then s'.aD (σ p) p * (d2 / s'.aD (σ p) p) else 0 := fun j => by
      rcases lt_trichotomy j p with hj | rfl | hj
      · rw [if_pos hj, if_neg hj.not_gt, if_neg hj.ne, zero_mul, zero_add]
      · rw [if_neg (lt_irrefl j), if_neg (lt_irrefl j), if_pos rfl, Function.update_self, h.aD,
          zero_add]
      · rw [if_neg hj.not_gt, if_pos hj, if_neg hj.ne', add_zero, h.aD,
          Function.update_of_ne fun e => hj.ne' (σ.injective e)]
    rw [Finset.sum_congr rfl fun j _ => hterm j, Finset.sum_add_distrib, Finset.sum_ite_eq',
      if_pos (Finset.mem_univ p), mul_div_cancel₀ _ hne, ← h.a1]
    exact add_sub_cancel ..
  · have hip : i < p := lt_of_le_of_ne hp (Ne.symm hpi)
    have hold := h.equation p hip
    simp only [mulVec, dotProduct, upper_last] at hold
    rw [← hold]
    refine Finset.sum_congr rfl fun j _ => ?_
    by_cases hj : j = i
    · subst hj
      rw [if_pos hip, zero_mul, zero_mul]
    · rw [Function.update_of_ne fun e => hj (σ.injective e)]

/-- **One component of the back substitution.** -/
theorem backStep_tolerant {A : Matrix (Fin n) (Fin n) K} {s s' : Arrays K n}
    {σ : Equiv.Perm (Fin n)} {i : Fin n} (hσ : Lists s.aI σ)
    (hdet : A.det ≠ 0 → ∀ p, s.aD (σ p) p ≠ 0) (h : Solved s σ (i + 1) s') :
    Tolerant (A.det ≠ 0) (Solved s σ i) IsSingular fun t => backStep t s' i := by
  have hσ' : Lists s'.aI σ := h.aI ▸ hσ
  let d2 := s'.a1 (σ i) - ∑ j, if i < j then s'.aD (σ i) j * s'.a2 (σ j) else 0
  have hstep : (fun t => backStep t s' i) = fun t =>
      if |s'.aD (σ i) i| < t then .error (.singular s')
      else (divide d2 (s'.aD (σ i) i) >>= fun q =>
        pure { s' with a2 := Function.update s'.a2 (σ i) q }) := by
    funext t
    unfold backStep
    rw [row_of_lists hσ']
    show (if _ then _ else _) = _
    simp only [backSum_spec hσ' i]
    rfl
  rw [hstep]
  refine tolerant_guard ⟨s', rfl⟩ (fun hA => ?_) fun hpos => ?_
  · rw [h.aD]
    exact abs_pos.2 (hdet hA i)
  · have hne : s'.aD (σ i) i ≠ 0 := abs_pos.1 hpos
    exact tolerant_ok (fun _ => by rw [divide_of_ne hne]; rfl) (h.step hne) one_pos

end Nav
end ExeRobot
