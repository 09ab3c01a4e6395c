/-
# Failures marked in band

A list of attempts, each a value or a failure, is often kept as a list of values in
which a fixed value `d`, a sentinel, stands for the failures.  Sums and averages taken
over such a list mix the sentinels with the values: `sum_getD` says what the sum is,
and `average_getD_eq_iff` when the average is that of the successful attempts, which
is when there are no failures or the average happens to be the sentinel.
-/

import Mathlib.Algebra.BigOperators.Group.List.Basic
import Mathlib.Algebra.CharZero.Defs
import Mathlib.Data.List.ReduceOption
import Mathlib.Tactic.Abel
import Mathlib.Tactic.LinearCombination
import Mathlib.Tactic.Ring

namespace Sentinel

variable {α : Type*} {rs : List (Option α)}

/-- The values of the successful attempts. -/
def successes (rs : List (Option α)) : List α := rs.reduceOption

/-- The number of failures. -/
def failed (rs : List (Option α)) : ℕ := rs.countP Option.isNone

@[simp] theorem successes_nil : successes ([] : List (Option α)) = [] := rfl

@[simp] theorem successes_some (a : α) (rs : List (Option α)) :
    successes (some a :: rs) = a :: successes rs := List.reduceOption_cons_of_some a rs

@[simp] theorem successes_none (rs : List (Option α)) : successes (none :: rs) = successes rs :=
  List.reduceOption_cons_of_none rs

@[simp] theorem failed_nil : failed ([] : List (Option α)) = 0 := rfl

@[simp] theorem failed_some (a : α) (rs : List (Option α)) : failed (some a :: rs) = failed rs :=
  List.countP_cons_of_neg (by simp)

@[simp] theorem failed_none (rs : List (Option α)) : failed (none :: rs) = failed rs + 1 :=
  List.countP_cons_of_pos rfl

/-- An attempt succeeds or fails. -/
theorem length_successes_add_failed (rs : List (Option α)) :
    (successes rs).length + failed rs = rs.length := by
  induction rs with
  | nil => rfl
  | cons r rs ih =>
    cases r with
    | none => rw [successes_none, failed_none, List.length_cons, ← ih, Nat.add_assoc]
    | some a =>
      rw [successes_some, failed_some, List.length_cons, List.length_cons, ← ih]
      omega

/-- The sum with the sentinels in it. -/
theorem sum_getD [Ring α] (d : α) (rs : List (Option α)) :
    (rs.map fun r => r.getD d).sum = (successes rs).sum + failed rs * d := by
  induction rs with
  | nil => simp
  | cons r rs ih =>
    rw [List.map_cons, List.sum_cons, ih]
    cases r with
    | none =>
      rw [successes_none, failed_none, Option.getD_none]
      push_cast
      rw [add_one_mul]
      abel
    | some a => rw [successes_some, failed_some, Option.getD_some, List.sum_cons, add_assoc]

/-- **When the sentinels do not change the average**: there are none, or the average of
the successful attempts is the sentinel. -/
theorem average_getD_eq_iff {K : Type*} [Ring α] [Field K] [CharZero K] (φ : α →+* K) (d : α)
    (h : successes rs ≠ []) :
    φ (rs.map fun r => r.getD d).sum / rs.length = φ (successes rs).sum / (successes rs).length ↔
      failed rs = 0 ∨ φ (successes rs).sum / (successes rs).length = φ d := by
  have hm : ((successes rs).length : K) ≠ 0 := by
    simpa using h
  have hn : (rs.length : K) = (successes rs).length + failed rs := by
    rw [← length_successes_add_failed rs]
    push_cast
    rfl
  have hn0 : (rs.length : K) ≠ 0 := by
    rw [← length_successes_add_failed rs]
    have := List.length_pos_iff.2 h
    exact_mod_cast (by omega : (successes rs).length + failed rs ≠ 0)
  rw [sum_getD, map_add, map_mul, map_natCast, div_eq_div_iff hn0 hm, div_eq_iff hm, hn]
  constructor
  · intro heq
    have hzero : (failed rs : K) * (φ (successes rs).sum - φ d * (successes rs).length) = 0 := by
      linear_combination -heq
    rcases mul_eq_zero.1 hzero with hf | hd
    · exact .inl (by exact_mod_cast hf)
    · exact .inr (sub_eq_zero.1 hd)
  · rintro (hf | hd)
    · rw [hf]
      push_cast
      ring
    · rw [hd]
      ring

end Sentinel
