/-
# The linear solver of the navigation: `Nav.gaussJordan`

`Nav.java`, lines 92-151, in exact arithmetic over an ordered field.  The method
solves `aD · s = a1` in place by elimination with scaled partial pivoting.  Rows
are never moved: `aI` lists them in pivot order, the multipliers and the updates
go through `aI`, the entries below the diagonal are left as they were, and the
solution is stored permuted, component `i` at `a2[aI[i]]`.

The three loops are `scaleStep` (the largest entry of each row, and `aI` set to
the identity), `columnStep` (search of the pivot, exchange, elimination) and
`backStep` (back substitution).  Each of them returns `1` out of the loop when a
quantity is below the tolerance `pD`; a loop is a `foldlM` in `Except`, and a
return out of it carries the arrays as they are at that moment, since the caller
sees them.

A `double` division by zero does not throw, it makes an infinity or a NaN, which
exact arithmetic does not have.  So a zero divisor ends a run with
`Trap.divideByZero`, and an entry of `aI` used as an index outside the arrays
with `Trap.indexOutOfBounds`; neither happens (`Nav.GaussJordanCorrect`).
-/

import ExeRobot.Library.Loop
import Mathlib.Algebra.Order.Field.Basic
import Mathlib.LinearAlgebra.Matrix.RowCol

namespace ExeRobot
namespace Nav

open Loop

/-- The arrays a call works on; `n` is the argument `pI`. -/
@[ext] structure Arrays (K : Type) (n : ℕ) where
  aD : Matrix (Fin n) (Fin n) K
  a1 : Fin n → K
  a2 : Fin n → K
  aI : Fin n → ℤ

/-- What a run in exact arithmetic cannot continue after. -/
inductive Trap where
  | divideByZero
  | indexOutOfBounds
  deriving DecidableEq, Repr

/-- The ways out of a loop: a trap, or a `return` with the state as it is. -/
inductive Exit (σ : Type) where
  | trap (t : Trap)
  | singular (s : σ)

variable {K : Type} [Field K] [LinearOrder K] {n : ℕ} {σ : Type}

/-- `x / y`. -/
def divide (x y : K) : Except (Exit σ) K :=
  if y = 0 then .error (.trap .divideByZero) else .ok (x / y)

/-- `aI[i]` used as an index. -/
def row (s : Arrays K n) (i : Fin n) : Except (Exit σ) (Fin n) :=
  if h : 0 ≤ s.aI i ∧ (s.aI i).toNat < n then .ok ⟨(s.aI i).toNat, h.2⟩
  else .error (.trap .indexOutOfBounds)

/-- The largest absolute value of a row: lines 99-105. -/
def rowMax (r : Fin n → K) (i : Fin n) : K :=
  (indices n 1 n).foldl (fun v j => if |r j| > v then |r j| else v) |r ⟨0, i.pos⟩|

/-- The body of the first loop, lines 98-108; the second component is `arrayOfDouble`. -/
def scaleStep (pD : K) (st : Arrays K n × (Fin n → K)) (i : Fin n) :
    Except (Exit (Arrays K n)) (Arrays K n × (Fin n → K)) :=
  let s := { st.1 with aI := Function.update st.1.aI i i }
  let scale := Function.update st.2 i (rowMax (s.aD i) i)
  if scale i < pD then .error (.singular s) else .ok (s, scale)

/-- `Math.abs(aD[aI[i]][k]) / arrayOfDouble[aI[i]]`. -/
def ratio (s : Arrays K n) (scale : Fin n → K) (k i : Fin n) : Except (Exit (Arrays K n)) K := do
  let r ← row s i
  divide |s.aD r k| (scale r)

/-- One turn of the search of the pivot: `best` is the position `m` and its ratio `d3`. -/
def pivotStep (s : Arrays K n) (scale : Fin n → K) (k : Fin n) (best : Fin n × K) (i : Fin n) :
    Except (Exit (Arrays K n)) (Fin n × K) := do
  let d4 ← ratio s scale k i
  pure (if d4 > best.2 then (i, d4) else best)

/-- The search of the pivot, lines 111-119. -/
def pivotSearch (s : Arrays K n) (scale : Fin n → K) (k : Fin n) :
    Except (Exit (Arrays K n)) (Fin n × K) := do
  let d3 ← ratio s scale k k
  (indices n (k + 1) n).foldlM (pivotStep s scale k) (k, d3)

/-- The exchange of lines 123-127. -/
def exchange (aI : Fin n → ℤ) (k m : Fin n) : Fin n → ℤ :=
  if m ≠ k then Function.update (Function.update aI m (aI k)) k (aI m) else aI

/-- `aD[r][j] -= d1 * aD[p][j]` for `j = k + 1, …`: lines 130-132. -/
def subtractRow (aD : Matrix (Fin n) (Fin n) K) (d1 : K) (r p k : Fin n) :
    Matrix (Fin n) (Fin n) K :=
  (indices n (k + 1) n).foldl
    (fun aD j => aD.updateRow r (Function.update (aD r) j (aD r j - d1 * aD p j))) aD

/-- The body of the elimination loop, lines 128-134. -/
def eliminateStep (k : Fin n) (s : Arrays K n) (i : Fin n) : Except (Exit (Arrays K n)) (Arrays K n) := do
  let r ← row s i
  let p ← row s k
  let d1 ← divide (s.aD r k) (s.aD p k)
  let aD := subtractRow s.aD d1 r p k
  pure { s with aD := aD, a1 := Function.update s.a1 r (s.a1 r - d1 * s.a1 p) }

/-- The body of the second loop, lines 110-135. -/
def columnStep (pD : K) (scale : Fin n → K) (s : Arrays K n) (k : Fin n) :
    Except (Exit (Arrays K n)) (Arrays K n) := do
  let best ← pivotSearch s scale k
  if best.2 < pD then .error (.singular s)
  else
    (indices n (k + 1) n).foldlM (eliminateStep k) { s with aI := exchange s.aI k best.1 }

/-- One turn of the inner loop of the back substitution: `d2 -= aD[aI[i]][j] * a2[aI[j]]`. -/
def backTerm (s : Arrays K n) (r : Fin n) (d2 : K) (j : Fin n) : Except (Exit (Arrays K n)) K := do
  let rj ← row s j
  pure (d2 - s.aD r j * s.a2 rj)

/-- The body of the third loop, lines 136-148. -/
def backStep (pD : K) (s : Arrays K n) (i : Fin n) : Except (Exit (Arrays K n)) (Arrays K n) := do
  let r ← row s i
  if |s.aD r i| < pD then .error (.singular s)
  else
    let d2 ← (indices n (i + 1) n).foldlM (backTerm s r) (s.a1 r)
    let q ← divide d2 (s.aD r i)
    pure { s with a2 := Function.update s.a2 r q }

/-- The three loops. -/
def eliminate (pD : K) (s : Arrays K n) : Except (Exit (Arrays K n)) (Arrays K n) := do
  let (s, scale) ← (List.finRange n).foldlM (scaleStep pD) (s, fun _ => 0)
  let s ← (indices n 0 (n - 1)).foldlM (columnStep pD scale) s
  (List.finRange n).reverse.foldlM (backStep pD) s

/-- `Nav.gaussJordan(n, aD, a1, a2, aI, pD)`: the returned code and the arrays
the call leaves. -/
def gaussJordan (pD : K) (s : Arrays K n) : Except Trap (ℤ × Arrays K n) :=
  match eliminate pD s with
  | .ok s => .ok (0, s)
  | .error (.singular s) => .ok (1, s)
  | .error (.trap t) => .error t

end Nav
end ExeRobot
