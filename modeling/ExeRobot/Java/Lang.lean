/-
# Java values: `char`, boxed `Character`, list access, exceptions

The parts of `java.lang` and `java.util` that the robot's classes rely on.

A Java `char` is one UTF-16 code unit, a 16-bit word.  A boxed `Character` is an
object: it wraps a `char` and it has an identity, and the two comparisons Java
offers look at different parts of it.  `equals`, which `ArrayList.contains`
uses, compares the wrapped values; `==` between two `Character` operands
compares the identities.  `new Character(c)` makes an object that did not exist
before, so the heap hands out references in increasing order and the state of a
computation is the next unused one (`Alloc`).

`ArrayList.get` and array access throw outside the list (`getAt`); an unhandled
exception ends a computation with a `Fault`.
-/

import Mathlib.Data.Int.Order.Basic
import Mathlib.Data.List.Basic
import Mathlib.Data.Rat.Floor

namespace ExeRobot

/-- The exceptions that can leave the modelled methods. -/
inductive Fault where
  /-- `IndexOutOfBoundsException`, `ArrayIndexOutOfBoundsException`. -/
  | indexOutOfBounds
  /-- `NullPointerException`. -/
  | nullPointer
  deriving DecidableEq, Repr

/-- A Java `char`: one UTF-16 code unit. -/
abbrev JChar := UInt16

/-- The `char` literal `'c'`, for a character of the basic plane. -/
def jc (c : Char) : JChar := c.toNat.toUInt16

/-- `list.get(i)` for the `int` index `i`. -/
def getAt {α : Type*} (l : List α) (i : ℤ) : Except Fault α :=
  if i < 0 then .error .indexOutOfBounds
  else match l[i.toNat]? with
    | some a => .ok a
    | none => .error .indexOutOfBounds

@[simp] theorem getAt_natCast {α : Type*} {l : List α} {i : ℕ} (h : i < l.length) :
    getAt l (i : ℤ) = .ok l[i] := by
  simp [getAt, List.getElem?_eq_getElem h]

/-- The value an `int` variable holds after being assigned the result `v` of an
integer operation: wrapped to 32 bits. -/
def jint (v : ℤ) : ℤ := v.bmod (2 ^ 32)

/-- `(int) v` for a `double` in the range of `int`: truncation towards zero. -/
def truncate (v : ℚ) : ℤ := if 0 ≤ v then v.floor else v.ceil

/-- A boxed `java.lang.Character`: its identity and the `char` it wraps. -/
structure Character where
  ref : ℕ
  charValue : JChar
  deriving DecidableEq, Repr

/-- `a.equals(b)`: the wrapped values are equal. -/
def Character.equals (a b : Character) : Bool := a.charValue == b.charValue

/-- `a == b` for two boxed operands: they are the same object. -/
def Character.same (a b : Character) : Bool := a.ref == b.ref

/-- Computations that allocate objects; the state is the next unused reference. -/
abbrev Alloc := StateT ℕ (Except Fault)

/-- `new Character(c)`. -/
def Character.new (c : JChar) : Alloc Character := fun next => .ok (⟨next, c⟩, next + 1)

theorem Character.new_eq (c : JChar) (next : ℕ) :
    Character.new c next = .ok (⟨next, c⟩, next + 1) := rfl

/-- A new object is not one that exists already. -/
theorem Character.same_of_lt {b : Character} {next : ℕ} (h : b.ref < next) (c : JChar) :
    Character.same ⟨next, c⟩ b = false := by
  simpa [Character.same] using (Nat.ne_of_lt h).symm

end ExeRobot
