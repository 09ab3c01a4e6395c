/-
# Java text: `char`, `String.split("\\s+")`, `Integer.parseInt`

`RXTXRobot.java` reads every reply of the Arduino the same way: the line is cut
at its white space by `split("\\s+")`, the number of fields is compared with
what the command should return, and a field is read by `Integer.parseInt` or
`charAt(0)`.  A Java string is the list of its code units.

`split` follows the documentation of `java.lang.String`: a string in which the
expression matches nowhere is its own only field, a match at the beginning
leaves an empty first field, and trailing empty fields are removed.  `parseInt`
takes one optional sign and at least one digit, and fails (`none` for
`NumberFormatException`) outside the range of `int`.  A digit is what
`Character.digit(c, 10)` accepts: any decimal digit of Unicode, not only ASCII.
-/

import ExeRobot.Java.Lang
import Mathlib.Data.List.DropRight

namespace ExeRobot

/-- A Java `String`, as the list of its code units. -/
abbrev JString := List JChar

/-- The string literal made of `cs`. -/
def jstr (cs : List Char) : JString := cs.map jc

/-- `\s` of `java.util.regex`: space, tab, newline, vertical tab, form feed, return. -/
def isSpace (c : JChar) : Bool := c == 32 || (9 ≤ c && c ≤ 13)

/-- The fields between the runs of white space of `s`, `cur` being the part of
the current field already read and `gap` whether a run is being skipped. -/
def fields (cur : JString) (gap : Bool) : JString → List JString
  | [] => [cur]
  | c :: s =>
      if isSpace c then
        if gap then fields cur true s else cur :: fields [] true s
      else fields (cur ++ [c]) false s

/-- `s.split("\\s+")`. -/
def split (s : JString) : List JString :=
  if s.any isSpace then (fields [] false s).rdropWhile (fun f => f.isEmpty) else [s]

/-- The zeros of the decimal digit blocks of the basic plane. -/
def digitZeros : List ℕ :=
  [0x0030, 0x0660, 0x06F0, 0x07C0, 0x0966, 0x09E6, 0x0A66, 0x0AE6, 0x0B66, 0x0BE6, 0x0C66, 0x0CE6,
    0x0D66, 0x0DE6, 0x0E50, 0x0ED0, 0x0F20, 0x1040, 0x1090, 0x17E0, 0x1810, 0x1946, 0x19D0, 0x1A80,
    0x1A90, 0x1B50, 0x1BB0, 0x1C40, 0x1C50, 0xA620, 0xA8D0, 0xA900, 0xA9D0, 0xA9F0, 0xAA50, 0xABF0,
    0xFF10]

/-- `Character.digit(c, 10)`, `none` for `-1`. -/
def digit (c : JChar) : Option ℕ :=
  (digitZeros.find? fun z => z ≤ c.toNat && c.toNat < z + 10).map fun z => c.toNat - z

/-- The value of a run of digits read after the number `v`. -/
def parseDigits (v : ℕ) : JString → Option ℕ
  | [] => some v
  | c :: s => (digit c).bind fun d => parseDigits (10 * v + d) s

/-- The digits of `parseInt`, of which there is at least one. -/
def parseNat : JString → Option ℕ
  | [] => none
  | s => parseDigits 0 s

/-- The number of a string with its sign, before the range of `int` is checked. -/
def parseSigned : JString → Option ℤ
  | [] => none
  | c :: s =>
      if c = jc '-' then (parseNat s).map fun v => -(v : ℤ)
      else if c = jc '+' then (parseNat s).map fun v => (v : ℤ)
      else (parseNat (c :: s)).map fun v => (v : ℤ)

/-- `Integer.parseInt(s)`, `none` where it throws `NumberFormatException`. -/
def parseInt (s : JString) : Option ℤ :=
  (parseSigned s).filter fun v => -2 ^ 31 ≤ v && v < 2 ^ 31

/-- A string with no white space, the empty one included, is its own only field. -/
theorem split_of_no_space {s : JString} (h : ∀ c ∈ s, isSpace c = false) : split s = [s] := by
  have hs : s.any isSpace = false := by simpa using h
  simp [split, hs]

/-- No reply at all is one empty field, which is how the length checks of the
API see a missing reply. -/
@[simp] theorem split_nil : split [] = [[]] := split_of_no_space (by simp)

example : split (jstr ['d', ' ', '1', ' ', ' ', '-', '7']) = [jstr ['d'], jstr ['1'], jstr ['-', '7']] ∧
    (split (jstr ['d', ' ', '1', ' ', ' ', '-', '7'])).map parseInt = [none, some 1, some (-7)] := by
  decide

end ExeRobot
