/-
# The serial port, and the two loops of `sendRaw`

A `Port` is what `RXTXRobot` uses of the serial port: its output stream, how much its
input stream has, a read of that stream, and the passing of time.  A call on a stream
can throw an `IOException`, and a read can block for ever; what was done to the port
by then stays done.

`sendRaw` writes its line and waits, again while nothing has come back if it is told to
try again (`transmit`), and then reads.  It reads once, except for an encoded motor:
there it reads until the text it has read is the line it sent (`collect`).  This second
loop need not end, so it is given the number of times it may read on, and it is said to
block when it needs more.
-/

import ExeRobot.Device.Line
import ExeRobot.Library.Persistent

namespace ExeRobot

open Persistent

/-- How a call on the serial port ends other than normally. -/
inductive Trouble where
  | ioException
  /-- It does not return. -/
  | blocks
  deriving DecidableEq, Repr

/-- Computations on a port. -/
abbrev Io (P : Type) := EStateM Trouble P

/-- A serial port in a state of type `P`. -/
structure Port (P : Type) where
  /-- `out.write(s.getBytes())`. -/
  write : JString → Io P Unit
  /-- `in.available()`. -/
  available : P → Except Trouble ℕ
  /-- `in.read(buffer, off, n)`: the octets read. -/
  read : ℕ → Io P JString
  sleep : ℕ → P → P
  read_le : ∀ {n p more p'}, read n p = .ok more p' → more.length ≤ n

namespace Port

variable {P : Type} (port : Port P)

/-- The length of the buffer of `sendRaw`. -/
def bufferSize : ℕ := 1024

/-- `new String(buffer).trim()`, for a buffer that holds `got` and zeros after it. -/
def bufferText (got : JString) : JString := trim (got ++ List.replicate (bufferSize - got.length) 0)

/-- The first loop of `sendRaw`, with `retries` lines left to write; whether it has
reported that there was no response. -/
def transmit (s : JString) (wait : ℕ) (again waits : Bool) : ℕ → Io P Bool
  | 0 => return false
  | retries + 1 => do
      port.write (s ++ [jc '\r', jc '\n'])
      modify (port.sleep wait)
      let n ← lift (port.available (← get))
      if n = 0 && again && !waits && retries != 0 then transmit s wait again waits retries
      else return !waits && retries == 0

/-- The second loop of `sendRaw`, with `got` read so far; it may read on `turns` times. -/
def collect (s : JString) (moving : Bool) : ℕ → JString → Io P JString
  | 0, got => do
      let more ← port.read (bufferSize - got.length)
      if moving && s != bufferText (got ++ more) then throw .blocks
      else return bufferText (got ++ more)
  | turns + 1, got => do
      let more ← port.read (bufferSize - got.length)
      if moving && s != bufferText (got ++ more) then collect s moving turns (got ++ more)
      else return bufferText (got ++ more)

/-- The body of `sendRaw`: whether the first loop reported that there was no response, and
how the second one ended. -/
def exchange (s : JString) (wait : ℕ) (again waits moving : Bool) (turns : ℕ) (p : P) :
    Bool × EStateM.Result Trouble P JString :=
  match port.transmit s wait again waits 4 p with
  | .ok tired p => (tired, port.collect s moving turns [] p)
  | .error t p => (false, .error t p)

/-! ### Text of the buffer -/

/-- The zeros of the buffer are trimmed. -/
theorem trim_append_zeros (s : JString) (n : ℕ) : trim (s ++ List.replicate n 0) = trim s := by
  induction n with
  | zero => rw [List.replicate_zero, List.append_nil]
  | succ n ih =>
    rw [List.replicate_succ', ← List.append_assoc, ← ih]
    unfold trim
    generalize s ++ List.replicate n 0 = t
    induction t with
    | nil => rfl
    | cons c t iht =>
      rw [List.cons_append]
      by_cases hc : c ≤ 32
      · rw [List.dropWhile_cons_of_pos (by simpa using hc),
          List.dropWhile_cons_of_pos (by simpa using hc), iht]
      · rw [List.dropWhile_cons_of_neg (by simpa using hc),
          List.dropWhile_cons_of_neg (by simpa using hc), ← List.cons_append,
          List.rdropWhile_concat_pos _ _ _ (by decide)]

theorem bufferText_eq (got : JString) : bufferText got = trim got := trim_append_zeros _ _

/-- Without an encoded motor `sendRaw` reads once. -/
theorem collect_once (s : JString) (turns : ℕ) :
    port.collect s false turns [] = (do return trim (← port.read bufferSize)) := by
  cases turns <;>
    simp only [collect, Bool.false_and, Bool.false_eq_true, if_false, List.nil_append, List.length_nil,
      Nat.sub_zero, bufferText_eq]

end Port
end ExeRobot
