/-
# The object behind the whole API

The state an `RXTXRobot` keeps, with all of its settings and flags, on a serial port;
the log of what it does; and the steps its methods are made of.  A method that throws
leaves the object as it was at that point.

The methods start with checks in a fixed order.  A check that fails is reported by
`error` and the method returns; only then comes what the method is for (`guarded`).
Some checks index an array with an argument that has not been checked yet, and throw.

The subclass for a board says which pins are free at first (`Hardware`).
-/

import ExeRobot.Device.Port

namespace ExeRobot

open Persistent

/-- What ends a method early. -/
inductive Stop where
  /-- `ArrayIndexOutOfBoundsException`. -/
  | indexOutOfBounds
  /-- `NullPointerException`. -/
  | nullPointer
  /-- `NumberFormatException`. -/
  | numberFormat
  /-- `IllegalArgumentException`, thrown by `Thread.sleep`. -/
  | illegalArgument
  /-- It does not return. -/
  | blocks
  deriving DecidableEq, Repr

/-- An entry of the log of an object. -/
inductive Entry where
  /-- `sendRaw(line, wait)` over an open connection, and what it returned. -/
  | sent (line : Line) (wait : ℕ) (reply : JString)
  | slept (ms : ℕ)
  /-- `error(message, "RXTXRobot", method)` or `error(message)`. -/
  | error (message : String) (method : Option String)
  /-- The streams are set. -/
  | opened
  | closed
  deriving DecidableEq, Repr

/-- The line of an entry. -/
def Entry.line : Entry → Option Line
  | .sent line _ _ => some line
  | _ => none

/-- The lines that have been sent. -/
def sentLines (log : List Entry) : List Line := log.filterMap Entry.line

@[simp] theorem sentLines_append (log log' : List Entry) :
    sentLines (log ++ log') = sentLines log ++ sentLines log' := List.filterMap_append

/-- An error that was reported. -/
def Entry.isError : Entry → Bool
  | .error _ _ => true
  | _ => false

theorem sentLines_errors {errors : List Entry} (h : ∀ x ∈ errors, x.isError = true) :
    sentLines errors = [] := by
  refine List.filterMap_eq_nil_iff.2 fun x hx => ?_
  have := h x hx
  cases x with
  | error message method => rfl
  | _ => cases this

/-- `getInitialFreeDigitalPins()` and `getInitialFreeAnalogPins()` of a board. -/
structure Hardware where
  digitalPins : List ℤ
  analogPins : List ℤ
  digital_nodup : digitalPins.Nodup

/-- The `ArduinoUno`. -/
def arduinoUno : Hardware where
  digitalPins := RXTXRobot.initialFreeDigitalPins
  analogPins := RXTXRobot.initialFreeAnalogPins
  digital_nodup := by decide

/-- The fields of an `RXTXRobot`, and the log. -/
structure Device (P : Type) where
  port : P
  /-- `isConnected()`: `sPort`, `cPort`, `in` and `out` are set. -/
  connected : Bool
  analogPinCache : Option (List ℤ)
  digitalPinCache : Option (List ℤ)
  /-- `null` before the first connection. -/
  analogPinsAvailable : Option (List ℤ)
  digitalPinsAvailable : Option (List ℤ)
  motorsRunning : Fin 4 → Bool
  motorsAttached : Fin 4 → Bool
  servosAttached : Fin 3 → Bool
  GPSAttached : Bool
  resetOnClose : Bool
  overrideValidation : Bool
  mixerSpeed : ℤ
  attemptTryAgain : Bool
  waitForResponse : Bool
  moveEncodedMotor : Bool
  log : List Entry

/-- Methods of the API. -/
abbrev Act (P : Type) := EStateM Stop (Device P)

namespace Device

variable {P : Type}

/-- `new RXTXRobot()`. -/
def new (p : P) : Device P where
  port := p
  connected := false
  analogPinCache := none
  digitalPinCache := none
  analogPinsAvailable := none
  digitalPinsAvailable := none
  motorsRunning := fun _ => false
  motorsAttached := fun _ => false
  servosAttached := fun _ => false
  GPSAttached := false
  resetOnClose := true
  overrideValidation := false
  mixerSpeed := 30
  attemptTryAgain := false
  waitForResponse := false
  moveEncodedMotor := false
  log := []

def onlyAllowTwoMotors : Bool := true

/-- Adding to the log. -/
def note (e : Entry) : Act P Unit := modify fun d => { d with log := d.log ++ [e] }

/-- `error(message, "RXTXRobot", method)`. -/
def error (message method : String) : Act P Unit := note (.error message (some method))

/-- `error(message)`. -/
def errorLine (message : String) : Act P Unit := note (.error message none)

def setAttemptTryAgain (b : Bool) : Act P Unit := modify fun d => { d with attemptTryAgain := b }

def setWaitForResponse (b : Bool) : Act P Unit := modify fun d => { d with waitForResponse := b }

def setMoveEncodedMotor (b : Bool) : Act P Unit := modify fun d => { d with moveEncodedMotor := b }

/-- The characters of a string. -/
def shown (s : JString) : String := String.ofList (s.map fun c => Char.ofNat c.toNat)

/-- The index `i` into an array of `n` entries. -/
def index (n : ℕ) (i : ℤ) : Except Stop (Fin n) :=
  if h : 0 ≤ i ∧ i < n then .ok ⟨i.toNat, by omega⟩ else .error .indexOutOfBounds

/-- A list that may be `null`. -/
def nonNull {α : Type} : Option α → Except Stop α
  | some a => .ok a
  | none => .error .nullPointer

/-! ### Checks -/

/-- `if (bad) { error(message, "RXTXRobot", method); return ...; }`. -/
structure Check where
  bad : Except Stop Bool
  message : String
  method : String

/-- A method that goes through its checks in order before it does what it is for; `r` is
what it returns when a check fails. -/
def guarded {α : Type} : List Check → α → Act P α → Act P α
  | [], _, body => body
  | c :: cs, r, body => do
      if ← lift c.bad then
        error c.message c.method
        return r
      else guarded cs r body

/-- A check whose failure is reported and nothing more. -/
def warn (c : Check) : Act P Unit := do
  if ← lift c.bad then error c.message c.method

/-- `if (!isConnected()) ...`. -/
def notConnected (d : Device P) (method : String) : Check where
  bad := .ok (!d.connected)
  message := "Robot is not connected!"
  method := method

/-- `if (!getOverrideValidation() && bad) ...`. -/
def invalid (d : Device P) (bad : Bool) (message method : String) : Check where
  bad := .ok (!d.overrideValidation && bad)
  message := message
  method := method

/-- `v < lo || v > hi`. -/
def outside (lo hi v : ℤ) : Bool := v < lo || v > hi

/-! ### The serial port -/

variable (port : Port P) (turns : ℕ)

/-- `sleep(ms)`. -/
def sleep (ms : ℕ) : Act P Unit :=
  modify fun d => { d with port := port.sleep ms d.port, log := d.log ++ [.slept ms] }

/-- `sleep(time)` for a time that may be negative, which `Thread.sleep` does not take. -/
def sleepFor (time : ℤ) : Act P Unit :=
  if time < 0 then throw .illegalArgument else sleep port time.toNat

@[simp] theorem sleepFor_natCast (ms : ℕ) : sleepFor port (ms : ℤ) = sleep port ms := by
  simp [sleepFor]

/-- The object after a `sendRaw` that left the port in the state `p`. -/
def sent (d : Device P) (line : Line) (wait : ℕ) (reply : JString) (p : P) : Device P :=
  { d with port := p, log := d.log ++ [.sent line wait reply] }

/-- What `sendRaw` returns. -/
def replyOf : EStateM.Result Trouble P JString → JString
  | .ok reply _ => reply
  | .error _ _ => []

/-- The end of `sendRaw`. -/
def conclude : EStateM.Result Trouble P JString → Act P JString
  | .ok reply _ => return reply
  | .error .ioException _ => do
      error "Could not read or use Input or Output streams (IOException)" "sendRaw"
      return []
  | .error .blocks _ => throw .blocks

/-- `sendRaw(line, wait)`; `turns` is how often its second loop may read on. -/
def sendRaw (line : Line) (wait : ℕ) : Act P JString := do
  let d ← get
  if !d.connected then
    error "Cannot send command because the robot is not connected." "sendRaw"
    return []
  else
    let (tired, result) := port.exchange line.text wait d.attemptTryAgain d.waitForResponse
      d.moveEncodedMotor turns d.port
    set (d.sent line wait (replyOf result) (final result))
    if tired then error "There was no response from the Arduino" "sendRaw"
    conclude result

/-- A `sendRaw` that tries again while there is no answer. -/
def ask (line : Line) (wait : ℕ) : Act P JString := do
  setAttemptTryAgain true
  let response ← sendRaw port turns line wait
  setAttemptTryAgain false
  return response

end Device
end ExeRobot
