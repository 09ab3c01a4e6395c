/-
# What a call can do to the object

The methods of the API change the object in a small number of ways.  A `Change` is one
of them, with the conditions under which a method makes it: a line is sent over an open
connection only, with arguments that have been checked unless the checks are
overridden, and to devices that are attached; a motor's flag is set together with the
line that runs it, or without one when the method gives up in between (`lapse`).

Every call leaves the object where a path of changes leads (`Call.leads`), with the
changes that the call can make (`Call.May`).  What holds after any run of the API is
then proved for one change at a time.
-/

import ExeRobot.Device.Calls
import ExeRobot.Library.Labelled

namespace ExeRobot

open Persistent

namespace Line

/-- The motors a line runs, with the speeds. -/
def motors : Line → List (ℤ × ℤ)
  | runMotor m s _ => [(m, s)]
  | runTwoMotors m s m' s' _ => [(m, s), (m', s')]
  | runFourMotors m₁ s₁ m₂ s₂ m₃ s₃ m₄ s₄ _ => [(m₁, s₁), (m₂, s₂), (m₃, s₃), (m₄, s₄)]
  | runEncodedMotor m s _ => [(m, s)]
  | runTwoEncodedMotors m s _ m' s' _ => [(m, s), (m', s')]
  | _ => []

/-- The line has a time of 0: the motors run until another line for them. -/
def forever : Line → Bool
  | runMotor _ _ t | runTwoMotors _ _ _ _ t | runFourMotors _ _ _ _ _ _ _ _ t => t == 0
  | _ => false

/-- What a line does to the motor `i`: whether it is left running, or nothing. -/
def leavesRunning (l : Line) (i : Fin 4) : Option Bool :=
  if (i : ℤ) ∈ l.motors.map Prod.fst then
    some (l.forever && l.motors.any fun o => o.1 == i && o.2 != 0)
  else none

def isAttach : Line → Bool
  | attachMotor _ _ | attachServo _ _ => true
  | _ => false

/-- The lines that are sent again while there is no answer. -/
def asked : Line → Bool
  | attachMotor _ _ | attachServo _ _ | readAnalog | readDigital | ping _ | conductivity | irChar
  | gyroscope | encodedMotorPosition _ | pcaEncodedMotorTicks _ => true
  | _ => false

/-- `v` is in the range that is checked. -/
abbrev Within (lo hi v : ℤ) : Prop := lo ≤ v ∧ v ≤ hi

/-- The arguments have passed the checks that stop the method that sends the line.  The motors
of `runTwoEncodedMotors` are only in the range of the arrays: a wrong one is reported, and the
line is sent all the same. -/
def Checked : Line → Prop
  | attachMotor m _ => Within 0 3 m
  | attachServo s _ => Within 0 2 s
  | moveServo s p => Within 0 2 s ∧ Within 0 180 p
  | moveAllServos p q r => Within 0 180 p ∧ Within 0 180 q ∧ Within 0 180 r
  | runMotor m s t => Within 0 3 m ∧ Within (-500) 500 s ∧ Within 0 30000 t
  | runTwoMotors m s m' s' t =>
      (Within 0 3 m ∧ Within (-500) 500 s) ∧ (Within 0 3 m' ∧ Within (-500) 500 s') ∧ Within 0 30000 t
  | runFourMotors _ _ _ _ _ _ _ _ _ => False
  | runEncodedMotor m s k => Within 0 1 m ∧ Within (-500) 500 s ∧ 0 < k
  | runTwoEncodedMotors m s k m' s' k' =>
      (Within 0 3 m ∧ Within (-500) 500 s ∧ 0 < k) ∧ Within 0 3 m' ∧ Within (-500) 500 s' ∧ 0 < k'
  | encodedMotorPosition m | resetEncodedMotorPosition m => Within 0 1 m
  | motorRampUpTime t => 0 ≤ t
  | pcaServo _ p | pcaTimedServo _ p _ => Within 0 180 p
  | pcaContServo _ s | pcaTimedContServo _ s _ => Within (-90) 90 s
  | pcaTimedMotor _ _ t | twoPCATimedMotor _ _ _ _ t => 0 < t ∧ t ≤ 60000
  | _ => True

end Line

/-- What an entry of the log says about the motor `i`. -/
def Entry.leavesRunning (i : Fin 4) : Entry → Option Bool
  | .sent line _ _ => line.leavesRunning i
  | _ => none

/-- The motor `i` has been left running by the last line that was sent for it. -/
def leftRunning (log : List Entry) (i : Fin 4) : Bool :=
  log.foldl (fun b e => (e.leavesRunning i).getD b) false

@[simp] theorem leftRunning_append_singleton (log : List Entry) (e : Entry) (i : Fin 4) :
    leftRunning (log ++ [e]) i = (e.leavesRunning i).getD (leftRunning log i) := by
  simp [leftRunning]

/-- Only lines count. -/
theorem leftRunning_eq (log : List Entry) (i : Fin 4) :
    leftRunning log i = (sentLines log).foldl (fun b l => (l.leavesRunning i).getD b) false := by
  unfold leftRunning
  generalize false = b
  induction log generalizing b with
  | nil => rfl
  | cons x log ih =>
    cases x with
    | sent line wait reply => exact ih _
    | _ => exact ih b

namespace Device

variable {P : Type}

/-- The devices of a line are attached, and the pin of a line is free. -/
def Serves (d : Device P) : Line → Prop
  | .moveServo s _ => ∃ i : Fin 3, (i : ℤ) = s ∧ d.servosAttached i = true
  | .moveAllServos _ _ _ => ∀ i, d.servosAttached i = true
  | .ping pin => ∃ pins, d.digitalPinsAvailable = some pins ∧ pin ∈ pins
  | .runMotor m s t => d.someDetached ((Line.runMotor m s t).motors.map Prod.fst) = .ok false
  | .runTwoMotors m s m' s' t =>
      d.someDetached ((Line.runTwoMotors m s m' s' t).motors.map Prod.fst) = .ok false
  | .runFourMotors m₁ s₁ m₂ s₂ m₃ s₃ m₄ s₄ t =>
      d.someDetached ((Line.runFourMotors m₁ s₁ m₂ s₂ m₃ s₃ m₄ s₄ t).motors.map Prod.fst) = .ok false
  | _ => True

/-- The object `e` is `d` after the line has been sent and `reply` has come back. -/
def Exchanged (port : Port P) (d e : Device P) (line : Line) (reply : JString) : Prop :=
  d.connected = true ∧ ∃ wait turns,
    e = d.sent line wait reply (final (port.exchange line.text wait d.attemptTryAgain d.waitForResponse
      d.moveEncodedMotor turns d.port).2)

/-- The motors are given their speeds, and at most two are running then. -/
structure Reserved (d : Device P) (os : List (Fin 4 × ℤ)) : Prop where
  noOverride : d.overrideValidation = false
  few : (List.finRange 4).countP (setRunning os d.motorsRunning) ≤ 2

/-- The kinds of changes. -/
inductive Label where
  | note
  | flag
  | send
  | attach
  | drive
  /-- Two speeds for one motor in a line without time. -/
  | clash
  | finish
  /-- Flags are set and no line is sent; none is cleared. -/
  | raise
  /-- Flags are set and no line is sent, and one is cleared. -/
  | lapse
  /-- A motor is left running with the checks overridden. -/
  | bypass
  /-- The mixer is left running. -/
  | mixer
  /-- The mixer is run for a time, or stopped. -/
  | stir
  | analog
  | digital
  | opened
  | closed
  | setting
  | override
  deriving DecidableEq, Repr

/-- The motors are attached, and the time is one for which they may run. -/
def Ready (d : Device P) (motors : List ℤ) (time : ℤ) : Prop :=
  Line.Within 0 30000 time ∧ d.someDetached motors = .ok false

/-- A line leaves some motor running. -/
def Spins (l : Line) : Prop := l.forever = true ∧ ∃ o ∈ l.motors, o.2 ≠ 0

instance (l : Line) : Decidable (Spins l) := by unfold Spins; infer_instance

/-- A change of the object by a method. -/
inductive Change (hw : Hardware) (port : Port P) : Label → Device P → Device P → Prop where
  | note (d : Device P) (message : String) (method : Option String) :
      Change hw port .note d { d with log := d.log ++ [.error message method] }
  | slept (d : Device P) (ms : ℕ) :
      Change hw port .note d { d with port := port.sleep ms d.port, log := d.log ++ [.slept ms] }
  | flag (d : Device P) (again waits moving : Bool) :
      Change hw port .flag d
        { d with attemptTryAgain := again, waitForResponse := waits, moveEncodedMotor := moving }
  | send {d e : Device P} {line : Line} {reply : JString} (hplain : line.isAttach = false)
      (hmotors : line.motors = []) (hasked : line.asked = true ∨ d.attemptTryAgain = false)
      (hchecked : d.overrideValidation = true ∨ line.Checked) (hserves : d.Serves line)
      (he : Exchanged port d e line reply) : Change hw port .send d e
  /-- An attaching line with another reply than its echo. -/
  | refused {d e : Device P} {k : Kind} {i : Fin k.count} {pin : ℤ} {pins : List ℤ} {reply : JString}
      (hfree : d.attached k i = false) (hpins : d.digitalPinsAvailable = some pins) (hpin : pin ∈ pins)
      (hreply : reply ≠ (k.line i.val pin).text) (he : Exchanged port d e (k.line i.val pin) reply) :
      Change hw port .send d e
  | attach {d e : Device P} {k : Kind} {i : Fin k.count} {pin : ℤ} {pins : List ℤ}
      (hfree : d.attached k i = false) (hpins : d.digitalPinsAvailable = some pins) (hpin : pin ∈ pins)
      (he : Exchanged port d e (k.line i.val pin) (k.line i.val pin).text) :
      Change hw port .attach d (e.attachedTo pin k i)
  | drive {d e : Device P} {line : Line} {reply : JString} {os : List (Fin 4 × ℤ)}
      (hos : orders line.motors = .ok os) (hres : d.Reserved os) (hchecked : line.Checked)
      (hserves : d.Serves line) (hplain : line.isAttach = false) (hquiet : d.attemptTryAgain = false)
      (hdistinct : line.forever = true → (os.map Prod.fst).Nodup)
      (he : Exchanged port d e line reply) :
      Change hw port .drive d { e with motorsRunning := setRunning os d.motorsRunning }
  | clash {d e : Device P} {line : Line} {reply : JString} {os : List (Fin 4 × ℤ)}
      (hos : orders line.motors = .ok os) (hres : d.Reserved os) (hchecked : line.Checked)
      (hserves : d.Serves line) (hplain : line.isAttach = false) (hquiet : d.attemptTryAgain = false)
      (he : Exchanged port d e line reply) :
      Change hw port .clash d { e with motorsRunning := setRunning os d.motorsRunning }
  /-- The end of the time, or of the ticks, of a motor. -/
  | finish (d : Device P) (i : Fin 4) (h : leftRunning d.log i = false) :
      Change hw port .finish d { d with motorsRunning := Function.update d.motorsRunning i false }
  | raise {d : Device P} {os : List (Fin 4 × ℤ)} (hres : d.Reserved os) (hup : ∀ o ∈ os, o.2 ≠ 0) :
      Change hw port .raise d { d with motorsRunning := setRunning os d.motorsRunning }
  | lapse {d : Device P} {os : List (Fin 4 × ℤ)} (hres : d.Reserved os) :
      Change hw port .lapse d { d with motorsRunning := setRunning os d.motorsRunning }
  | overridden {d e : Device P} {line : Line} {reply : JString} (ho : d.overrideValidation = true)
      (hplain : line.isAttach = false) (hserves : d.Serves line) (hquiet : d.attemptTryAgain = false)
      (he : Exchanged port d e line reply) :
      Change hw port (if Spins line then .bypass else .send) d e
  /-- `runMixer`, and `stopMixer` with speed and time 0. -/
  | mixer {d e : Device P} {motor speed time : ℤ} {reply : JString}
      (hspeed : speed = d.mixerSpeed ∨ speed = 0)
      (hchecked : d.overrideValidation = true ∨ (Line.Within 0 3 motor ∧ 0 ≤ time))
      (hquiet : d.attemptTryAgain = false)
      (he : Exchanged port d e (.runMotor motor speed time) reply) :
      Change hw port (if time = 0 ∧ speed ≠ 0 then .mixer else .stir) d e
  | analog {d : Device P} {pins cache : List ℤ} (hpins : d.analogPinsAvailable = some pins)
      (hlen : cache.length = pins.length) :
      Change hw port .analog d { d with analogPinCache := some cache }
  | digital {d : Device P} {pins cache : List ℤ} (hpins : d.digitalPinsAvailable = some pins)
      (hlen : cache.length = pins.length) :
      Change hw port .digital d { d with digitalPinCache := some cache }
  | opened {d : Device P} (h : d.connected = false) :
      Change hw port .opened d
        { d with
          connected := true
          log := d.log ++ [.opened]
          digitalPinsAvailable := some hw.digitalPins
          analogPinsAvailable := some hw.analogPins }
  | closed (d : Device P) :
      Change hw port .closed d { d with connected := false, log := d.log ++ [.closed] }
  | mixerSpeed (d : Device P) (speed : ℤ) (h : d.overrideValidation = true ∨ Line.Within 0 255 speed) :
      Change hw port .setting d { d with mixerSpeed := speed }
  | resetOnClose (d : Device P) (r : Bool) : Change hw port .setting d { d with resetOnClose := r }
  | override (d : Device P) (o : Bool) :
      Change hw port (if o then .override else .setting) d { d with overrideValidation := o }

/-! ### Calls -/

/-- The call keeps to the flags of the motors: a motor is stopped by a call that is carried
out, a motor is given one speed, and no motor is left running with the checks overridden or
by the mixer. -/
def Call.Orderly (d : Device P) : Call → Prop
  | .runMotor m s t =>
      (d.overrideValidation = true → t ≠ 0 ∨ s = 0) ∧
        (d.overrideValidation = false → s = 0 → d.Ready [m] t)
  | .runTwoMotors m s m' s' t =>
      (d.overrideValidation = true → t ≠ 0 ∨ s = 0 ∧ s' = 0) ∧
        (d.overrideValidation = false → (t = 0 → m ≠ m') ∧ (s = 0 ∨ s' = 0 → d.Ready [m, m'] t))
  | .runFourMotors _ s₁ _ s₂ _ s₃ _ s₄ t =>
      d.overrideValidation = true → t ≠ 0 ∨ s₁ = 0 ∧ s₂ = 0 ∧ s₃ = 0 ∧ s₄ = 0
  | .runTwoEncodedMotors _ s k _ s' k' => d.overrideValidation = false → s = 0 ∨ s' = 0 → 0 < k ∧ 0 < k'
  | .runMixer _ t => t = 0 → d.mixerSpeed = 0
  | _ => True

/-- A call for the mixer. -/
def Call.mixes : Call → Bool
  | .runMixer _ _ | .stopMixer _ => true
  | _ => false

/-- The labels of the changes that a call made in `d` can make. -/
def Call.May (d : Device P) (call : Call) : Label → Prop
  | .lapse | .clash | .bypass => ¬ call.Orderly d
  | .mixer => call.mixes = true ∧ ¬ call.Orderly d
  | .override => call = .setOverrideValidation true
  | .stir => call.mixes = true
  | .digital => call = .refreshDigitalPins ∨ d.digitalPinCache = none ∧ ∃ x, call = .getDigitalPin x
  | .opened => call = .connect
  | _ => True

end Device
end ExeRobot
