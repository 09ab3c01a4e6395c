/-
# Runs of the API

A program uses an `RXTXRobot` by calling its methods, in any order and with any
arguments; a method may throw, and the program may go on with the object.  A `Call` is
one such call, and `Runs ok calls d e` says that the object `d` is in the state `e` after
`calls`, each of which has ended.  `turns` bounds how often the second loop of
`sendRaw` reads on; a call ends if it does for some bound.  A run can be restricted to
calls that satisfy a condition in the state they are made in.
-/

import ExeRobot.Device.Methods

namespace ExeRobot
namespace Device

open Persistent

/-- A call of a method. -/
inductive Call where
  | connect
  | close
  | attachMotor (motor pin : ℤ)
  | attachServo (servo pin : ℤ)
  | refreshAnalogPins
  | refreshDigitalPins
  | getAnalogPin (x : ℤ)
  | getDigitalPin (x : ℤ)
  | getAvailableDigitalPins
  | getTemperature
  | getPing (pin : ℤ)
  | getConductivity
  | getIRChar
  | getGyroscope
  | getGPSCoordinates
  | readCompass
  | moveServo (servo position : ℤ)
  | moveAllServos (pos1 pos2 pos3 : ℤ)
  | runMotor (motor speed time : ℤ)
  | runTwoMotors (motor1 speed1 motor2 speed2 time : ℤ)
  | runFourMotors (motor1 speed1 motor2 speed2 motor3 speed3 motor4 speed4 time : ℤ)
  | runEncodedMotor (motor speed ticks : ℤ)
  | runTwoEncodedMotors (motor1 speed1 tick1 motor2 speed2 tick2 : ℤ)
  | getEncodedMotorPosition (motor : ℤ)
  | resetEncodedMotorPosition (motor : ℤ)
  | setMotorRampUpTime (millis : ℤ)
  | runMixer (motor time : ℤ)
  | stopMixer (motor : ℤ)
  | setMixerSpeed (speed : ℤ)
  | setResetOnClose (r : Bool)
  | setOverrideValidation (o : Bool)
  | runPCAServo (channel position : ℤ)
  | runPCATimedServo (channel position duration : ℤ)
  | runPCATimedContServo (channel speed duration : ℤ)
  | runPCAContServo (channel speed : ℤ)
  | runPCAMotor (channel speed time : ℤ)
  | runTwoPCAMotor (channel1 speed1 channel2 speed2 time : ℤ)
  | runPCAEncoder (channel speed pin ticks : ℤ)
  | runTwoPCAEncoder (channel1 speed1 pin1 ticks1 channel2 speed2 pin2 ticks2 : ℤ)
  | getPCAEncodedMotorTicks (channel : ℤ)
  | channelPCAStop (channel : ℤ)
  | allPCAStop
  | sleep (time : ℤ)
  deriving DecidableEq, Repr

variable {P : Type} (hw : Hardware) (port : Port P)

/-- A method whose result the caller does not use. -/
def ignoring {α : Type} (x : Act P α) : Act P Unit := do
  let _ ← x
  return ()

/-- The method of a call. -/
def Call.run (turns : ℕ) : Call → Act P Unit
  | .connect => Device.connect hw port turns
  | .close => Device.close port turns
  | .attachMotor motor pin => Device.attachMotor port turns motor pin
  | .attachServo servo pin => Device.attachServo port turns servo pin
  | .refreshAnalogPins => Device.refreshAnalogPins port turns
  | .refreshDigitalPins => Device.refreshDigitalPins port turns
  | .getAnalogPin x => ignoring (Device.getAnalogPin port turns x)
  | .getDigitalPin x => ignoring (Device.getDigitalPin port turns x)
  | .getAvailableDigitalPins => ignoring Device.getAvailableDigitalPins
  | .getTemperature => ignoring (Device.getTemperature port turns)
  | .getPing pin => ignoring (Device.getPing port turns pin)
  | .getConductivity => ignoring (Device.getConductivity port turns)
  | .getIRChar => ignoring (Device.getIRChar port turns)
  | .getGyroscope => ignoring (Device.getGyroscope port turns)
  | .getGPSCoordinates => ignoring (Device.getGPSCoordinates port turns)
  | .readCompass => ignoring (Device.readCompass port turns)
  | .moveServo servo position => Device.moveServo port turns servo position
  | .moveAllServos pos1 pos2 pos3 => Device.moveAllServos port turns pos1 pos2 pos3
  | .runMotor motor speed time => Device.runMotor port turns motor speed time
  | .runTwoMotors motor1 speed1 motor2 speed2 time =>
      Device.runTwoMotors port turns motor1 speed1 motor2 speed2 time
  | .runFourMotors motor1 speed1 motor2 speed2 motor3 speed3 motor4 speed4 time =>
      Device.runFourMotors port turns motor1 speed1 motor2 speed2 motor3 speed3 motor4 speed4 time
  | .runEncodedMotor motor speed ticks => Device.runEncodedMotor port turns motor speed ticks
  | .runTwoEncodedMotors motor1 speed1 tick1 motor2 speed2 tick2 =>
      Device.runTwoEncodedMotors port turns motor1 speed1 tick1 motor2 speed2 tick2
  | .getEncodedMotorPosition motor => ignoring (Device.getEncodedMotorPosition port turns motor)
  | .resetEncodedMotorPosition motor => Device.resetEncodedMotorPosition port turns motor
  | .setMotorRampUpTime millis => Device.setMotorRampUpTime port turns millis
  | .runMixer motor time => Device.runMixer port turns motor time
  | .stopMixer motor => Device.stopMixer port turns motor
  | .setMixerSpeed speed => Device.setMixerSpeed speed
  | .setResetOnClose r => Device.setResetOnClose r
  | .setOverrideValidation o => Device.setOverrideValidation o
  | .runPCAServo channel position => Device.runPCAServo port turns channel position
  | .runPCATimedServo channel position duration =>
      Device.runPCATimedServo port turns channel position duration
  | .runPCATimedContServo channel speed duration =>
      Device.runPCATimedContServo port turns channel speed duration
  | .runPCAContServo channel speed => Device.runPCAContServo port turns channel speed
  | .runPCAMotor channel speed time => Device.runPCAMotor port turns channel speed time
  | .runTwoPCAMotor channel1 speed1 channel2 speed2 time =>
      Device.runTwoPCAMotor port turns channel1 speed1 channel2 speed2 time
  | .runPCAEncoder channel speed pin ticks => Device.runPCAEncoder port turns channel speed pin ticks
  | .runTwoPCAEncoder channel1 speed1 pin1 ticks1 channel2 speed2 pin2 ticks2 =>
      Device.runTwoPCAEncoder port turns channel1 speed1 pin1 ticks1 channel2 speed2 pin2 ticks2
  | .getPCAEncodedMotorTicks channel => ignoring (Device.getPCAEncodedMotorTicks port turns channel)
  | .channelPCAStop channel => Device.channelPCAStop port turns channel
  | .allPCAStop => Device.allPCAStop port turns
  | .sleep time => Device.sleepFor port time

/-- A call ends, normally or with an exception, and leaves the object in the state `e`. -/
def Call.Ends (call : Call) (d e : Device P) : Prop :=
  ∃ turns, call.run hw port turns d = .ok () e ∨
    ∃ stop, stop ≠ .blocks ∧ call.run hw port turns d = .error stop e

/-- The object `d` is in the state `e` after the calls, each of which is made in a state
where it satisfies `ok`. -/
inductive Runs (ok : Call → Device P → Prop) : List Call → Device P → Device P → Prop where
  | nil (d : Device P) : Runs ok [] d d
  | cons {call : Call} {calls : List Call} {d d' e : Device P} :
      ok call d → call.Ends hw port d d' → Runs ok calls d' e → Runs ok (call :: calls) d e

variable {hw port} {d e : Device P}

/-- Where a call that ends leaves the object. -/
theorem Call.Ends.final {call : Call} (h : call.Ends hw port d e) :
    ∃ turns, e = final (call.run hw port turns d) := by
  obtain ⟨turns, h | ⟨stop, -, h⟩⟩ := h
  · exact ⟨turns, by rw [h]; rfl⟩
  · exact ⟨turns, by rw [h]; rfl⟩

/-- A call that ends, by what the method does. -/
theorem Call.Ends.of_wp {call : Call} {Q : Device P → Prop} (h : call.Ends hw port d e)
    (hwp : ∀ turns, wp (call.run hw port turns) (fun _ => Q) (fun s _ => s = .blocks) d) : Q e := by
  obtain ⟨turns, h | ⟨stop, hstop, h⟩⟩ := h
  · exact (wp_of_ok h).1 (hwp turns)
  · exact absurd ((wp_of_error h).1 (hwp turns)) hstop

/-- What every call keeps holds after a run. -/
theorem Runs.invariant {I : Device P → Prop} {ok : Call → Device P → Prop}
    (hI : ∀ call d e, ok call d → call.Ends hw port d e → I d → I e) {calls : List Call}
    (h : Runs hw port ok calls d e) (hd : I d) : I e := by
  induction h with
  | nil => exact hd
  | cons hok hcall _ ih => exact ih (hI _ _ _ hok hcall hd)

/-- A run can go on with another run. -/
theorem Runs.append {ok : Call → Device P → Prop} {calls calls' : List Call} {f : Device P}
    (h : Runs hw port ok calls d e) (h' : Runs hw port ok calls' e f) :
    Runs hw port ok (calls ++ calls') d f := by
  induction h with
  | nil d => exact h'
  | cons hcond hfirst _ ih => exact .cons hcond hfirst (ih h')

/-- A run can go on with a call. -/
theorem Runs.concat {ok : Call → Device P → Prop} {calls : List Call} {call : Call} {f : Device P}
    (h : Runs hw port ok calls d e) (hok : ok call e) (hcall : call.Ends hw port e f) :
    Runs hw port ok (calls ++ [call]) d f := h.append (.cons hok hcall (.nil f))

/-- A run is a run under a weaker condition. -/
theorem Runs.mono {ok ok' : Call → Device P → Prop} (hok : ∀ call d, ok call d → ok' call d)
    {calls : List Call} (h : Runs hw port ok calls d e) : Runs hw port ok' calls d e := by
  induction h with
  | nil d => exact .nil d
  | cons hcond hcall _ ih => exact .cons (hok _ _ hcond) hcall ih

end Device
end ExeRobot
