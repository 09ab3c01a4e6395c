/-
# The commands of the serial link, and what a run leaves behind

The Arduino is driven by text lines; a `Command` is such a line with its fields
still apart.  A run of the API is observed through its log: every command sent,
with the reply read, every sleep, every error reported, every pin value read from
a cache, and the angles handed to the position solver (`Event`).  The log is not
in the program.  Its projection to what the robot does and when is the list of
its `Action`s.

A drive command is one that sets the speed of a motor channel, for a time or
until another command to that channel (`Command.drive`).
-/

import ExeRobot.Java.Text

namespace ExeRobot

/-- A command line. -/
inductive Command where
  /-- `r a` -/
  | readAnalog
  /-- `r d` -/
  | readDigital
  /-- `q pin` -/
  | ping (pin : ℤ)
  /-- `c` -/
  | conductivity
  /-- `i` -/
  | irChar
  /-- `s channel position` -/
  | servo (channel position : ℤ)
  /-- `t channel position duration` -/
  | timedServo (channel position duration : ℤ)
  /-- `W channel1 speed1 channel2 speed2` -/
  | twoMotor (channel1 speed1 channel2 speed2 : ℤ)
  /-- `U channel1 speed1 channel2 speed2 time` -/
  | twoMotorTimed (channel1 speed1 channel2 speed2 time : ℤ)
  /-- `v servo position` -/
  | attachedServo (servo position : ℤ)
  /-- `d motor speed time` -/
  | attachedMotor (motor speed time : ℤ)
  deriving DecidableEq, Repr

/-- What `error` reports, by the cause its text names. -/
inductive ApiError where
  /-- "Robot is not connected!", "Cannot send command because the robot is not connected." -/
  | notConnected
  /-- "Robot is already connected!" -/
  | alreadyConnected
  /-- "No response was received from the Arduino." -/
  | noResponse
  /-- "Incorrect length returned", "Incorrect response from Arduino (Invalid length)!" -/
  | incorrectLength
  /-- "Returned string could not be parsed into Integers.",
  "Incorrect response from Arduino (Invalid datatype)!" -/
  | invalidDatatype
  /-- "A generic error occurred." -/
  | generic
  /-- "... pin ... doesn't exist, or is attached to something.", "This pin has already been attached" -/
  | pinNotFree
  /-- "Position must be >=0 and <=180." -/
  | invalidPosition
  /-- "Method was not given a time that is 0 <= time <= 60000.", and `runMotor`'s 30000 -/
  | invalidTime
  /-- "You must give the motors a speed between -500 and 500 (inclusive)." -/
  | invalidSpeed
  /-- "You may not run more than two motors at any given time!" -/
  | tooManyMotors
  /-- "Servo ... has not been attached", "Motor ... has not been attached" -/
  | notAttached
  deriving DecidableEq, Repr

/-- A step of a run; `ρ` is what a read of the serial port returns. -/
inductive Event (ρ : Type) where
  /-- `sendRaw(cmd, wait)` over an open connection, and the reply it read. -/
  | sent (cmd : Command) (wait : ℕ) (reply : ρ)
  | slept (ms : ℕ)
  | error (e : ApiError)
  /-- `getAnalogPin(pin).getValue()` or `getDigitalPin(pin).getValue()`. -/
  | pinRead (pin value : ℤ)
  /-- `nav.setAngles(angle1, angle2)`. -/
  | setAngles (angle1 angle2 : ℤ)
  deriving Repr

/-- What the robot does and when: commands and sleeps. -/
inductive Action where
  | send (cmd : Command) (wait : ℕ)
  | sleep (ms : ℕ)
  deriving DecidableEq, Repr

variable {ρ : Type}

/-- The action of an event. -/
def Event.action : Event ρ → Option Action
  | .sent cmd wait _ => some (.send cmd wait)
  | .slept ms => some (.sleep ms)
  | _ => none

/-- The actions of a run. -/
def actions (log : List (Event ρ)) : List Action := log.filterMap Event.action

@[simp] theorem actions_nil : actions ([] : List (Event ρ)) = [] := rfl

@[simp] theorem actions_append (l l' : List (Event ρ)) : actions (l ++ l') = actions l ++ actions l' :=
  List.filterMap_append

@[simp] theorem actions_sent (cmd : Command) (wait : ℕ) (reply : ρ) (l : List (Event ρ)) :
    actions (.sent cmd wait reply :: l) = .send cmd wait :: actions l := rfl

@[simp] theorem actions_slept (ms : ℕ) (l : List (Event ρ)) :
    actions (.slept ms :: l) = .sleep ms :: actions l := rfl

@[simp] theorem actions_error (e : ApiError) (l : List (Event ρ)) :
    actions (.error e :: l) = actions l := rfl

@[simp] theorem actions_pinRead (pin value : ℤ) (l : List (Event ρ)) :
    actions (.pinRead pin value :: l) = actions l := rfl

@[simp] theorem actions_setAngles (a b : ℤ) (l : List (Event ρ)) :
    actions (.setAngles a b :: l) = actions l := rfl

@[simp] theorem actions_map_error (es : List ApiError) :
    actions (es.map (Event.error : ApiError → Event ρ)) = [] := by
  induction es with
  | nil => rfl
  | cons e es ih => exact ih

/-- The actions of a stretch that the robot performs with no connection: nothing
is sent. -/
def Action.isSleep : Action → Bool
  | .sleep _ => true
  | .send _ _ => false

/-- What a drive command orders for a channel: a speed, and a time unless it lasts
until the next command to the channel. -/
structure Drive where
  speed : ℤ
  time : Option ℤ
  deriving DecidableEq, Repr

/-- The order a command gives to the motor channel `ch`. -/
def Command.drive (ch : ℤ) : Command → Option Drive
  | .twoMotor channel1 speed1 channel2 speed2 =>
      if ch = channel1 then some ⟨speed1, none⟩
      else if ch = channel2 then some ⟨speed2, none⟩ else none
  | .twoMotorTimed channel1 speed1 channel2 speed2 time =>
      if ch = channel1 then some ⟨speed1, some time⟩
      else if ch = channel2 then some ⟨speed2, some time⟩ else none
  | _ => none

/-- The drive command an action sends to the channel `ch`. -/
def Action.drive (ch : ℤ) : Action → Option Drive
  | .send cmd _ => cmd.drive ch
  | .sleep _ => none

end ExeRobot
