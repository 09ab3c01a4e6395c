/-
# The methods of `RXTXRobot`

All public methods of `RXTXRobot.java`, with any arguments and any settings.  An `int`
argument is any integer; an index that is out of range of its array throws.

`attachMotor` and `attachServo` differ in the array and the wait only (`attach`), the
two pin refreshes in the array and in how many fields they store, and the methods that
read one number in the flag they set around `sendRaw`, the wait and the field.  A
method that runs motors first reserves them: it changes their flags and takes the
change back when more than two would be running (`reserve`).
-/

import ExeRobot.Device.Object

namespace ExeRobot
namespace Device

open Persistent

variable {P : Type} (hw : Hardware) (port : Port P) (turns : ℕ)

/-! ### Attaching -/

/-- What can be attached to a pin. -/
inductive Kind where
  | motor
  | servo
  deriving DecidableEq, Repr

/-- The length of the array of flags. -/
def Kind.count : Kind → ℕ
  | .motor => 4
  | .servo => 3

def Kind.noun : Kind → String
  | .motor => "motor"
  | .servo => "servo"

/-- The line that attaches the device `i` to a pin. -/
def Kind.line : Kind → ℤ → ℤ → Line
  | .motor => .attachMotor
  | .servo => .attachServo

/-- `motorsAttached` or `servosAttached`. -/
def attached (d : Device P) : (k : Kind) → Fin k.count → Bool
  | .motor => d.motorsAttached
  | .servo => d.servosAttached

/-- The object with the flag of a device set, and its pin taken. -/
def attachedTo (d : Device P) (pin : ℤ) : (k : Kind) → Fin k.count → Device P
  | .motor, i => { d with
      motorsAttached := Function.update d.motorsAttached i true
      digitalPinsAvailable := d.digitalPinsAvailable.map fun pins => pins.erase pin }
  | .servo, i => { d with
      servosAttached := Function.update d.servosAttached i true
      digitalPinsAvailable := d.digitalPinsAvailable.map fun pins => pins.erase pin }

section

variable (d : Device P) (pin : ℤ) (k : Kind) (i : Fin k.count)

@[simp] theorem attachedTo_log : (d.attachedTo pin k i).log = d.log := by cases k <;> rfl

@[simp] theorem attachedTo_port : (d.attachedTo pin k i).port = d.port := by cases k <;> rfl

@[simp] theorem attachedTo_connected : (d.attachedTo pin k i).connected = d.connected := by
  cases k <;> rfl

@[simp] theorem attachedTo_motorsRunning : (d.attachedTo pin k i).motorsRunning = d.motorsRunning := by
  cases k <;> rfl

@[simp] theorem attachedTo_digitalPinsAvailable :
    (d.attachedTo pin k i).digitalPinsAvailable =
      d.digitalPinsAvailable.map fun pins => pins.erase pin := by
  cases k <;> rfl

@[simp] theorem attachedTo_analogPinsAvailable :
    (d.attachedTo pin k i).analogPinsAvailable = d.analogPinsAvailable := by cases k <;> rfl

@[simp] theorem attachedTo_digitalPinCache :
    (d.attachedTo pin k i).digitalPinCache = d.digitalPinCache := by cases k <;> rfl

@[simp] theorem attachedTo_analogPinCache :
    (d.attachedTo pin k i).analogPinCache = d.analogPinCache := by cases k <;> rfl

@[simp] theorem attachedTo_overrideValidation :
    (d.attachedTo pin k i).overrideValidation = d.overrideValidation := by cases k <;> rfl

@[simp] theorem attachedTo_mixerSpeed : (d.attachedTo pin k i).mixerSpeed = d.mixerSpeed := by
  cases k <;> rfl

theorem update_true {n : ℕ} (f : Fin n → Bool) (i j : Fin n) :
    Function.update f i true j = true ↔ f j = true ∨ (j : ℕ) = i := by
  by_cases h : j = i
  · simp [h]
  · simp [h, Fin.val_ne_of_ne h]

theorem attachedTo_attached {k' : Kind} {j : Fin k'.count} :
    (d.attachedTo pin k i).attached k' j = true ↔ d.attached k' j = true ∨ k' = k ∧ (j : ℕ) = i := by
  cases k <;> cases k'
  · exact (update_true d.motorsAttached i j).trans (by simp [attached])
  · simp [attached, attachedTo]
  · simp [attached, attachedTo]
  · exact (update_true d.servosAttached i j).trans (by simp [attached])

end

/-- `attachMotor` and `attachServo`. -/
def attach (k : Kind) (method : String) (wait : ℕ) (number pin : ℤ) : Act P Unit := do
  let d ← get
  guarded
    [notConnected d method,
     ⟨.ok (outside 0 (k.count - 1) number), "Invalid " ++ k.noun ++ " number given", method⟩,
     ⟨(index k.count number).map (d.attached k), "This " ++ k.noun ++ " has already been attached",
       method⟩,
     ⟨(nonNull d.digitalPinsAvailable).map fun pins => !pins.contains pin,
       "Pin number " ++ toString pin ++ " has already been attached", method⟩]
    () do
      let response ← ask port turns (k.line number pin) wait
      if response ≠ (k.line number pin).text then
        error ("Invalid response from the arduino: " ++ shown response) method
      else
        let i ← lift (index k.count number)
        modify fun d => d.attachedTo pin k i

/-- `attachMotor(motor, pin)`. -/
def attachMotor (motor pin : ℤ) : Act P Unit := attach port turns .motor "attachMotor" 100 motor pin

/-- `attachServo(servo, pin)`. -/
def attachServo (servo pin : ℤ) : Act P Unit := attach port turns .servo "attachServo" 500 servo pin

/-! ### Pins -/

/-- The text of the error of a refresh. -/
def refreshMessage (reply : JString) : ApiError → String
  | .noResponse => "No response was received from the Arduino."
  | .incorrectLength => "Incorrect length returned: " ++ toString (split reply).length ++ "."
  | .invalidDatatype => "Returned string could not be parsed into Integers."
  | _ => "A generic error occurred."

/-- The two refreshes: `available` is the list of pins, `store` writes the cache, `values`
are the new entries for a reply. -/
def refresh (available : Device P → Option (List ℤ)) (store : List ℤ → Device P → Device P) (line : Line)
    (values : ℕ → JString → List ℤ × Option ApiError) (method : String) : Act P Unit := do
  let pins ← lift (nonNull (available (← get)))
  modify (store (List.replicate pins.length (-1)))
  guarded [notConnected (← get) method] () do
    let reply ← ask port turns line 100
    modify (store (values pins.length reply).1)
    match (values pins.length reply).2 with
    | none => return ()
    | some e => error (refreshMessage reply e) method

/-- `refreshAnalogPins()`. -/
def refreshAnalogPins : Act P Unit :=
  refresh port turns analogPinsAvailable (fun cache d => { d with analogPinCache := some cache })
    .readAnalog RXTXRobot.analogValues "refreshAnalogPins"

/-- `refreshDigitalPins()`. -/
def refreshDigitalPins : Act P Unit :=
  refresh port turns digitalPinsAvailable (fun cache d => { d with digitalPinCache := some cache })
    .readDigital RXTXRobot.digitalValues "refreshDigitalPins"

/-- `cache[i]`. -/
def entry (cache : List ℤ) (i : ℕ) : Except Stop ℤ :=
  match cache[i]? with
  | some v => .ok v
  | none => .error .indexOutOfBounds

/-- The entry of a pin in a cache, `none` for the `null` that is returned with an error. -/
def pinEntry (available cache : Option (List ℤ)) (x : ℤ) (noun method : String) :
    Act P (Option ℤ) := do
  let pins ← lift (nonNull available)
  if x ∈ pins then
    let values ← lift (nonNull cache)
    let v ← lift (entry values (pins.idxOf x))
    return some v
  else
    error (noun ++ " pin " ++ toString x ++ " doesn't exist, or is attached to something.") method
    return none

/-- `getAnalogPin(x)`, as the value of the pin. -/
def getAnalogPin (x : ℤ) : Act P (Option ℤ) := do
  if (← get).analogPinCache = none then refreshAnalogPins port turns
  let d ← get
  pinEntry d.analogPinsAvailable d.analogPinCache x "Analog" "getAnalogPin"

/-- `getDigitalPin(x)`, as the value of the pin. -/
def getDigitalPin (x : ℤ) : Act P (Option ℤ) := do
  if (← get).digitalPinCache = none then refreshDigitalPins port turns
  let d ← get
  pinEntry d.digitalPinsAvailable d.digitalPinCache x "Digital" "getDigitalPin"

/-- `getAvailableDigitalPins()`. -/
def getAvailableDigitalPins : Act P (List ℤ) := do
  lift (nonNull (← get).digitalPinsAvailable)

/-! ### Sensors -/

/-- The number after the letter of a reply, for `getTemperature` and `readCompass`. -/
def secondNumber (reply : JString) : Except String ℤ :=
  let fields := split reply
  if fields.length ≤ 1 then .error "No response was received from the Arduino."
  else if fields.length - 1 ≠ 1 then
    .error ("Incorrect length returned: " ++ toString fields.length ++ ".")
  else match parseInt (fields.getD 1 []) with
    | some v => .ok v
    | none => .error "Returned string could not be parsed into an Integer."

/-- A value, or an error that is reported with the value `r` in its place. -/
def orReport {α : Type} (r : α) (method : String) : Except String α → Act P α
  | .ok v => return v
  | .error message => do
      error message method
      return r

/-- `getTemperature()`. -/
def getTemperature : Act P ℤ := do
  guarded [notConnected (← get) "getTemperature"] (-1) do
    setWaitForResponse true
    let reply ← sendRaw port turns .temperature 1000
    setWaitForResponse false
    orReport (-1) "getTemperature" (secondNumber reply)

/-- `readCompass()`. -/
def readCompass : Act P ℤ := do
  guarded [notConnected (← get) "readCompass"] (-1) do
    let reply ← ask port turns .conductivity 300
    orReport (-1) "readCompass" (secondNumber reply)

/-- `getPing(pin)`. -/
def getPing (pin : ℤ) : Act P ℤ := do
  let d ← get
  guarded
    [⟨.ok (!d.connected), "Robot isn't connected!", "getPing"⟩,
     ⟨(nonNull d.digitalPinsAvailable).map fun pins => !pins.contains pin,
       "This pin has already been attached", "getPing"⟩]
    (-1) do
      let response ← ask port turns (.ping pin) 200
      match RXTXRobot.pingValue response with
      | .ok v => return v
      | .error .incorrectLength => do
          error "Incorrect response from Arduino (Invalid length)!" "getPing"
          errorLine ("Ping Response: " ++ shown response)
          return -1
      | .error _ => do
          error "Incorrect response from Arduino (Invalid datatype)!" "getPing"
          return -1

/-- The error of a response, for `getConductivity` and `getIRChar`. -/
def responseMessage (response : JString) : ApiError → String
  | .incorrectLength => "Incorrect response from Arduino (Invalid length)!: " ++ shown response
  | _ => "Incorrect response from Arduino (Invalid datatype)!: " ++ shown response

/-- `getConductivity` and `getIRChar`, once they have asked. -/
def orResponse {α : Type} (r : α) (method : String) (response : JString)
    (decode : JString → Except ApiError α) : Act P α :=
  orReport r method ((decode response).mapError (responseMessage response))

/-- `getConductivity()`. -/
def getConductivity : Act P ℤ := do
  let d ← get
  guarded [⟨.ok (!d.connected), "Robot isn't connected!", "getConductivity"⟩] (-1) do
    let response ← ask port turns .conductivity 3000
    orResponse (-1) "getConductivity" response RXTXRobot.conductivityValue

/-- `getIRChar()`. -/
def getIRChar : Act P JChar := do
  let d ← get
  guarded [⟨.ok (!d.connected), "Robot isn't connected!", "getIRChar"⟩] (jc '0') do
    let response ← ask port turns .irChar 700
    orResponse (jc '0') "getIRChar" response RXTXRobot.irValue

/-- The storing of the three fields of a gyroscope response, up to the first that cannot be
read; the others stay 0. -/
def gyroValues (fields : List JString) : List ℤ × Bool :=
  match fields[1]?.bind parseInt with
  | none => ([0, 0, 0], false)
  | some x =>
      match fields[2]?.bind parseInt with
      | none => ([x, 0, 0], false)
      | some y =>
          match fields[3]?.bind parseInt with
          | none => ([x, y, 0], false)
          | some z => ([x, y, z], true)

/-- `getGyroscope()`.  A wrong length is reported, and the fields are read all the same. -/
def getGyroscope : Act P (List ℤ) := do
  let d ← get
  guarded [⟨.ok (!d.connected), "Robot isn't connected!", "getGyroscope"⟩] [-1, -1, -1] do
    let response ← ask port turns .gyroscope 100
    let arr := split response
    warn ⟨.ok (arr.length != 4),
      "Incorrect response from Arduino (Invalid length)!: " ++ shown response, "getGyroscope"⟩
    warn ⟨.ok (!(gyroValues arr).2),
      "Incorrect response from Arduino (Invalid datatype)!: " ++ shown response, "getGyroscope"⟩
    return (gyroValues arr).1

/-- `getGPSCoordinates()`, as the fields of the response, `none` for the array of `-1`s. -/
def getGPSCoordinates : Act P (Option (List JString)) := do
  let d ← get
  guarded
    [⟨.ok (!d.connected), "Robot isn't connected!", "getGPSCoordinates"⟩,
     ⟨.ok (!d.GPSAttached), "GPS not attached. Be sure to call attachGPS() first",
       "getGPSCoordinates"⟩]
    none do
      let response ← ask port turns .gyroscope 500
      if (split response).length ≠ 5 then
        error ("Incorrect response from Arduino (Invalid length)!: " ++ shown response)
          "getGPSCoordinates"
        return none
      else return some (split response).tail

/-- The number of ticks in a response of three fields; a field that is no number throws. -/
def ticksOf (response : JString) : Act P ℤ := do
  let arr := split response
  if arr.length ≠ 3 then
    error ("Incorrect length returned: " ++ toString arr.length) "getEncodedMotorPosition"
    return -1
  else match parseInt (arr.getD 2 []) with
    | some v => return v
    | none => throw .numberFormat

/-- `getEncodedMotorPosition(motor)`. -/
def getEncodedMotorPosition (motor : ℤ) : Act P ℤ := do
  let d ← get
  guarded
    [notConnected d "getEncodedMotorPosition",
     d.invalid (outside 0 1 motor) "getEncodedMotorPosition was not given a correct motor argument"
       "getEncodedMotorPosition"]
    (-1) do
      let response ← ask port turns (.encodedMotorPosition motor) 100
      ticksOf response

/-- `getPCAEncodedMotorTicks(channel)`. -/
def getPCAEncodedMotorTicks (channel : ℤ) : Act P ℤ := do
  guarded [notConnected (← get) "getEncodedMotorPosition"] (-1) do
    let response ← ask port turns (.pcaEncodedMotorTicks channel) 100
    ticksOf response

/-! ### Lines that are sent and not evaluated -/

/-- `sendRaw(line)` with the default wait. -/
def send (line : Line) : Act P Unit := do
  let _ ← sendRaw port turns line 100
  return ()

/-- A line whose empty response is an error. -/
def acknowledged (line : Line) : Act P Unit := do
  let response ← sendRaw port turns line 100
  if response.isEmpty then errorLine "Empty response from the arduino"

/-- A line after which the method waits for `time`, if there was a response. -/
def sendFor (line : Line) (time : ℤ) : Act P Unit := do
  let response ← sendRaw port turns line 100
  if !response.isEmpty then sleepFor port time

/-- `resetEncodedMotorPosition(motor)`. -/
def resetEncodedMotorPosition (motor : ℤ) : Act P Unit := do
  let d ← get
  guarded
    [notConnected d "resetEncodedMotorPosition",
     d.invalid (outside 0 1 motor) "resetEncodedMotorPosition was not given a correct motor argument"
       "resetEncodedMotorPosition"]
    () (acknowledged port turns (.resetEncodedMotorPosition motor))

/-- `setMotorRampUpTime(millis)`. -/
def setMotorRampUpTime (millis : ℤ) : Act P Unit := do
  let d ← get
  guarded
    [notConnected d "setMotorRampUpTime",
     ⟨.ok (millis < 0), "Invalid argument (time must be at least 0): " ++ toString millis,
       "setMotorRampUpTime"⟩]
    () (acknowledged port turns (.motorRampUpTime millis))

/-- "Position must be >=0 and <=180." -/
def positionMessage (position : ℤ) : String :=
  "Position must be >=0 and <=180.  You supplied " ++ toString position ++ ", which is invalid."

/-- "Speed must be >= -90 and <= 90." -/
def contMessage (speed : ℤ) : String :=
  "Speed must be >= -90 and <= 90.  You supplied " ++ toString speed ++ ", which is invalid."

/-- `moveServo(servo, position)`. -/
def moveServo (servo position : ℤ) : Act P Unit := do
  let d ← get
  guarded
    [notConnected d "moveServo",
     d.invalid (servo != 0 && servo != 1 && servo != 2) "Invalid servo argument." "moveServo",
     ⟨(index 3 servo).map fun i => !d.servosAttached i,
       "Servo " ++ toString servo ++ " has not been attached", "moveServo"⟩,
     d.invalid (outside 0 180 position) (positionMessage position) "moveServo"]
    () (send port turns (.moveServo servo position))

/-- The check of `moveAllServos` for the servo `i`. -/
def servoMissing (d : Device P) (i : Fin 3) : Check where
  bad := .ok (!d.servosAttached i)
  message := "Servo " ++ toString i.val ++ " has not been attached"
  method := "moveAllServos"

/-- `moveAllServos(pos1, pos2, pos3)`. -/
def moveAllServos (pos1 pos2 pos3 : ℤ) : Act P Unit := do
  let d ← get
  guarded
    (notConnected d "moveAllServos" :: (List.finRange 3).map (servoMissing d) ++
     [d.invalid (outside 0 180 pos1 || outside 0 180 pos2 || outside 0 180 pos3)
       ("Positions must be >=0 and <=180.  You supplied " ++ toString pos1 ++ "," ++ toString pos2 ++
         ", and " ++ toString pos3 ++ ".  One or more are invalid.") "moveBothServos"])
    () (send port turns (.moveAllServos pos1 pos2 pos3))

/-! ### The PCA board -/

/-- `runPCAServo(channel, position)`. -/
def runPCAServo (channel position : ℤ) : Act P Unit := do
  let d ← get
  guarded
    [notConnected d "runPCAServo",
     d.invalid (outside 0 180 position) (positionMessage position) "moveServo"]
    () (send port turns (.pcaServo channel position))

/-- `runPCATimedServo(channel, position, duration)`. -/
def runPCATimedServo (channel position duration : ℤ) : Act P Unit := do
  let d ← get
  guarded
    [notConnected d "runPCAServo",
     d.invalid (outside 0 180 position) (positionMessage position) "moveServo"]
    () (send port turns (.pcaTimedServo channel position duration))

/-- `runPCATimedContServo(channel, speed, duration)`. -/
def runPCATimedContServo (channel speed duration : ℤ) : Act P Unit := do
  let d ← get
  guarded
    [notConnected d "runMotor", d.invalid (outside (-90) 90 speed) (contMessage speed) "moveServo"]
    () (send port turns (.pcaTimedContServo channel speed duration))

/-- `runPCAContServo(channel, speed)`. -/
def runPCAContServo (channel speed : ℤ) : Act P Unit := do
  let d ← get
  guarded
    [notConnected d "runMotor", d.invalid (outside (-90) 90 speed) (contMessage speed) "moveServo"]
    () (send port turns (.pcaContServo channel speed))

/-- `runPCAMotor(channel, speed, time)`. -/
def runPCAMotor (channel speed time : ℤ) : Act P Unit := do
  let d ← get
  guarded
    [notConnected d "runMotor",
     d.invalid (outside 0 60000 time) "Method was not given a time that is 0 <= time <= 30000."
       "runMotor"]
    ()
    (send port turns
      (if time ≠ 0 then .pcaTimedMotor channel speed time else .pcaMotor channel speed))

/-- `runTwoPCAMotor(channel1, speed1, channel2, speed2, time)`. -/
def runTwoPCAMotor (channel1 speed1 channel2 speed2 time : ℤ) : Act P Unit := do
  let d ← get
  guarded
    [notConnected d "runMotor",
     d.invalid (outside 0 60000 time) "Method was not given a time that is 0 <= time <= 60000."
       "runMotor"]
    ()
    (send port turns
      (if time ≠ 0 then .twoPCATimedMotor channel1 speed1 channel2 speed2 time
       else .twoPCAMotor channel1 speed1 channel2 speed2))

/-- `runPCAEncoder(channel, speed, pin, ticks)`. -/
def runPCAEncoder (channel speed pin ticks : ℤ) : Act P Unit := do
  guarded [notConnected (← get) "runMotor"] () (send port turns (.pcaEncoder channel speed pin ticks))

/-- `runTwoPCAEncoder(channel1, speed1, pin1, ticks1, channel2, speed2, pin2, ticks2)`. -/
def runTwoPCAEncoder (channel1 speed1 pin1 ticks1 channel2 speed2 pin2 ticks2 : ℤ) : Act P Unit := do
  guarded [notConnected (← get) "runMotor"] ()
    (send port turns (.twoPCAEncoder channel1 speed1 pin1 ticks1 channel2 speed2 pin2 ticks2))

/-- `channelPCAStop(channel)`. -/
def channelPCAStop (channel : ℤ) : Act P Unit := send port turns (.channelPCAStop channel)

/-- `allPCAStop()`. -/
def allPCAStop : Act P Unit := send port turns .allPCAStop

/-! ### Motors -/

/-- `checkRunningMotors()`. -/
def checkRunningMotors : Act P Bool := do
  let d ← get
  if d.overrideValidation then return true
  else if 2 < (List.finRange 4).countP d.motorsRunning then
    error "You may not run more than two motors at any given time!" "checkRunningMotors"
    return false
  else return true

/-- The flags after the motors of `orders` are given their speeds, in order. -/
def setRunning (orders : List (Fin 4 × ℤ)) (flags : Fin 4 → Bool) : Fin 4 → Bool :=
  orders.foldl (fun f o => Function.update f o.1 (o.2 != 0)) flags

/-- The flags after those of the motors of `orders` are set back to what they were before. -/
def restore (orders : List (Fin 4 × ℤ)) (before flags : Fin 4 → Bool) : Fin 4 → Bool :=
  orders.foldl (fun f o => Function.update f o.1 (before o.1)) flags

/-- The indices of the motors of a call, with their speeds. -/
def orders (motors : List (ℤ × ℤ)) : Except Stop (List (Fin 4 × ℤ)) :=
  motors.mapM fun m => (index 4 m.1).map fun i => (i, m.2)

/-- The flags of the motors are set; if that makes too many, they are set back. -/
def reserve (motors : List (ℤ × ℤ)) : Act P Bool := do
  let os ← lift (orders motors)
  let before := (← get).motorsRunning
  modify fun d => { d with motorsRunning := setRunning os d.motorsRunning }
  if ← checkRunningMotors then return true
  else
    modify fun d => { d with motorsRunning := restore os before d.motorsRunning }
    return false

/-- `if (!getOverrideValidation() && ONLY_ALLOW_TWO_MOTORS) { ... if (!checkRunningMotors())
{ ...; return; } }` before the rest of a method. -/
def limited (motors : List (ℤ × ℤ)) (body : Act P Unit) : Act P Unit := do
  if !(← get).overrideValidation && onlyAllowTwoMotors then
    if ← reserve motors then body
  else body

/-- `motorsRunning[motor] = false`, in order. -/
def clearRunning (motors : List ℤ) : Act P Unit :=
  motors.forM fun m => do
    let i ← lift (index 4 m)
    modify fun d => { d with motorsRunning := Function.update d.motorsRunning i false }

/-- `!motorsAttached[motor1] || !motorsAttached[motor2] || ...`. -/
def someDetached (d : Device P) : List ℤ → Except Stop Bool
  | [] => .ok false
  | m :: ms => do
      let i ← index 4 m
      if d.motorsAttached i then someDetached d ms else return true

def speedMessage : String := "You must give the motors a speed between -500 and 500 (inclusive)."

/-- `runMotor(motor, speed, time)`. -/
def runMotor (motor speed time : ℤ) : Act P Unit := do
  let d ← get
  guarded [notConnected d "runMotor", d.invalid (outside (-500) 500 speed) speedMessage "runMotor"] () <|
    limited [(motor, speed)] do
      let d ← get
      guarded
        [d.invalid (outside 0 30000 time) "runMotor not given a time that is 0 <= time <= 30000."
           "runMotor",
         d.invalid (outside 0 3 motor) "runMotor was not given a correct motor argument." "runMotor",
         ⟨d.someDetached [motor], "Motor " ++ toString motor ++ " has not been attached", "runMotor"⟩]
        () do
          sendFor port turns (.runMotor motor speed time) time
          if time ≠ 0 then clearRunning [motor]

/-- `runMotor(motor1, speed1, motor2, speed2, time)`.  A wrong motor is reported, and the method
goes on. -/
def runTwoMotors (motor1 speed1 motor2 speed2 time : ℤ) : Act P Unit := do
  let d ← get
  guarded
    [notConnected d "runMotor",
     d.invalid (outside (-500) 500 speed1 || outside (-500) 500 speed2) speedMessage "runMotor"] () <|
    limited [(motor1, speed1), (motor2, speed2)] do
      let d ← get
      guarded
        [d.invalid (outside 0 30000 time) "runMotor was not given a time that is 0 <= time <= 30000."
           "runMotor"] () do
        warn (d.invalid (outside 0 3 motor1 || outside 0 3 motor2)
          "runMotor was not given a correct motor argument." "runMotor")
        guarded
          [⟨d.someDetached [motor1, motor2], "One of these motors has not been attached", "runMotor"⟩]
          () do
            sendFor port turns (.runTwoMotors motor1 speed1 motor2 speed2 time) time
            if time ≠ 0 then clearRunning [motor1, motor2]

/-- `runMotor` for four motors. -/
def runFourMotors (motor1 speed1 motor2 speed2 motor3 speed3 motor4 speed4 time : ℤ) : Act P Unit := do
  let d ← get
  guarded
    [notConnected d "runMotor",
     d.invalid (outside (-255) 255 speed1 || outside (-255) 255 speed2 || outside (-255) 255 speed3 ||
         outside (-255) 255 speed4)
       "You must give the motors a speed between -255 and 255 (inclusive)." "runMotor",
     d.invalid onlyAllowTwoMotors
       "You may only run two DC motors at a time, so you cannot use this method!" "runMotor",
     d.invalid (time < 0) "runMotor was not given a time that is >=0." "runMotor",
     d.invalid (outside 0 3 motor1 || outside 0 3 motor2 || outside 0 3 motor3 || outside 0 3 motor4)
       "runMotor was not given a correct motor argument." "runMotor",
     ⟨d.someDetached [motor1, motor2, motor3, motor4], "One of these motors has not been attached",
       "runMotor"⟩]
    ()
    (sendFor port turns
      (.runFourMotors motor1 speed1 motor2 speed2 motor3 speed3 motor4 speed4 time) time)

/-- A line that is sent with `moveEncodedMotor` set, and what follows it. -/
def runEncoded (line : Line) (motors : List ℤ) : Act P Unit := do
  setMoveEncodedMotor true
  send port turns line
  setMoveEncodedMotor false
  clearRunning motors
  sleep port 1000

/-- `runEncodedMotor(motor, speed, ticks)`. -/
def runEncodedMotor (motor speed ticks : ℤ) : Act P Unit := do
  let d ← get
  guarded
    [notConnected d "runEncodedMotor",
     d.invalid (outside (-500) 500 speed) speedMessage "runEncodedMotor",
     d.invalid (outside 0 1 motor) "runEncodedMotor was not given a correct motor argument."
       "runEncodedMotor",
     d.invalid (ticks ≤ 0) "runEncodedMotor was not given a positive tick argument."
       "runEncodedMotor"] () <|
    limited [(motor, speed)] (runEncoded port turns (.runEncodedMotor motor speed ticks) [motor])

/-- `runEncodedMotor(motor1, speed1, tick1, motor2, speed2, tick2)`.  A wrong motor is reported, and
the method goes on. -/
def runTwoEncodedMotors (motor1 speed1 tick1 motor2 speed2 tick2 : ℤ) : Act P Unit := do
  let d ← get
  guarded
    [notConnected d "runEncodedMotor",
     d.invalid (outside (-500) 500 speed1 || outside (-500) 500 speed2) speedMessage
       "runEncodedMotor"] () <|
    limited [(motor1, speed1), (motor2, speed2)] do
      let d ← get
      guarded
        [d.invalid (tick1 ≤ 0 || tick2 ≤ 0) "runEncodedMotor was not given a tick that is positive"
           "runEncodedMotor"] () do
        warn (d.invalid (outside 0 1 motor1 || outside 1 1 motor2)
          "runEncodedMotor was not given a correct motor argument." "runEncodedMotor")
        runEncoded port turns (.runTwoEncodedMotors motor1 speed1 tick1 motor2 speed2 tick2)
          [motor1, motor2]

/-! ### The mixer -/

def portMessage : String :=
  "You must supply a valid motor port: RXTXRobot.MOTOR1, MOTOR2, MOTOR3, or MOTOR4."

/-- `runMixer(motor, time)`. -/
def runMixer (motor time : ℤ) : Act P Unit := do
  let d ← get
  guarded
    [notConnected d "runMixer", d.invalid (outside 0 3 motor) portMessage "runMixer",
     d.invalid (time < 0) "You must supply a positive time." "runMixer"]
    () (sendFor port turns (.runMotor motor d.mixerSpeed time) time)

/-- `stopMixer(motor)`. -/
def stopMixer (motor : ℤ) : Act P Unit := do
  let d ← get
  guarded [notConnected d "stopMixer", d.invalid (outside 0 3 motor) portMessage "stopMixer"] ()
    (send port turns (.runMotor motor 0 0))

/-- `setMixerSpeed(speed)`. -/
def setMixerSpeed (speed : ℤ) : Act P Unit := do
  if !(← get).overrideValidation && speed > 255 then
    error ("The speed supplied (" ++ toString speed ++ ") is > 255.  Resetting it to 255.")
      "setMixerSpeed"
    modify fun d => { d with mixerSpeed := 255 }
  else if !(← get).overrideValidation && speed < 0 then
    error ("The speed supplied (" ++ toString speed ++ ") is < 0.  Resetting it to 0.") "setMixerSpeed"
    modify fun d => { d with mixerSpeed := 0 }
  else modify fun d => { d with mixerSpeed := speed }

/-! ### Settings and the connection -/

/-- `setResetOnClose(r)`. -/
def setResetOnClose (r : Bool) : Act P Unit := modify fun d => { d with resetOnClose := r }

/-- `setOverrideValidation(o)`. -/
def setOverrideValidation (o : Bool) : Act P Unit := modify fun d => { d with overrideValidation := o }

/-- `connect()`, with the port found and free; otherwise the program ends. -/
def connect : Act P Unit := do
  if (← get).connected then error "Robot is already connected!" "connect"
  else
    sleep port 500
    modify fun d => { d with connected := true, log := d.log ++ [.opened] }
    sleep port 2500
    modify fun d => { d with digitalPinsAvailable := some hw.digitalPins }
    modify fun d => { d with analogPinsAvailable := some hw.analogPins }
    refreshAnalogPins port turns

/-- The part of `close()` that sets servos and motors back. -/
def reset : Act P Unit := do
  (List.finRange 3).forM fun i => do
    if (← get).servosAttached i then moveServo port turns i.val 90
  (List.finRange 4).forM fun i => do
    if (← get).motorsAttached i then runMotor port turns i.val 0 0

/-- `close()`. -/
def close : Act P Unit := do
  sleep port 300
  if (← get).resetOnClose then reset port turns
  modify fun d => { d with connected := false, log := d.log ++ [.closed] }

end Device
end ExeRobot
