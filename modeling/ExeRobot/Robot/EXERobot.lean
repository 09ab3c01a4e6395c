/-
# The team's robot: `EXERobot`

The public methods of `EXERobot.java`, over the API of `ExeRobot.Robot.RXTXRobot`.
The `double` factors are taken as exact numbers; where the code casts a `double`
to `int`, the cast truncates towards zero.

`motorRunIndefinitely` is a loop that only the robot's surroundings end, so its
model is given a number of turns and says whether it returned within them.  The
position solver `Navigation` comes from the archive of the API: it is a parameter
of `getLocation`, which sees the two angles it is given and answers with a return
code and a solution.
-/

import ExeRobot.IRArray.IndexBetween
import ExeRobot.Robot.RXTXRobot

namespace ExeRobot
namespace EXERobot

open RXTXRobot

/-! ### Ports and constants -/

def INCLINOMETER_SENSOR_PORT : ℤ := 1
def TEMP_SENSOR_PORT : ℤ := 0
def BUMP_SENSOR : ℤ := 5
def PING_SENSOR : ℤ := 7
def MOTOR_LEFT : ℤ := 11
def MOTOR_RIGHT : ℤ := 15
def SERVO_MEASUREMENTS_1 : ℤ := 1
def SERVO_MEASUREMENTS_2 : ℤ := 4
def PING_PONG_SERVO : ℤ := 3
def BUMP_SENSOR_TRIGGERED : ℤ := 0
def BUMP_SENSOR_RELAXED : ℤ := 1
def PYLON_NORTHEAST : JChar := jc 'K'
def PYLON_NORTH : JChar := jc 'G'
def PYLON_NORTHWEST : JChar := jc 'Z'
def PYLON_SOUTHEAST : JChar := jc 'V'
def PYLON_SOUTH : JChar := jc 'N'
def PYLON_SOUTHWEST : JChar := jc 'Z'
def MOTORLEFTCONSTANT : ℤ := 450
def MOTORRIGHTCONSTANT : ℤ := -210

/-- `(int) ((7.2 / 9.0) * angle)`. -/
def measurementScale (angle : ℤ) : ℤ := (4 * angle).tdiv 5

/-- `(int) ((16.0 / 21.0) * angle)`. -/
def irScale (angle : ℤ) : ℤ := (16 * angle).tdiv 21

/-- `(int) ((7.2 / 9.0) * (index * 5))`. -/
theorem measurementScale_step (index : ℕ) : measurementScale (index * 5) = 4 * index := by
  unfold measurementScale
  rw [show (4 : ℤ) * (index * 5) = 4 * index * 5 by ring]
  exact Int.mul_tdiv_cancel _ (by decide)

variable {L ρ : Type} (k : Link L ρ)

/-! ### Single movements -/

/-- `close()`. -/
def close : Api L ρ Unit := RXTXRobot.close k

/-- `runTwoPCAMotor` on the two drive motors. -/
def drive (left right time : ℤ) : Api L ρ Unit := runTwoPCAMotor k MOTOR_LEFT left MOTOR_RIGHT right time

/-- `moveMotor(time)`. -/
def moveMotor (time : ℤ) : Api L ρ Unit := drive k MOTORLEFTCONSTANT MOTORRIGHTCONSTANT time

/-- `setMeasurementServo(angle)`. -/
def setMeasurementServo (angle : ℤ) : Api L ρ Unit :=
  runPCAServo k SERVO_MEASUREMENTS_1 (measurementScale angle)

/-- `moveIrSensorServo(angle)`. -/
def moveIrSensorServo (angle : ℤ) : Api L ρ Unit :=
  runPCATimedServo k SERVO_MEASUREMENTS_2 (irScale angle) 1000

/-- `zeroServos()`. -/
def zeroServos : Api L ρ Unit := do
  setMeasurementServo k 80
  moveIrSensorServo k 0

/-- A turn: a timed drive command and a sleep. -/
def turn (left right time : ℤ) (wait : ℕ) : Api L ρ Unit := do
  drive k left right time
  sleep k wait

/-- `turnTen()`. -/
def turnTen : Api L ρ Unit := turn k 200 350 50 (50 + 1000)

/-- `turnTenOpp()`. -/
def turnTenOpp : Api L ρ Unit := turn k (-200) (-240) 50 (50 + 1000)

/-- `turnNinety()`. -/
def turnNinety : Api L ρ Unit := turn k 255 300 1060 (1060 + 1000)

/-- `turnNinetyOpp()`. -/
def turnNinetyOpp : Api L ρ Unit := turn k (-250) (-200) 1060 (1060 + 1000)

/-- `turnFourtyFive()`. -/
def turnFourtyFive : Api L ρ Unit := turn k 200 340 530 1000

/-- `turnFourtyFiveOpp()`. -/
def turnFourtyFiveOpp : Api L ρ Unit := turn k (-180) (-230) 530 1000

/-- `turnTenMulti(x)`. -/
def turnTenMulti (x : ℤ) : Api L ρ Unit := (List.range x.toNat).forM fun _ => turnTen k

/-- `stop()`. -/
def stop : Api L ρ Unit := drive k 0 0 1000

/-- `yeetTheBridge()`. -/
def yeetTheBridge : Api L ρ Unit := turn k MOTORLEFTCONSTANT (MOTORRIGHTCONSTANT + 15) 3700 3800

/-- `defaultPing()`. -/
def defaultPing : Api L ρ Unit := runPCAServo k PING_PONG_SERVO 180

/-- `releaseBall()`. -/
def releaseBall : Api L ρ Unit := do
  runPCAServo k PING_PONG_SERVO 40
  sleep k 100
  runPCAServo k PING_PONG_SERVO 180

/-- `ReleaseBall()`. -/
def ReleaseBall : Api L ρ Unit := do
  runPCAServo k PING_PONG_SERVO 180
  sleep k 900
  runPCAServo k PING_PONG_SERVO 60

/-- `ballDrop()`. -/
def ballDrop : Api L ρ Unit := runPCAServo k PING_PONG_SERVO (measurementScale 160)

/-- `test()`. -/
def test : Api L ρ Unit := moveIrSensorServo k 235

/-! ### The bump sensor -/

/-- `checkBump()`. -/
def checkBump : Api L ρ Bool := do
  refreshDigitalPins k
  let bumpValue ← getDigitalPin k BUMP_SENSOR
  return bumpValue = BUMP_SENSOR_TRIGGERED

/-- `motorRunIndefinitely()`, given at most `turns` polls: whether it has returned. -/
def motorRunIndefinitely : ℕ → Api L ρ Bool
  | 0 => return false
  | turns + 1 => do
      if ← checkBump k then
        drive k 0 0 0
        return true
      else
        drive k MOTORLEFTCONSTANT MOTORRIGHTCONSTANT 0
        motorRunIndefinitely turns

/-! ### Measurements -/

/-- The vote of `readIRChar`, lines 95-112. -/
def dominantChar (chars : List JChar) : JChar :=
  let zOccur := chars.countP fun c => c = jc '0'
  let charOc := chars.countP fun c => c ≠ jc '0'
  let found := chars.foldl (fun found c => if c ≠ jc '0' then c else found) (jc '0')
  if charOc > zOccur then found else jc '0'

/-- `readIRChar()` with `readingCount` readings. -/
def readIRCharOf (readingCount : ℕ) : Api L ρ JChar := do
  refreshDigitalPins k
  let chars ← (List.range readingCount).mapM fun _ => do
    let currentReceived ← getIRChar k
    refreshDigitalPins k
    sleep k 10
    return currentReceived
  return dominantChar chars

/-- `readIRChar()`. -/
def readIRChar : Api L ρ JChar := readIRCharOf k 4

/-- The sum of `count` readings, in an `int`. -/
def sumOf (count : ℕ) (reading : Api L ρ ℤ) : Api L ρ ℤ :=
  (List.range count).foldlM (fun sum _ => do return jint (sum + (← reading))) 0

/-- `getTemperature()`. -/
def getTemperature : Api L ρ ℚ := do
  let sum ← sumOf 10 (do
    sleep k 200
    refreshAnalogPins k
    getAnalogPin k TEMP_SENSOR_PORT)
  let averageReading : ℚ := sum / 10
  return averageReading * (-534779 / 10 ^ 6) + 447017 / 10 ^ 3

/-- `getPing()`. -/
def getPing : Api L ρ ℚ := do
  let sum ← sumOf 10 (do
    refreshDigitalPins k
    RXTXRobot.getPing k PING_SENSOR)
  let averageReading : ℚ := sum / 10
  return (averageReading - 295889918 / 10 ^ 9) / (374359205 / 10 ^ 9)

/-- `getSlope()`. -/
def getSlope : Api L ρ ℤ := do
  sleep k 1000
  refreshAnalogPins k
  let _ ← getAnalogPin k INCLINOMETER_SENSOR_PORT
  sleep k 1000
  let adc ← getAnalogPin k INCLINOMETER_SENSOR_PORT
  return truncate (-169839 / 10 ^ 6 * adc + 80516 / 10 ^ 3)

/-- `getSlope` when its refresh stores `v` for its pin: no refresh stands between its two
reads, so both find `v`. -/
theorem getSlope_of_refresh {s s' : Robot L ρ} {cache : List ℤ} {v : ℤ}
    (hrefresh : refreshAnalogPins k { s with
      link := k.sleep 1000 s.link, log := s.log ++ [.slept 1000] } = .ok ((), s'))
    (hs' : Online s') (hcache : s'.analogPinCache = some cache)
    (hv : cache[initialFreeAnalogPins.idxOf INCLINOMETER_SENSOR_PORT]? = some v) :
    getSlope k s = .ok (truncate (-169839 / 10 ^ 6 * v + 80516 / 10 ^ 3), { s' with
      link := k.sleep 1000 s'.link
      log := s'.log ++ [.pinRead INCLINOMETER_SENSOR_PORT v, .slept 1000,
        .pinRead INCLINOMETER_SENSOR_PORT v] }) := by
  have hpin : INCLINOMETER_SENSOR_PORT ∈ initialFreeAnalogPins := by decide
  have hfirst := getAnalogPin_cached k hpin hs' hcache hv
  let u : Robot L ρ := { s' with
    link := k.sleep 1000 s'.link
    log := s'.log ++ [.pinRead INCLINOMETER_SENSOR_PORT v] ++ [.slept 1000] }
  have hu : Online u := ⟨hs'.connected, hs'.analogPins, hs'.digitalPins⟩
  have hsecond := getAnalogPin_cached k hpin hu hcache hv
  have hslept : sleep k 1000 s = .ok ((), { s with
    link := k.sleep 1000 s.link, log := s.log ++ [.slept 1000] }) := rfl
  have hwait : sleep k 1000 { s' with log := s'.log ++ [.pinRead INCLINOMETER_SENSOR_PORT v] } =
    .ok ((), u) := rfl
  unfold getSlope
  rw [Stateful.run_bind_ok hslept, Stateful.run_bind_ok hrefresh, Stateful.run_bind_ok hfirst,
    Stateful.run_bind_ok hwait, Stateful.run_bind_ok hsecond]
  simp [u]

/-- `getConductivity()`. -/
def getConductivity : Api L ρ ℚ := do
  sleep k 1000
  refreshDigitalPins k
  let adc ← RXTXRobot.getConductivity k
  return 578889 / 10 ^ 3 + -568211 / 10 ^ 6 * adc

/-- `conduction()`. -/
def conduction : Api L ρ ℚ := do
  let adc ← RXTXRobot.getConductivity k
  return adc

/-- `getIRArray()`. -/
def getIRArray : Api L ρ (List JChar) := do
  sleep k 1000
  refreshDigitalPins k
  (List.range 3).mapM fun _ => do
    refreshDigitalPins k
    let currentReceived ← getIRChar k
    sleep k 100
    return currentReceived

/-- One step of the sweep of `generateIRArrayMatrix`. -/
def sweepStep (index : ℕ) : Api L ρ (List JChar) := do
  runPCAServo k 4 (measurementScale (index * 5))
  sleep k 10
  refreshDigitalPins k
  getIRArray k

/-- `ANGLE_COUNT`. -/
def ANGLE_COUNT : ℕ := 47

/-- `generateIRArrayMatrix()`. -/
def generateIRArrayMatrix : Api L ρ (List (List JChar)) := do
  zeroServos k
  (List.range ANGLE_COUNT).mapM (sweepStep k)

/-- `angleRecieved()`. -/
def angleRecieved : Api L ρ Unit :=
  (List.range 36).forM fun i => do
    runPCAServo k SERVO_MEASUREMENTS_2 (measurementScale (i * 5))
    sleep k 100
    let _ ← readIRChar k

/-! ### Localisation -/

/-- The return codes of `newton_raphson()`. -/
inductive Retval where
  | success
  | range
  | singular
  | divergence
  deriving DecidableEq, Repr

/-- A `Navigation` object, as its answers to the angles set. -/
structure Navigation where
  newton_raphson : ℤ → ℤ → Retval
  getSolution : ℤ → ℤ → ℚ × ℚ

/-- The pylons of a quadrant, `beaconOne`, `beaconTwo` and `beaconThree`. -/
def pylons (quadrant : ℤ) : JChar × JChar × JChar :=
  if quadrant = 1 then (PYLON_SOUTHEAST, PYLON_NORTHEAST, PYLON_NORTH)
  else if quadrant = 2 then (PYLON_NORTH, PYLON_NORTHWEST, PYLON_SOUTHWEST)
  else if quadrant = 3 then (PYLON_NORTHWEST, PYLON_SOUTHWEST, PYLON_SOUTH)
  else if quadrant = 4 then (PYLON_SOUTH, PYLON_SOUTHEAST, PYLON_NORTHEAST)
  else (PYLON_SOUTH, PYLON_SOUTHEAST, PYLON_NORTHEAST)

/-- `getLocation(quadrant)`.  The objects of the density table are the only ones
whose identities are compared, so their heap starts empty. -/
def getLocation (nav : Navigation) (quadrant : ℤ) : Api L ρ (ℚ × ℚ) := do
  let matrix ← generateIRArrayMatrix k
  let beaconData ← liftM ((IRArrayDensity.new matrix).run' 0)
  let (beaconOne, beaconTwo, beaconThree) := pylons quadrant
  let first ← liftM (beaconData.indexBetween beaconOne beaconTwo)
  let second ← liftM (beaconData.indexBetween beaconTwo beaconThree)
  record (.setAngles (first * 5) (second * 5))
  match nav.newton_raphson (first * 5) (second * 5) with
  | .success => return nav.getSolution (first * 5) (second * 5)
  | .range => return (-1, -1)
  | .singular => return (-1, -1)
  | .divergence => return (-1, -1)

/-! ### Diagnostics and routes -/

/-- `testTemperature()`. -/
def testTemperature : Api L ρ Unit := do
  zeroServos k
  setMeasurementServo k 20
  sleep k 1000
  sleep k 9000
  let _ ← getTemperature k
  sleep k 1000
  zeroServos k

/-- `testConductivity()`. -/
def testConductivity : Api L ρ Unit := do
  zeroServos k
  setMeasurementServo k 45
  sleep k 1000
  sleep k 5000
  let _ ← getConductivity k
  sleep k 1000
  setMeasurementServo k 80

/-- `testInclinometer()`. -/
def testInclinometer : Api L ρ Unit := do
  let _ ← getSlope k

/-- `testIR()`. -/
def testIR : Api L ρ Unit := do
  let matrix ← generateIRArrayMatrix k
  let beaconDensity ← liftM ((IRArrayDensity.new matrix).run' 0)
  let _ ← liftM (beaconDensity.indexBetween (jc 'A') (jc 'M'))

/-- `testPing()`. -/
def testPing : Api L ρ Unit := do
  let _ ← getPing k

/-- `quadrantOne()`. -/
def quadrantOne : Api L ρ Unit := do
  yeetTheBridge k
  turnFourtyFive k
  yeetTheBridge k
  turnNinety k
  moveMotor k 2000
  moveMotor k 1000
  sleep k 1500
  turnNinetyOpp k
  turnTenOpp k
  turnTenOpp k
  turnTenOpp k
  yeetTheBridge k
  sleep k 1000
  testTemperature k
  testInclinometer k

/-- `quadrantTwo()`. -/
def quadrantTwo : Api L ρ Unit := do
  yeetTheBridge k
  turnNinetyOpp k
  turnTen k
  yeetTheBridge k
  testConductivity k
  testInclinometer k

/-- `quadrantThree()`. -/
def quadrantThree : Api L ρ Unit := do
  yeetTheBridge k
  turnNinety k
  moveMotor k 3000
  sleep k 3500
  turnNinetyOpp k
  yeetTheBridge k
  yeetTheBridge k
  moveMotor k 1000
  testInclinometer k
  moveMotor k 1000

/-- `quadrantFour()`. -/
def quadrantFour : Api L ρ Unit := do
  yeetTheBridge k
  turnNinetyOpp k
  turnTen k
  yeetTheBridge k
  yeetTheBridge k
  yeetTheBridge k
  testInclinometer k

/-- `new EXERobot()`, the API object being new. -/
def construct : Api L ρ Unit := do
  connect k
  zeroServos k

/-- The public operations; `goToOrigin()` and `frogger()` are empty. -/
inductive Op where
  | close
  | moveMotor (time : ℤ)
  | setMeasurementServo (angle : ℤ)
  | readIRChar
  | motorRunIndefinitely
  | checkBump
  | getTemperature
  | getPing
  | getSlope
  | getConductivity
  | angleRecieved
  | turnTen
  | turnTenOpp
  | turnNinety
  | turnNinetyOpp
  | turnTenMulti (x : ℤ)
  | turnFourtyFive
  | turnFourtyFiveOpp
  | stop
  | defaultPing
  | releaseBall
  | conduction
  | yeetTheBridge
  | ballDrop
  | quadrantOne
  | quadrantTwo
  | quadrantThree
  | quadrantFour
  | ReleaseBall
  | test
  | goToOrigin
  | zeroServos
  | frogger
  | testTemperature
  | testConductivity
  | testInclinometer
  | testIR
  | testPing
  | getIRArray
  | generateIRArrayMatrix
  | getLocation (nav : Navigation) (quadrant : ℤ)

/-- A call that returns whenever its body ends. -/
def returning {α : Type} (x : Api L ρ α) : Api L ρ Bool := do
  let _ ← x
  return true

/-- An operation with at most `turns` polls for its loop, the result dropped:
whether it has returned. -/
def Op.run (turns : ℕ) : Op → Api L ρ Bool
  | .close => returning (EXERobot.close k)
  | .moveMotor time => returning (EXERobot.moveMotor k time)
  | .setMeasurementServo angle => returning (EXERobot.setMeasurementServo k angle)
  | .readIRChar => returning (EXERobot.readIRChar k)
  | .motorRunIndefinitely => EXERobot.motorRunIndefinitely k turns
  | .checkBump => returning (EXERobot.checkBump k)
  | .getTemperature => returning (EXERobot.getTemperature k)
  | .getPing => returning (EXERobot.getPing k)
  | .getSlope => returning (EXERobot.getSlope k)
  | .getConductivity => returning (EXERobot.getConductivity k)
  | .angleRecieved => returning (EXERobot.angleRecieved k)
  | .turnTen => returning (EXERobot.turnTen k)
  | .turnTenOpp => returning (EXERobot.turnTenOpp k)
  | .turnNinety => returning (EXERobot.turnNinety k)
  | .turnNinetyOpp => returning (EXERobot.turnNinetyOpp k)
  | .turnTenMulti x => returning (EXERobot.turnTenMulti k x)
  | .turnFourtyFive => returning (EXERobot.turnFourtyFive k)
  | .turnFourtyFiveOpp => returning (EXERobot.turnFourtyFiveOpp k)
  | .stop => returning (EXERobot.stop k)
  | .defaultPing => returning (EXERobot.defaultPing k)
  | .releaseBall => returning (EXERobot.releaseBall k)
  | .conduction => returning (EXERobot.conduction k)
  | .yeetTheBridge => returning (EXERobot.yeetTheBridge k)
  | .ballDrop => returning (EXERobot.ballDrop k)
  | .quadrantOne => returning (EXERobot.quadrantOne k)
  | .quadrantTwo => returning (EXERobot.quadrantTwo k)
  | .quadrantThree => returning (EXERobot.quadrantThree k)
  | .quadrantFour => returning (EXERobot.quadrantFour k)
  | .ReleaseBall => returning (EXERobot.ReleaseBall k)
  | .test => returning (EXERobot.test k)
  | .goToOrigin => return true
  | .zeroServos => returning (EXERobot.zeroServos k)
  | .frogger => return true
  | .testTemperature => returning (EXERobot.testTemperature k)
  | .testConductivity => returning (EXERobot.testConductivity k)
  | .testInclinometer => returning (EXERobot.testInclinometer k)
  | .testIR => returning (EXERobot.testIR k)
  | .testPing => returning (EXERobot.testPing k)
  | .getIRArray => returning (EXERobot.getIRArray k)
  | .generateIRArrayMatrix => returning (EXERobot.generateIRArrayMatrix k)
  | .getLocation nav quadrant => returning (EXERobot.getLocation k nav quadrant)

/-- The call returns, in the state `t`. -/
def Op.Returns (op : Op) (s t : Robot L ρ) : Prop := ∃ turns, op.run k turns s = .ok (true, t)

/-- The calls return one after the other. -/
inductive RunOps : List Op → Robot L ρ → Robot L ρ → Prop where
  | nil (s : Robot L ρ) : RunOps [] s s
  | cons {op : Op} {ops : List Op} {s s' t : Robot L ρ} (first : op.Returns k s s')
      (rest : RunOps ops s' t) : RunOps (op :: ops) s t

end EXERobot
end ExeRobot
