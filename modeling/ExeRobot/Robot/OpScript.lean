/-
# The scripts of the operations

One script for each method of `ExeRobot.Robot.EXERobot`, put together the way its
body is, and the proof that the method goes through it (`ExeRobot.Robot.Script`).
A command whose position or time the API refuses is missing from the script.

`motorRunIndefinitely` goes through one of the lists of `BumpRun`: polls, each but
the last followed by a drive command, and the stop command when it returns.
`Op.Script` collects the operations; `Op.scripted` is the result the invariants of
whole runs start from.
-/

import ExeRobot.Robot.Script

namespace ExeRobot
namespace EXERobot

open Stateful RXTXRobot

/-! ### Scripts -/

/-- `runTwoPCAMotor` on the drive motors. -/
def driveScript (left right time : ℤ) : List Action :=
  if 0 ≤ time ∧ time ≤ 60000 then
    [.send (twoPCAMotorLine MOTOR_LEFT left MOTOR_RIGHT right time) 100]
  else []

/-- `runPCAServo`. -/
def servoScript (channel position : ℤ) : List Action :=
  if 0 ≤ position ∧ position ≤ 180 then [.send (.servo channel position) 100] else []

/-- `runPCATimedServo`. -/
def timedServoScript (channel position duration : ℤ) : List Action :=
  if 0 ≤ position ∧ position ≤ 180 then [.send (.timedServo channel position duration) 100] else []

def turnScript (left right time : ℤ) (wait : ℕ) : List Action :=
  driveScript left right time ++ [.sleep wait]

def setMeasurementServoScript (angle : ℤ) : List Action :=
  servoScript SERVO_MEASUREMENTS_1 (measurementScale angle)

def zeroServosScript : List Action :=
  setMeasurementServoScript 80 ++ timedServoScript SERVO_MEASUREMENTS_2 (irScale 0) 1000

/-- A refresh of the digital pins. -/
def poll : Action := .send .readDigital 100

def readIRCharScript : List Action :=
  [poll] ++ (List.range 4).flatMap fun _ => [.send .irChar 700, poll, .sleep 10]

def getTemperatureScript : List Action :=
  (List.range 10).flatMap fun _ => [.sleep 200, .send .readAnalog 100]

def getPingScript : List Action :=
  (List.range 10).flatMap fun _ => [poll, .send (.ping PING_SENSOR) 200]

def getSlopeScript : List Action := [.sleep 1000, .send .readAnalog 100, .sleep 1000]

def getConductivityScript : List Action := [.sleep 1000, poll, .send .conductivity 3000]

def getIRArrayScript : List Action :=
  [.sleep 1000] ++ ([poll] ++ (List.range 3).flatMap fun _ => [poll, .send .irChar 700, .sleep 100])

def sweepStepScript (index : ℕ) : List Action :=
  servoScript 4 (measurementScale (index * 5)) ++ ([.sleep 10] ++ ([poll] ++ getIRArrayScript))

def generateIRArrayMatrixScript : List Action :=
  zeroServosScript ++ (List.range ANGLE_COUNT).flatMap sweepStepScript

def angleRecievedScript : List Action :=
  (List.range 36).flatMap fun i =>
    servoScript SERVO_MEASUREMENTS_2 (measurementScale (i * 5)) ++ ([.sleep 100] ++ readIRCharScript)

def moveMotorScript (time : ℤ) : List Action := driveScript MOTORLEFTCONSTANT MOTORRIGHTCONSTANT time

def turnTenScript : List Action := turnScript 200 350 50 (50 + 1000)

def turnTenOppScript : List Action := turnScript (-200) (-240) 50 (50 + 1000)

def turnNinetyScript : List Action := turnScript 255 300 1060 (1060 + 1000)

def turnNinetyOppScript : List Action := turnScript (-250) (-200) 1060 (1060 + 1000)

def turnFourtyFiveScript : List Action := turnScript 200 340 530 1000

def turnFourtyFiveOppScript : List Action := turnScript (-180) (-230) 530 1000

def yeetTheBridgeScript : List Action :=
  turnScript MOTORLEFTCONSTANT (MOTORRIGHTCONSTANT + 15) 3700 3800

def testTemperatureScript : List Action :=
  zeroServosScript ++ (setMeasurementServoScript 20 ++
    ([.sleep 1000] ++ ([.sleep 9000] ++ (getTemperatureScript ++ ([.sleep 1000] ++ zeroServosScript)))))

def testConductivityScript : List Action :=
  zeroServosScript ++ (setMeasurementServoScript 45 ++
    ([.sleep 1000] ++ ([.sleep 5000] ++
      (getConductivityScript ++ ([.sleep 1000] ++ setMeasurementServoScript 80)))))

def quadrantOneScript : List Action :=
  yeetTheBridgeScript ++ (turnFourtyFiveScript ++ (yeetTheBridgeScript ++ (turnNinetyScript ++
    (moveMotorScript 2000 ++ (moveMotorScript 1000 ++ ([.sleep 1500] ++ (turnNinetyOppScript ++
      (turnTenOppScript ++ (turnTenOppScript ++ (turnTenOppScript ++ (yeetTheBridgeScript ++
        ([.sleep 1000] ++ (testTemperatureScript ++ getSlopeScript)))))))))))))

def quadrantTwoScript : List Action :=
  yeetTheBridgeScript ++ (turnNinetyOppScript ++ (turnTenScript ++ (yeetTheBridgeScript ++
    (testConductivityScript ++ getSlopeScript))))

def quadrantThreeScript : List Action :=
  yeetTheBridgeScript ++ (turnNinetyScript ++ (moveMotorScript 3000 ++ ([.sleep 3500] ++
    (turnNinetyOppScript ++ (yeetTheBridgeScript ++ (yeetTheBridgeScript ++ (moveMotorScript 1000 ++
      (getSlopeScript ++ moveMotorScript 1000))))))))

def quadrantFourScript : List Action :=
  yeetTheBridgeScript ++ (turnNinetyOppScript ++ (turnTenScript ++ (yeetTheBridgeScript ++
    (yeetTheBridgeScript ++ (yeetTheBridgeScript ++ getSlopeScript)))))

/-- The lists of actions of `motorRunIndefinitely`, by whether it has returned. -/
inductive BumpRun : Bool → List Action → Prop where
  | spent : BumpRun false []
  | stopped : BumpRun true ([poll] ++ driveScript 0 0 0)
  | driven {b : Bool} {l : List Action} (rest : BumpRun b l) :
      BumpRun b ([poll] ++ (moveMotorScript 0 ++ l))

/-! ### The methods go through their scripts -/

variable {L ρ : Type} (k : Link L ρ)

namespace Follows

open ExeRobot.Follows

theorem drive (left right time : ℤ) :
    Follows (EXERobot.drive k left right time) (driveScript left right time) := by
  unfold driveScript
  by_cases h : 0 ≤ time ∧ time ≤ 60000
  · rw [if_pos h]
    exact command k (by simpa using h) _ _
  · rw [if_neg h]
    exact command_refused k (by simpa using h) _ _

theorem servo (channel position : ℤ) :
    Follows (runPCAServo k channel position) (servoScript channel position) := by
  unfold servoScript
  by_cases h : 0 ≤ position ∧ position ≤ 180
  · rw [if_pos h]
    exact command k (by simpa using h) _ _
  · rw [if_neg h]
    exact command_refused k (by simpa using h) _ _

theorem timedServo (channel position duration : ℤ) :
    Follows (runPCATimedServo k channel position duration)
      (timedServoScript channel position duration) := by
  unfold timedServoScript
  by_cases h : 0 ≤ position ∧ position ≤ 180
  · rw [if_pos h]
    exact command k (by simpa using h) _ _
  · rw [if_neg h]
    exact command_refused k (by simpa using h) _ _

theorem turn (left right time : ℤ) (wait : ℕ) :
    Follows (EXERobot.turn k left right time wait) (turnScript left right time wait) :=
  bind (drive k _ _ _) fun _ => sleep k wait

theorem moveMotor (time : ℤ) : Follows (EXERobot.moveMotor k time) (moveMotorScript time) :=
  drive k _ _ _

theorem setMeasurementServo (angle : ℤ) :
    Follows (EXERobot.setMeasurementServo k angle) (setMeasurementServoScript angle) := servo k _ _

theorem zeroServos : Follows (EXERobot.zeroServos k) zeroServosScript :=
  bind (setMeasurementServo k 80) fun _ => timedServo k _ _ _

theorem checkBump : Follows (EXERobot.checkBump k) [poll] := by
  intro s b t h
  obtain ⟨_, s', hrefresh, hread⟩ := bind_eq_ok.1 h
  obtain ⟨cache, hcache⟩ := refreshDigitalPins_cache k hrefresh
  obtain ⟨v, s'', hpin, hret⟩ := bind_eq_ok.1 hread
  rw [getDigitalPin_run k hcache] at hpin
  exact following.trans (refreshDigitalPins k hrefresh)
    (following.trans (pinValue _ _ _ hpin) (pure _ hret))

/-- The loop goes through one of its lists, whichever way the polls come out. -/
theorem motorRunIndefinitely (turns : ℕ) {s t : Robot L ρ} {b : Bool}
    (h : EXERobot.motorRunIndefinitely k turns s = .ok (b, t)) :
    ∃ l, BumpRun b l ∧ following.rel l s t := by
  induction turns generalizing s with
  | zero =>
    obtain ⟨rfl, rfl⟩ : false = b ∧ s = t := by simpa [EXERobot.motorRunIndefinitely] using h
    exact ⟨[], .spent, following.refl s⟩
  | succ turns ih =>
    obtain ⟨bumped, s', hpoll, hrest⟩ := bind_eq_ok.1 h
    cases bumped with
    | true =>
      obtain ⟨_, s'', hstop, hret⟩ := bind_eq_ok.1 hrest
      obtain ⟨rfl, rfl⟩ : true = b ∧ s'' = t := by simpa using hret
      exact ⟨_, .stopped, following.trans (checkBump k hpoll) (drive k _ _ _ hstop)⟩
    | false =>
      obtain ⟨_, s'', hdrive, hloop⟩ := bind_eq_ok.1 hrest
      obtain ⟨l, hl, hrel⟩ := ih hloop
      exact ⟨_, .driven hl, following.trans (checkBump k hpoll)
        (following.trans (moveMotor k 0 hdrive) hrel)⟩

theorem readIRChar : Follows (EXERobot.readIRChar k) readIRCharScript := by
  refine bind (refreshDigitalPins k) fun _ => ?_
  refine bind_nil_right (mapM (fun _ => ?_) _) fun _ => pure _
  refine bind (getIRChar k) fun _ => ?_
  refine bind (refreshDigitalPins k) fun _ => ?_
  exact bind (sleep k 10) fun _ => pure _

theorem sumOf {reading : Api L ρ ℤ} {l : List Action} (h : Follows reading l) (count : ℕ) :
    Follows (EXERobot.sumOf count reading) ((List.range count).flatMap fun _ => l) :=
  foldlM (fun _ _ => bind_nil_right h fun _ => pure _) _ _

theorem getTemperature : Follows (EXERobot.getTemperature k) getTemperatureScript := by
  refine bind_nil_right (sumOf ?_ 10) fun _ => pure _
  refine bind (sleep k 200) fun _ => ?_
  exact bind_nil_right (refreshAnalogPins k) fun _ => getAnalogPin k _

theorem getPing : Follows (EXERobot.getPing k) getPingScript := by
  refine bind_nil_right (sumOf ?_ 10) fun _ => pure _
  exact bind (refreshDigitalPins k) fun _ => ExeRobot.Follows.getPing k (by decide)

theorem getSlope : Follows (EXERobot.getSlope k) getSlopeScript := by
  refine bind (sleep k 1000) fun _ => ?_
  refine bind (refreshAnalogPins k) fun _ => ?_
  refine bind_nil (getAnalogPin k _) fun _ => ?_
  refine bind (sleep k 1000) fun _ => ?_
  exact bind_nil (getAnalogPin k _) fun _ => pure _

theorem getConductivity : Follows (EXERobot.getConductivity k) getConductivityScript := by
  refine bind (sleep k 1000) fun _ => ?_
  refine bind (refreshDigitalPins k) fun _ => ?_
  exact bind (ExeRobot.Follows.getConductivity k) fun _ => pure _

theorem conduction : Follows (EXERobot.conduction k) [.send .conductivity 3000] :=
  bind_nil_right (ExeRobot.Follows.getConductivity k) fun _ => pure _

theorem getIRArray : Follows (EXERobot.getIRArray k) getIRArrayScript := by
  refine bind (sleep k 1000) fun _ => ?_
  refine bind (refreshDigitalPins k) fun _ => ?_
  refine mapM (fun _ => ?_) _
  refine bind (refreshDigitalPins k) fun _ => ?_
  refine bind (getIRChar k) fun _ => ?_
  exact bind (sleep k 100) fun _ => pure _

theorem sweepStep (index : ℕ) : Follows (EXERobot.sweepStep k index) (sweepStepScript index) := by
  refine bind (servo k _ _) fun _ => ?_
  refine bind (sleep k 10) fun _ => ?_
  exact bind (refreshDigitalPins k) fun _ => getIRArray k

theorem generateIRArrayMatrix :
    Follows (EXERobot.generateIRArrayMatrix k) generateIRArrayMatrixScript :=
  bind (zeroServos k) fun _ => mapM (sweepStep k) _

theorem angleRecieved : Follows (EXERobot.angleRecieved k) angleRecievedScript := by
  have hturn : ∀ i : ℕ, Follows (do
      runPCAServo k SERVO_MEASUREMENTS_2 (measurementScale (i * 5))
      RXTXRobot.sleep k 100
      let _ ← EXERobot.readIRChar k) (servoScript SERVO_MEASUREMENTS_2 (measurementScale (i * 5)) ++
        ([.sleep 100] ++ readIRCharScript)) := fun i => by
    refine bind (servo k _ _) fun _ => ?_
    refine bind (sleep k 100) fun _ => ?_
    exact bind_nil_right (readIRChar k) fun _ => pure _
  exact forM hturn _

theorem setAngles (a b : ℤ) : Follows (record (.setAngles a b) : Api L ρ Unit) [] :=
  modify (fun _ hs => ⟨hs.1, hs.2, hs.3, hs.4, hs.5⟩) (fun _ => rfl) fun s => by simp

theorem getLocation (nav : Navigation) (quadrant : ℤ) :
    Follows (EXERobot.getLocation k nav quadrant) generateIRArrayMatrixScript := by
  refine bind_nil_right (generateIRArrayMatrix k) fun _ => ?_
  refine bind_nil (lift _) fun _ => ?_
  refine bind_nil (lift _) fun _ => ?_
  refine bind_nil (lift _) fun _ => ?_
  refine bind_nil (setAngles _ _) fun _ => ?_
  split <;> exact pure _

theorem testIR : Follows (EXERobot.testIR k) generateIRArrayMatrixScript := by
  refine bind_nil_right (generateIRArrayMatrix k) fun _ => ?_
  refine bind_nil (lift _) fun _ => ?_
  exact bind_nil (lift _) fun _ => pure _

theorem yeetTheBridge : Follows (EXERobot.yeetTheBridge k) yeetTheBridgeScript := turn k _ _ _ _

theorem turnTen : Follows (EXERobot.turnTen k) turnTenScript := turn k _ _ _ _

theorem turnTenOpp : Follows (EXERobot.turnTenOpp k) turnTenOppScript := turn k _ _ _ _

theorem turnNinety : Follows (EXERobot.turnNinety k) turnNinetyScript := turn k _ _ _ _

theorem turnNinetyOpp : Follows (EXERobot.turnNinetyOpp k) turnNinetyOppScript := turn k _ _ _ _

theorem turnFourtyFive : Follows (EXERobot.turnFourtyFive k) turnFourtyFiveScript := turn k _ _ _ _

theorem turnFourtyFiveOpp : Follows (EXERobot.turnFourtyFiveOpp k) turnFourtyFiveOppScript :=
  turn k _ _ _ _

theorem testTemperature : Follows (EXERobot.testTemperature k) testTemperatureScript := by
  refine bind (zeroServos k) fun _ => ?_
  refine bind (setMeasurementServo k 20) fun _ => ?_
  refine bind (sleep k 1000) fun _ => ?_
  refine bind (sleep k 9000) fun _ => ?_
  refine bind (getTemperature k) fun _ => ?_
  exact bind (sleep k 1000) fun _ => zeroServos k

theorem testConductivity : Follows (EXERobot.testConductivity k) testConductivityScript := by
  refine bind (zeroServos k) fun _ => ?_
  refine bind (setMeasurementServo k 45) fun _ => ?_
  refine bind (sleep k 1000) fun _ => ?_
  refine bind (sleep k 5000) fun _ => ?_
  refine bind (getConductivity k) fun _ => ?_
  exact bind (sleep k 1000) fun _ => setMeasurementServo k 80

theorem testInclinometer : Follows (EXERobot.testInclinometer k) getSlopeScript :=
  bind_nil_right (getSlope k) fun _ => pure _

theorem testPing : Follows (EXERobot.testPing k) getPingScript :=
  bind_nil_right (getPing k) fun _ => pure _

theorem quadrantOne : Follows (EXERobot.quadrantOne k) quadrantOneScript := by
  refine bind (yeetTheBridge k) fun _ => ?_
  refine bind (turnFourtyFive k) fun _ => ?_
  refine bind (yeetTheBridge k) fun _ => ?_
  refine bind (turnNinety k) fun _ => ?_
  refine bind (moveMotor k 2000) fun _ => ?_
  refine bind (moveMotor k 1000) fun _ => ?_
  refine bind (sleep k 1500) fun _ => ?_
  refine bind (turnNinetyOpp k) fun _ => ?_
  refine bind (turnTenOpp k) fun _ => ?_
  refine bind (turnTenOpp k) fun _ => ?_
  refine bind (turnTenOpp k) fun _ => ?_
  refine bind (yeetTheBridge k) fun _ => ?_
  refine bind (sleep k 1000) fun _ => ?_
  refine bind (testTemperature k) fun _ => ?_
  exact testInclinometer k

theorem quadrantTwo : Follows (EXERobot.quadrantTwo k) quadrantTwoScript := by
  refine bind (yeetTheBridge k) fun _ => ?_
  refine bind (turnNinetyOpp k) fun _ => ?_
  refine bind (turnTen k) fun _ => ?_
  refine bind (yeetTheBridge k) fun _ => ?_
  refine bind (testConductivity k) fun _ => ?_
  exact testInclinometer k

theorem quadrantThree : Follows (EXERobot.quadrantThree k) quadrantThreeScript := by
  refine bind (yeetTheBridge k) fun _ => ?_
  refine bind (turnNinety k) fun _ => ?_
  refine bind (moveMotor k 3000) fun _ => ?_
  refine bind (sleep k 3500) fun _ => ?_
  refine bind (turnNinetyOpp k) fun _ => ?_
  refine bind (yeetTheBridge k) fun _ => ?_
  refine bind (yeetTheBridge k) fun _ => ?_
  refine bind (moveMotor k 1000) fun _ => ?_
  refine bind (testInclinometer k) fun _ => ?_
  exact moveMotor k 1000

theorem quadrantFour : Follows (EXERobot.quadrantFour k) quadrantFourScript := by
  refine bind (yeetTheBridge k) fun _ => ?_
  refine bind (turnNinetyOpp k) fun _ => ?_
  refine bind (turnTen k) fun _ => ?_
  refine bind (yeetTheBridge k) fun _ => ?_
  refine bind (yeetTheBridge k) fun _ => ?_
  refine bind (yeetTheBridge k) fun _ => ?_
  exact testInclinometer k

theorem turnTenMulti (x : ℤ) :
    Follows (EXERobot.turnTenMulti k x) ((List.range x.toNat).flatMap fun _ => turnTenScript) :=
  forM (fun _ => turnTen k) _

theorem releaseBall : Follows (EXERobot.releaseBall k)
    (servoScript PING_PONG_SERVO 40 ++ ([.sleep 100] ++ servoScript PING_PONG_SERVO 180)) :=
  bind (servo k PING_PONG_SERVO 40) fun _ =>
    bind (sleep k 100) fun _ => servo k PING_PONG_SERVO 180

theorem ReleaseBall : Follows (EXERobot.ReleaseBall k)
    (servoScript PING_PONG_SERVO 180 ++ ([.sleep 900] ++ servoScript PING_PONG_SERVO 60)) :=
  bind (servo k PING_PONG_SERVO 180) fun _ =>
    bind (sleep k 900) fun _ => servo k PING_PONG_SERVO 60

end Follows

/-! ### All operations -/

/-- The lists of actions of an operation that returns. -/
def Op.Script : Op → List Action → Prop
  | .close, l => l = [.sleep 300]
  | .moveMotor time, l => l = moveMotorScript time
  | .setMeasurementServo angle, l => l = setMeasurementServoScript angle
  | .readIRChar, l => l = readIRCharScript
  | .motorRunIndefinitely, l => BumpRun true l
  | .checkBump, l => l = [poll]
  | .getTemperature, l => l = getTemperatureScript
  | .getPing, l => l = getPingScript
  | .getSlope, l => l = getSlopeScript
  | .getConductivity, l => l = getConductivityScript
  | .angleRecieved, l => l = angleRecievedScript
  | .turnTen, l => l = turnTenScript
  | .turnTenOpp, l => l = turnTenOppScript
  | .turnNinety, l => l = turnNinetyScript
  | .turnNinetyOpp, l => l = turnNinetyOppScript
  | .turnTenMulti x, l => l = (List.range x.toNat).flatMap fun _ => turnTenScript
  | .turnFourtyFive, l => l = turnFourtyFiveScript
  | .turnFourtyFiveOpp, l => l = turnFourtyFiveOppScript
  | .stop, l => l = driveScript 0 0 1000
  | .defaultPing, l => l = servoScript PING_PONG_SERVO 180
  | .releaseBall, l => l = servoScript PING_PONG_SERVO 40 ++
      ([.sleep 100] ++ servoScript PING_PONG_SERVO 180)
  | .conduction, l => l = [.send .conductivity 3000]
  | .yeetTheBridge, l => l = yeetTheBridgeScript
  | .ballDrop, l => l = servoScript PING_PONG_SERVO (measurementScale 160)
  | .quadrantOne, l => l = quadrantOneScript
  | .quadrantTwo, l => l = quadrantTwoScript
  | .quadrantThree, l => l = quadrantThreeScript
  | .quadrantFour, l => l = quadrantFourScript
  | .ReleaseBall, l => l = servoScript PING_PONG_SERVO 180 ++
      ([.sleep 900] ++ servoScript PING_PONG_SERVO 60)
  | .test, l => l = timedServoScript SERVO_MEASUREMENTS_2 (irScale 235) 1000
  | .goToOrigin, l => l = []
  | .zeroServos, l => l = zeroServosScript
  | .frogger, l => l = []
  | .testTemperature, l => l = testTemperatureScript
  | .testConductivity, l => l = testConductivityScript
  | .testInclinometer, l => l = getSlopeScript
  | .testIR, l => l = generateIRArrayMatrixScript
  | .testPing, l => l = getPingScript
  | .getIRArray, l => l = getIRArrayScript
  | .generateIRArrayMatrix, l => l = generateIRArrayMatrixScript
  | .getLocation _ _, l => l = generateIRArrayMatrixScript

/-- `op` is `close`. -/
def Op.closes : Op → Bool
  | .close => true
  | _ => false

/-- **Every operation but `close` goes through one of its lists.** -/
theorem Op.scripted {op : Op} (hop : op.closes = false) {s t : Robot L ρ} (h : op.Returns k s t) :
    ∃ l, op.Script l ∧ following.rel l s t := by
  obtain ⟨turns, h⟩ := h
  have fixed : ∀ {α : Type} {x : Api L ρ α} {l : List Action}, Follows x l →
      returning x s = .ok (true, t) → following.rel l s t := fun hx hrun =>
    ExeRobot.Follows.bind_nil_right hx (fun _ => ExeRobot.Follows.pure true) hrun
  cases op with
  | close => cases hop
  | moveMotor time => exact ⟨_, rfl, fixed (Follows.moveMotor k time) h⟩
  | setMeasurementServo angle => exact ⟨_, rfl, fixed (Follows.setMeasurementServo k angle) h⟩
  | readIRChar => exact ⟨_, rfl, fixed (Follows.readIRChar k) h⟩
  | motorRunIndefinitely => exact Follows.motorRunIndefinitely k turns h
  | checkBump => exact ⟨_, rfl, fixed (Follows.checkBump k) h⟩
  | getTemperature => exact ⟨_, rfl, fixed (Follows.getTemperature k) h⟩
  | getPing => exact ⟨_, rfl, fixed (Follows.getPing k) h⟩
  | getSlope => exact ⟨_, rfl, fixed (Follows.getSlope k) h⟩
  | getConductivity => exact ⟨_, rfl, fixed (Follows.getConductivity k) h⟩
  | angleRecieved => exact ⟨_, rfl, fixed (Follows.angleRecieved k) h⟩
  | turnTen => exact ⟨_, rfl, fixed (Follows.turnTen k) h⟩
  | turnTenOpp => exact ⟨_, rfl, fixed (Follows.turnTenOpp k) h⟩
  | turnNinety => exact ⟨_, rfl, fixed (Follows.turnNinety k) h⟩
  | turnNinetyOpp => exact ⟨_, rfl, fixed (Follows.turnNinetyOpp k) h⟩
  | turnTenMulti x => exact ⟨_, rfl, fixed (Follows.turnTenMulti k x) h⟩
  | turnFourtyFive => exact ⟨_, rfl, fixed (Follows.turnFourtyFive k) h⟩
  | turnFourtyFiveOpp => exact ⟨_, rfl, fixed (Follows.turnFourtyFiveOpp k) h⟩
  | stop => exact ⟨_, rfl, fixed (Follows.drive k 0 0 1000) h⟩
  | defaultPing => exact ⟨_, rfl, fixed (Follows.servo k PING_PONG_SERVO 180) h⟩
  | releaseBall => exact ⟨_, rfl, fixed (Follows.releaseBall k) h⟩
  | conduction => exact ⟨_, rfl, fixed (Follows.conduction k) h⟩
  | yeetTheBridge => exact ⟨_, rfl, fixed (Follows.yeetTheBridge k) h⟩
  | ballDrop => exact ⟨_, rfl, fixed (Follows.servo k PING_PONG_SERVO (measurementScale 160)) h⟩
  | quadrantOne => exact ⟨_, rfl, fixed (Follows.quadrantOne k) h⟩
  | quadrantTwo => exact ⟨_, rfl, fixed (Follows.quadrantTwo k) h⟩
  | quadrantThree => exact ⟨_, rfl, fixed (Follows.quadrantThree k) h⟩
  | quadrantFour => exact ⟨_, rfl, fixed (Follows.quadrantFour k) h⟩
  | ReleaseBall => exact ⟨_, rfl, fixed (Follows.ReleaseBall k) h⟩
  | test =>
    exact ⟨_, rfl, fixed (Follows.timedServo k SERVO_MEASUREMENTS_2 (irScale 235) 1000) h⟩
  | goToOrigin => exact ⟨_, rfl, ExeRobot.Follows.pure true h⟩
  | zeroServos => exact ⟨_, rfl, fixed (Follows.zeroServos k) h⟩
  | frogger => exact ⟨_, rfl, ExeRobot.Follows.pure true h⟩
  | testTemperature => exact ⟨_, rfl, fixed (Follows.testTemperature k) h⟩
  | testConductivity => exact ⟨_, rfl, fixed (Follows.testConductivity k) h⟩
  | testInclinometer => exact ⟨_, rfl, fixed (Follows.testInclinometer k) h⟩
  | testIR => exact ⟨_, rfl, fixed (Follows.testIR k) h⟩
  | testPing => exact ⟨_, rfl, fixed (Follows.testPing k) h⟩
  | getIRArray => exact ⟨_, rfl, fixed (Follows.getIRArray k) h⟩
  | generateIRArrayMatrix => exact ⟨_, rfl, fixed (Follows.generateIRArrayMatrix k) h⟩
  | getLocation nav quadrant => exact ⟨_, rfl, fixed (Follows.getLocation k nav quadrant) h⟩

/-- **`close` resets nothing**, no motor or servo being attached: it sleeps and
drops the connection. -/
theorem close_run {s : Robot L ρ} (hs : Ready s) :
    RXTXRobot.close k s = .ok ((), { s with
      link := k.sleep 300 s.link, connected := false, log := s.log ++ [.slept 300] }) := by
  let s' : Robot L ρ := { s with link := k.sleep 300 s.link, log := s.log ++ [.slept 300] }
  have hservos : ∀ i : Fin 3,
      (do if (← get).servosAttached i then moveServo k i 90 : Api L ρ PUnit) s' =
        .ok (⟨⟩, s') := fun i => by
    rw [run_bind_get, show s'.servosAttached i = false from hs.servos i]
    rfl
  have hmotors : ∀ i : Fin 4,
      (do if (← get).motorsAttached i then runMotor k i 0 0 : Api L ρ PUnit) s' =
        .ok (⟨⟩, s') := fun i => by
    rw [run_bind_get, show s'.motorsAttached i = false from hs.motors i]
    rfl
  unfold RXTXRobot.close RXTXRobot.sleep
  rw [run_bind_modify]
  show ((List.finRange 3).forM _ >>= _ : Api L ρ Unit) s' = _
  rw [run_bind_ok (forM_skip hservos _)]
  show ((List.finRange 4).forM _ >>= _ : Api L ρ Unit) s' = _
  rw [run_bind_ok (forM_skip hmotors _)]
  rfl

/-- What a call of `close` leaves. -/
theorem Op.closed {s t : Robot L ρ} (hs : Ready s) (h : Op.close.Returns k s t) :
    Ready t ∧ t.connected = false ∧ actions t.log = actions s.log ++ [.sleep 300] := by
  obtain ⟨turns, h⟩ := h
  have hrun : returning (EXERobot.close k) s = .ok (true, _) := run_bind_ok (close_run k hs)
  cases hrun.symm.trans h
  exact ⟨⟨hs.1, hs.2, hs.3, hs.4, hs.5⟩, rfl, by simp⟩

/-- The constructor: the port is opened, the analog pins are read, the servos zeroed. -/
def constructScript : List Action :=
  [.sleep 500, .sleep 2500, .send .readAnalog 100] ++ zeroServosScript

/-- A new object connects. -/
theorem connect_spec {link : L} {t : Robot L ρ} (h : connect k (new link) = .ok ((), t)) :
    Ready t ∧ t.connected = true ∧
      actions t.log = [.sleep 500, .sleep 2500, .send .readAnalog 100] := by
  rw [connect_new, refreshAnalogPins_of_connected k rfl] at h
  obtain ⟨-, rfl⟩ := Prod.mk.inj (Except.ok.inj h)
  exact ⟨⟨rfl, rfl, nofun, fun _ => rfl, fun _ => rfl⟩, rfl, by simp [opened]⟩

/-- **The constructor leaves an open connection and a ready object.** -/
theorem construct_spec {link : L} {t : Robot L ρ} (h : construct k (new link) = .ok ((), t)) :
    Ready t ∧ t.connected = true ∧ actions t.log = constructScript := by
  obtain ⟨_, s, hconnect, hzero⟩ := bind_eq_ok.1 h
  obtain ⟨hs, hopen, hlog⟩ := connect_spec k hconnect
  obtain ⟨ht, hopen', hlog'⟩ := Follows.zeroServos k hzero hs
  refine ⟨ht, hopen'.trans hopen, ?_⟩
  rw [hlog', hlog, hopen]
  rfl

end EXERobot
end ExeRobot
