/-
# The robot after `close`

A drive motor is left alone when the last command it was sent stops it or ends by
itself.  Whether `close` leaves both drive motors so is read off the calls made
before it (`parked_iff`).  `close` itself sends nothing, since it resets the motors
that `attachMotor` registered, and an `EXERobot` drives its motors through
`runTwoPCAMotor`, which registers none; so what counts is the last call that
reached the motors, and of those only `moveMotor(0)` orders a run without an end.
The loop of `motorRunIndefinitely` orders such runs too, but it returns through the
stop command.

The proof reads the scripts of `ExeRobot.Robot.OpScript`: `Op.leaves_of_script` says
what one call leaves, `leaves_run` what a run of calls leaves.
-/

import ExeRobot.Robot.OpScript
import ExeRobot.Robot.Returns

namespace ExeRobot

/-! ### The last drive command -/

/-- The order stops the motor, or ends by itself. -/
def Drive.limited (d : Drive) : Bool := d.speed = 0 || d.time.isSome

/-- The last drive command sent to the channel `ch`. -/
def lastDrive (ch : ℤ) (l : List Action) : Option Drive := (l.filterMap (Action.drive ch)).getLast?

/-- Whether the last drive command sent to `ch` is limited, if there is one. -/
def leaves (ch : ℤ) (l : List Action) : Option Bool := (lastDrive ch l).map Drive.limited

@[simp] theorem leaves_nil (ch : ℤ) : leaves ch [] = none := rfl

theorem leaves_append (ch : ℤ) (l l' : List Action) :
    leaves ch (l ++ l') = (leaves ch l').or (leaves ch l) := by
  simp [leaves, lastDrive, Option.map_or]

@[simp] theorem leaves_sleep (ch : ℤ) (ms : ℕ) (l : List Action) :
    leaves ch (.sleep ms :: l) = leaves ch l := rfl

/-- A loop none of whose turns sends a drive command. -/
theorem leaves_flatMap {ι : Type} {ch : ℤ} {g : ι → List Action} (h : ∀ i, leaves ch (g i) = none)
    (l : List ι) : leaves ch (l.flatMap g) = none := by
  induction l with
  | nil => rfl
  | cons i l ih => rw [List.flatMap_cons, leaves_append, h i, ih, Option.or_none]

/-- A loop all of whose turns leave the same. -/
theorem leaves_repeat {ch : ℤ} {g : List Action} {b : Bool} (h : leaves ch g = some b) (n : ℕ) :
    leaves ch ((List.range n).flatMap fun _ => g) = if 0 < n then some b else none := by
  cases n with
  | zero => rfl
  | succ n =>
    rw [List.range_succ, List.flatMap_append, leaves_append, List.flatMap_singleton, h,
      if_pos n.succ_pos, Option.some_or]

/-- Without a connection no drive command is sent. -/
theorem leaves_not_connected (ch : ℤ) (l : List Action) : leaves ch (performed false l) = none := by
  induction l with
  | nil => rfl
  | cons a l ih =>
    cases a with
    | send cmd wait => exact ih
    | sleep ms => exact ih

namespace EXERobot

open RXTXRobot

/-- The channels of the drive motors. -/
def driveMotors : List ℤ := [MOTOR_LEFT, MOTOR_RIGHT]

theorem mem_driveMotors {ch : ℤ} : ch ∈ driveMotors ↔ ch = MOTOR_LEFT ∨ ch = MOTOR_RIGHT := by
  simp [driveMotors]

/-- Neither drive motor is under a non-zero command without an end time. -/
def Parked (l : List Action) : Prop := ∀ ch ∈ driveMotors, ∀ d ∈ lastDrive ch l, d.limited = true

instance (l : List Action) : Decidable (Parked l) := by unfold Parked; infer_instance

theorem parked_iff_leaves (l : List Action) :
    Parked l ↔ ∀ ch ∈ driveMotors, leaves ch l ≠ some false := by
  refine forall₂_congr fun ch _ => ?_
  cases h : lastDrive ch l with
  | none => simp [leaves, h]
  | some d => simp [leaves, h]

/-! ### What one call leaves -/

/-- The call sends a drive command when the robot is connected. -/
def Op.drives : Op → Bool
  | .moveMotor time => 0 ≤ time && time ≤ 60000
  | .motorRunIndefinitely => true
  | .turnTen => true
  | .turnTenOpp => true
  | .turnNinety => true
  | .turnNinetyOpp => true
  | .turnTenMulti x => 0 < x
  | .turnFourtyFive => true
  | .turnFourtyFiveOpp => true
  | .stop => true
  | .yeetTheBridge => true
  | .quadrantOne => true
  | .quadrantTwo => true
  | .quadrantThree => true
  | .quadrantFour => true
  | _ => false

/-- The call is `moveMotor(0)`. -/
def Op.unlimited : Op → Bool
  | .moveMotor time => time = 0
  | _ => false

theorem Op.unlimited_iff (op : Op) : op.unlimited = true ↔ op = .moveMotor 0 := by
  cases op <;> simp [Op.unlimited]

section Scripts

variable {ch : ℤ}

@[simp] theorem leaves_servoScript (channel position : ℤ) :
    leaves ch (servoScript channel position) = none := by
  unfold servoScript
  split <;> rfl

@[simp] theorem leaves_timedServoScript (channel position duration : ℤ) :
    leaves ch (timedServoScript channel position duration) = none := by
  unfold timedServoScript
  split <;> rfl

@[simp] theorem leaves_zeroServosScript : leaves ch zeroServosScript = none := by
  simp [zeroServosScript, setMeasurementServoScript, leaves_append]

@[simp] theorem leaves_setMeasurementServoScript (angle : ℤ) :
    leaves ch (setMeasurementServoScript angle) = none := leaves_servoScript _ _

@[simp] theorem leaves_getTemperatureScript : leaves ch getTemperatureScript = none :=
  leaves_flatMap (fun _ => rfl) _

@[simp] theorem leaves_getPingScript : leaves ch getPingScript = none :=
  leaves_flatMap (fun _ => rfl) _

@[simp] theorem leaves_readIRCharScript : leaves ch readIRCharScript = none := rfl

@[simp] theorem leaves_getSlopeScript : leaves ch getSlopeScript = none := rfl

@[simp] theorem leaves_getConductivityScript : leaves ch getConductivityScript = none := rfl

@[simp] theorem leaves_getIRArrayScript : leaves ch getIRArrayScript = none := rfl

@[simp] theorem leaves_generateIRArrayMatrixScript : leaves ch generateIRArrayMatrixScript = none := by
  have hstep : ∀ index, leaves ch (sweepStepScript index) = none := fun index => by
    simp only [sweepStepScript, leaves_append, leaves_servoScript, leaves_getIRArrayScript]
    rfl
  simp [generateIRArrayMatrixScript, leaves_append, leaves_flatMap hstep]

@[simp] theorem leaves_angleRecievedScript : leaves ch angleRecievedScript = none := by
  refine leaves_flatMap (fun i => ?_) _
  simp only [leaves_append, leaves_servoScript, leaves_readIRCharScript]
  rfl

@[simp] theorem leaves_testTemperatureScript : leaves ch testTemperatureScript = none := by
  simp [testTemperatureScript, leaves_append]

@[simp] theorem leaves_testConductivityScript : leaves ch testConductivityScript = none := by
  simp [testConductivityScript, leaves_append]

/-- A drive command for a time, or one that stops both motors. -/
theorem leaves_driveScript (hch : ch ∈ driveMotors) {left right time : ℤ}
    (htime : 0 ≤ time ∧ time ≤ 60000) (hlimited : time ≠ 0 ∨ left = 0 ∧ right = 0) :
    leaves ch (driveScript left right time) = some true := by
  rw [driveScript, if_pos htime]
  unfold twoPCAMotorLine
  rcases hlimited with h | ⟨rfl, rfl⟩
  · rw [if_pos h]
    rcases mem_driveMotors.1 hch with rfl | rfl
    · simp [leaves, lastDrive, Action.drive, Command.drive, Drive.limited]
    · simp [leaves, lastDrive, Action.drive, Command.drive, Drive.limited, MOTOR_LEFT, MOTOR_RIGHT]
  · rcases mem_driveMotors.1 hch with rfl | rfl <;> split <;> rfl

theorem leaves_moveMotorScript (hch : ch ∈ driveMotors) (time : ℤ) :
    leaves ch (moveMotorScript time) =
      if 0 ≤ time ∧ time ≤ 60000 then some (decide (time ≠ 0)) else none := by
  by_cases htime : 0 ≤ time ∧ time ≤ 60000
  · rw [if_pos htime]
    rcases eq_or_ne time 0 with rfl | h
    · rcases mem_driveMotors.1 hch with rfl | rfl <;> rfl
    · rw [decide_eq_true h]
      exact leaves_driveScript hch htime (.inl h)
  · rw [if_neg htime, moveMotorScript, driveScript, if_neg htime, leaves_nil]

/-- A turn takes a positive time. -/
theorem leaves_turnScript (hch : ch ∈ driveMotors) (left right : ℤ) {time : ℤ}
    (htime : 0 < time ∧ time ≤ 60000) (wait : ℕ) :
    leaves ch (turnScript left right time wait) = some true := by
  rw [turnScript, leaves_append, leaves_sleep, leaves_nil, Option.none_or]
  exact leaves_driveScript hch ⟨htime.1.le, htime.2⟩ (.inl htime.1.ne')

theorem leaves_yeetTheBridgeScript (hch : ch ∈ driveMotors) :
    leaves ch yeetTheBridgeScript = some true := leaves_turnScript hch _ _ (by decide) _

/-- The loop returns through the stop command. -/
theorem leaves_bumpRun (hch : ch ∈ driveMotors) {b : Bool} {l : List Action} (h : BumpRun b l)
    (hb : b = true) : leaves ch l = some true := by
  induction h with
  | spent => cases hb
  | stopped =>
    rw [leaves_append, leaves_driveScript hch (by decide) (.inr ⟨rfl, rfl⟩), Option.some_or]
  | driven _ ih => rw [leaves_append, leaves_append, ih hb, Option.some_or, Option.some_or]

end Scripts

/-- **What a call leaves each drive motor with**: a command without an end when it
is `moveMotor(0)`, a limited one when it sends any other. -/
theorem Op.leaves_of_script {ch : ℤ} (hch : ch ∈ driveMotors) {op : Op} {l : List Action}
    (h : op.Script l) : leaves ch l = if op.drives then some (!op.unlimited) else none := by
  cases op with
  | moveMotor time =>
    cases h
    rw [leaves_moveMotorScript hch]
    simp [Op.drives, Op.unlimited]
  | motorRunIndefinitely => exact leaves_bumpRun hch h rfl
  | turnTen => cases h; exact leaves_turnScript hch _ _ (by decide) _
  | turnTenOpp => cases h; exact leaves_turnScript hch _ _ (by decide) _
  | turnNinety => cases h; exact leaves_turnScript hch _ _ (by decide) _
  | turnNinetyOpp => cases h; exact leaves_turnScript hch _ _ (by decide) _
  | turnFourtyFive => cases h; exact leaves_turnScript hch _ _ (by decide) _
  | turnFourtyFiveOpp => cases h; exact leaves_turnScript hch _ _ (by decide) _
  | yeetTheBridge => cases h; exact leaves_yeetTheBridgeScript hch
  | stop => cases h; exact leaves_driveScript hch (by decide) (.inr ⟨rfl, rfl⟩)
  | turnTenMulti x =>
    cases h
    have hten : leaves ch turnTenScript = some true := leaves_turnScript hch _ _ (by decide) _
    rw [leaves_repeat hten]
    simp [Op.drives, Op.unlimited]
  | quadrantOne =>
    cases h
    simp [quadrantOneScript, leaves_append, leaves_yeetTheBridgeScript hch, Op.drives, Op.unlimited]
  | quadrantTwo =>
    cases h
    simp [quadrantTwoScript, leaves_append, leaves_yeetTheBridgeScript hch, Op.drives, Op.unlimited]
  | quadrantThree =>
    cases h
    simp [quadrantThreeScript, leaves_append, leaves_moveMotorScript hch, Op.drives, Op.unlimited]
  | quadrantFour =>
    cases h
    simp [quadrantFourScript, leaves_append, leaves_yeetTheBridgeScript hch, Op.drives, Op.unlimited]
  | checkBump => cases h; rfl
  | conduction => cases h; rfl
  | _ =>
    cases h
    simp [Op.drives, leaves_append]

/-! ### What a run of calls leaves -/

/-- The last call before the first `close` that sends a drive command. -/
def lastDriver (ops : List Op) : Option Op :=
  ((ops.takeWhile fun op => !op.closes).filter Op.drives).getLast?

theorem lastDriver_closed {op : Op} (h : op.closes = true) (ops : List Op) :
    lastDriver (op :: ops) = none := by
  simp [lastDriver, h]

theorem lastDriver_cons {op : Op} (h : op.closes = false) (ops : List Op) :
    lastDriver (op :: ops) = (lastDriver ops).or (if op.drives then some op else none) := by
  cases hd : op.drives with
  | true => simp [lastDriver, h, hd, List.getLast?_cons, Option.or_some]
  | false => simp [lastDriver, h, hd]

variable {L ρ : Type} (k : Link L ρ)

/-- **A run of calls on a ready object** leaves each drive motor with what the last
driving call leaves; without a connection it leaves the motors as they were. -/
theorem leaves_run {ops : List Op} {s t : Robot L ρ} (h : RunOps k ops s t) (hs : Ready s) :
    Ready t ∧ ∀ ch ∈ driveMotors, leaves ch (actions t.log) =
      (if s.connected then (lastDriver ops).map (!·.unlimited) else none).or
        (leaves ch (actions s.log)) := by
  induction h with
  | nil s => exact ⟨hs, fun ch _ => by simp [lastDriver]⟩
  | @cons op ops s s' t first rest ih =>
    cases hop : op.closes with
    | true =>
      obtain rfl : op = .close := by cases op <;> first | rfl | cases hop
      obtain ⟨hs', hclosed, hlog⟩ := Op.closed k hs first
      obtain ⟨ht, hrest⟩ := ih hs'
      refine ⟨ht, fun ch hch => ?_⟩
      rw [hrest ch hch, hclosed, hlog, leaves_append, lastDriver_closed rfl]
      simp
    | false =>
      obtain ⟨l, hl, hrel⟩ := Op.scripted k hop first
      obtain ⟨hs', hc, hlog⟩ := hrel hs
      obtain ⟨ht, hrest⟩ := ih hs'
      refine ⟨ht, fun ch hch => ?_⟩
      rw [hrest ch hch, hc, hlog, leaves_append, lastDriver_cons hop]
      cases s.connected with
      | false => simp [leaves_not_connected]
      | true =>
        rw [performed_true, Op.leaves_of_script hch hl]
        cases op.drives <;> simp

/-- What the calls on a new object leave after `close`. -/
theorem leaves_closed {link : L} {ops : List Op} {s₀ s t : Robot L ρ}
    (hnew : construct k (new link) = .ok ((), s₀)) (hops : RunOps k ops s₀ s)
    (hclose : Op.close.Returns k s t) {ch : ℤ} (hch : ch ∈ driveMotors) :
    leaves ch (actions t.log) = (lastDriver ops).map (!·.unlimited) := by
  obtain ⟨hready, hopen, hlog⟩ := construct_spec k hnew
  obtain ⟨hs, hrun⟩ := leaves_run k hops hready
  obtain ⟨-, -, hend⟩ := Op.closed k hs hclose
  have hstart : leaves ch constructScript = none := by
    rw [constructScript, leaves_append, leaves_zeroServosScript]
    rfl
  rw [hend, leaves_append, hrun ch hch, hopen, hlog, hstart]
  simp

/-- **`close` leaves the drive motors alone exactly when the last driving call is
not `moveMotor(0)`.**  The calls are any calls on a new `EXERobot`, each of which
returns, and what answers at the other end of the port is arbitrary. -/
theorem parked_iff {link : L} {ops : List Op} {s₀ s t : Robot L ρ}
    (hnew : construct k (new link) = .ok ((), s₀)) (hops : RunOps k ops s₀ s)
    (hclose : Op.close.Returns k s t) :
    Parked (actions t.log) ↔ lastDriver ops ≠ some (.moveMotor 0) := by
  have hunlimited : (lastDriver ops).map (!·.unlimited) = some false ↔
      lastDriver ops = some (.moveMotor 0) := by
    cases lastDriver ops with
    | none => simp
    | some op => simp [Op.unlimited_iff]
  rw [parked_iff_leaves, Ne, ← hunlimited]
  constructor
  · intro h
    rw [← leaves_closed k hnew hops hclose (by decide : MOTOR_LEFT ∈ driveMotors)]
    exact h _ (by decide)
  · intro h ch hch
    rwa [leaves_closed k hnew hops hclose hch]

/-- Calls on a new object whose board never answers, and `close`. -/
theorem closed_silent (ops : List Op) (hops : ∀ op ∈ ops, op.loops = false) :
    ∃ s₀ s t : Robot Unit Unit, construct silent (new ()) = .ok ((), s₀) ∧
      RunOps silent ops s₀ s ∧ Op.close.Returns silent s t := by
  obtain ⟨s₀, s, hnew, hrun⟩ := runOps_silent ops hops
  have hs : Ready s := (leaves_run silent hrun (construct_spec silent hnew).1).1
  exact ⟨s₀, s, _, hnew, hrun, 0, Stateful.run_bind_ok (close_run silent hs)⟩

/-- A drive without an end, stopped before `close`. -/
theorem parked_iff_stopped : ∃ s₀ s t : Robot Unit Unit,
    construct silent (new ()) = .ok ((), s₀) ∧ RunOps silent [.moveMotor 0, .stop] s₀ s ∧
      Op.close.Returns silent s t ∧
      (Parked (actions t.log) ↔ lastDriver [.moveMotor 0, .stop] ≠ some (.moveMotor 0)) := by
  obtain ⟨s₀, s, t, hnew, hops, hclose⟩ := closed_silent [.moveMotor 0, .stop] (by simp [Op.loops])
  exact ⟨s₀, s, t, hnew, hops, hclose, parked_iff silent hnew hops hclose⟩

/-- `moveMotor(0)` and `close()`: the robot drives on. -/
theorem not_parked_moveMotor_zero : ∃ s₀ s t : Robot Unit Unit,
    construct silent (new ()) = .ok ((), s₀) ∧ RunOps silent [.moveMotor 0] s₀ s ∧
      Op.close.Returns silent s t ∧ ¬ Parked (actions t.log) := by
  obtain ⟨s₀, s, t, hnew, hops, hclose⟩ := closed_silent [.moveMotor 0] (by simp [Op.loops])
  refine ⟨s₀, s, t, hnew, hops, hclose, fun h => ?_⟩
  have hleft : MOTOR_LEFT ∈ driveMotors := by decide
  refine (parked_iff_leaves _).1 h _ hleft ?_
  rw [leaves_closed silent hnew hops hclose hleft]
  rfl

end EXERobot
end ExeRobot
