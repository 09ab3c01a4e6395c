/-
# Movements that are carried out in full

A timed drive command runs on the Arduino for its time, while the program goes on:
`runTwoPCAMotor` returns after the wait of `sendRaw`.  A drive command sent before
the time is over takes the place of the one that runs.  Nothing of that happens in a
list of actions with `NoOverlap`: between two drive commands the waits and the sleeps
add up to the time of the first.

Read from left to right, the property is a matter of one number, how long the motors
still run (`remaining`), and of every drive command finding them at rest (`Fits`,
`noOverlap_iff_fits`).  Most operations start and end at rest (`Rests`), since they
sleep for the time of their movement.  Three do not: `moveMotor` and the end of
`quadrantThree` leave a movement running, and in the middle of `quadrantOne` a drive
command follows another at once.  So a sequence of operations is carried out in full
exactly when `quadrantOne` does not occur in it, and nothing drives after an operation
that leaves a movement running (`noOverlap_iff`).
-/

import ExeRobot.Robot.Parking

namespace ExeRobot

/-! ### Drive commands in time -/

/-- The command sets the speed of motor channels. -/
def Command.isDrive : Command → Bool
  | .twoMotor .. => true
  | .twoMotorTimed .. => true
  | _ => false

/-- How long the motors run by a timed drive command, in milliseconds. -/
def Command.duration : Command → ℤ
  | .twoMotorTimed _ _ _ _ time => time
  | _ => 0

/-- How long an action takes, a command its own wait. -/
def Action.takes : Action → ℕ
  | .send _ wait => wait
  | .sleep ms => ms

/-- How long a stretch of a run takes. -/
def elapsed (l : List Action) : ℤ := (l.map fun a => (a.takes : ℤ)).sum

/-- **No drive command is sent while an earlier one still runs**: from the earlier
one to the later the waits add up to at least its duration. -/
def NoOverlap (l : List Action) : Prop :=
  ∀ pre cmd wait mid cmd' wait' post, l = pre ++ .send cmd wait :: (mid ++ .send cmd' wait' :: post) →
    cmd'.isDrive = true → cmd.duration ≤ elapsed (.send cmd wait :: mid)

/-! ### The time the motors still run -/

/-- How long the motors still run after an action, when they run for `busy` before
it; at rest when that is not positive. -/
def Action.leavesBusy (busy : ℤ) : Action → ℤ
  | .send cmd wait => max busy cmd.duration - wait
  | .sleep ms => busy - ms

/-- How long the motors still run after a stretch of a run. -/
def remaining (busy : ℤ) (l : List Action) : ℤ := l.foldl Action.leavesBusy busy

/-- A drive command is only sent to motors at rest. -/
def Action.fits (busy : ℤ) : Action → Prop
  | .send cmd _ => cmd.isDrive = true → busy ≤ 0
  | .sleep _ => True

/-- Every drive command of the stretch finds the motors at rest. -/
def Fits (busy : ℤ) : List Action → Prop
  | [] => True
  | a :: l => a.fits busy ∧ Fits (a.leavesBusy busy) l

@[simp] theorem remaining_nil (busy : ℤ) : remaining busy [] = busy := rfl

@[simp] theorem remaining_cons (busy : ℤ) (a : Action) (l : List Action) :
    remaining busy (a :: l) = remaining (a.leavesBusy busy) l := rfl

theorem remaining_append (busy : ℤ) (l l' : List Action) :
    remaining busy (l ++ l') = remaining (remaining busy l) l' := List.foldl_append

theorem fits_append (busy : ℤ) (l l' : List Action) :
    Fits busy (l ++ l') ↔ Fits busy l ∧ Fits (remaining busy l) l' := by
  induction l generalizing busy with
  | nil => simp [Fits]
  | cons a l ih => rw [List.cons_append, Fits, Fits, ih, remaining_cons, and_assoc]

/-- Every drive command of the stretch comes after `busy` milliseconds. -/
def StartsAfter (busy : ℤ) (l : List Action) : Prop :=
  ∀ pre cmd wait post, l = pre ++ .send cmd wait :: post → cmd.isDrive = true → busy ≤ elapsed pre

theorem startsAfter_cons (busy : ℤ) (a : Action) (l : List Action) :
    StartsAfter busy (a :: l) ↔ a.fits busy ∧ StartsAfter (busy - a.takes) l := by
  constructor
  · intro h
    constructor
    · cases a with
      | send cmd wait => exact fun hcmd => h [] cmd wait l rfl hcmd
      | sleep ms => trivial
    · intro pre cmd wait post hl hcmd
      have := h (a :: pre) cmd wait post (by rw [hl]; rfl) hcmd
      simp only [elapsed, List.map_cons, List.sum_cons] at this ⊢
      omega
  · rintro ⟨hfits, hlater⟩ pre cmd wait post hl hcmd
    rcases List.cons_eq_append_iff.1 hl with ⟨rfl, hpost⟩ | ⟨pre, rfl, hrest⟩
    · obtain ⟨rfl, -⟩ := List.cons.inj hpost
      exact hfits hcmd
    · have := hlater pre cmd wait post hrest hcmd
      simp only [elapsed, List.map_cons, List.sum_cons] at this ⊢
      omega

theorem elapsed_nonneg (l : List Action) : 0 ≤ elapsed l := by
  refine List.sum_nonneg fun t ht => ?_
  obtain ⟨a, -, rfl⟩ := List.mem_map.1 ht
  exact Int.natCast_nonneg _

theorem elapsed_cons (a : Action) (l : List Action) : elapsed (a :: l) = a.takes + elapsed l := rfl

/-- What the first action and what ran before it ask of the rest. -/
theorem startsAfter_leavesBusy (busy : ℤ) (a : Action) (l : List Action) :
    StartsAfter (a.leavesBusy busy) l ↔
      StartsAfter (busy - a.takes) l ∧ StartsAfter (a.leavesBusy 0) l := by
  constructor
  · intro h
    constructor
    · intro pre cmd wait post hl hcmd
      have hbusy := h pre cmd wait post hl hcmd
      cases a <;> simp only [Action.leavesBusy, Action.takes] at hbusy ⊢ <;> omega
    · intro pre cmd wait post hl hcmd
      have hbusy := h pre cmd wait post hl hcmd
      have hpre := elapsed_nonneg pre
      cases a <;> simp only [Action.leavesBusy] at hbusy ⊢ <;> omega
  · rintro ⟨hbefore, hfirst⟩ pre cmd wait post hl hcmd
    have hbusy := hbefore pre cmd wait post hl hcmd
    have hidle := hfirst pre cmd wait post hl hcmd
    cases a <;> simp only [Action.leavesBusy, Action.takes] at hbusy hidle ⊢ <;> omega

theorem noOverlap_cons (a : Action) (l : List Action) :
    NoOverlap (a :: l) ↔ StartsAfter (a.leavesBusy 0) l ∧ NoOverlap l := by
  constructor
  · intro h
    constructor
    · intro mid cmd' wait' post hl hcmd
      have hmid := elapsed_nonneg mid
      cases a with
      | send cmd wait =>
        have hdur := h [] cmd wait mid cmd' wait' post (by rw [hl]; rfl) hcmd
        simp only [elapsed_cons, Action.takes, Action.leavesBusy] at hdur ⊢
        omega
      | sleep ms =>
        simp only [Action.leavesBusy]
        omega
    · intro pre cmd wait mid cmd' wait' post hl
      exact h (a :: pre) cmd wait mid cmd' wait' post (by rw [hl]; rfl)
  · rintro ⟨hfirst, hrest⟩ pre cmd wait mid cmd' wait' post hl hcmd
    rcases List.cons_eq_append_iff.1 hl with ⟨rfl, hpost⟩ | ⟨pre, rfl, hl'⟩
    · obtain ⟨rfl, rfl⟩ := List.cons.inj hpost
      have hdur := hfirst mid cmd' wait' post rfl hcmd
      simp only [elapsed_cons, Action.takes, Action.leavesBusy] at hdur ⊢
      omega
    · exact hrest pre cmd wait mid cmd' wait' post hl' hcmd

/-- The stretch fits after `busy` milliseconds exactly when nothing in it overlaps
and its drive commands come after that time. -/
theorem fits_iff (busy : ℤ) (l : List Action) : Fits busy l ↔ StartsAfter busy l ∧ NoOverlap l := by
  induction l generalizing busy with
  | nil =>
    refine iff_of_true trivial ⟨fun pre cmd wait post hl => ?_,
      fun pre cmd wait mid cmd' wait' post hl => ?_⟩
    · simp at hl
    · simp at hl
  | cons a l ih =>
    rw [Fits, ih, startsAfter_cons, noOverlap_cons, startsAfter_leavesBusy]
    tauto

/-- **From rest, a run fits exactly when nothing in it overlaps.** -/
theorem noOverlap_iff_fits (l : List Action) : NoOverlap l ↔ Fits 0 l := by
  rw [fits_iff]
  refine (and_iff_right fun pre cmd wait post _ _ => ?_).symm
  exact elapsed_nonneg pre

/-! ### Stretches that start and end at rest -/

/-- A stretch that fits when the motors are at rest, and leaves them at rest. -/
def Rests (l : List Action) : Prop := ∀ busy ≤ 0, Fits busy l ∧ remaining busy l ≤ 0

theorem Rests.append {l l' : List Action} (h : Rests l) (h' : Rests l') : Rests (l ++ l') := by
  intro busy hbusy
  obtain ⟨hfits, hrest⟩ := h busy hbusy
  obtain ⟨hfits', hrest'⟩ := h' _ hrest
  rw [fits_append, remaining_append]
  exact ⟨⟨hfits, hfits'⟩, hrest'⟩

theorem rests_nil : Rests [] := fun _ h => ⟨trivial, h⟩

theorem rests_flatMap {ι : Type} {g : ι → List Action} (h : ∀ i, Rests (g i)) (l : List ι) :
    Rests (l.flatMap g) := by
  induction l with
  | nil => exact rests_nil
  | cons i l ih => exact (h i).append ih

theorem rests_sleep (ms : ℕ) : Rests [.sleep ms] := fun busy h => by
  refine ⟨⟨trivial, trivial⟩, ?_⟩
  show busy - (ms : ℤ) ≤ 0
  omega

/-- A command whose wait covers the time the motors run by it. -/
theorem rests_send (cmd : Command) {wait : ℕ} (h : cmd.duration ≤ wait) : Rests [.send cmd wait] :=
  fun busy hbusy => by
    refine ⟨⟨fun _ => hbusy, trivial⟩, ?_⟩
    show max busy cmd.duration - wait ≤ 0
    omega

namespace EXERobot

open RXTXRobot

/-! ### The operations -/

/-- The stretch begins with a drive command. -/
def StartsDrive (l : List Action) : Prop := ∃ cmd wait rest, l = .send cmd wait :: rest ∧ cmd.isDrive = true

theorem StartsDrive.append {l : List Action} (h : StartsDrive l) (l' : List Action) :
    StartsDrive (l ++ l') := by
  obtain ⟨cmd, wait, rest, rfl, hcmd⟩ := h
  exact ⟨cmd, wait, rest ++ l', rfl, hcmd⟩

theorem StartsDrive.idle {l : List Action} (h : StartsDrive l) {busy : ℤ} (hfits : Fits busy l) :
    busy ≤ 0 := by
  obtain ⟨cmd, wait, rest, rfl, hcmd⟩ := h
  exact hfits.1 hcmd

theorem driveScript_timed {left right time : ℤ} (htime : 0 < time ∧ time ≤ 60000) :
    driveScript left right time =
      [.send (.twoMotorTimed MOTOR_LEFT left MOTOR_RIGHT right time) 100] := by
  rw [driveScript, if_pos ⟨htime.1.le, htime.2⟩, twoPCAMotorLine, if_pos htime.1.ne']

theorem startsDrive_driveScript {left right time : ℤ} (htime : 0 < time ∧ time ≤ 60000) :
    StartsDrive (driveScript left right time) := by
  rw [driveScript_timed htime]
  exact ⟨_, _, _, rfl, rfl⟩

/-- A movement on its own, from rest. -/
theorem driveScript_busy (left right : ℤ) {time busy : ℤ} (htime : 0 < time ∧ time ≤ 60000)
    (hbusy : busy ≤ 0) :
    Fits busy (driveScript left right time) ∧
      remaining busy (driveScript left right time) = time - 100 := by
  rw [driveScript_timed htime]
  refine ⟨⟨fun _ => hbusy, trivial⟩, ?_⟩
  show max busy time - (100 : ℕ) = time - 100
  omega

/-- A movement followed by a sleep that covers it. -/
theorem rests_turnScript (left right : ℤ) {time : ℤ} {wait : ℕ} (htime : 0 < time ∧ time ≤ 60000)
    (hwait : time ≤ 100 + wait) : Rests (turnScript left right time wait) := by
  intro busy hbusy
  obtain ⟨hfits, hbusy'⟩ := driveScript_busy left right htime hbusy
  unfold turnScript
  rw [fits_append, remaining_append, hbusy']
  refine ⟨⟨hfits, trivial, trivial⟩, ?_⟩
  show time - 100 - (wait : ℤ) ≤ 0
  omega

theorem rests_servoScript (channel position : ℤ) : Rests (servoScript channel position) := by
  unfold servoScript
  split
  · exact rests_send _ (Int.natCast_nonneg 100)
  · exact rests_nil

theorem rests_timedServoScript (channel position duration : ℤ) :
    Rests (timedServoScript channel position duration) := by
  unfold timedServoScript
  split
  · exact rests_send _ (Int.natCast_nonneg 100)
  · exact rests_nil

theorem rests_zeroServosScript : Rests zeroServosScript :=
  (rests_servoScript _ _).append (rests_timedServoScript _ _ _)

theorem rests_getSlopeScript : Rests getSlopeScript :=
  (rests_sleep 1000).append ((rests_send .readAnalog (by decide)).append (rests_sleep 1000))

theorem rests_testConductivityScript : Rests testConductivityScript := by
  have hconductivity : Rests getConductivityScript :=
    (rests_sleep 1000).append ((rests_send _ (by decide)).append (rests_send _ (by decide)))
  refine rests_zeroServosScript.append ((rests_servoScript _ _).append ?_)
  refine (rests_sleep 1000).append ((rests_sleep 5000).append ?_)
  exact hconductivity.append ((rests_sleep 1000).append (rests_servoScript _ _))

theorem rests_yeetTheBridgeScript : Rests yeetTheBridgeScript :=
  rests_turnScript _ _ (by decide) (by decide)

theorem rests_turnTenScript : Rests turnTenScript := rests_turnScript _ _ (by decide) (by decide)

theorem rests_turnNinetyScript : Rests turnNinetyScript := rests_turnScript _ _ (by decide) (by decide)

theorem rests_turnNinetyOppScript : Rests turnNinetyOppScript :=
  rests_turnScript _ _ (by decide) (by decide)

theorem rests_turnFourtyFiveScript : Rests turnFourtyFiveScript :=
  rests_turnScript _ _ (by decide) (by decide)

theorem startsDrive_turnScript (left right : ℤ) {time : ℤ} (htime : 0 < time ∧ time ≤ 60000)
    (wait : ℕ) :
    StartsDrive (turnScript left right time wait) :=
  (startsDrive_driveScript htime).append _

theorem startsDrive_yeetTheBridgeScript : StartsDrive yeetTheBridgeScript :=
  startsDrive_turnScript _ _ (by decide) _

/-- The operations that move the robot, with a time for `moveMotor` that ends. -/
def Op.Moves : Op → Prop
  | .moveMotor time => 1 ≤ time ∧ time ≤ 60000
  | .turnTen => True
  | .turnTenOpp => True
  | .turnTenMulti _ => True
  | .turnFourtyFive => True
  | .turnFourtyFiveOpp => True
  | .turnNinety => True
  | .turnNinetyOpp => True
  | .yeetTheBridge => True
  | .quadrantOne => True
  | .quadrantTwo => True
  | .quadrantThree => True
  | .quadrantFour => True
  | _ => False

/-- The operation returns while a movement it has ordered is still running. -/
def Op.leavesRunning : Op → Bool
  | .moveMotor time => 100 < time
  | .quadrantThree => true
  | _ => false

/-- What an operation that drives does to the motors: it fits when they are at rest,
but for `quadrantOne`, and leaves them running or not. -/
structure Op.Timed (op : Op) (l : List Action) : Prop where
  drives : op.drives = true
  fits : ∀ busy, Fits busy l ↔ busy ≤ 0 ∧ op ≠ .quadrantOne
  leaves : ∀ busy ≤ 0, op ≠ .quadrantOne → (0 < remaining busy l ↔ op.leavesRunning = true)

/-- An operation that starts and ends at rest. -/
theorem Op.Timed.of_rests {op : Op} {l : List Action} (hdrives : op.drives = true)
    (hone : op ≠ .quadrantOne) (hend : op.leavesRunning = false) (hl : Rests l)
    (hstart : StartsDrive l) :
    op.Timed l where
  drives := hdrives
  fits busy := ⟨fun h => ⟨hstart.idle h, hone⟩, fun h => (hl busy h.1).1⟩
  leaves busy hbusy _ := by
    have := (hl busy hbusy).2
    rw [hend]
    exact iff_of_false (by omega) Bool.false_ne_true

/-- A movement with a sleep that covers it. -/
theorem Op.Timed.of_turn {op : Op} {left right time : ℤ} {wait : ℕ} (hdrives : op.drives = true)
    (hone : op ≠ .quadrantOne) (hend : op.leavesRunning = false) (htime : 0 < time ∧ time ≤ 60000)
    (hwait : time ≤ 100 + wait) : op.Timed (turnScript left right time wait) :=
  .of_rests hdrives hone hend (rests_turnScript _ _ htime hwait) (startsDrive_turnScript _ _ htime _)

/-- An operation that ends with a movement. -/
theorem Op.Timed.of_move {op : Op} {l : List Action} {time : ℤ} (hdrives : op.drives = true)
    (hone : op ≠ .quadrantOne) (hend : op.leavesRunning = decide (100 < time))
    (htime : 0 < time ∧ time ≤ 60000) (hl : Rests l)
    (hstart : StartsDrive (l ++ moveMotorScript time)) :
    op.Timed (l ++ moveMotorScript time) where
  drives := hdrives
  fits busy := by
    refine ⟨fun h => ⟨hstart.idle h, hone⟩, fun h => ?_⟩
    obtain ⟨hfits, hrest⟩ := hl busy h.1
    exact (fits_append _ _ _).2 ⟨hfits, (driveScript_busy _ _ htime hrest).1⟩
  leaves busy hbusy _ := by
    obtain ⟨-, hrest⟩ := hl busy hbusy
    rw [remaining_append, moveMotorScript, (driveScript_busy _ _ htime hrest).2, hend,
      decide_eq_true_iff]
    omega

/-- In `quadrantOne` a drive command is sent 100 ms after one that runs for 2000 ms. -/
theorem not_fits_quadrantOneScript (busy : ℤ) : ¬ Fits busy quadrantOneScript := by
  have hbefore : Rests (yeetTheBridgeScript ++ (turnFourtyFiveScript ++ (yeetTheBridgeScript ++
      turnNinetyScript))) :=
    rests_yeetTheBridgeScript.append (rests_turnFourtyFiveScript.append
      (rests_yeetTheBridgeScript.append rests_turnNinetyScript))
  intro h
  have hbusy : busy ≤ 0 := (startsDrive_yeetTheBridgeScript.append _).idle h
  have hshape : quadrantOneScript = (yeetTheBridgeScript ++ (turnFourtyFiveScript ++ (yeetTheBridgeScript ++
      turnNinetyScript))) ++ (moveMotorScript 2000 ++ (moveMotorScript 1000 ++ ([.sleep 1500] ++
        (turnNinetyOppScript ++ (turnTenOppScript ++ (turnTenOppScript ++ (turnTenOppScript ++
          (yeetTheBridgeScript ++ ([.sleep 1000] ++ (testTemperatureScript ++ getSlopeScript)))))))))) := by
    simp only [quadrantOneScript, List.append_assoc]
  rw [hshape] at h
  have hrest := ((fits_append _ _ _).1 h).2
  have hsecond := ((fits_append _ _ _).1 hrest).2
  rw [moveMotorScript, (driveScript_busy _ _ (by decide) (hbefore busy hbusy).2).2] at hsecond
  have hidle := ((startsDrive_driveScript (by decide)).append _).idle hsecond
  omega

/-- **What each movement does to the motors.**  A call of `turnTenMulti` without a turn
does nothing. -/
theorem Op.timing {op : Op} {l : List Action} (hop : op.Moves) (h : op.Script l) :
    op.Timed l ∨ (op.drives = false ∧ l = []) := by
  cases op with
  | moveMotor time =>
    cases h
    have htime : 0 < time ∧ time ≤ 60000 := ⟨by have := hop.1; omega, hop.2⟩
    refine .inl (Op.Timed.of_move (l := []) ?_ (by simp) rfl htime rests_nil ?_)
    · simp only [Op.drives, Bool.and_eq_true, decide_eq_true_iff]
      omega
    · exact startsDrive_driveScript htime
  | turnTenMulti x =>
    cases h
    rcases Nat.eq_zero_or_pos x.toNat with hx | hx
    · refine .inr ⟨?_, by rw [hx]; rfl⟩
      simp only [Op.drives, decide_eq_false_iff_not]
      omega
    · refine .inl (.of_rests ?_ (by simp) rfl (rests_flatMap (fun _ => rests_turnTenScript) _) ?_)
      · simp only [Op.drives, decide_eq_true_iff]
        omega
      · obtain ⟨n, hn⟩ := Nat.exists_eq_add_of_lt hx
        rw [hn, List.range_succ_eq_map, List.flatMap_cons]
        exact (startsDrive_turnScript _ _ (by decide) _).append _
  | turnTen | turnTenOpp | turnFourtyFive | turnFourtyFiveOpp | turnNinety | turnNinetyOpp
  | yeetTheBridge =>
    cases h
    exact .inl (.of_turn rfl (by simp) rfl (by decide) (by decide))
  | quadrantOne =>
    cases h
    refine .inl ⟨rfl, fun busy => ?_, fun busy _ hone => absurd rfl hone⟩
    exact iff_of_false (not_fits_quadrantOneScript busy) fun h => h.2 rfl
  | quadrantTwo =>
    cases h
    refine .inl (.of_rests rfl (by simp) rfl ?_ (startsDrive_yeetTheBridgeScript.append _))
    refine rests_yeetTheBridgeScript.append (rests_turnNinetyOppScript.append ?_)
    refine rests_turnTenScript.append (rests_yeetTheBridgeScript.append ?_)
    exact rests_testConductivityScript.append rests_getSlopeScript
  | quadrantThree =>
    cases h
    have hwhole : quadrantThreeScript = (yeetTheBridgeScript ++ (turnNinetyScript ++
        (turnScript MOTORLEFTCONSTANT MOTORRIGHTCONSTANT 3000 3500 ++ (turnNinetyOppScript ++
          (yeetTheBridgeScript ++ (yeetTheBridgeScript ++
            (turnScript MOTORLEFTCONSTANT MOTORRIGHTCONSTANT 1000 1000 ++
              ([.send .readAnalog 100] ++ [.sleep 1000])))))))) ++ moveMotorScript 1000 := by
      simp only [quadrantThreeScript, moveMotorScript, turnScript, getSlopeScript, List.append_assoc,
        List.cons_append, List.nil_append]
    rw [hwhole]
    refine .inl (.of_move rfl (by simp) rfl (by decide) ?_
      ((startsDrive_yeetTheBridgeScript.append _).append _))
    refine rests_yeetTheBridgeScript.append (rests_turnNinetyScript.append ?_)
    refine (rests_turnScript _ _ (by decide) (by decide)).append (rests_turnNinetyOppScript.append ?_)
    refine rests_yeetTheBridgeScript.append (rests_yeetTheBridgeScript.append ?_)
    refine (rests_turnScript _ _ (by decide) (by decide)).append ?_
    exact (rests_send _ (by decide)).append (rests_sleep 1000)
  | quadrantFour =>
    cases h
    refine .inl (.of_rests rfl (by simp) rfl ?_ (startsDrive_yeetTheBridgeScript.append _))
    refine rests_yeetTheBridgeScript.append (rests_turnNinetyOppScript.append ?_)
    refine rests_turnTenScript.append (rests_yeetTheBridgeScript.append ?_)
    exact rests_yeetTheBridgeScript.append (rests_yeetTheBridgeScript.append rests_getSlopeScript)
  | _ => exact hop.elim

/-! ### Sequences of operations -/

/-- `quadrantOne` does not occur, and nothing drives after an operation that leaves a
movement running. -/
def CarriedOut (ops : List Op) : Prop :=
  .quadrantOne ∉ ops ∧ ops.Pairwise fun op op' => op.leavesRunning = true → op'.drives = false

theorem carriedOut_cons (op : Op) (ops : List Op) :
    CarriedOut (op :: ops) ↔ op ≠ .quadrantOne ∧
      (op.leavesRunning = true → ∀ op' ∈ ops, op'.drives = false) ∧ CarriedOut ops := by
  unfold CarriedOut
  rw [List.mem_cons, List.pairwise_cons, not_or, ne_comm]
  constructor
  · rintro ⟨⟨hone, hops⟩, hrun, hrest⟩
    exact ⟨hone, fun h op' hop' => hrun op' hop' h, hops, hrest⟩
  · rintro ⟨hone, hrun, hops, hrest⟩
    exact ⟨⟨hone, hops⟩, fun op' hop' h => hrun h op' hop', hrest⟩

theorem Op.not_leavesRunning_of_not_drives {op : Op} (hop : op.Moves) (h : op.drives = false) :
    op.leavesRunning = false ∧ op ≠ .quadrantOne := by
  cases op with
  | turnTenMulti x => exact ⟨rfl, nofun⟩
  | moveMotor time =>
    have := hop.1
    have := hop.2
    simp only [Op.drives, Bool.and_eq_false_iff, decide_eq_false_iff_not] at h
    omega
  | _ => first | exact hop.elim | cases h

variable {L ρ : Type} (k : Link L ρ)

/-- **A run of movements over an open connection**, started while the motors still run
for `busy` milliseconds. -/
theorem fits_run {ops : List Op} {s t : Robot L ρ} (h : RunOps k ops s t) (hs : Ready s)
    (hopen : s.connected = true) (hops : ∀ op ∈ ops, op.Moves) :
    ∃ l, actions t.log = actions s.log ++ l ∧ ∀ busy,
      Fits busy l ↔ CarriedOut ops ∧ (0 < busy → ∀ op ∈ ops, op.drives = false) := by
  induction h with
  | nil s =>
    refine ⟨[], (List.append_nil _).symm, fun busy => ?_⟩
    refine iff_of_true trivial ⟨⟨List.not_mem_nil, .nil⟩, ?_⟩
    exact fun _ op hop => absurd hop List.not_mem_nil
  | @cons op ops s s' t first rest ih =>
    have hop := hops op (List.mem_cons_self ..)
    have hclose : op.closes = false := by cases op <;> first | rfl | exact hop.elim
    obtain ⟨l, hl, hrel⟩ := Op.scripted k hclose first
    obtain ⟨hs', hopen', hlog⟩ := hrel hs
    obtain ⟨l', hlog', hfits⟩ :=
      ih hs' (hopen'.trans hopen) fun op' hop' => hops op' (List.mem_cons_of_mem _ hop')
    refine ⟨l ++ l', by rw [hlog', hlog, hopen, performed_true, List.append_assoc], fun busy => ?_⟩
    rw [fits_append, hfits, carriedOut_cons, List.forall_mem_cons]
    rcases Op.timing hop hl with htimed | ⟨hdrives, rfl⟩
    · rw [htimed.fits, htimed.drives]
      constructor
      · rintro ⟨⟨hbusy, hone⟩, hrest, hlater⟩
        exact ⟨⟨hone, fun hrun => hlater ((htimed.leaves busy hbusy hone).2 hrun), hrest⟩,
          fun hpos => absurd hpos (by omega)⟩
      · rintro ⟨⟨hone, hrun, hrest⟩, hlater⟩
        have hbusy : busy ≤ 0 := by
          by_contra hpos
          exact Bool.true_eq_false.mp (hlater (by omega)).1
        exact ⟨⟨hbusy, hone⟩, hrest, fun hpos => hrun ((htimed.leaves busy hbusy hone).1 hpos)⟩
    · obtain ⟨hrun, hone⟩ := Op.not_leavesRunning_of_not_drives hop hdrives
      rw [hdrives, hrun]
      constructor
      · rintro ⟨-, hrest, hlater⟩
        exact ⟨⟨hone, nofun, hrest⟩, fun hpos => ⟨rfl, hlater hpos⟩⟩
      · rintro ⟨⟨-, -, hrest⟩, hlater⟩
        exact ⟨trivial, hrest, fun hpos => (hlater hpos).2⟩

theorem rests_constructScript : Rests constructScript := by
  have hconnect : Rests [.sleep 500, .sleep 2500, .send .readAnalog 100] :=
    (rests_sleep 500).append ((rests_sleep 2500).append (rests_send _ (by decide)))
  exact hconnect.append rests_zeroServosScript

/-- **Every movement is carried out in full exactly when `quadrantOne` does not occur
and nothing drives after an operation that leaves a movement running.**  The calls are
any movements on a new `EXERobot`, and what answers at the other end of the port is
arbitrary. -/
theorem noOverlap_iff {link : L} {ops : List Op} {s t : Robot L ρ}
    (hnew : construct k (new link) = .ok ((), s)) (hops : RunOps k ops s t)
    (hmoves : ∀ op ∈ ops, op.Moves) : NoOverlap (actions t.log) ↔ CarriedOut ops := by
  obtain ⟨hready, hopen, hlog⟩ := construct_spec k hnew
  obtain ⟨l, hrun, hfits⟩ := fits_run k hops hready hopen hmoves
  obtain ⟨hstart, hrest⟩ := rests_constructScript 0 le_rfl
  rw [hrun, hlog, noOverlap_iff_fits, fits_append, hfits]
  constructor
  · rintro ⟨-, h, -⟩
    exact h
  · intro h
    exact ⟨hstart, h, fun hpos => absurd hpos (by omega)⟩

/-- A route, three small turns and a last movement. -/
theorem noOverlap_iff_route : ∃ s t : Robot Unit Unit,
    construct silent (new ()) = .ok ((), s) ∧
      RunOps silent [.quadrantTwo, .turnTenMulti 3, .moveMotor 3000] s t ∧
      (NoOverlap (actions t.log) ↔ CarriedOut [.quadrantTwo, .turnTenMulti 3, .moveMotor 3000]) := by
  obtain ⟨s, t, hnew, hrun⟩ := runOps_silent [.quadrantTwo, .turnTenMulti 3, .moveMotor 3000]
    (by simp [Op.loops])
  exact ⟨s, t, hnew, hrun, noOverlap_iff silent hnew hrun (by simp [Op.Moves])⟩

/-- `quadrantOne` alone: the movement of two seconds is cut short by the next. -/
theorem not_noOverlap_quadrantOne : ∃ s t : Robot Unit Unit,
    construct silent (new ()) = .ok ((), s) ∧ RunOps silent [.quadrantOne] s t ∧
      ¬ NoOverlap (actions t.log) := by
  obtain ⟨s, t, hnew, hrun⟩ := runOps_silent [.quadrantOne] (by simp [Op.loops])
  refine ⟨s, t, hnew, hrun, fun h => ?_⟩
  obtain ⟨hready, hopen, hlog⟩ := construct_spec silent hnew
  obtain ⟨l, hlog', hfits⟩ := fits_run silent hrun hready hopen (by simp [Op.Moves])
  rw [hlog', noOverlap_iff_fits, fits_append, hfits] at h
  exact h.2.1.1 (List.mem_singleton_self _)

end EXERobot
end ExeRobot
