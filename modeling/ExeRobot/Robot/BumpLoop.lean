/-
# Driving until the bump sensor is hit

`motorRunIndefinitely` polls the bump sensor and, while it is not triggered, sends
a drive command without an end; when it is, it sends the stop command and returns.
What the loop should do is stated on the commands it sends, each with the reply it
read (`DrivesOnRelaxed`, `StopsOnTriggered`): it drives only right after a poll that
was parsed and showed the sensor relaxed, and after a poll that showed it triggered
it stops, and sends nothing more.

A refresh that fails fills the cache with `-1`, or leaves `-1` in the entries it did
not reach, and `checkBump` compares the entry with `0` alone.  So the loop drives
after every poll that does not show the sensor triggered, a lost or a broken reply
included, and it does what it should exactly when no such poll occurs
(`safeRun_iff`).

The replies to the successive polls are arbitrary: the board of `answering` takes
them from a sequence.
-/

import ExeRobot.Robot.EXERobot

namespace ExeRobot

/-! ### The commands of a run -/

/-- The command of an event, with the reply. -/
def Event.send {ρ : Type} : Event ρ → Option (Command × ρ)
  | .sent cmd _ reply => some (cmd, reply)
  | _ => none

/-- The commands sent, each with the reply it read. -/
def sends {ρ : Type} (log : List (Event ρ)) : List (Command × ρ) := log.filterMap Event.send

@[simp] theorem sends_append {ρ : Type} (l l' : List (Event ρ)) :
    sends (l ++ l') = sends l ++ sends l' :=
  List.filterMap_append

@[simp] theorem sends_map_error {ρ : Type} (es : List ApiError) :
    sends (es.map (Event.error : ApiError → Event ρ)) = [] := by
  induction es with
  | nil => rfl
  | cons e es ih => exact ih

/-- The command makes a drive motor turn. -/
def Command.turnsMotor : Command → Bool
  | .twoMotor _ speed1 _ speed2 => speed1 ≠ 0 || speed2 ≠ 0
  | .twoMotorTimed _ speed1 _ speed2 _ => speed1 ≠ 0 || speed2 ≠ 0
  | .attachedMotor _ speed _ => speed ≠ 0
  | _ => false

namespace EXERobot

open Stateful RXTXRobot

/-! ### What a poll shows -/

/-- The bump sensor's entry of the cache after a poll answered by `reply`. -/
def bumpShown (pins : List ℤ) (reply : JString) : Option ℤ :=
  (digitalValues pins.length reply).1[pins.idxOf BUMP_SENSOR]?

/-- The poll shows the bump sensor triggered. -/
def Triggered (pins : List ℤ) (reply : JString) : Prop :=
  bumpShown pins reply = some BUMP_SENSOR_TRIGGERED

/-- The reply was received and parsed, and shows the bump sensor relaxed. -/
def Relaxed (pins : List ℤ) (reply : JString) : Prop :=
  (digitalValues pins.length reply).2 = none ∧ bumpShown pins reply = some BUMP_SENSOR_RELAXED

instance (pins : List ℤ) (reply : JString) : Decidable (Triggered pins reply) :=
  inferInstanceAs (Decidable (_ = _))

instance (pins : List ℤ) (reply : JString) : Decidable (Relaxed pins reply) :=
  inferInstanceAs (Decidable (_ ∧ _))

/-! ### What the loop should do -/

/-- A command that makes a motor turn comes right after a poll that showed the sensor relaxed. -/
def DrivesOnRelaxed (pins : List ℤ) (l : List (Command × JString)) : Prop :=
  ∀ pre cmd reply post, l = pre ++ (cmd, reply) :: post → cmd.turnsMotor = true →
    ∃ pre' shown, pre = pre' ++ [(.readDigital, shown)] ∧ Relaxed pins shown

/-- The command that stops both motors. -/
def stopCommand : Command := .twoMotor MOTOR_LEFT 0 MOTOR_RIGHT 0

/-- After a poll that showed the sensor triggered there is the stop command and no
other, and the loop has returned. -/
def StopsOnTriggered (pins : List ℤ) (l : List (Command × JString)) (returned : Bool) : Prop :=
  ∀ pre shown post, l = pre ++ (.readDigital, shown) :: post → Triggered pins shown →
    (∃ reply, post = [(stopCommand, reply)]) ∧ returned = true

/-- What the loop should do in every run. -/
structure SafeRun (pins : List ℤ) (l : List (Command × JString)) (returned : Bool) : Prop where
  drives : DrivesOnRelaxed pins l
  stops : StopsOnTriggered pins l returned

/-! ### What the loop does -/

/-- A board that answers the successive polls by `replies`, from `link` on. -/
def answering (replies : ℕ → JString) : Link ℕ JString where
  text := id
  sendRaw := fun _ cmd _ n => if cmd = .readDigital then (replies n, n + 1) else ([], n)
  sleep := fun _ n => n

/-- The commands of at most `turns` turns, the next poll being the `m`-th. -/
def loopSends (pins : List ℤ) (replies : ℕ → JString) : ℕ → ℕ → List (Command × JString)
  | 0, _ => []
  | turns + 1, m =>
      if Triggered pins (replies m) then [(.readDigital, replies m), (stopCommand, [])]
      else (.readDigital, replies m) ::
        (.twoMotor MOTOR_LEFT MOTORLEFTCONSTANT MOTOR_RIGHT MOTORRIGHTCONSTANT, []) ::
          loopSends pins replies turns (m + 1)

/-- Whether they end with a return. -/
def loopReturns (pins : List ℤ) (replies : ℕ → JString) : ℕ → ℕ → Bool
  | 0, _ => false
  | turns + 1, m => decide (Triggered pins (replies m)) || loopReturns pins replies turns (m + 1)

variable {pins : List ℤ} (replies : ℕ → JString)

/-- The object between two turns, `m` polls having been answered. -/
structure Polling (pins : List ℤ) (m : ℕ) (s : Robot ℕ JString) : Prop where
  connected : s.connected = true
  pins : s.digitalPinsAvailable = pins
  link : s.link = m

/-- **A poll**, over any connection: the command, the errors of the refresh, and the
entry that is compared. -/
theorem checkBump_of_connected {L ρ : Type} (k : Link L ρ) {s : Robot L ρ} (hs : s.connected = true)
    (hpin : BUMP_SENSOR ∈ s.digitalPinsAvailable) :
    let answer := k.sendRaw true .readDigital 100 s.link
    ∃ t v errors, checkBump k s = .ok (decide (v = BUMP_SENSOR_TRIGGERED), t) ∧
      bumpShown s.digitalPinsAvailable (k.text answer.1) = some v ∧ t.connected = true ∧
      t.digitalPinsAvailable = s.digitalPinsAvailable ∧ t.link = answer.2 ∧
      t.log = s.log ++ .sent .readDigital 100 answer.1 ::
        (List.map Event.error errors ++ [.pinRead BUMP_SENSOR v]) := by
  intro answer
  have hcache : s.digitalPinsAvailable.idxOf BUMP_SENSOR <
      (digitalValues s.digitalPinsAvailable.length (k.text answer.1)).1.length := by
    rw [length_digitalValues]
    exact List.idxOf_lt_length_iff.2 hpin
  obtain ⟨s', errors, hrefresh, hpins, hfilled, hc, hl, hlog⟩ : ∃ s' errors,
      refreshDigitalPins k s = .ok ((), s') ∧ s'.digitalPinsAvailable = s.digitalPinsAvailable ∧
      s'.digitalPinCache = some (digitalValues s.digitalPinsAvailable.length (k.text answer.1)).1 ∧
      s'.connected = true ∧ s'.link = answer.2 ∧
      s'.log = s.log ++ .sent .readDigital 100 answer.1 :: List.map Event.error errors :=
    ⟨_, _, refreshDigitalPins_of_connected k hs, rfl, rfl, hs, rfl, rfl⟩
  have hread := getDigitalPin_run k hfilled BUMP_SENSOR
  rw [hpins, pinValue_run hpin hcache s'] at hread
  obtain ⟨v, hv⟩ : ∃ v, (digitalValues s.digitalPinsAvailable.length (k.text answer.1)).1[
      s.digitalPinsAvailable.idxOf BUMP_SENSOR] = v := ⟨_, rfl⟩
  rw [hv] at hread
  refine ⟨{ s' with log := s'.log ++ [.pinRead BUMP_SENSOR v] }, v, errors, ?_, ?_, hc, hpins, hl, ?_⟩
  · unfold checkBump
    rw [run_bind_ok hrefresh, run_bind_ok hread]
    rfl
  · rw [← hv]
    exact List.getElem?_eq_getElem hcache
  · show s'.log ++ _ = _
    rw [hlog, List.append_assoc, List.cons_append]

/-- A poll answered from the sequence. -/
theorem checkBump_run (hpin : BUMP_SENSOR ∈ pins) {m : ℕ} {s : Robot ℕ JString}
    (hs : Polling pins m s) :
    ∃ t es, checkBump (answering replies) s = .ok (decide (Triggered pins (replies m)), t) ∧
      Polling pins (m + 1) t ∧ t.log = s.log ++ es ∧ sends es = [(.readDigital, replies m)] := by
  obtain ⟨hc, rfl, rfl⟩ := hs
  obtain ⟨t, v, errors, hrun, hshown, hc', hp', hl', hlog⟩ :=
    checkBump_of_connected (answering replies) hc hpin
  have htrig : Triggered s.digitalPinsAvailable (replies s.link) ↔ v = BUMP_SENSOR_TRIGGERED := by
    unfold Triggered
    rw [show bumpShown s.digitalPinsAvailable (replies s.link) = some v from hshown, Option.some.injEq]
  refine ⟨t, _, hrun.trans ?_, ⟨hc', hp', hl'⟩, hlog, ?_⟩
  · simp only [htrig]
  · show (Command.readDigital, replies s.link) :: sends (List.map Event.error errors ++ _) = _
    rw [sends_append, sends_map_error]
    rfl

/-- A command to the drive motors without an end. -/
theorem drive_run (left right : ℤ) {m : ℕ} {s : Robot ℕ JString} (hs : Polling pins m s) :
    ∃ t es, drive (answering replies) left right 0 s = .ok ((), t) ∧ Polling pins m t ∧
      t.log = s.log ++ es ∧ sends es = [(.twoMotor MOTOR_LEFT left MOTOR_RIGHT right, [])] := by
  obtain ⟨hc, hp, hl⟩ := hs
  exact ⟨_, [.sent (.twoMotor MOTOR_LEFT left MOTOR_RIGHT right) 100 []],
    command_of_connected (answering replies) hc .invalidTime _, ⟨hc, hp, hl⟩, rfl, rfl⟩

/-- **What the loop sends.** -/
theorem motorRunIndefinitely_run (hpin : BUMP_SENSOR ∈ pins) (turns : ℕ) {m : ℕ} {s : Robot ℕ JString}
    (hs : Polling pins m s) :
    ∃ t es,
      motorRunIndefinitely (answering replies) turns s = .ok (loopReturns pins replies turns m, t) ∧
      t.log = s.log ++ es ∧ sends es = loopSends pins replies turns m := by
  induction turns generalizing m s with
  | zero => exact ⟨s, [], rfl, (List.append_nil _).symm, rfl⟩
  | succ turns ih =>
    obtain ⟨s', es, hpoll, hs', hlog, hsends⟩ := checkBump_run replies hpin hs
    unfold motorRunIndefinitely loopReturns loopSends
    rw [run_bind_ok hpoll]
    by_cases htrig : Triggered pins (replies m)
    · obtain ⟨t, es', hstop, -, hlog', hsends'⟩ := drive_run replies 0 0 hs'
      refine ⟨t, es ++ es', ?_, by rw [hlog', hlog, List.append_assoc], ?_⟩
      · simp only [htrig, decide_true, if_true, Bool.true_or]
        exact run_bind_ok hstop
      · rw [sends_append, hsends, hsends', if_pos htrig]
        rfl
    · obtain ⟨s'', es', hdrive, hs'', hlog', hsends'⟩ :=
        drive_run replies MOTORLEFTCONSTANT MOTORRIGHTCONSTANT hs'
      obtain ⟨t, es'', hloop, hlog'', hsends''⟩ := ih hs''
      refine ⟨t, es ++ (es' ++ es''), ?_, by simp [hlog'', hlog', hlog], ?_⟩
      · simp only [htrig, decide_false, Bool.false_or]
        exact (run_bind_ok hdrive).trans hloop
      · rw [sends_append, sends_append, hsends, hsends', hsends'', if_neg htrig]
        rfl

/-! ### When the loop does what it should -/

/-- From the `m`-th poll on, up to the first that shows the sensor triggered, every
poll is parsed and shows it relaxed. -/
def CleanPolls (pins : List ℤ) (replies : ℕ → JString) (m : ℕ) : Prop :=
  ∀ n ≥ m, (∀ i, m ≤ i → i < n → ¬ Triggered pins (replies i)) →
    Triggered pins (replies n) ∨ Relaxed pins (replies n)

variable {replies} {m : ℕ}

theorem CleanPolls.next (h : CleanPolls pins replies m) (hm : ¬ Triggered pins (replies m)) :
    CleanPolls pins replies (m + 1) := by
  intro n hn hbefore
  refine h n (by omega) fun i hi hin => ?_
  rcases hi.eq_or_lt with rfl | hlt
  · exact hm
  · exact hbefore i hlt hin

/-- Where an element of a list lies: it is the first, the second, or later. -/
theorem eq_append_cons {α : Type} {a b x : α} {rest pre post : List α}
    (h : a :: b :: rest = pre ++ x :: post) :
    (pre = [] ∧ x = a ∧ post = b :: rest) ∨ (pre = [a] ∧ x = b ∧ post = rest) ∨
      ∃ pre', pre = a :: b :: pre' ∧ rest = pre' ++ x :: post := by
  rcases pre with _ | ⟨c, _ | ⟨d, pre'⟩⟩
  · obtain ⟨rfl, rfl⟩ : a = x ∧ b :: rest = post := by simpa using h
    exact .inl ⟨rfl, rfl, rfl⟩
  · obtain ⟨rfl, rfl, rfl⟩ : a = c ∧ b = x ∧ rest = post := by simpa using h
    exact .inr (.inl ⟨rfl, rfl, rfl⟩)
  · obtain ⟨rfl, rfl, hrest⟩ : a = c ∧ b = d ∧ rest = pre' ++ x :: post := by simpa using h
    exact .inr (.inr ⟨pre', rfl, hrest⟩)

/-- **Clean polls make a safe run**, by induction on the turns. -/
theorem safeRun_of_cleanPolls (turns : ℕ) (h : CleanPolls pins replies m) :
    SafeRun pins (loopSends pins replies turns m) (loopReturns pins replies turns m) := by
  induction turns generalizing m with
  | zero =>
    constructor
    · intro pre cmd reply post hsplit
      simp [loopSends] at hsplit
    · intro pre shown post hsplit
      simp [loopSends] at hsplit
  | succ turns ih =>
    unfold loopSends loopReturns
    by_cases htrig : Triggered pins (replies m)
    · rw [if_pos htrig, decide_eq_true htrig, Bool.true_or]
      constructor
      · intro pre cmd reply post hsplit hmoves
        rcases eq_append_cons hsplit with ⟨-, hx, -⟩ | ⟨-, hx, -⟩ | ⟨pre', -, hrest⟩
        · cases hx; cases hmoves
        · cases hx; cases hmoves
        · simp at hrest
      · intro pre shown post hsplit hshown
        rcases eq_append_cons hsplit with ⟨-, -, rfl⟩ | ⟨-, hx, -⟩ | ⟨pre', -, hrest⟩
        · exact ⟨⟨[], rfl⟩, rfl⟩
        · cases hx
        · simp at hrest
    · have hrelaxed : Relaxed pins (replies m) :=
        (h m le_rfl fun i hi him => absurd him (by omega)).resolve_left htrig
      rw [if_neg htrig, decide_eq_false htrig, Bool.false_or]
      have hih := ih (h.next htrig)
      constructor
      · intro pre cmd reply post hsplit hmoves
        rcases eq_append_cons hsplit with ⟨-, hx, -⟩ | ⟨rfl, -, -⟩ | ⟨pre', rfl, hrest⟩
        · cases hx; cases hmoves
        · exact ⟨[], _, rfl, hrelaxed⟩
        · obtain ⟨pre'', shown, rfl, hshown⟩ := hih.drives pre' cmd reply post hrest hmoves
          exact ⟨_ :: _ :: pre'', shown, rfl, hshown⟩
      · intro pre shown post hsplit hshown
        rcases eq_append_cons hsplit with ⟨-, hx, -⟩ | ⟨-, hx, -⟩ | ⟨pre', rfl, hrest⟩
        · cases hx; exact absurd hshown htrig
        · cases hx
        · exact hih.stops pre' shown post hrest hshown

/-- A poll that is reached and does not show the sensor triggered is followed by the drive command. -/
theorem loopSends_reached (pins : List ℤ) (replies : ℕ → JString) (d m : ℕ)
    (h : ∀ i, m ≤ i → i ≤ m + d → ¬ Triggered pins (replies i)) :
    ∃ pre, loopSends pins replies (d + 1) m = (pre ++ [(.readDigital, replies (m + d))]) ++
      [(.twoMotor MOTOR_LEFT MOTORLEFTCONSTANT MOTOR_RIGHT MOTORRIGHTCONSTANT, [])] := by
  induction d generalizing m with
  | zero =>
    refine ⟨[], ?_⟩
    rw [loopSends, if_neg (h m le_rfl le_rfl)]
    rfl
  | succ d ih =>
    obtain ⟨pre, hpre⟩ := ih (m + 1) fun i hi hid => h i (by omega) (by omega)
    rw [loopSends, if_neg (h m le_rfl (by omega)), hpre, show m + 1 + d = m + (d + 1) by omega]
    exact ⟨_ :: _ :: pre, rfl⟩

/-- **The loop does what it should exactly when every poll before the bump is
parsed and shows the sensor relaxed.**  The next poll is the `m`-th. -/
theorem safeRun_iff (hpin : BUMP_SENSOR ∈ pins) {s : Robot ℕ JString} (hs : Polling pins m s) :
    (∀ turns b t, motorRunIndefinitely (answering replies) turns s = .ok (b, t) →
      ∃ es, t.log = s.log ++ es ∧ SafeRun pins (sends es) b) ↔ CleanPolls pins replies m := by
  constructor
  · intro h n hn hbefore
    by_contra hnot
    rw [not_or] at hnot
    obtain ⟨d, rfl⟩ := Nat.exists_eq_add_of_le hn
    have hreach : ∀ i, m ≤ i → i ≤ m + d → ¬ Triggered pins (replies i) := fun i hi hid => by
      rcases hid.eq_or_lt with rfl | hlt
      · exact hnot.1
      · exact hbefore i hi hlt
    obtain ⟨t, es, hrun, hlog, hsends⟩ := motorRunIndefinitely_run replies hpin (d + 1) hs
    obtain ⟨es', hlog', hsafe⟩ := h _ _ _ hrun
    obtain rfl : es = es' := List.append_cancel_left (hlog.symm.trans hlog')
    obtain ⟨pre, hpre⟩ := loopSends_reached pins replies d m hreach
    obtain ⟨pre', shown, heq, hshown⟩ := hsafe.drives _ _ _ [] (hsends.trans hpre) rfl
    have : (Command.readDigital, replies (m + d)) = (Command.readDigital, shown) := by
      simpa using congrArg List.getLast? heq
    cases this
    exact hnot.2 hshown
  · intro h turns b t hrun
    obtain ⟨t', es, hrun', hlog, hsends⟩ := motorRunIndefinitely_run replies hpin turns hs
    cases hrun.symm.trans hrun'
    exact ⟨es, hlog, hsends ▸ safeRun_of_cleanPolls turns h⟩

/-- The reply `d 1 v 1 1 1 1 1 1 1 1`: every pin reads 1 but the bump sensor, which reads `v`. -/
def bumpReply (v : Char) : JString :=
  jstr ['d', ' ', '1', ' ', v, ' ', '1', ' ', '1', ' ', '1', ' ', '1', ' ', '1', ' ', '1', ' ', '1', ' ', '1']

example : Relaxed initialFreeDigitalPins (bumpReply '1') ∧
    Triggered initialFreeDigitalPins (bumpReply '0') := by decide

/-- Four polls that show the sensor relaxed, then the bump. -/
theorem safeRun_iff_fifth :
    (∀ turns b t, motorRunIndefinitely (answering fun n => bumpReply (if n < 4 then '1' else '0'))
        turns (connectedTo 0) = .ok (b, t) →
      ∃ es, t.log = (connectedTo 0 : Robot ℕ JString).log ++ es ∧
        SafeRun initialFreeDigitalPins (sends es) b) ↔
      CleanPolls initialFreeDigitalPins (fun n => bumpReply (if n < 4 then '1' else '0')) 0 :=
  safeRun_iff (by decide) ⟨rfl, rfl, rfl⟩

/-- No reply at all to the first poll: the loop drives. -/
theorem not_safeRun_lost :
    ¬ ∀ turns b t, motorRunIndefinitely (answering fun _ => []) turns (connectedTo 0) = .ok (b, t) →
      ∃ es, t.log = (connectedTo 0 : Robot ℕ JString).log ++ es ∧
        SafeRun initialFreeDigitalPins (sends es) b := by
  intro h
  have hstart : Polling initialFreeDigitalPins 0 (connectedTo 0) := ⟨rfl, rfl, rfl⟩
  obtain ⟨t, es, hrun, hlog, hsends⟩ := motorRunIndefinitely_run (fun _ => []) (by decide) 1 hstart
  obtain ⟨es', hlog', hsafe⟩ := h _ _ _ hrun
  obtain rfl : es = es' := List.append_cancel_left (hlog.symm.trans hlog')
  obtain ⟨pre', shown, heq, hshown⟩ := hsafe.drives [(.readDigital, [])] _ _ [] (hsends.trans rfl) rfl
  obtain rfl : shown = [] := by simpa using congrArg List.getLast? heq
  exact absurd hshown (by decide)

end EXERobot
end ExeRobot
