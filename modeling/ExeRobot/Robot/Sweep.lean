/-
# The bearings of a scan

`getLocation` takes row `i` of a scan for the direction of `5 * i` degrees.  The IR
sensor is turned by the servo on channel 4, and there are two ways from degrees to a
position of that servo: `moveIrSensorServo` multiplies by 16/21, the sweep of
`generateIRArrayMatrix` by 7.2/9.  They agree for 0 degrees only, so all other rows
are taken at another bearing than the one they stand for; and with 7.2/9 the last step
of the sweep asks for position 184, which the API refuses, so the last two rows are
taken at the same bearing.

The board of `turret` stands in an arbitrary environment: its IR sensor reads what is
received at the position the servo has.  Every reply carries that position with it,
which no program looks at; so the log says where each reading was taken.
-/

import ExeRobot.Robot.EXERobot

namespace ExeRobot
namespace EXERobot

open Stateful RXTXRobot

/-! ### The IR sensor in an environment -/

/-- The text of a reply, and the position the servo on channel 4 has when it is sent. -/
abbrev Sample := JString × ℤ

/-- The position of the servo on channel 4 after a command. -/
def movedTo (p : ℤ) : Command → ℤ
  | .servo channel position => if channel = SERVO_MEASUREMENTS_2 then position else p
  | .timedServo channel position _ => if channel = SERVO_MEASUREMENTS_2 then position else p
  | _ => p

/-- A board whose IR sensor receives `env p` at the position `p`, and which answers
every other command by `other`. -/
def turret (env : ℤ → JChar) (other : Command → JString) : Link ℤ Sample where
  text := Prod.fst
  sendRaw := fun _ cmd _ p =>
    ((if cmd = .irChar then [jc 'i', jc ' ', env (movedTo p cmd)] else other cmd, movedTo p cmd),
      movedTo p cmd)
  sleep := fun _ p => p

/-- What `getIRChar` makes of the character received at a position. -/
def shownAt (env : ℤ → JChar) (p : ℤ) : JChar :=
  (irValue [jc 'i', jc ' ', env p]).toOption.getD (jc '0')

/-- A reading of the IR sensor, and the position it was taken at. -/
def Event.sample : Event Sample → Option (JChar × ℤ)
  | .sent .irChar _ r => some ((irValue r.1).toOption.getD (jc '0'), r.2)
  | _ => none

/-- The readings of a stretch of a run. -/
def samples (es : List (Event Sample)) : List (JChar × ℤ) := es.filterMap Event.sample

/-- A command was refused for its position. -/
def Event.refused {ρ : Type} : Event ρ → Bool
  | .error .invalidPosition => true
  | _ => false

/-- How many commands of a stretch were refused. -/
def refusals {ρ : Type} (es : List (Event ρ)) : ℕ := es.countP Event.refused

/-- The three readings of the row `i` were all taken at the position `p`. -/
def RowTakenAt (es : List (Event Sample)) (matrix : List (List JChar)) (i : ℕ) (p : ℤ) : Prop :=
  ∃ row before after, matrix[i]? = some row ∧ row.length = 3 ∧ before.length = 3 * i ∧
    samples es = before ++ row.map (fun c => (c, p)) ++ after

/-- What `getLocation` relies on: each row is taken at the bearing `moveIrSensorServo`
gives it, no command is refused, and the rows are taken at increasing positions. -/
structure FaithfulScan (es : List (Event Sample)) (matrix : List (List JChar)) : Prop where
  bearings : ∀ i < ANGLE_COUNT, RowTakenAt es matrix i (irScale (i * 5))
  accepted : refusals es = 0
  increasing : ∃ position : ℕ → ℤ, (∀ i < ANGLE_COUNT, RowTakenAt es matrix i (position i)) ∧
    ∀ i, i + 1 < ANGLE_COUNT → position i < position (i + 1)

/-- A row is taken at one position. -/
theorem RowTakenAt.unique {es : List (Event Sample)} {matrix : List (List JChar)} {i : ℕ} {p q : ℤ}
    (h : RowTakenAt es matrix i p) (h' : RowTakenAt es matrix i q) : p = q := by
  obtain ⟨row, before, after, hrow, hlen, hbefore, hes⟩ := h
  obtain ⟨row', before', after', hrow', -, hbefore', hes'⟩ := h'
  obtain rfl : row = row' := Option.some.inj (hrow.symm.trans hrow')
  rw [hes, List.append_assoc, List.append_assoc] at hes'
  obtain ⟨-, hrest⟩ := List.append_inj hes' (hbefore.trans hbefore'.symm)
  obtain ⟨hmap, -⟩ := List.append_inj hrest (by simp)
  obtain ⟨c, row, rfl⟩ := List.exists_cons_of_length_eq_add_one hlen
  rw [List.map_cons, List.map_cons] at hmap
  exact congrArg Prod.snd (List.cons.inj hmap).1

@[simp] theorem samples_nil : samples [] = [] := rfl

@[simp] theorem samples_append (es es' : List (Event Sample)) :
    samples (es ++ es') = samples es ++ samples es' := List.filterMap_append

@[simp] theorem refusals_append {ρ : Type} (es es' : List (Event ρ)) :
    refusals (es ++ es') = refusals es + refusals es' := List.countP_append

/-- The errors of a reply are none of the position check. -/
theorem errors_quiet {e : Option ApiError} (h : e ≠ some .invalidPosition) :
    samples (e.toList.map Event.error) = [] ∧
      refusals (e.toList.map (Event.error : ApiError → Event Sample)) = 0 := by
  cases e with
  | none => exact ⟨rfl, rfl⟩
  | some e =>
    refine ⟨rfl, ?_⟩
    cases e <;> first | rfl | exact absurd rfl h

theorem storeFields_error (fs : List JString) (cache : List ℤ) :
    (storeFields fs cache).2 ≠ some .invalidPosition := by
  induction fs generalizing cache with
  | nil => simp [storeFields]
  | cons f fs ih =>
    unfold storeFields
    cases parseInt f with
    | none => simp
    | some v =>
      cases cache with
      | nil => simp
      | cons c cache => exact ih cache

theorem digitalValues_error (size : ℕ) (reply : JString) :
    (digitalValues size reply).2 ≠ some .invalidPosition := by
  unfold digitalValues readPins
  dsimp only
  split_ifs
  · exact nofun
  · exact nofun
  · exact storeFields_error _ _

theorem irValue_error (response : JString) : failure (irValue response) ≠ some .invalidPosition := by
  unfold irValue lastField
  dsimp only
  split_ifs
  · exact nofun
  · split <;> exact nofun

/-! ### What a program makes of the sensor -/

/-- From every state over an open connection in which the servo is at `p`, `x` returns
`a`, leaves the servo at `q`, takes the readings `l`, and has `n` commands refused. -/
def Sweeps {α : Type} (x : Api ℤ Sample α) (p q : ℤ) (l : List (JChar × ℤ)) (n : ℕ) (a : α) : Prop :=
  ∀ s : Robot ℤ Sample, s.connected = true → s.link = p →
    ∃ t es, x s = .ok (a, t) ∧ t.connected = true ∧ t.link = q ∧ t.log = s.log ++ es ∧
      samples es = l ∧ refusals es = n

namespace Sweeps

variable {α β : Type} {p q r : ℤ} {l l' : List (JChar × ℤ)} {m n : ℕ} {a : α} {b : β}

theorem pure (a : α) : Sweeps (Pure.pure a) p p [] 0 a :=
  fun s hs hp => ⟨s, [], rfl, hs, hp, (List.append_nil _).symm, rfl, rfl⟩

theorem bind {x : Api ℤ Sample α} {f : α → Api ℤ Sample β} (hx : Sweeps x p q l m a)
    (hf : Sweeps (f a) q r l' n b) : Sweeps (x >>= f) p r (l ++ l') (m + n) b := by
  intro s hs hp
  obtain ⟨s', es, hrun, hs', hq, hlog, hl, hm⟩ := hx s hs hp
  obtain ⟨t, es', hrest, ht, hr, hlog', hl', hn⟩ := hf s' hs' hq
  refine ⟨t, es ++ es', (run_bind_ok hrun).trans hrest, ht, hr, ?_, ?_, ?_⟩
  · rw [hlog', hlog, List.append_assoc]
  · rw [samples_append, hl, hl']
  · rw [refusals_append, hm, hn]

/-- A step that takes no reading and is not refused. -/
theorem bind_quiet {x : Api ℤ Sample α} {f : α → Api ℤ Sample β} (hx : Sweeps x p q [] 0 a)
    (hf : Sweeps (f a) q r l n b) : Sweeps (x >>= f) p r l n b := by
  have h := bind hx hf
  rwa [List.nil_append, Nat.zero_add] at h

/-- A step whose result is all that is used of it. -/
theorem bind_pure {x : Api ℤ Sample α} (hx : Sweeps x p q l n a) (g : α → β) :
    Sweeps (x >>= fun c => Pure.pure (g c)) p q l n (g a) := by
  have h : Sweeps (x >>= fun c => Pure.pure (g c)) p q (l ++ []) (n + 0) (g a) := bind hx (pure _)
  rwa [List.append_nil] at h

/-- A loop over successive numbers, each turn of which starts where the one before ended. -/
theorem mapM {f : ℕ → Api ℤ Sample α} (pos : ℕ → ℤ) {l : ℕ → List (JChar × ℤ)} {n : ℕ → ℕ} {g : ℕ → α}
    (h : ∀ i, Sweeps (f i) (pos i) (pos (i + 1)) (l i) (n i) (g i)) (start m : ℕ) :
    Sweeps ((List.range' start m).mapM f) (pos start) (pos (start + m))
      ((List.range' start m).flatMap l) ((List.range' start m).map n).sum
      ((List.range' start m).map g) := by
  induction m generalizing start with
  | zero => exact pure _
  | succ m ih =>
    have hrest := ih (start + 1)
    rw [show start + 1 + m = start + (m + 1) by omega] at hrest
    rw [List.range'_succ, List.mapM_cons, List.flatMap_cons, List.map_cons, List.map_cons,
      List.sum_cons]
    exact bind (h start) (bind_pure hrest (g start :: ·))

variable {env : ℤ → JChar} {other : Command → JString}

theorem sleep (ms : ℕ) : Sweeps (RXTXRobot.sleep (turret env other) ms) p p [] 0 () :=
  fun _ hs hp => ⟨_, [.slept ms], rfl, hs, hp, rfl, rfl, rfl⟩

theorem refreshDigitalPins : Sweeps (RXTXRobot.refreshDigitalPins (turret env other)) p p [] 0 () := by
  intro s hs hp
  refine ⟨_, _, refreshDigitalPins_of_connected _ hs, hs, hp, rfl, ?_⟩
  exact errors_quiet (digitalValues_error _ _)

theorem getIRChar :
    Sweeps (RXTXRobot.getIRChar (turret env other)) p p [(shownAt env p, p)] 0 (shownAt env p) := by
  intro s hs hp
  have hrun := (getIRChar_of_connected (turret env other) hs).trans (query_of_connected _ hs _ _ _ _)
  subst hp
  refine ⟨_, _, hrun, hs, rfl, rfl, ?_⟩
  obtain ⟨hsamples, hrefused⟩ := errors_quiet (irValue_error [jc 'i', jc ' ', env s.link])
  exact ⟨congrArg (List.cons (shownAt env s.link, s.link)) hsamples, hrefused⟩

/-- A command whose arguments pass the check, and which takes no reading. -/
theorem command (e : ApiError) {cmd : Command} (h : cmd ≠ .irChar) :
    Sweeps (RXTXRobot.command (turret env other) true e cmd) p (movedTo p cmd) [] 0 () := by
  intro s hs hp
  subst hp
  refine ⟨_, _, command_of_connected (turret env other) hs e cmd, hs, rfl, rfl, ?_, rfl⟩
  cases cmd <;> first | rfl | exact absurd rfl h

/-- A command that is refused for its position. -/
theorem command_refused {cmd : Command} :
    Sweeps (RXTXRobot.command (turret env other) false .invalidPosition cmd) p p [] 1 () := by
  intro s hs hp
  refine ⟨{ s with log := s.log ++ [.error .invalidPosition] }, _, ?_, hs, hp, rfl, rfl, rfl⟩
  unfold RXTXRobot.command
  rw [run_bind_ok (isConnected_run s), if_neg (by simp [hs])]
  rfl

/-- The three readings of a row are taken where the servo is. -/
theorem getIRArray : Sweeps (EXERobot.getIRArray (turret env other)) p p
    (List.replicate 3 (shownAt env p, p)) 0 (List.replicate 3 (shownAt env p)) := by
  have hturn : ∀ _ : ℕ, Sweeps (do
      RXTXRobot.refreshDigitalPins (turret env other)
      let currentReceived ← RXTXRobot.getIRChar (turret env other)
      RXTXRobot.sleep (turret env other) 100
      return currentReceived) p p ([(shownAt env p, p)] ++ []) (0 + 0) (shownAt env p) := fun _ =>
    bind_quiet refreshDigitalPins (bind getIRChar (bind_quiet (sleep 100) (pure _)))
  refine bind_quiet (sleep 1000) (bind_quiet refreshDigitalPins ?_)
  exact mapM (fun _ => p) hturn 0 3

/-- Positioning the IR sensor within the range of the servo. -/
theorem runPCAServo {position : ℤ} (h0 : 0 ≤ position) (h180 : position ≤ 180) :
    Sweeps (RXTXRobot.runPCAServo (turret env other) 4 position) p position [] 0 () := by
  unfold RXTXRobot.runPCAServo
  rw [show (decide (0 ≤ position) && decide (position ≤ 180)) = true by simp [h0, h180]]
  exact command .invalidPosition nofun

/-- Positioning the IR sensor beyond the range of the servo. -/
theorem runPCAServo_refused {position : ℤ} (h : 180 < position) :
    Sweeps (RXTXRobot.runPCAServo (turret env other) 4 position) p p [] 1 () := by
  unfold RXTXRobot.runPCAServo
  rw [show (decide (0 ≤ position) && decide (position ≤ 180)) = false by simp; omega]
  exact command_refused

/-- The sweep starts from position 0. -/
theorem zeroServos : Sweeps (EXERobot.zeroServos (turret env other)) p 0 [] 0 () :=
  bind_quiet (command .invalidPosition nofun) (command .invalidPosition nofun)

end Sweeps

/-! ### The sweep -/

/-- The position at which the row `i` is taken. -/
def heading (i : ℕ) : ℤ := 4 * min (i : ℤ) 45

/-- The position of the servo when the step `i` begins. -/
def headingBefore (i : ℕ) : ℤ := heading (i - 1)

variable {env : ℤ → JChar} {other : Command → JString}

/-- A step of the sweep moves the sensor on, unless it is at the last position. -/
theorem sweepStep_sweeps (i : ℕ) :
    Sweeps (sweepStep (turret env other) i) (headingBefore i) (headingBefore (i + 1))
      (List.replicate 3 (shownAt env (heading i), heading i)) (if i ≤ 45 then 0 else 1)
      (List.replicate 3 (shownAt env (heading i))) := by
  rw [show headingBefore (i + 1) = heading i from rfl]
  have hrest : Sweeps (do
      RXTXRobot.sleep (turret env other) 10
      RXTXRobot.refreshDigitalPins (turret env other)
      getIRArray (turret env other)) (heading i) (heading i)
      (List.replicate 3 (shownAt env (heading i), heading i)) 0
      (List.replicate 3 (shownAt env (heading i))) :=
    .bind_quiet (.sleep 10) (.bind_quiet .refreshDigitalPins .getIRArray)
  unfold sweepStep
  rw [measurementScale_step]
  by_cases hi : i ≤ 45
  · have hpos : 4 * (i : ℤ) = heading i := by unfold heading; omega
    rw [if_pos hi, hpos]
    have h0 : 0 ≤ heading i := by omega
    have h180 : heading i ≤ 180 := by omega
    exact .bind_quiet (.runPCAServo h0 h180) hrest
  · -- the command is refused, and the servo stays where the step before left it
    have hpos : headingBefore i = heading i := by unfold headingBefore heading; omega
    have hrefused : Sweeps (runPCAServo (turret env other) 4 (4 * i)) (heading i) (heading i) [] 1 () :=
      .runPCAServo_refused (by omega)
    rw [if_neg hi, hpos]
    exact Sweeps.bind (f := fun _ => _) hrefused hrest

/-- The scan of an environment. -/
def scanOf (env : ℤ → JChar) : List (List JChar) :=
  (List.range' 0 ANGLE_COUNT).map fun i => List.replicate 3 (shownAt env (heading i))

/-- The readings of the steps `start`, ..., `start + m - 1` of the sweep. -/
def readingsFrom (env : ℤ → JChar) (start m : ℕ) : List (JChar × ℤ) :=
  (List.range' start m).flatMap fun i => List.replicate 3 (shownAt env (heading i), heading i)

/-- The whole sweep: one of its commands is refused. -/
theorem generateIRArrayMatrix_sweeps (env : ℤ → JChar) (other : Command → JString) (p : ℤ) :
    Sweeps (generateIRArrayMatrix (turret env other)) p (headingBefore ANGLE_COUNT)
      (readingsFrom env 0 ANGLE_COUNT) 1 (scanOf env) :=
  .bind_quiet .zeroServos (.mapM headingBefore sweepStep_sweeps 0 ANGLE_COUNT)

theorem length_readingsFrom (start m : ℕ) : (readingsFrom env start m).length = 3 * m := by
  unfold readingsFrom
  rw [List.length_flatMap]
  simp [Nat.mul_comm]

/-- The row `i` of a scan is taken at the position of the step `i`. -/
theorem rowTakenAt_heading {es : List (Event Sample)}
    (hes : samples es = readingsFrom env 0 ANGLE_COUNT) {i : ℕ} (hi : i < ANGLE_COUNT) :
    RowTakenAt es (scanOf env) i (heading i) := by
  refine ⟨List.replicate 3 (shownAt env (heading i)), readingsFrom env 0 i,
    readingsFrom env (i + 1) (ANGLE_COUNT - (i + 1)), ?_, List.length_replicate,
    length_readingsFrom 0 i, ?_⟩
  · unfold scanOf
    rw [List.getElem?_map, List.getElem?_range' hi]
    simp
  · have hbefore : List.range' 0 ANGLE_COUNT =
        List.range' 0 i ++ List.range' i (ANGLE_COUNT - i) := by
      have h := List.range'_append_1 (s := 0) (m := i) (n := ANGLE_COUNT - i)
      rw [Nat.zero_add, Nat.add_sub_cancel' hi.le] at h
      exact h.symm
    have hafter : List.range' i (ANGLE_COUNT - i) =
        i :: List.range' (i + 1) (ANGLE_COUNT - (i + 1)) := by
      rw [show ANGLE_COUNT - i = ANGLE_COUNT - (i + 1) + 1 by omega]
      exact List.range'_succ
    rw [hes]
    unfold readingsFrom
    rw [hbefore, hafter, List.flatMap_append, List.flatMap_cons, List.map_replicate,
      List.append_assoc]

/-- The sweep and `moveIrSensorServo` agree for 0 degrees only. -/
theorem heading_eq_irScale_iff {i : ℕ} (hi : i < ANGLE_COUNT) :
    heading i = irScale (i * 5) ↔ i = 0 := by
  have hcheck : ∀ i < 47, heading i = irScale (i * 5) ↔ i = 0 := by decide
  exact hcheck i hi

/-- No scan is faithful. -/
theorem not_faithfulScan {es : List (Event Sample)}
    (hes : samples es = readingsFrom env 0 ANGLE_COUNT) : ¬ FaithfulScan es (scanOf env) := by
  intro h
  have hsecond := h.bearings 1 (by decide)
  have heq := (rowTakenAt_heading hes (by decide)).unique hsecond
  exact absurd ((heading_eq_irScale_iff (by decide)).1 heq) one_ne_zero

/-- **What a scan is, in every environment**: its row `i` is taken at the position
`4 * min i 45`, which is the bearing of `5 * i` degrees for the first row only; one
command is refused; the last two rows are taken at the same bearing; so no scan is what
`getLocation` relies on. -/
theorem generateIRArrayMatrix_not_faithful (env : ℤ → JChar) (other : Command → JString)
    {s : Robot ℤ Sample} (hs : s.connected = true) :
    ∃ matrix t es, generateIRArrayMatrix (turret env other) s = .ok (matrix, t) ∧
      t.log = s.log ++ es ∧ (∀ i < ANGLE_COUNT, RowTakenAt es matrix i (4 * min (i : ℤ) 45)) ∧
      (∀ i < ANGLE_COUNT, RowTakenAt es matrix i (irScale (i * 5)) ↔ i = 0) ∧
      refusals es = 1 ∧ ¬ FaithfulScan es matrix := by
  obtain ⟨t, es, hrun, -, -, hlog, hes, hrefused⟩ :=
    generateIRArrayMatrix_sweeps env other s.link s hs rfl
  refine ⟨scanOf env, t, es, hrun, hlog, fun i hi => rowTakenAt_heading hes hi, ?_, hrefused,
    not_faithfulScan hes⟩
  intro i hi
  rw [← heading_eq_irScale_iff hi]
  constructor
  · intro h
    exact (rowTakenAt_heading hes hi).unique h
  · intro h
    rw [← h]
    exact rowTakenAt_heading hes hi

/-- A scan in an environment that shows nothing, from a new connection. -/
theorem generateIRArrayMatrix_not_faithful_blank :
    ∃ matrix t es, generateIRArrayMatrix (turret (fun _ => jc '0') fun _ => []) (connectedTo 0) =
        .ok (matrix, t) ∧
      t.log = [] ++ es ∧ (∀ i < ANGLE_COUNT, RowTakenAt es matrix i (4 * min (i : ℤ) 45)) ∧
      (∀ i < ANGLE_COUNT, RowTakenAt es matrix i (irScale (i * 5)) ↔ i = 0) ∧
      refusals es = 1 ∧ ¬ FaithfulScan es matrix :=
  generateIRArrayMatrix_not_faithful (fun _ => jc '0') (fun _ => []) rfl

/-- With the pylon of the north at the bearing of 40 degrees, position 30, the scan does not
have every row at its own bearing. -/
theorem not_forall_faithfulScan :
    ¬ ∀ (env : ℤ → JChar) (other : Command → JString) (s : Robot ℤ Sample), s.connected = true →
      ∃ matrix t es, generateIRArrayMatrix (turret env other) s = .ok (matrix, t) ∧
        t.log = s.log ++ es ∧ FaithfulScan es matrix := by
  intro h
  let env : ℤ → JChar := fun p => if p = 30 then PYLON_NORTH else jc '0'
  obtain ⟨matrix, t, es, hrun, hlog, hfaithful⟩ := h env (fun _ => []) (connectedTo 0) rfl
  obtain ⟨t', es', hrun', -, -, hlog', hes, -⟩ :=
    generateIRArrayMatrix_sweeps env (fun _ => []) 0 (connectedTo 0) rfl rfl
  obtain ⟨rfl, rfl⟩ : matrix = scanOf env ∧ t = t' := by
    rw [hrun'] at hrun
    cases hrun
    exact ⟨rfl, rfl⟩
  obtain rfl : es = es' := List.append_cancel_left (hlog.symm.trans hlog')
  exact not_faithfulScan hes hfaithful

end EXERobot
end ExeRobot
