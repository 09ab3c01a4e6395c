/-
# The programs of the team on the whole object

What an `EXERobot` does on the small model it does on the whole object too: on a port that
does not block, every operation of an `EXERobot` is a run of the API (`Plays`), with the
same lines, waits and answers, and it leaves the two objects in the same state.  So is a
program, which makes an `EXERobot` and calls its operations (`programs_play`).  The API calls
are those of `Call.ofTeam`: none attaches a device, runs an attached motor or changes a setting.
-/

import ExeRobot.Device.Agreement
import ExeRobot.Library.Effect
import ExeRobot.Robot.Returns

namespace ExeRobot
namespace Device

open Persistent Stateful EXERobot

variable {P α β : Type} {port : Port P}

/-- The calls an `EXERobot` makes. -/
def Call.ofTeam : Call → Bool
  | .refreshAnalogPins | .refreshDigitalPins | .getAnalogPin _ | .getDigitalPin _ | .getPing _
  | .getConductivity | .getIRChar | .runPCAServo _ _ | .runPCATimedServo _ _ _
  | .runTwoPCAMotor _ _ _ _ _ | .close | .sleep _ => true
  | _ => false

/-- The effect of making such calls on the whole object. -/
def playing (port : Port P) : Effect (Robot P JString) Unit where
  rel _ s t := ∀ d, Same s d →
    ∃ calls e, Runs arduinoUno port (fun call _ => call.ofTeam = true) calls d e ∧ Same t e
  unit := ()
  comp _ _ := ()
  refl s d hd := ⟨[], d, .nil d, hd⟩
  trans := fun h h' d hd => by
    obtain ⟨calls, e, hrun, he⟩ := h d hd
    obtain ⟨calls', f, hrun', hf⟩ := h' e he
    exact ⟨calls ++ calls', f, hrun.append hrun', hf⟩

/-- Every run of `x` is a run of the API. -/
abbrev Plays (port : Port P) (x : Api P JString α) : Prop := (playing port).Has x ()

namespace Plays

/-! ### Rules -/

theorem pure (a : α) : Plays port (Pure.pure a) := Effect.Has.pure a

theorem lift (x : Except Fault α) : Plays port (liftM x : Api P JString α) := Effect.Has.lift x

theorem bind {x : Api P JString α} {f : α → Api P JString β} (hx : Plays port x)
    (hf : ∀ a, Plays port (f a)) : Plays port (x >>= f) := Effect.Has.bind hx hf

theorem ite {c : Prop} [Decidable c] {x y : Api P JString α} (hx : Plays port x) (hy : Plays port y) :
    Plays port (if c then x else y) := Effect.Has.ite hx hy

theorem forM {ι : Type} {f : ι → Api P JString PUnit} (h : ∀ i, Plays port (f i)) (l : List ι) :
    Plays port (l.forM f) := Effect.Has.forM h l

theorem mapM {ι : Type} {f : ι → Api P JString α} (h : ∀ i, Plays port (f i)) (l : List ι) :
    Plays port (l.mapM f) := Effect.Has.mapM h l

theorem foldlM {ι : Type} {f : α → ι → Api P JString α} (h : ∀ a i, Plays port (f a i)) (l : List ι)
    (a : α) : Plays port (l.foldlM f a) := Effect.Has.foldlM h l a

/-- A method that does the same on the whole object is a call. -/
theorem call {x : Api P JString α} {y : Act P β} {V : α → β → Prop} (call : Call)
    (hcall : call.ofTeam = true)
    (hrun : ∀ d b e, y d = .ok b e → call.run arduinoUno port 0 d = .ok () e)
    (h : ∀ s d, Same s d → Simulates Same V x y s d) : Plays port x := by
  intro s a t hx d hd
  have hy := h s d hd a t hx
  cases hres : y d with
  | error stop e => exact ((wp_of_error hres).1 hy).elim
  | ok b e =>
    have hends : call.Ends arduinoUno port d e := ⟨0, .inl (hrun d b e hres)⟩
    exact ⟨[call], e, .cons hcall hends (.nil e), ((wp_of_ok hres).1 hy).2⟩

theorem ignored {y : Act P β} {d e : Device P} {b : β} (h : y d = .ok b e) : ignoring y d = .ok () e :=
  run_bind_ok h

/-- What is only noted for the log. -/
theorem setAngles (a b : ℤ) : Plays port (RXTXRobot.record (.setAngles a b) : Api P JString Unit) := by
  intro s x t h d hd
  cases h
  have hsame := hd.append [.setAngles a b] [] rfl
  rw [List.append_nil] at hsame
  exact ⟨[], d, .nil d, hsame⟩

/-! ### The methods of the API -/

theorem sleep (ms : ℕ) : Plays port (RXTXRobot.sleep port.link ms) :=
  call (.sleep ms) rfl (fun _ _ _ h => (congrFun (sleepFor_natCast port ms) _).trans h)
    fun _ _ h => sim_sleep h ms

theorem close : Plays port (RXTXRobot.close port.link) :=
  call .close rfl (fun _ _ _ h => h) fun _ _ h => sim_close h

variable (hport : port.Returns)

include hport

theorem refreshAnalogPins : Plays port (RXTXRobot.refreshAnalogPins port.link) :=
  call .refreshAnalogPins rfl (fun _ _ _ h => h) fun _ _ h => sim_refreshAnalogPins hport h

theorem refreshDigitalPins : Plays port (RXTXRobot.refreshDigitalPins port.link) :=
  call .refreshDigitalPins rfl (fun _ _ _ h => h) fun _ _ h => sim_refreshDigitalPins hport h

theorem getAnalogPin (x : ℤ) : Plays port (RXTXRobot.getAnalogPin port.link x) :=
  call (.getAnalogPin x) rfl (fun _ _ _ => ignored) fun _ _ h => sim_getAnalogPin hport h x

theorem getDigitalPin (x : ℤ) : Plays port (RXTXRobot.getDigitalPin port.link x) :=
  call (.getDigitalPin x) rfl (fun _ _ _ => ignored) fun _ _ h => sim_getDigitalPin hport h x

theorem getPing (pin : ℤ) : Plays port (RXTXRobot.getPing port.link pin) :=
  call (.getPing pin) rfl (fun _ _ _ => ignored) fun _ _ h => sim_getPing hport h pin

theorem getConductivity : Plays port (RXTXRobot.getConductivity port.link) :=
  call .getConductivity rfl (fun _ _ _ => ignored) fun _ _ h => sim_getConductivity hport h

theorem getIRChar : Plays port (RXTXRobot.getIRChar port.link) :=
  call .getIRChar rfl (fun _ _ _ => ignored) fun _ _ h => sim_getIRChar hport h

theorem runPCAServo (channel position : ℤ) :
    Plays port (RXTXRobot.runPCAServo port.link channel position) :=
  call (.runPCAServo channel position) rfl (fun _ _ _ h => h) fun _ _ h => sim_runPCAServo hport h _ _

theorem runPCATimedServo (channel position duration : ℤ) :
    Plays port (RXTXRobot.runPCATimedServo port.link channel position duration) :=
  call (.runPCATimedServo channel position duration) rfl (fun _ _ _ h => h) fun _ _ h =>
    sim_runPCATimedServo hport h _ _ _

theorem drive (left right time : ℤ) : Plays port (EXERobot.drive port.link left right time) :=
  call (.runTwoPCAMotor MOTOR_LEFT left MOTOR_RIGHT right time) rfl (fun _ _ _ h => h) fun _ _ h =>
    sim_runTwoPCAMotor hport h _ _ _ _ _

/-! ### The operations -/

theorem turn (left right time : ℤ) (wait : ℕ) :
    Plays port (EXERobot.turn port.link left right time wait) :=
  bind (drive hport _ _ _) fun _ => sleep wait

theorem setMeasurementServo (angle : ℤ) : Plays port (EXERobot.setMeasurementServo port.link angle) :=
  runPCAServo hport _ _

theorem zeroServos : Plays port (EXERobot.zeroServos port.link) :=
  bind (runPCAServo hport _ _) fun _ => runPCATimedServo hport _ _ _

theorem checkBump : Plays port (EXERobot.checkBump port.link) :=
  bind (refreshDigitalPins hport) fun _ => bind (getDigitalPin hport _) fun _ => pure _

theorem motorRunIndefinitely (turns : ℕ) :
    Plays port (EXERobot.motorRunIndefinitely port.link turns) := by
  induction turns with
  | zero => exact pure false
  | succ turns ih =>
    refine bind (checkBump hport) fun bumped => ite ?_ ?_
    · exact bind (drive hport _ _ _) fun _ => pure true
    · exact bind (drive hport _ _ _) fun _ => ih

theorem readIRCharOf (n : ℕ) : Plays port (EXERobot.readIRCharOf port.link n) := by
  refine bind (refreshDigitalPins hport) fun _ => bind (mapM (fun _ => ?_) _) fun _ => pure _
  refine bind (getIRChar hport) fun c => bind (refreshDigitalPins hport) fun _ => ?_
  exact bind (sleep 10) fun _ => pure c

omit hport in
theorem sumOf {reading : Api P JString ℤ} (h : Plays port reading) (n : ℕ) :
    Plays port (EXERobot.sumOf n reading) :=
  foldlM (fun _ _ => bind h fun _ => pure _) _ _

theorem getTemperature : Plays port (EXERobot.getTemperature port.link) := by
  refine bind (sumOf ?_ 10) fun _ => pure _
  exact bind (sleep 200) fun _ => bind (refreshAnalogPins hport) fun _ => getAnalogPin hport _

theorem averagePing : Plays port (EXERobot.getPing port.link) :=
  bind (sumOf (bind (refreshDigitalPins hport) fun _ => getPing hport _) 10) fun _ => pure _

theorem getSlope : Plays port (EXERobot.getSlope port.link) := by
  refine bind (sleep 1000) fun _ => bind (refreshAnalogPins hport) fun _ => ?_
  refine bind (getAnalogPin hport _) fun _ => bind (sleep 1000) fun _ => ?_
  exact bind (getAnalogPin hport _) fun _ => pure _

theorem slowConductivity : Plays port (EXERobot.getConductivity port.link) :=
  bind (sleep 1000) fun _ => bind (refreshDigitalPins hport) fun _ =>
    bind (getConductivity hport) fun _ => pure _

theorem getIRArray : Plays port (EXERobot.getIRArray port.link) := by
  refine bind (sleep 1000) fun _ => bind (refreshDigitalPins hport) fun _ => mapM (fun _ => ?_) _
  refine bind (refreshDigitalPins hport) fun _ => bind (getIRChar hport) fun c => ?_
  exact bind (sleep 100) fun _ => pure c

theorem generateIRArrayMatrix : Plays port (EXERobot.generateIRArrayMatrix port.link) := by
  refine bind (zeroServos hport) fun _ => mapM (fun index => ?_) _
  refine bind (runPCAServo hport _ _) fun _ => bind (sleep 10) fun _ => ?_
  exact bind (refreshDigitalPins hport) fun _ => getIRArray hport

theorem angleRecieved : Plays port (EXERobot.angleRecieved port.link) := by
  refine forM (fun i => ?_) _
  refine bind (runPCAServo hport _ _) fun _ => bind (sleep 100) fun _ => ?_
  exact bind (readIRCharOf hport 4) fun _ => pure _

theorem getLocation (nav : Navigation) (quadrant : ℤ) :
    Plays port (EXERobot.getLocation port.link nav quadrant) := by
  refine bind (generateIRArrayMatrix hport) fun matrix => bind (lift _) fun beaconData => ?_
  refine bind (lift _) fun first => bind (lift _) fun second => bind (setAngles _ _) fun _ => ?_
  split <;> exact pure _

theorem testIR : Plays port (EXERobot.testIR port.link) := by
  refine bind (generateIRArrayMatrix hport) fun matrix => bind (lift _) fun beaconDensity => ?_
  exact bind (lift _) fun _ => pure _

theorem testTemperature : Plays port (EXERobot.testTemperature port.link) := by
  refine bind (zeroServos hport) fun _ => bind (setMeasurementServo hport _) fun _ => ?_
  refine bind (sleep 1000) fun _ => bind (sleep 9000) fun _ => ?_
  refine bind (getTemperature hport) fun _ => bind (sleep 1000) fun _ => ?_
  exact zeroServos hport

theorem testConductivity : Plays port (EXERobot.testConductivity port.link) := by
  refine bind (zeroServos hport) fun _ => bind (setMeasurementServo hport _) fun _ => ?_
  refine bind (sleep 1000) fun _ => bind (sleep 5000) fun _ => ?_
  refine bind (slowConductivity hport) fun _ => bind (sleep 1000) fun _ => ?_
  exact setMeasurementServo hport _

theorem testInclinometer : Plays port (EXERobot.testInclinometer port.link) :=
  bind (getSlope hport) fun _ => pure _

theorem yeetTheBridge : Plays port (EXERobot.yeetTheBridge port.link) := turn hport _ _ _ _

theorem quadrantOne : Plays port (EXERobot.quadrantOne port.link) := by
  refine bind (yeetTheBridge hport) fun _ => bind (turn hport _ _ _ _) fun _ => ?_
  refine bind (yeetTheBridge hport) fun _ => bind (turn hport _ _ _ _) fun _ => ?_
  refine bind (drive hport _ _ _) fun _ => bind (drive hport _ _ _) fun _ => ?_
  refine bind (sleep 1500) fun _ => bind (turn hport _ _ _ _) fun _ => ?_
  refine bind (turn hport _ _ _ _) fun _ => bind (turn hport _ _ _ _) fun _ => ?_
  refine bind (turn hport _ _ _ _) fun _ => bind (yeetTheBridge hport) fun _ => ?_
  refine bind (sleep 1000) fun _ => bind (testTemperature hport) fun _ => ?_
  exact testInclinometer hport

theorem quadrantTwo : Plays port (EXERobot.quadrantTwo port.link) := by
  refine bind (yeetTheBridge hport) fun _ => bind (turn hport _ _ _ _) fun _ => ?_
  refine bind (turn hport _ _ _ _) fun _ => bind (yeetTheBridge hport) fun _ => ?_
  exact bind (testConductivity hport) fun _ => testInclinometer hport

theorem quadrantThree : Plays port (EXERobot.quadrantThree port.link) := by
  refine bind (yeetTheBridge hport) fun _ => bind (turn hport _ _ _ _) fun _ => ?_
  refine bind (drive hport _ _ _) fun _ => bind (sleep 3500) fun _ => ?_
  refine bind (turn hport _ _ _ _) fun _ => bind (yeetTheBridge hport) fun _ => ?_
  refine bind (yeetTheBridge hport) fun _ => bind (drive hport _ _ _) fun _ => ?_
  exact bind (testInclinometer hport) fun _ => drive hport _ _ _

theorem quadrantFour : Plays port (EXERobot.quadrantFour port.link) := by
  refine bind (yeetTheBridge hport) fun _ => bind (turn hport _ _ _ _) fun _ => ?_
  refine bind (turn hport _ _ _ _) fun _ => bind (yeetTheBridge hport) fun _ => ?_
  refine bind (yeetTheBridge hport) fun _ => bind (yeetTheBridge hport) fun _ => ?_
  exact testInclinometer hport

end Plays

/-- Every operation is a run of the API. -/
theorem plays_op (hport : port.Returns) (turns : ℕ) (op : Op) :
    Plays port (op.run port.link turns) := by
  have fixed : ∀ {α : Type} {x : Api P JString α}, Plays port x → Plays port (returning x) :=
    fun hx => .bind hx fun _ => .pure true
  cases op with
  | close => exact fixed .close
  | moveMotor time => exact fixed (.drive hport _ _ _)
  | setMeasurementServo angle => exact fixed (.setMeasurementServo hport _)
  | readIRChar => exact fixed (.readIRCharOf hport 4)
  | motorRunIndefinitely => exact .motorRunIndefinitely hport turns
  | checkBump => exact fixed (.checkBump hport)
  | getTemperature => exact fixed (.getTemperature hport)
  | getPing => exact fixed (.averagePing hport)
  | getSlope => exact fixed (.getSlope hport)
  | getConductivity => exact fixed (.slowConductivity hport)
  | angleRecieved => exact fixed (.angleRecieved hport)
  | turnTenMulti x => exact fixed (.forM (fun _ => .turn hport _ _ _ _) _)
  | turnTen | turnTenOpp | turnNinety | turnNinetyOpp | turnFourtyFive | turnFourtyFiveOpp
  | yeetTheBridge =>
    exact fixed (.turn hport _ _ _ _)
  | stop => exact fixed (.drive hport _ _ _)
  | defaultPing | ballDrop => exact fixed (.runPCAServo hport _ _)
  | releaseBall | ReleaseBall =>
    exact fixed (.bind (.runPCAServo hport _ _) fun _ => .bind (.sleep _) fun _ =>
      .runPCAServo hport _ _)
  | conduction => exact fixed (.bind (.getConductivity hport) fun _ => .pure _)
  | quadrantOne => exact fixed (.quadrantOne hport)
  | quadrantTwo => exact fixed (.quadrantTwo hport)
  | quadrantThree => exact fixed (.quadrantThree hport)
  | quadrantFour => exact fixed (.quadrantFour hport)
  | test => exact fixed (.runPCATimedServo hport _ _ _)
  | goToOrigin | frogger => exact .pure true
  | zeroServos => exact fixed (.zeroServos hport)
  | testTemperature => exact fixed (.testTemperature hport)
  | testConductivity => exact fixed (.testConductivity hport)
  | testInclinometer => exact fixed (.testInclinometer hport)
  | testIR => exact fixed (.testIR hport)
  | testPing => exact fixed (.bind (.averagePing hport) fun _ => .pure _)
  | getIRArray => exact fixed (.getIRArray hport)
  | generateIRArrayMatrix => exact fixed (.generateIRArrayMatrix hport)
  | getLocation nav quadrant => exact fixed (.getLocation hport nav quadrant)

/-! ### Programs -/

/-- The operations one after the other. -/
theorem plays_ops (hport : port.Returns) {ops : List Op} {s t : Robot P JString}
    (h : RunOps port.link ops s t) : (playing port).rel () s t := by
  induction h with
  | nil s => exact (playing port).refl s
  | cons first _ ih =>
    obtain ⟨turns, hrun⟩ := first
    exact (playing port).trans (m := ()) (n := ()) (plays_op hport turns _ hrun) ih

/-- **A program is a run of the API.**  A program makes an `EXERobot` and calls its operations,
any of them with any arguments.  On the whole object this is a run from a new object: a
`connect` and then only calls of `Call.ofTeam`; the two objects are in the same state in the
end, and the same lines have been sent with the same answers. -/
theorem programs_play (hport : port.Returns) {p : P} {ops : List Op} {s t : Robot P JString}
    (hnew : construct port.link (RXTXRobot.new p) = .ok ((), s)) (h : RunOps port.link ops s t) :
    ∃ calls d, Runs arduinoUno port (fun call _ => call = .connect ∨ call.ofTeam = true)
      (.connect :: calls) (new p) d ∧ Same t d := by
  obtain ⟨_, s₁, hconnect, hzero⟩ := bind_eq_ok.1 hnew
  have hwp : wp (connect arduinoUno port 0) _ _ (new p) := sim_connect hport p _ _ hconnect
  cases hres : connect arduinoUno port 0 (new p) with
  | error stop e => exact ((wp_of_error hres).1 hwp).elim
  | ok b d₁ =>
    have hsame := ((wp_of_ok hres).1 hwp).2
    have hplays := (playing port).trans (m := ()) (n := ()) (Plays.zeroServos hport hzero)
      (plays_ops hport h)
    obtain ⟨calls, d, hrun, hd⟩ := hplays d₁ hsame
    have hends : Call.connect.Ends arduinoUno port (new p) d₁ := ⟨0, .inl hres⟩
    exact ⟨calls, d, .cons (.inl rfl) hends (hrun.mono fun _ _ h => .inr h), hd⟩

/-- A port none of whose calls throws or blocks. -/
structure Total (port : Port P) : Prop where
  write : ∀ s p, ∃ p', port.write s p = .ok () p'
  available : ∀ p, ∃ n, port.available p = .ok n
  read : ∀ n p, ∃ more p', port.read n p = .ok more p'

theorem Total.transmit (h : Total port) (s : JString) (wait : ℕ) (again waits : Bool) (retries : ℕ)
    (p : P) :
    wp (port.transmit s wait again waits retries) (fun _ _ => True) (fun _ _ => False) p := by
  induction retries generalizing p with
  | zero => exact trivial
  | succ retries ih =>
    obtain ⟨p', hw⟩ := h.write (s ++ [jc '\r', jc '\n']) p
    obtain ⟨n, hn⟩ := h.available (port.sleep wait p')
    unfold Port.transmit
    rw [wp_bind, wp_of_ok hw, wp_bind, wp_modify, wp_bind, wp_get, wp_bind, hn, wp_lift_ok]
    exact wp_ite (fun _ => ih _) fun _ => trivial

theorem Total.returns (h : Total port) : port.Returns := by
  intro s wait again waits p p'
  have hsent := h.transmit s wait again waits 4 p
  unfold Port.exchange
  cases hrun : port.transmit s wait again waits 4 p with
  | error t q => exact ((wp_of_error hrun).1 hsent).elim
  | ok tired q =>
    obtain ⟨more, q', hread⟩ := h.read Port.bufferSize q
    show port.collect s false 0 [] q ≠ _
    rw [Port.collect_once, run_bind_ok hread]
    intro hblocks
    cases hblocks

/-- The robot after the operations, each of which returns without a turn of its loop. -/
def performed {L ρ : Type} (k : Link L ρ) : List Op → Robot L ρ → Option (Robot L ρ)
  | [], s => some s
  | op :: ops, s =>
      match op.run k 0 s with
      | .ok (true, t) => performed k ops t
      | _ => none

theorem runOps_of_performed {L ρ : Type} {k : Link L ρ} {ops : List Op} {s t : Robot L ρ}
    (h : performed k ops s = some t) : RunOps k ops s t := by
  induction ops generalizing s with
  | nil =>
    cases h
    exact .nil _
  | cons op ops ih =>
    unfold performed at h
    split at h
    · exact .cons ⟨0, ‹_›⟩ (ih h)
    · cases h

/-- A turn, a look at the bump sensor, a measurement and a drive on a board that answers every
second line: eight lines are sent, and written eleven times. -/
def drowsyOps : List Op := [.turnNinety, .checkBump, .getConductivity, .moveMotor 500, .close]

theorem programs_play_drowsy : ∃ s t, construct drowsy.link (RXTXRobot.new (0, [])) = .ok ((), s) ∧
    RunOps drowsy.link drowsyOps s t ∧ (t.log.filterMap deedOf).countP (fun x => x.line.isSome) = 8 ∧
    t.link.1 = 11 ∧ .sent (.twoPCATimedMotor 11 255 15 300 1060) 100 [] ∈ t.log.filterMap deedOf ∧
    ∃ calls d, Runs arduinoUno drowsy (fun call _ => call = .connect ∨ call.ofTeam = true)
      (.connect :: calls) (new (0, [])) d ∧ Same t d := by
  have htotal : Total drowsy := ⟨fun s p => ⟨_, rfl⟩, fun p => ⟨_, rfl⟩, fun n p => ⟨_, _, rfl⟩⟩
  have hplayed : (((construct drowsy.link (RXTXRobot.new (0, []))).toOption.bind fun r =>
      performed drowsy.link drowsyOps r.2).map fun t =>
        ((t.log.filterMap deedOf).countP fun x => x.line.isSome, t.link.1,
          decide (.sent (.twoPCATimedMotor 11 255 15 300 1060) 100 [] ∈ t.log.filterMap deedOf))) =
            some (8, 11, true) := by
    decide +kernel
  obtain ⟨t, ht, hfacts⟩ := Option.map_eq_some_iff.1 hplayed
  obtain ⟨⟨⟨⟩, s⟩, hs, hops⟩ := Option.bind_eq_some_iff.1 ht
  have hnew : construct drowsy.link (RXTXRobot.new (0, [])) = .ok ((), s) := by
    cases hc : construct drowsy.link (RXTXRobot.new (0, [])) with
    | error f =>
      rw [hc] at hs
      cases hs
    | ok r =>
      rw [hc] at hs
      cases hs
      rfl
  have hrun := runOps_of_performed hops
  simp only [Prod.mk.injEq, decide_eq_true_eq] at hfacts
  exact ⟨s, t, hnew, hrun, hfacts.1, hfacts.2.1, hfacts.2.2, programs_play htotal.returns hnew hrun⟩

end Device
end ExeRobot
