/-
# Every call returns

No reply can make a method of the API throw: what cannot be parsed is reported and
shows in the result.  What can throw is reading a pin, when the pin is not a free
one or the cache has no entry for it, and the look-ups of `IRArrayDensity`.  On an
object whose pins are free and whose caches, once they are filled, have an entry for
every pin (`Usable`) neither happens, so every operation returns but the loop of
`motorRunIndefinitely`, which returns or has used up its polls (`Op.run_ends`).

The rules for the API hold for every invariant that its bookkeeping does not touch
(`Stable`), of which there are two here: `Usable`, and no condition at all.
-/

import ExeRobot.Library.Ends
import ExeRobot.Robot.Localisation

namespace ExeRobot

open Stateful RXTXRobot

variable {L ρ : Type}

/-- A pin cache that is empty or has an entry for each of the pins. -/
def FilledFor (pins : List ℤ) (cache : Option (List ℤ)) : Prop := ∀ c ∈ cache, c.length = pins.length

/-- The pins are those of `s`, and the caches stay filled. -/
structure SamePins (s t : Robot L ρ) : Prop where
  analogPins : t.analogPinsAvailable = s.analogPinsAvailable
  digitalPins : t.digitalPinsAvailable = s.digitalPinsAvailable
  analog : FilledFor s.analogPinsAvailable s.analogPinCache →
    FilledFor s.analogPinsAvailable t.analogPinCache
  digital : FilledFor s.digitalPinsAvailable s.digitalPinCache →
    FilledFor s.digitalPinsAvailable t.digitalPinCache

/-- An invariant that depends on the pins and their caches only. -/
def Stable (I : Robot L ρ → Prop) : Prop := ∀ ⦃s t⦄, I s → SamePins s t → I t

theorem stable_true : Stable fun _ : Robot L ρ => True := fun _ _ _ _ => trivial

/-- The pins of the board are free, and a filled cache has an entry for each. -/
structure Usable (s : Robot L ρ) : Prop where
  analogPins : s.analogPinsAvailable = initialFreeAnalogPins
  digitalPins : s.digitalPinsAvailable = initialFreeDigitalPins
  analog : FilledFor s.analogPinsAvailable s.analogPinCache
  digital : FilledFor s.digitalPinsAvailable s.digitalPinCache

theorem stable_usable : Stable (Usable : Robot L ρ → Prop) := by
  intro s t hs h
  refine ⟨h.analogPins.trans hs.analogPins, h.digitalPins.trans hs.digitalPins, ?_, ?_⟩
  · rw [h.analogPins]
    exact h.analog hs.analog
  · rw [h.digitalPins]
    exact h.digital hs.digital

namespace Ends

variable {I : Robot L ρ → Prop} (hI : Stable I) (k : Link L ρ)

/-! ### The API -/

section

include hI

/-- A change of the state that leaves the pins and their caches. -/
theorem change {f : Robot L ρ → Robot L ρ}
    (hap : ∀ s, (f s).analogPinsAvailable = s.analogPinsAvailable)
    (hdp : ∀ s, (f s).digitalPinsAvailable = s.digitalPinsAvailable)
    (ha : ∀ s, (f s).analogPinCache = s.analogPinCache)
    (hd : ∀ s, (f s).digitalPinCache = s.digitalPinCache) :
    Ends I (modify f : Api L ρ PUnit) := by
  refine Ends.modify fun s hs => hI hs ⟨hap s, hdp s, ?_, ?_⟩
  · rw [ha]
    exact id
  · rw [hd]
    exact id

theorem record (e : Event ρ) : Ends I (RXTXRobot.record e : Api L ρ Unit) :=
  change hI (fun _ => rfl) (fun _ => rfl) (fun _ => rfl) fun _ => rfl

theorem error (e : ApiError) : Ends I (RXTXRobot.error e : Api L ρ Unit) := record hI _

theorem setAttemptTryAgain (b : Bool) : Ends I (RXTXRobot.setAttemptTryAgain b : Api L ρ Unit) :=
  change hI (fun _ => rfl) (fun _ => rfl) (fun _ => rfl) fun _ => rfl

theorem sleep (ms : ℕ) : Ends I (RXTXRobot.sleep k ms) :=
  change hI (fun _ => rfl) (fun _ => rfl) (fun _ => rfl) fun _ => rfl

theorem setMotorRunning (motor : Fin 4) (b : Bool) :
    Ends I (RXTXRobot.setMotorRunning motor b : Api L ρ Unit) :=
  change hI (fun _ => rfl) (fun _ => rfl) (fun _ => rfl) fun _ => rfl

end

/-- A computation that starts by asking for the connection. -/
theorem guard {α : Type} {f : Bool → Api L ρ α} (h : ∀ b, Ends I (f b)) :
    Ends I (isConnected >>= f) := by
  intro s hs
  rw [run_bind_ok (isConnected_run s)]
  exact h _ hs

section

include hI

theorem sendRaw (cmd : Command) (wait : ℕ) : Ends I (RXTXRobot.sendRaw k cmd wait) := by
  intro s hs
  cases hc : s.connected with
  | true => exact ⟨_, _, sendRaw_of_connected k hc cmd wait, hI hs ⟨rfl, rfl, id, id⟩⟩
  | false => exact ⟨_, _, sendRaw_of_not_connected k hc cmd wait, hI hs ⟨rfl, rfl, id, id⟩⟩

theorem refreshAnalogPins : Ends I (RXTXRobot.refreshAnalogPins k) := by
  intro s hs
  cases hc : s.connected with
  | true =>
    refine ⟨_, _, refreshAnalogPins_of_connected k hc, hI hs ⟨rfl, rfl, fun _ c hmem => ?_, id⟩⟩
    obtain rfl := Option.mem_some_iff.1 hmem
    exact length_analogValues _ _
  | false =>
    refine ⟨_, _, refreshAnalogPins_of_not_connected k hc, hI hs ⟨rfl, rfl, fun _ c hmem => ?_, id⟩⟩
    obtain rfl := Option.mem_some_iff.1 hmem
    exact List.length_replicate

theorem refreshDigitalPins : Ends I (RXTXRobot.refreshDigitalPins k) := by
  intro s hs
  cases hc : s.connected with
  | true =>
    refine ⟨_, _, refreshDigitalPins_of_connected k hc, hI hs ⟨rfl, rfl, id, fun _ c hmem => ?_⟩⟩
    obtain rfl := Option.mem_some_iff.1 hmem
    exact length_digitalValues _ _
  | false =>
    refine ⟨_, _, refreshDigitalPins_of_not_connected k hc, hI hs ⟨rfl, rfl, id, fun _ c hmem => ?_⟩⟩
    obtain rfl := Option.mem_some_iff.1 hmem
    exact List.length_replicate

theorem query {α : Type} (cmd : Command) (wait : ℕ) (decode : JString → Except ApiError α)
    (failed : α) :
    Ends I (RXTXRobot.query k cmd wait decode failed) := by
  unfold RXTXRobot.query
  refine Ends.bind (setAttemptTryAgain hI _) fun _ => Ends.bind (sendRaw hI k _ _) fun response => ?_
  refine Ends.bind (setAttemptTryAgain hI _) fun _ => ?_
  cases decode response with
  | ok v => exact Ends.pure v
  | error e => exact Ends.bind (error hI e) fun _ => Ends.pure failed

theorem getPing (pin : ℤ) : Ends I (RXTXRobot.getPing k pin) := by
  refine guard fun b => Ends.ite ?_ (Ends.get_bind fun s _ => Ends.ite ?_ (query hI k _ _ _ _))
  · exact Ends.bind (error hI _) fun _ => Ends.pure _
  · exact Ends.bind (error hI _) fun _ => Ends.pure _

theorem getConductivity : Ends I (RXTXRobot.getConductivity k) :=
  guard fun _ => Ends.ite (Ends.bind (error hI _) fun _ => Ends.pure _) (query hI k _ _ _ _)

theorem getIRChar : Ends I (RXTXRobot.getIRChar k) :=
  guard fun _ => Ends.ite (Ends.bind (error hI _) fun _ => Ends.pure _) (query hI k _ _ _ _)

theorem command (valid : Bool) (e : ApiError) (cmd : Command) :
    Ends I (RXTXRobot.command k valid e cmd) :=
  guard fun _ => Ends.ite (error hI _) (Ends.ite (error hI _)
    (Ends.bind (sendRaw hI k _ _) fun _ => Ends.pure _))

theorem moveServo (servo : Fin 3) (position : ℤ) : Ends I (RXTXRobot.moveServo k servo position) :=
  guard fun _ => Ends.ite (error hI _) (Ends.get_bind fun _ _ => Ends.ite (error hI _)
    (Ends.ite (error hI _) (Ends.bind (sendRaw hI k _ _) fun _ => Ends.pure _)))

theorem checkRunningMotors : Ends I (RXTXRobot.checkRunningMotors : Api L ρ Bool) := by
  unfold RXTXRobot.checkRunningMotors
  refine Ends.ite (Ends.pure _) (Ends.get_bind fun s _ => Ends.ite ?_ (Ends.pure _))
  exact Ends.bind (error hI _) fun _ => Ends.pure _

theorem runMotor (motor : Fin 4) (speed time : ℤ) : Ends I (RXTXRobot.runMotor k motor speed time) := by
  have hreport : ∀ e, Ends I (RXTXRobot.error e >>= fun _ => pure () : Api L ρ Unit) :=
    fun e => Ends.bind (error hI e) fun _ => Ends.pure _
  unfold RXTXRobot.runMotor
  refine guard fun b => Ends.ite (hreport _) (Ends.ite (hreport _) ?_)
  -- the checks after that of the motors running, which the code reaches on two ways
  extract_lets last rest
  have hlast : ∀ u, Ends I (last u) := fun u => Ends.ite (setMotorRunning hI _ _) (Ends.pure _)
  have hrest : ∀ u, Ends I (rest u) := by
    refine fun u => Ends.ite (hreport _) (Ends.get_bind fun s _ => Ends.ite (hreport _) ?_)
    refine Ends.bind (sendRaw hI k _ _) fun response => ?_
    exact Ends.ite (Ends.bind (sleep hI k _) hlast) (hlast ())
  refine Ends.ite (Ends.get_bind fun s _ => Ends.bind (setMotorRunning hI _ _) fun _ => ?_) (hrest ())
  refine Ends.bind (checkRunningMotors hI) fun ok => Ends.ite ?_ (hrest ())
  exact Ends.bind (setMotorRunning hI _ _) fun _ => Ends.pure _

theorem close : Ends I (RXTXRobot.close k) := by
  have hservo : ∀ i : Fin 3, Ends I
      (do if (← get).servosAttached i then RXTXRobot.moveServo k i 90 : Api L ρ Unit) :=
    fun i => Ends.get_bind fun s _ => Ends.ite (moveServo hI k _ _) (Ends.pure _)
  have hmotor : ∀ i : Fin 4, Ends I
      (do if (← get).motorsAttached i then RXTXRobot.runMotor k i 0 0 : Api L ρ Unit) :=
    fun i => Ends.get_bind fun s _ => Ends.ite (runMotor hI k _ _ _) (Ends.pure _)
  have hopen : Ends I (modify fun s => { s with connected := false } : Api L ρ Unit) :=
    change hI (fun _ => rfl) (fun _ => rfl) (fun _ => rfl) fun _ => rfl
  unfold RXTXRobot.close
  refine Ends.bind (sleep hI k 300) fun _ => Ends.ite ?_ hopen
  refine Ends.bind (Ends.forM hservo _) fun _ => ?_
  exact Ends.bind (Ends.forM hmotor _) fun _ => hopen

/-- A free pin is read from a cache that has an entry for every free pin. -/
theorem pinValue {available cache : List ℤ} {x : ℤ} (hx : x ∈ available)
    (hcache : cache.length = available.length) :
    Ends I (RXTXRobot.pinValue available cache x : Api L ρ ℤ) := by
  have hentry : available.idxOf x < cache.length := hcache ▸ List.idxOf_lt_length_iff.2 hx
  exact fun s hs => ⟨_, _, pinValue_run hx hentry s, hI hs ⟨rfl, rfl, id, id⟩⟩

end

theorem getAnalogPin {x : ℤ} (hx : x ∈ initialFreeAnalogPins) :
    Ends Usable (RXTXRobot.getAnalogPin k x) := by
  have hread : ∀ s : Robot L ρ, Usable s → ∀ cache, s.analogPinCache = some cache →
      ∃ a t, RXTXRobot.getAnalogPin k x s = .ok (a, t) ∧ Usable t := fun s hs cache hcache => by
    rw [getAnalogPin_run k hcache]
    exact pinValue stable_usable (hs.analogPins ▸ hx) (hs.analog cache hcache) hs
  intro s hs
  cases hc : s.analogPinCache with
  | some cache => exact hread s hs cache hc
  | none =>
    obtain ⟨_, s', hrun, hs'⟩ := refreshAnalogPins stable_usable k hs
    obtain ⟨cache, hcache⟩ := refreshAnalogPins_cache k hrun
    have hsame : RXTXRobot.getAnalogPin k x s = RXTXRobot.getAnalogPin k x s' := by
      rw [getAnalogPin_run k hcache]
      unfold RXTXRobot.getAnalogPin
      rw [run_bind_get, if_pos hc, run_bind_ok hrun]
      show RXTXRobot.pinValue s'.analogPinsAvailable (s'.analogPinCache.getD []) x s' = _
      rw [hcache, Option.getD_some]
    rw [hsame]
    exact hread s' hs' cache hcache

theorem getDigitalPin {x : ℤ} (hx : x ∈ initialFreeDigitalPins) :
    Ends Usable (RXTXRobot.getDigitalPin k x) := by
  have hread : ∀ s : Robot L ρ, Usable s → ∀ cache, s.digitalPinCache = some cache →
      ∃ a t, RXTXRobot.getDigitalPin k x s = .ok (a, t) ∧ Usable t := fun s hs cache hcache => by
    rw [getDigitalPin_run k hcache]
    exact pinValue stable_usable (hs.digitalPins ▸ hx) (hs.digital cache hcache) hs
  intro s hs
  cases hc : s.digitalPinCache with
  | some cache => exact hread s hs cache hc
  | none =>
    obtain ⟨_, s', hrun, hs'⟩ := refreshDigitalPins stable_usable k hs
    obtain ⟨cache, hcache⟩ := refreshDigitalPins_cache k hrun
    have hsame : RXTXRobot.getDigitalPin k x s = RXTXRobot.getDigitalPin k x s' := by
      rw [getDigitalPin_run k hcache]
      unfold RXTXRobot.getDigitalPin
      rw [run_bind_get, if_pos hc, run_bind_ok hrun]
      show RXTXRobot.pinValue s'.digitalPinsAvailable (s'.digitalPinCache.getD []) x s' = _
      rw [hcache, Option.getD_some]
    rw [hsame]
    exact hread s' hs' cache hcache

end Ends

namespace EXERobot

/-! ### The operations -/

variable (k : Link L ρ)

namespace Ends

open ExeRobot.Ends Stateful.Ends

theorem sumOf {I : Robot L ρ → Prop} {reading : Api L ρ ℤ} (h : Ends I reading) (n : ℕ) :
    Ends I (EXERobot.sumOf n reading) :=
  foldlM (fun _ _ => bind h fun _ => pure _) _ _

section

variable {I : Robot L ρ → Prop} (hI : Stable I)

include hI

theorem drive (left right time : ℤ) : Ends I (EXERobot.drive k left right time) := command hI k _ _ _

theorem servo (channel position : ℤ) : Ends I (runPCAServo k channel position) := command hI k _ _ _

theorem zeroServos : Ends I (EXERobot.zeroServos k) :=
  bind (servo k hI _ _) fun _ => command hI k _ _ _

theorem turn (left right time : ℤ) (wait : ℕ) : Ends I (EXERobot.turn k left right time wait) :=
  bind (drive k hI _ _ _) fun _ => sleep hI k wait

theorem readIRCharOf (n : ℕ) : Ends I (EXERobot.readIRCharOf k n) := by
  refine bind (refreshDigitalPins hI k) fun _ => bind (mapM (fun _ => ?_) _) fun _ => pure _
  refine bind (getIRChar hI k) fun c => bind (refreshDigitalPins hI k) fun _ => ?_
  exact bind (sleep hI k 10) fun _ => pure c

theorem getPing : Ends I (EXERobot.getPing k) :=
  bind (sumOf (bind (refreshDigitalPins hI k) fun _ => ExeRobot.Ends.getPing hI k _) 10) fun _ => pure _

theorem getConductivity : Ends I (EXERobot.getConductivity k) :=
  bind (sleep hI k 1000) fun _ => bind (refreshDigitalPins hI k) fun _ =>
    bind (ExeRobot.Ends.getConductivity hI k) fun _ => pure _

theorem getIRArray : Ends I (EXERobot.getIRArray k) := by
  refine bind (sleep hI k 1000) fun _ => bind (refreshDigitalPins hI k) fun _ => mapM (fun _ => ?_) _
  refine bind (refreshDigitalPins hI k) fun _ => bind (getIRChar hI k) fun c => ?_
  exact bind (sleep hI k 100) fun _ => pure c

theorem generateIRArrayMatrix : Ends I (EXERobot.generateIRArrayMatrix k) := by
  refine bind (zeroServos k hI) fun _ => mapM (fun index => ?_) _
  refine bind (servo k hI _ _) fun _ => bind (sleep hI k 10) fun _ => ?_
  exact bind (refreshDigitalPins hI k) fun _ => getIRArray k hI

theorem angleRecieved : Ends I (EXERobot.angleRecieved k) := by
  refine forM (fun i => ?_) _
  refine bind (servo k hI _ _) fun _ => bind (sleep hI k 100) fun _ => ?_
  exact bind (readIRCharOf k hI 4) fun _ => pure _

theorem getLocation (nav : Navigation) (quadrant : ℤ) :
    Ends I (EXERobot.getLocation k nav quadrant) := by
  intro s hs
  obtain ⟨matrix, s', hscan, hs'⟩ := generateIRArrayMatrix k hI hs
  exact ⟨_, _, getLocation_eq nav quadrant hscan, hI hs' ⟨rfl, rfl, id, id⟩⟩

/-- The density table of a scan is looked up in any case. -/
theorem testIR : Ends I (EXERobot.testIR k) := by
  intro s hs
  obtain ⟨matrix, s', hscan, hs'⟩ := generateIRArrayMatrix k hI hs
  have hrows : ∀ row ∈ matrix, row ≠ [] := fun row hrow hnil => by
    have := (generateIRArrayMatrix_shape hscan).2 row hrow
    rw [hnil] at this
    cases this
  obtain ⟨obj, hnew, htable⟩ := IRArrayDensity.new_tableOf hrows
  refine ⟨(), s', ?_, hs'⟩
  unfold EXERobot.testIR
  rw [run_bind_ok hscan, run_bind_lift, hnew]
  show ((liftM (obj.indexBetween (jc 'A') (jc 'M')) : Api L ρ ℤ) >>= _) s' = _
  rw [run_bind_lift, htable.indexBetween_eq]
  rfl

end

theorem checkBump : Ends Usable (EXERobot.checkBump k) :=
  bind (refreshDigitalPins stable_usable k) fun _ => bind (getDigitalPin k (by decide)) fun _ => pure _

theorem motorRunIndefinitely (turns : ℕ) : Ends Usable (EXERobot.motorRunIndefinitely k turns) := by
  induction turns with
  | zero => exact pure false
  | succ turns ih =>
    refine bind (checkBump k) fun bumped => ite ?_ ?_
    · exact bind (drive k stable_usable _ _ _) fun _ => pure true
    · exact bind (drive k stable_usable _ _ _) fun _ => ih

theorem getTemperature : Ends Usable (EXERobot.getTemperature k) := by
  refine bind (sumOf ?_ 10) fun _ => pure _
  refine bind (sleep stable_usable k 200) fun _ => bind (refreshAnalogPins stable_usable k) fun _ => ?_
  exact getAnalogPin k (by decide)

theorem getSlope : Ends Usable (EXERobot.getSlope k) := by
  refine bind (sleep stable_usable k 1000) fun _ => bind (refreshAnalogPins stable_usable k) fun _ => ?_
  refine bind (getAnalogPin k (by decide)) fun _ => bind (sleep stable_usable k 1000) fun _ => ?_
  exact bind (getAnalogPin k (by decide)) fun _ => pure _

theorem testTemperature : Ends Usable (EXERobot.testTemperature k) := by
  refine bind (zeroServos k stable_usable) fun _ => bind (servo k stable_usable _ _) fun _ => ?_
  refine bind (sleep stable_usable k 1000) fun _ => bind (sleep stable_usable k 9000) fun _ => ?_
  refine bind (getTemperature k) fun _ => bind (sleep stable_usable k 1000) fun _ => ?_
  exact zeroServos k stable_usable

theorem testConductivity : Ends Usable (EXERobot.testConductivity k) := by
  refine bind (zeroServos k stable_usable) fun _ => bind (servo k stable_usable _ _) fun _ => ?_
  refine bind (sleep stable_usable k 1000) fun _ => bind (sleep stable_usable k 5000) fun _ => ?_
  refine bind (getConductivity k stable_usable) fun _ => bind (sleep stable_usable k 1000) fun _ => ?_
  exact servo k stable_usable _ _

theorem testInclinometer : Ends Usable (EXERobot.testInclinometer k) :=
  bind (getSlope k) fun _ => pure _

theorem testPing : Ends Usable (EXERobot.testPing k) :=
  bind (getPing k stable_usable) fun _ => pure _

theorem yeetTheBridge : Ends Usable (EXERobot.yeetTheBridge k) := turn k stable_usable _ _ _ _

theorem moveMotor (time : ℤ) : Ends Usable (EXERobot.moveMotor k time) := drive k stable_usable _ _ _

theorem quadrantOne : Ends Usable (EXERobot.quadrantOne k) := by
  refine bind (yeetTheBridge k) fun _ => ?_
  refine bind (turn k stable_usable _ _ _ _) fun _ => ?_
  refine bind (yeetTheBridge k) fun _ => ?_
  refine bind (turn k stable_usable _ _ _ _) fun _ => ?_
  refine bind (moveMotor k 2000) fun _ => ?_
  refine bind (moveMotor k 1000) fun _ => ?_
  refine bind (sleep stable_usable k 1500) fun _ => ?_
  refine bind (turn k stable_usable _ _ _ _) fun _ => ?_
  refine bind (turn k stable_usable _ _ _ _) fun _ => ?_
  refine bind (turn k stable_usable _ _ _ _) fun _ => ?_
  refine bind (turn k stable_usable _ _ _ _) fun _ => ?_
  refine bind (yeetTheBridge k) fun _ => ?_
  refine bind (sleep stable_usable k 1000) fun _ => ?_
  refine bind (testTemperature k) fun _ => ?_
  exact testInclinometer k

theorem quadrantTwo : Ends Usable (EXERobot.quadrantTwo k) := by
  refine bind (yeetTheBridge k) fun _ => ?_
  refine bind (turn k stable_usable _ _ _ _) fun _ => ?_
  refine bind (turn k stable_usable _ _ _ _) fun _ => ?_
  refine bind (yeetTheBridge k) fun _ => ?_
  refine bind (testConductivity k) fun _ => ?_
  exact testInclinometer k

theorem quadrantThree : Ends Usable (EXERobot.quadrantThree k) := by
  refine bind (yeetTheBridge k) fun _ => ?_
  refine bind (turn k stable_usable _ _ _ _) fun _ => ?_
  refine bind (moveMotor k 3000) fun _ => ?_
  refine bind (sleep stable_usable k 3500) fun _ => ?_
  refine bind (turn k stable_usable _ _ _ _) fun _ => ?_
  refine bind (yeetTheBridge k) fun _ => ?_
  refine bind (yeetTheBridge k) fun _ => ?_
  refine bind (moveMotor k 1000) fun _ => ?_
  refine bind (testInclinometer k) fun _ => ?_
  exact moveMotor k 1000

theorem quadrantFour : Ends Usable (EXERobot.quadrantFour k) := by
  refine bind (yeetTheBridge k) fun _ => ?_
  refine bind (turn k stable_usable _ _ _ _) fun _ => ?_
  refine bind (turn k stable_usable _ _ _ _) fun _ => ?_
  refine bind (yeetTheBridge k) fun _ => ?_
  refine bind (yeetTheBridge k) fun _ => ?_
  refine bind (yeetTheBridge k) fun _ => ?_
  exact testInclinometer k

end Ends

/-- **Every operation runs to its end on a usable object**, whatever is answered, and
leaves it usable; the loop of `motorRunIndefinitely` within the polls it is given. -/
theorem Op.run_ends (turns : ℕ) (op : Op) : Ends Usable (op.run k turns) := by
  have fixed : ∀ {α : Type} {x : Api L ρ α}, Ends Usable x → Ends Usable (returning x) :=
    fun hx => Stateful.Ends.bind hx fun _ => Stateful.Ends.pure true
  have hU : Stable (Usable : Robot L ρ → Prop) := stable_usable
  cases op with
  | close => exact fixed (ExeRobot.Ends.close hU k)
  | moveMotor time => exact fixed (Ends.moveMotor k time)
  | setMeasurementServo angle => exact fixed (Ends.servo k hU _ _)
  | readIRChar => exact fixed (Ends.readIRCharOf k hU 4)
  | motorRunIndefinitely => exact Ends.motorRunIndefinitely k turns
  | checkBump => exact fixed (Ends.checkBump k)
  | getTemperature => exact fixed (Ends.getTemperature k)
  | getPing => exact fixed (Ends.getPing k hU)
  | getSlope => exact fixed (Ends.getSlope k)
  | getConductivity => exact fixed (Ends.getConductivity k hU)
  | angleRecieved => exact fixed (Ends.angleRecieved k hU)
  | turnTen => exact fixed (Ends.turn k hU _ _ _ _)
  | turnTenOpp => exact fixed (Ends.turn k hU _ _ _ _)
  | turnNinety => exact fixed (Ends.turn k hU _ _ _ _)
  | turnNinetyOpp => exact fixed (Ends.turn k hU _ _ _ _)
  | turnTenMulti x => exact fixed (Stateful.Ends.forM (fun _ => Ends.turn k hU _ _ _ _) _)
  | turnFourtyFive => exact fixed (Ends.turn k hU _ _ _ _)
  | turnFourtyFiveOpp => exact fixed (Ends.turn k hU _ _ _ _)
  | stop => exact fixed (Ends.drive k hU _ _ _)
  | defaultPing => exact fixed (Ends.servo k hU _ _)
  | releaseBall =>
    exact fixed (Stateful.Ends.bind (Ends.servo k hU _ _) fun _ =>
      Stateful.Ends.bind (ExeRobot.Ends.sleep hU k 100) fun _ => Ends.servo k hU _ _)
  | conduction =>
    exact fixed (Stateful.Ends.bind (ExeRobot.Ends.getConductivity hU k) fun _ => Stateful.Ends.pure _)
  | yeetTheBridge => exact fixed (Ends.yeetTheBridge k)
  | ballDrop => exact fixed (Ends.servo k hU _ _)
  | quadrantOne => exact fixed (Ends.quadrantOne k)
  | quadrantTwo => exact fixed (Ends.quadrantTwo k)
  | quadrantThree => exact fixed (Ends.quadrantThree k)
  | quadrantFour => exact fixed (Ends.quadrantFour k)
  | ReleaseBall =>
    exact fixed (Stateful.Ends.bind (Ends.servo k hU _ _) fun _ =>
      Stateful.Ends.bind (ExeRobot.Ends.sleep hU k 900) fun _ => Ends.servo k hU _ _)
  | test => exact fixed (ExeRobot.Ends.command hU k _ _ _)
  | goToOrigin => exact Stateful.Ends.pure true
  | zeroServos => exact fixed (Ends.zeroServos k hU)
  | frogger => exact Stateful.Ends.pure true
  | testTemperature => exact fixed (Ends.testTemperature k)
  | testConductivity => exact fixed (Ends.testConductivity k)
  | testInclinometer => exact fixed (Ends.testInclinometer k)
  | testIR => exact fixed (Ends.testIR k hU)
  | testPing => exact fixed (Ends.testPing k)
  | getIRArray => exact fixed (Ends.getIRArray k hU)
  | generateIRArrayMatrix => exact fixed (Ends.generateIRArrayMatrix k hU)
  | getLocation nav quadrant => exact fixed (Ends.getLocation k hU nav quadrant)

theorem returning_eq_true {α : Type} {x : Api L ρ α} {s t : Robot L ρ} {b : Bool}
    (h : returning x s = .ok (b, t)) : b = true := by
  obtain ⟨_, s', -, hret⟩ := bind_eq_ok.1 h
  cases hret
  rfl

/-- The operation is a loop that only its surroundings end. -/
def Op.loops : Op → Bool
  | .motorRunIndefinitely => true
  | _ => false

/-- **Every call but one returns.** -/
theorem Op.run_returns (turns : ℕ) {op : Op} (hop : op.loops = false) {s : Robot L ρ} (hs : Usable s) :
    ∃ t, op.run k turns s = .ok (true, t) ∧ Usable t := by
  obtain ⟨b, t, hrun, ht⟩ := Op.run_ends k turns op hs
  suffices b = true from ⟨t, this ▸ hrun, ht⟩
  cases op with
  | motorRunIndefinitely => cases hop
  | goToOrigin => cases hrun; rfl
  | frogger => cases hrun; rfl
  | _ => exact returning_eq_true hrun

theorem Op.returns {op : Op} (hop : op.loops = false) {s : Robot L ρ} (hs : Usable s) :
    ∃ t, op.Returns k s t ∧ Usable t := by
  obtain ⟨t, hrun, ht⟩ := Op.run_returns k 0 hop hs
  exact ⟨t, ⟨0, hrun⟩, ht⟩

/-- Calls in sequence return. -/
theorem runOps_returns {ops : List Op} (hops : ∀ op ∈ ops, op.loops = false) {s : Robot L ρ}
    (hs : Usable s) : ∃ t, RunOps k ops s t ∧ Usable t := by
  induction ops generalizing s with
  | nil => exact ⟨s, .nil s, hs⟩
  | cons op ops ih =>
    obtain ⟨s', hfirst, hs'⟩ := Op.returns k (hops op (List.mem_cons_self ..)) hs
    obtain ⟨t, hrest, ht⟩ := ih (fun op' h => hops op' (List.mem_cons_of_mem _ h)) hs'
    exact ⟨t, .cons hfirst hrest, ht⟩

/-- The constructor leaves a usable object. -/
theorem construct_returns (link : L) : ∃ t, construct k (new link) = .ok ((), t) ∧ Usable t := by
  have hopened : Usable (opened k link : Robot L ρ) :=
    ⟨rfl, rfl, fun c hc => (by cases hc), fun c hc => by cases hc⟩
  obtain ⟨_, s, hrefresh, hs⟩ := ExeRobot.Ends.refreshAnalogPins stable_usable k hopened
  obtain ⟨_, t, hzero, ht⟩ := Ends.zeroServos k stable_usable hs
  exact ⟨t, (run_bind_ok ((connect_new k link).trans hrefresh)).trans hzero, ht⟩

/-- A board that never answers. -/
def silent : Link Unit Unit where
  text := fun _ => []
  sendRaw := fun _ _ _ _ => ((), ())
  sleep := fun _ _ => ()

/-- Calls on a new object whose board never answers. -/
theorem runOps_silent (ops : List Op) (hops : ∀ op ∈ ops, op.loops = false) : ∃ s t : Robot Unit Unit,
    construct silent (new ()) = .ok ((), s) ∧ RunOps silent ops s t := by
  obtain ⟨s, hnew, hs⟩ := construct_returns silent ()
  obtain ⟨t, hrun, -⟩ := runOps_returns silent hops hs
  exact ⟨s, t, hnew, hrun⟩

end EXERobot
end ExeRobot
