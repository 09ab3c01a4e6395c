/-
# Where each method leads

One lemma for each method that does more than to check its arguments and send a line,
and from them `Call.leads`: a call ends where a path of changes leads, with the labels
that `Call.May` allows.  The labels under which motors may run without their flags come
up in calls that are not `Orderly` only: one that stops a motor and is refused after
its flag has been cleared, one that gives a motor two speeds, one that leaves a motor
running while the checks are overridden, and the mixer.
-/

import ExeRobot.Device.Quiet

namespace ExeRobot
namespace Device

open Persistent Labelled

variable {P : Type} {hw : Hardware} {port : Port P} {turns : ℕ} {ok : Label → Prop}
variable {d d' e : Device P} {line : Line} {reply : JString}

/-! ### Indices -/

theorem index_eq_ok {n : ℕ} {v : ℤ} {i : Fin n} : index n v = .ok i ↔ (i : ℤ) = v := by
  unfold index
  split
  · rw [Except.ok.injEq, Fin.ext_iff]
    show v.toNat = i.val ↔ _
    omega
  · constructor
    · intro h
      cases h
    · intro h
      have := i.isLt
      omega

theorem orders_cons {m : ℤ × ℤ} {motors : List (ℤ × ℤ)} {os : List (Fin 4 × ℤ)}
    (h : orders (m :: motors) = .ok os) :
    ∃ (i : Fin 4) (os' : _), (i : ℤ) = m.1 ∧ orders motors = .ok os' ∧ os = (i, m.2) :: os' := by
  unfold orders at h ⊢
  rw [List.mapM_cons] at h
  cases hi : index 4 m.1 with
  | error f =>
    rw [hi] at h
    cases h
  | ok i =>
    rw [hi] at h
    change ((motors.mapM fun m => (index 4 m.1).map fun i => (i, m.2)) >>=
      fun os' => pure ((i, m.2) :: os')) = _ at h
    cases hrest : motors.mapM fun m => (index 4 m.1).map fun i => (i, m.2) with
    | error f =>
      rw [hrest] at h
      cases h
    | ok os' =>
      rw [hrest] at h
      cases h
      exact ⟨i, os', index_eq_ok.1 hi, rfl, rfl⟩

theorem orders_one {m s : ℤ} {os : List (Fin 4 × ℤ)} (h : orders [(m, s)] = .ok os) :
    ∃ i : Fin 4, (i : ℤ) = m ∧ os = [(i, s)] := by
  obtain ⟨i, os', hi, hos', rfl⟩ := orders_cons h
  cases hos'
  exact ⟨i, hi, rfl⟩

theorem orders_two {m s m' s' : ℤ} {os : List (Fin 4 × ℤ)} (h : orders [(m, s), (m', s')] = .ok os) :
    ∃ i i' : Fin 4, (i : ℤ) = m ∧ (i' : ℤ) = m' ∧ os = [(i, s), (i', s')] := by
  obtain ⟨i, os', hi, hos', rfl⟩ := orders_cons h
  obtain ⟨i', hi', rfl⟩ := orders_one hos'
  exact ⟨i, i', hi, hi', rfl⟩

/-- A line without a time of 0 leaves none of its motors running. -/
theorem leavesRunning_of_mem {i : Fin 4} (h : (i : ℤ) ∈ line.motors.map Prod.fst)
    (hforever : line.forever = false) : line.leavesRunning i = some false := by
  unfold Line.leavesRunning
  rw [if_pos h, hforever, Bool.false_and]

/-! ### Sending -/

/-- Sending does not depend on the flags of motors. -/
theorem Exchanged.running {f : Fin 4 → Bool}
    (h : Exchanged port { d with motorsRunning := f } e line reply) :
    ∃ e', Exchanged port d e' line reply ∧ e = { e' with motorsRunning := f } := by
  obtain ⟨hc, wait, turns, rfl⟩ := h
  exact ⟨_, ⟨hc, wait, turns, rfl⟩, rfl⟩

theorem Exchanged.leftRunning (h : Exchanged port d e line reply) (i : Fin 4) :
    leftRunning e.log i = (line.leavesRunning i).getD (leftRunning d.log i) := by
  obtain ⟨-, wait, turns, rfl⟩ := h
  exact leftRunning_append_singleton d.log (.sent line wait reply) i

/-- Errors do not say anything about motors. -/
theorem leftRunning_append_errors {errors : List Entry} (h : ∀ x ∈ errors, x.isError = true)
    (log : List Entry) (i : Fin 4) : leftRunning (log ++ errors) i = leftRunning log i := by
  induction errors generalizing log with
  | nil => rw [List.append_nil]
  | cons x errors ih =>
    obtain ⟨hx, herrors⟩ := List.forall_mem_cons.1 h
    rw [List.append_cons, ih herrors, leftRunning_append_singleton]
    cases x with
    | error message method => rfl
    | _ => cases hx

/-- What `ask` changes. -/
theorem ask_frame {wait : ℕ} (h : ask port turns line wait d = .ok reply e) :
    ∃ p l, e = { d with port := p, log := l, attemptTryAgain := false } :=
  (wp_of_ok h).1 (wp_ask_frame d)

section

variable (hok : ∀ l : Label, l.common = true → ok l)

include hok

/-- A line after which the method may wait, started where a path has led or is about to. -/
theorem wp_sendFor {Q : Unit → Device P → Prop} {time : ℤ} (hc : d'.connected = true)
    (hstep : ∀ reply e, Exchanged port d' e line reply → Steps (Change hw port) ok d e)
    (hQ : ∀ e, Steps (Change hw port) ok d e →
      (∀ i, leftRunning e.log i = (line.leavesRunning i).getD (leftRunning d'.log i)) → Q () e) :
    wp (sendFor port turns line time) Q (fun _ e => Steps (Change hw port) ok d e) d' := by
  unfold sendFor
  rw [wp_bind]
  refine wp_sendRaw hc (fun reply e errors he herrors => ?_) fun e errors he herrors =>
    (hstep [] e he).trans (Leads.noted hok herrors e)
  have hend := (hstep reply e he).trans (Leads.noted hok herrors e)
  have hlog : ∀ i, leftRunning (e.log ++ errors) i =
      (line.leavesRunning i).getD (leftRunning d'.log i) := fun i => by
    rw [leftRunning_append_errors herrors, he.leftRunning]
  refine wp_ite (fun _ => wp_sleepFor (fun _ => hend) fun _ => ?_) fun _ => hQ _ hend hlog
  refine hQ _ (hend.trans (Steps.single (hok .note rfl) (.slept _ time.toNat))) fun i => ?_
  rw [leftRunning_append_singleton]
  exact hlog i

/-- The flags of motors that are not left running are cleared. -/
theorem wp_clearRunning {motors : List ℤ} (hpath : Steps (Change hw port) ok d d')
    (h : ∀ m ∈ motors, ∀ i : Fin 4, (i : ℤ) = m → leftRunning d'.log i = false) :
    wp (clearRunning motors) (fun _ e => Steps (Change hw port) ok d e)
      (fun _ e => Steps (Change hw port) ok d e) d' := by
  unfold clearRunning
  refine wp_mono (wp_forM (I := fun s : Device P => Steps (Change hw port) ok d s ∧ s.log = d'.log)
    (fun m hm s hs => ?_) ⟨hpath, rfl⟩) (fun _ _ he => he.1) fun _ _ he => he
  rw [wp_bind]
  refine wp_lift (fun i hi => ?_) fun _ _ => hs.1
  have hidle : leftRunning s.log i = false := by
    rw [hs.2]
    exact h m hm i (index_eq_ok.1 hi)
  exact ⟨hs.1.trans (Steps.single (hok .finish rfl) (.finish s i hidle)), hs.2⟩

/-! ### Attaching and refreshing -/

theorem leads_attach (k : Kind) (method : String) (wait : ℕ) (number pin : ℤ) :
    Leads hw port ok (attach port turns k method wait number pin) d := by
  unfold attach
  refine Leads.get_bind (Leads.guarded hok fun hc => ?_)
  simp only [forall_check, notConnected_bad] at hc
  obtain ⟨hconn, -, hflag, havailable, -⟩ := hc
  obtain ⟨i, hi, hfree⟩ : ∃ i : Fin k.count, (i : ℤ) = number ∧ d.attached k i = false := by
    cases hi : index k.count number with
    | error f => simp [hi, Except.map] at hflag
    | ok i => exact ⟨i, index_eq_ok.1 hi, by simpa [hi, Except.map] using hflag⟩
  obtain ⟨pins, hpins, hpin⟩ : ∃ pins, d.digitalPinsAvailable = some pins ∧ pin ∈ pins := by
    cases hpins : d.digitalPinsAvailable with
    | none => simp [hpins, nonNull, Except.map] at havailable
    | some pins => exact ⟨pins, rfl, by simpa [hpins, nonNull, Except.map] using havailable⟩
  subst hi
  have hagain : Steps (Change hw port) ok d { d with attemptTryAgain := true } :=
    Steps.single (hok .flag rfl) (.flag d true d.waitForResponse d.moveEncodedMotor)
  have hfree' : ({ d with attemptTryAgain := true } : Device P).attached k i = false := by
    cases k <;> exact hfree
  -- the end of `ask`, after the change that the exchange is
  have hrest : ∀ (e : Device P) errors, (∀ x ∈ errors, x.isError = true) →
      Steps (Change hw port) ok d e →
      Steps (Change hw port) ok d { e with log := e.log ++ errors, attemptTryAgain := false } :=
    fun e errors herrors he => (he.trans (Leads.noted hok herrors e)).trans
      (Steps.single (hok .flag rfl) (.flag { e with log := e.log ++ errors } false e.waitForResponse
        e.moveEncodedMotor))
  unfold Leads ask setAttemptTryAgain
  simp only [wp_bind, wp_modify]
  refine wp_sendRaw hconn (fun reply e errors he herrors => ?_) fun e errors he herrors => ?_
  · show wp (if reply ≠ (k.line i pin).text then
          error ("Invalid response from the arduino: " ++ shown reply) method
        else do
          let i ← lift (index k.count i)
          modify fun d => d.attachedTo pin k i : Act P Unit)
        (fun _ e => Steps (Change hw port) ok d e) (fun _ e => Steps (Change hw port) ok d e)
        { e with log := e.log ++ errors, attemptTryAgain := false }
    refine wp_ite (fun hne => ?_) fun heq => ?_
    · have hrefused :=
        hagain.trans (Steps.single (hok .send rfl) (.refused hfree' hpins hpin hne he))
      exact (hrest e errors herrors hrefused).trans (Steps.single (hok .note rfl) (.note _ _ _))
    · rw [not_not] at heq
      subst heq
      have hattached :=
        hagain.trans (Steps.single (hok .attach rfl) (.attach hfree' hpins hpin he))
      rw [wp_bind]
      refine wp_lift (fun j hj => ?_) fun _ hf => ?_
      · have hij : j = i := Fin.ext (by have := index_eq_ok.1 hj; omega)
        subst hij
        have := hrest (e.attachedTo pin k j) errors herrors hattached
        cases k <;> exact this
      · have := index_eq_ok.2 (rfl : (i : ℤ) = i)
        rw [hf] at this
        cases this
  · have hreply : ([] : JString) ≠ (k.line i pin).text := by
      cases k <;> simp [Kind.line, Line.text, line]
    have hrefused :=
      hagain.trans (Steps.single (hok .send rfl) (.refused hfree' hpins hpin hreply he))
    exact hrefused.trans (Leads.noted hok herrors e)

/-- A refresh whose `store` is a change. -/
theorem leads_refresh {l : Label} {available : Device P → Option (List ℤ)}
    {store : List ℤ → Device P → Device P} {values : ℕ → JString → List ℤ × Option ApiError}
    {method : String} (hl : ok l)
    (hstore : ∀ (d : Device P) pins cache, available d = some pins → cache.length = pins.length →
      Change hw port l d (store cache d))
    (hlen : ∀ n reply, (values n reply).1.length = n)
    (hplain : line.isAttach = false ∧ line.motors = []) (hasked : line.asked = true)
    (hchecked : line.Checked)
    (hserves : ∀ d : Device P, d.Serves line)
    (havailable : ∀ (d : Device P) cache, available (store cache d) = available d)
    (hframe : ∀ (d : Device P) p b l,
      available { d with port := p, attemptTryAgain := b, log := l } = available d) :
    Leads hw port ok (refresh port turns available store line values method) d := by
  unfold refresh
  refine Leads.get_bind (Leads.lift_bind fun pins hpins => ?_)
  have hpins : available d = some pins := by
    cases h : available d with
    | none =>
      rw [h] at hpins
      cases hpins
    | some pins' =>
      rw [h] at hpins
      cases hpins
      rfl
  refine Leads.modify_bind hl (hstore d pins _ hpins (List.length_replicate ..)) ?_
  refine Leads.get_bind (Leads.guarded hok fun hc => ?_)
  simp only [forall_check, notConnected_bad] at hc
  refine (Leads.ask hok hc.1 hplain hasked (.inr hchecked) (hserves _)).bind fun reply e he => ?_
  obtain ⟨p, b, rfl⟩ := ask_frame he
  refine Leads.modify_bind hl (hstore _ pins _ ?_ (hlen _ reply)) ?_
  · rw [hframe, havailable, hpins]
  · cases (values pins.length reply).2 with
    | none => exact Leads.pure ()
    | some e => exact Leads.error hok _ _

theorem leads_refreshAnalogPins : Leads hw port ok (refreshAnalogPins port turns) d :=
  leads_refresh hok (hok .analog rfl) (fun _ _ _ => .analog) RXTXRobot.length_analogValues
    ⟨rfl, rfl⟩ rfl trivial (fun _ => trivial) (fun _ _ => rfl) fun _ _ _ _ => rfl

theorem leads_refreshDigitalPins (hdigital : ok .digital) :
    Leads hw port ok (refreshDigitalPins port turns) d :=
  leads_refresh hok hdigital (fun _ _ _ => .digital) RXTXRobot.length_digitalValues
    ⟨rfl, rfl⟩ rfl trivial (fun _ => trivial) (fun _ _ => rfl) fun _ _ _ _ => rfl

theorem leads_pinEntry (available cache : Option (List ℤ)) (x : ℤ) (noun method : String) :
    Leads hw port ok (pinEntry available cache x noun method : Act P (Option ℤ)) d := by
  unfold pinEntry
  refine Leads.lift_bind fun pins _ => Leads.ite (fun _ => ?_) fun _ => ?_
  · exact Leads.lift_bind fun values _ => Leads.lift_bind fun v _ => Leads.pure _
  · exact (Leads.error hok _ _).bind fun _ _ _ => Leads.pure _

/-! ### Sensors -/

theorem leads_getTemperature (hquiet : d.attemptTryAgain = false) :
    Leads hw port ok (getTemperature port turns) d := by
  unfold getTemperature
  refine Leads.get_bind (Leads.guarded hok fun hc => ?_)
  simp only [forall_check, notConnected_bad] at hc
  have hsend : Leads hw port ok (sendRaw port turns .temperature 1000)
      { d with waitForResponse := true } :=
    Leads.sendRaw hok hc.1 fun _ _ he =>
      Leads.plain hok ⟨rfl, rfl⟩ (.inr hquiet) (.inr (show Line.temperature.Checked from trivial))
        trivial he
  exact Leads.setWaitForResponse_bind hok (hsend.bind fun _ _ _ =>
    Leads.setWaitForResponse_bind hok (Leads.orReport hok _ _ _))

/-- A sensor method: a line is asked, and what follows only reports. -/
theorem leads_query {α : Type} {checks : List Check} {r : α} {wait : ℕ} {f : JString → Act P α}
    (line : Line) (hplain : line.isAttach = false ∧ line.motors = []) (hasked : line.asked = true)
    (hc : (∀ c ∈ checks, c.bad = .ok false) → d.connected = true ∧
      (d.overrideValidation = true ∨ line.Checked) ∧ Serves { d with attemptTryAgain := true } line)
    (hf : ∀ response e, Leads hw port ok (f response) e) :
    Leads hw port ok (guarded checks r (ask port turns line wait >>= f)) d :=
  Leads.guarded hok fun h =>
    (Leads.ask hok (hc h).1 hplain hasked (hc h).2.1 (hc h).2.2).bind fun response e _ => hf response e

theorem leads_readCompass : Leads hw port ok (readCompass port turns) d :=
  Leads.get_bind (leads_query hok .conductivity ⟨rfl, rfl⟩ rfl
    (fun h => ⟨notConnected_bad.1 (forall_check.1 h).1, .inr trivial, trivial⟩)
    fun _ _ => Leads.orReport hok _ _ _)

theorem leads_getPing (pin : ℤ) : Leads hw port ok (getPing port turns pin) d := by
  refine Leads.get_bind (leads_query hok (.ping pin) ⟨rfl, rfl⟩ rfl (fun h => ?_) fun response e => ?_)
  · simp only [forall_check] at h
    refine ⟨by simpa using h.1, .inr trivial, ?_⟩
    cases hpins : d.digitalPinsAvailable with
    | none => simp [hpins, nonNull, Except.map] at h
    | some pins => exact ⟨pins, rfl, by simpa [hpins, nonNull, Except.map] using h.2.1⟩
  · split
    · exact Leads.pure _
    · exact (Leads.error hok _ _).bind fun _ _ _ => (Leads.errorLine hok _).bind fun _ _ _ =>
        Leads.pure _
    · exact (Leads.error hok _ _).bind fun _ _ _ => Leads.pure _

theorem leads_getConductivity : Leads hw port ok (getConductivity port turns) d :=
  Leads.get_bind (leads_query hok .conductivity ⟨rfl, rfl⟩ rfl
    (fun h => ⟨by simpa using (forall_check.1 h).1, .inr trivial, trivial⟩)
    fun _ _ => Leads.orReport hok _ _ _)

theorem leads_getIRChar : Leads hw port ok (getIRChar port turns) d :=
  Leads.get_bind (leads_query hok .irChar ⟨rfl, rfl⟩ rfl
    (fun h => ⟨by simpa using (forall_check.1 h).1, .inr trivial, trivial⟩)
    fun _ _ => Leads.orReport hok _ _ _)

theorem leads_getGyroscope : Leads hw port ok (getGyroscope port turns) d :=
  Leads.get_bind (leads_query hok .gyroscope ⟨rfl, rfl⟩ rfl
    (fun h => ⟨by simpa using (forall_check.1 h).1, .inr trivial, trivial⟩)
    fun _ _ => (Leads.warn hok _).bind fun _ _ _ => (Leads.warn hok _).bind fun _ _ _ => Leads.pure _)

theorem leads_getGPSCoordinates : Leads hw port ok (getGPSCoordinates port turns) d :=
  Leads.get_bind (leads_query hok .gyroscope ⟨rfl, rfl⟩ rfl
    (fun h => ⟨by simpa using (forall_check.1 h).1, .inr trivial, trivial⟩)
    fun _ _ => Leads.ite (fun _ => (Leads.error hok _ _).bind fun _ _ _ => Leads.pure _)
      fun _ => Leads.pure _)

theorem leads_ticksOf (response : JString) : Leads hw port ok (ticksOf response) d := by
  unfold ticksOf
  refine Leads.ite (fun _ => (Leads.error hok _ _).bind fun _ _ _ => Leads.pure _) fun _ => ?_
  split
  · exact Leads.pure _
  · exact Leads.throw _

theorem leads_getEncodedMotorPosition (motor : ℤ) :
    Leads hw port ok (getEncodedMotorPosition port turns motor) d :=
  Leads.get_bind (leads_query hok (.encodedMotorPosition motor) ⟨rfl, rfl⟩ rfl
    (fun h => by
      simp only [forall_check, notConnected_bad, invalid_bad, outside_eq_false] at h
      exact ⟨h.1, h.2.1, trivial⟩)
    fun _ _ => leads_ticksOf hok _)

theorem leads_getPCAEncodedMotorTicks (channel : ℤ) :
    Leads hw port ok (getPCAEncodedMotorTicks port turns channel) d :=
  Leads.get_bind (leads_query hok (.pcaEncodedMotorTicks channel) ⟨rfl, rfl⟩ rfl
    (fun h => ⟨notConnected_bad.1 (forall_check.1 h).1, .inr trivial, trivial⟩)
    fun _ _ => leads_ticksOf hok _)

/-! ### Lines that are sent and not evaluated -/

section

variable (hquiet : d.attemptTryAgain = false)

include hquiet

/-- A method that checks its arguments and sends a plain line. -/
theorem leads_command {checks : List Check} (line : Line)
    (hplain : line.isAttach = false ∧ line.motors = [])
    (hc : (∀ c ∈ checks, c.bad = .ok false) → d.connected = true ∧
      (d.overrideValidation = true ∨ line.Checked) ∧ d.Serves line) :
    Leads hw port ok (guarded checks () (send port turns line)) d :=
  Leads.guarded hok fun h => Leads.send hok (hc h).1 hplain hquiet (hc h).2.1 (hc h).2.2

theorem leads_resetEncodedMotorPosition (motor : ℤ) :
    Leads hw port ok (resetEncodedMotorPosition port turns motor) d := by
  refine Leads.get_bind (Leads.guarded hok fun h => ?_)
  simp only [forall_check, notConnected_bad, invalid_bad, outside_eq_false] at h
  exact Leads.acknowledged hok h.1 ⟨rfl, rfl⟩ hquiet h.2.1 trivial

theorem leads_setMotorRampUpTime (millis : ℤ) :
    Leads hw port ok (setMotorRampUpTime port turns millis) d := by
  refine Leads.get_bind (Leads.guarded hok fun h => ?_)
  simp only [forall_check, notConnected_bad, Except.ok.injEq, decide_eq_false_iff_not, not_lt] at h
  exact Leads.acknowledged hok h.1 ⟨rfl, rfl⟩ hquiet
    (.inr (show (Line.motorRampUpTime millis).Checked from h.2.1)) trivial

theorem leads_moveServo (servo position : ℤ) :
    Leads hw port ok (moveServo port turns servo position) d := by
  refine Leads.get_bind (leads_command hok hquiet (.moveServo servo position) ⟨rfl, rfl⟩ fun h => ?_)
  simp only [forall_check, notConnected_bad, invalid_bad, outside_eq_false] at h
  obtain ⟨hconn, -, hattached, hposition, -⟩ := h
  obtain ⟨i, hi, hservo⟩ : ∃ i : Fin 3, (i : ℤ) = servo ∧ d.servosAttached i = true := by
    cases hi : index 3 servo with
    | error f => simp [hi, Except.map] at hattached
    | ok i => exact ⟨i, index_eq_ok.1 hi, by simpa [hi, Except.map] using hattached⟩
  have hrange : Line.Within 0 2 servo := ⟨by omega, by omega⟩
  exact ⟨hconn, hposition.imp_right fun hp => ⟨hrange, hp⟩, i, hi, hservo⟩

theorem leads_moveAllServos (pos1 pos2 pos3 : ℤ) :
    Leads hw port ok (moveAllServos port turns pos1 pos2 pos3) d := by
  refine Leads.get_bind
    (leads_command hok hquiet (.moveAllServos pos1 pos2 pos3) ⟨rfl, rfl⟩ fun h => ?_)
  rw [List.cons_append, forall_check, notConnected_bad, List.forall_mem_append] at h
  obtain ⟨hconn, hservos, hpositions⟩ := h
  simp only [forall_check, invalid_bad, Bool.or_eq_false_iff, outside_eq_false] at hpositions
  refine ⟨hconn, hpositions.1.imp_right fun hp => ⟨hp.1.1, hp.1.2, hp.2⟩, fun i => ?_⟩
  have := hservos _ (List.mem_map_of_mem (List.mem_finRange i))
  simpa [servoMissing] using this

/-! ### The PCA board -/

theorem leads_runPCAServo (channel position : ℤ) :
    Leads hw port ok (runPCAServo port turns channel position) d :=
  Leads.get_bind (leads_command hok hquiet (.pcaServo channel position) ⟨rfl, rfl⟩ fun h => by
    simp only [forall_check, notConnected_bad, invalid_bad, outside_eq_false] at h
    exact ⟨h.1, h.2.1, trivial⟩)

theorem leads_runPCATimedServo (channel position duration : ℤ) :
    Leads hw port ok (runPCATimedServo port turns channel position duration) d :=
  Leads.get_bind (leads_command hok hquiet (.pcaTimedServo channel position duration) ⟨rfl, rfl⟩ fun h => by
    simp only [forall_check, notConnected_bad, invalid_bad, outside_eq_false] at h
    exact ⟨h.1, h.2.1, trivial⟩)

theorem leads_runPCAContServo (channel speed : ℤ) :
    Leads hw port ok (runPCAContServo port turns channel speed) d :=
  Leads.get_bind (leads_command hok hquiet (.pcaContServo channel speed) ⟨rfl, rfl⟩ fun h => by
    simp only [forall_check, notConnected_bad, invalid_bad, outside_eq_false] at h
    exact ⟨h.1, h.2.1, trivial⟩)

theorem leads_runPCATimedContServo (channel speed duration : ℤ) :
    Leads hw port ok (runPCATimedContServo port turns channel speed duration) d :=
  Leads.get_bind (leads_command hok hquiet (.pcaTimedContServo channel speed duration) ⟨rfl, rfl⟩ fun h => by
    simp only [forall_check, notConnected_bad, invalid_bad, outside_eq_false] at h
    exact ⟨h.1, h.2.1, trivial⟩)

theorem leads_runPCAMotor (channel speed time : ℤ) :
    Leads hw port ok (runPCAMotor port turns channel speed time) d := by
  refine Leads.get_bind ?_
  by_cases ht : time = 0
  · rw [if_neg (not_not.2 ht)]
    exact leads_command hok hquiet (.pcaMotor channel speed) ⟨rfl, rfl⟩ fun h =>
      ⟨notConnected_bad.1 (forall_check.1 h).1, .inr trivial, trivial⟩
  · rw [if_pos ht]
    refine leads_command hok hquiet (.pcaTimedMotor channel speed time) ⟨rfl, rfl⟩ fun h => ?_
    simp only [forall_check, notConnected_bad, invalid_bad, outside_eq_false] at h
    exact ⟨h.1, h.2.1.imp_right fun hp => ⟨by omega, hp.2⟩, trivial⟩

theorem leads_runTwoPCAMotor (channel1 speed1 channel2 speed2 time : ℤ) :
    Leads hw port ok (runTwoPCAMotor port turns channel1 speed1 channel2 speed2 time) d := by
  refine Leads.get_bind ?_
  by_cases ht : time = 0
  · rw [if_neg (not_not.2 ht)]
    exact leads_command hok hquiet (.twoPCAMotor channel1 speed1 channel2 speed2) ⟨rfl, rfl⟩ fun h =>
      ⟨notConnected_bad.1 (forall_check.1 h).1, .inr trivial, trivial⟩
  · rw [if_pos ht]
    refine leads_command hok hquiet (.twoPCATimedMotor channel1 speed1 channel2 speed2 time) ⟨rfl, rfl⟩
      fun h => ?_
    simp only [forall_check, notConnected_bad, invalid_bad, outside_eq_false] at h
    exact ⟨h.1, h.2.1.imp_right fun hp => ⟨by omega, hp.2⟩, trivial⟩

theorem leads_runPCAEncoder (channel speed pin ticks : ℤ) :
    Leads hw port ok (runPCAEncoder port turns channel speed pin ticks) d :=
  Leads.get_bind (leads_command hok hquiet (.pcaEncoder channel speed pin ticks) ⟨rfl, rfl⟩ fun h =>
    ⟨notConnected_bad.1 (forall_check.1 h).1, .inr trivial, trivial⟩)

theorem leads_runTwoPCAEncoder (channel1 speed1 pin1 ticks1 channel2 speed2 pin2 ticks2 : ℤ) :
    Leads hw port ok
      (runTwoPCAEncoder port turns channel1 speed1 pin1 ticks1 channel2 speed2 pin2 ticks2) d :=
  Leads.get_bind (leads_command hok hquiet
    (.twoPCAEncoder channel1 speed1 pin1 ticks1 channel2 speed2 pin2 ticks2) ⟨rfl, rfl⟩ fun h =>
      ⟨notConnected_bad.1 (forall_check.1 h).1, .inr trivial, trivial⟩)

/-- A line that is sent without a check of the connection. -/
theorem leads_unguarded (line : Line) (hplain : line.isAttach = false ∧ line.motors = [])
    (hchecked : line.Checked) (hserves : d.Serves line) :
    Leads hw port ok (send port turns line) d := by
  rcases Bool.eq_false_or_eq_true d.connected with hc | hc
  · exact Leads.send hok hc hplain hquiet (.inr hchecked) hserves
  · exact (Leads.sendRaw_of_not_connected hok hc).bind fun _ _ _ => Leads.pure ()

end

/-! ### Motors -/

/-- Flags that are set before the method gives up. -/
theorem path_early {os : List (Fin 4 × ℤ)} (hres : d.Reserved os)
    (hlapse : ∀ o ∈ os, o.2 = 0 → ok .lapse) :
    Steps (Change hw port) ok d { d with motorsRunning := setRunning os d.motorsRunning } := by
  by_cases hup : ∀ o ∈ os, o.2 ≠ 0
  · exact Steps.single (hok .raise rfl) (.raise hres hup)
  · obtain ⟨o, ho, hzero⟩ : ∃ o ∈ os, o.2 = 0 := by simpa using hup
    exact Steps.single (hlapse o ho hzero) (.lapse hres)

variable (line) in
/-- A line that runs motors, sent with their flags set. -/
theorem path_driven {os : List (Fin 4 × ℤ)} (hos : orders line.motors = .ok os)
    (hres : d.Reserved os) (hchecked : line.Checked) (hserves : d.Serves line)
    (hplain : line.isAttach = false) (hquiet : d.attemptTryAgain = false)
    (hclash : ¬ (line.forever = true → (os.map Prod.fst).Nodup) → ok .clash)
    (he : Exchanged port { d with motorsRunning := setRunning os d.motorsRunning } e line reply) :
    Steps (Change hw port) ok d e := by
  obtain ⟨e', he', rfl⟩ := he.running
  by_cases hdistinct : line.forever = true → (os.map Prod.fst).Nodup
  · exact Steps.single (hok .drive rfl) (.drive hos hres hchecked hserves hplain hquiet hdistinct he')
  · exact Steps.single (hclash hdistinct) (.clash hos hres hchecked hserves hplain hquiet he')

variable (line) in
/-- A line that is sent with the checks overridden. -/
theorem path_overridden (ho : d.overrideValidation = true) (hplain : line.isAttach = false)
    (hserves : d.Serves line) (hquiet : d.attemptTryAgain = false)
    (hbypass : line.forever = true → ∀ o ∈ line.motors, o.2 ≠ 0 → ok .bypass)
    (he : Exchanged port d e line reply) : Steps (Change hw port) ok d e := by
  refine Steps.single ?_ (.overridden ho hplain hserves hquiet he)
  split
  · obtain ⟨hforever, o, ho, hspeed⟩ := ‹Spins line›
    exact hbypass hforever o ho hspeed
  · exact hok .send rfl

/-- The last part of a method that runs motors for a time. -/
theorem wp_sendFor_clear {motors : List ℤ} {time : ℤ} (hc : d'.connected = true)
    (hstep : ∀ reply e, Exchanged port d' e line reply → Steps (Change hw port) ok d e)
    (hidle : time ≠ 0 → ∀ m ∈ motors, ∀ i : Fin 4, (i : ℤ) = m → line.leavesRunning i = some false) :
    wp (do sendFor port turns line time; if time ≠ 0 then clearRunning motors)
      (fun _ e => Steps (Change hw port) ok d e) (fun _ e => Steps (Change hw port) ok d e) d' := by
  rw [wp_bind]
  refine wp_sendFor hok hc hstep fun e he hlog => wp_ite (fun ht => ?_) fun _ => he
  refine wp_clearRunning hok he fun m hm i hi => ?_
  rw [hlog, hidle ht m hm i hi, Option.getD_some]

/-- A line that moves motors for a number of ticks, and what follows it. -/
theorem wp_runEncoded {motors : List ℤ} (hc : d'.connected = true)
    (hstep : ∀ reply e, Exchanged port { d' with moveEncodedMotor := true } e line reply →
      Steps (Change hw port) ok d e)
    (hidle : ∀ m ∈ motors, ∀ i : Fin 4, (i : ℤ) = m → line.leavesRunning i = some false) :
    wp (runEncoded port turns line motors) (fun _ e => Steps (Change hw port) ok d e)
      (fun _ e => Steps (Change hw port) ok d e) d' := by
  unfold runEncoded
  rw [wp_bind, wp_setMoveEncodedMotor, wp_bind]
  unfold send
  rw [wp_bind]
  refine wp_sendRaw hc (fun reply e errors he herrors => ?_) fun e errors he herrors =>
    (hstep [] e he).trans (Leads.noted hok herrors e)
  have hflag := ((hstep reply e he).trans (Leads.noted hok herrors e)).trans
    (Steps.single (hok .flag rfl) (.flag _ e.attemptTryAgain e.waitForResponse false))
  show wp (do setMoveEncodedMotor false; clearRunning motors; sleep port 1000) _ _ _
  rw [wp_bind, wp_setMoveEncodedMotor, wp_bind]
  refine wp_mono (wp_clearRunning hok hflag fun m hm i hi => ?_) (fun _ e he => ?_) fun _ _ he => he
  · show leftRunning (e.log ++ errors) i = false
    rw [leftRunning_append_errors herrors, he.leftRunning]
    show ((line.leavesRunning i).getD _) = false
    rw [hidle m hm i hi, Option.getD_some]
  · exact he.trans (Steps.single (hok .note rfl) (.slept e 1000))

/-- A method that goes on under the limit on running motors. -/
theorem leads_limited {motors : List (ℤ × ℤ)} {body : Act P Unit}
    (hbody : ∀ os, orders motors = .ok os → d.Reserved os →
      wp body (fun _ e => Steps (Change hw port) ok d e) (fun _ e => Steps (Change hw port) ok d e)
        { d with motorsRunning := setRunning os d.motorsRunning })
    (hover : d.overrideValidation = true → Leads hw port ok body d) :
    Leads hw port ok (limited motors body) d :=
  wp_limited (fun _ _ => Steps.refl d)
    (fun message method => Steps.single (hok .note rfl) (.note d message method)) hbody hover

/-- Checks that are made while the flags are set. -/
theorem wp_guarded_early {checks : List Check} {body : Act P Unit}
    (hearly : ¬ (∀ c ∈ checks, c.bad = .ok false) → Steps (Change hw port) ok d d')
    (hbody : (∀ c ∈ checks, c.bad = .ok false) →
      wp body (fun _ e => Steps (Change hw port) ok d e)
        (fun _ e => Steps (Change hw port) ok d e) d') :
    wp (guarded checks () body) (fun _ e => Steps (Change hw port) ok d e)
      (fun _ e => Steps (Change hw port) ok d e) d' := by
  have hfails : ∀ c ∈ checks, c.bad ≠ .ok false → Steps (Change hw port) ok d d' :=
    fun c hc hbad => hearly fun h => hbad (h c hc)
  refine wp_guarded (fun c hc f hf => hfails c hc (by simp [hf])) (fun c hc hbad => ?_) hbody
  exact (hfails c hc (by simp [hbad])).trans
    (Steps.single (hok .note rfl) (.note d' c.message (some c.method)))

section

variable (hquiet : d.attemptTryAgain = false)

include hquiet

theorem leads_runMotor {motor speed time : ℤ}
    (hlapse : d.overrideValidation = false → speed = 0 → ¬ d.Ready [motor] time → ok .lapse)
    (hbypass : d.overrideValidation = true → time = 0 → speed ≠ 0 → ok .bypass) :
    Leads hw port ok (runMotor port turns motor speed time) d := by
  refine Leads.get_bind (Leads.guarded hok fun h =>
    leads_limited hok (fun os hos hres => ?_) fun ho => ?_)
  · simp only [forall_check, notConnected_bad, invalid_bad, outside_eq_false, hres.noOverride,
      Bool.false_eq_true, false_or] at h
    obtain ⟨i, rfl, rfl⟩ := orders_one hos
    have hi : Line.Within 0 3 i := ⟨by omega, by omega⟩
    rw [wp_bind, wp_get]
    refine wp_guarded_early hok (fun hfail => ?_) fun hpass => ?_
    · refine path_early hok hres fun o ho hzero => ?_
      rw [List.mem_singleton.1 ho] at hzero
      refine hlapse hres.noOverride hzero fun hready => hfail ?_
      simp only [forall_check, invalid_bad, outside_eq_false]
      exact ⟨.inr hready.1, .inr hi, hready.2, by simp⟩
    · simp only [forall_check, invalid_bad, outside_eq_false, hres.noOverride, Bool.false_eq_true,
        false_or] at hpass
      refine wp_sendFor_clear hok h.1 (fun reply e he => ?_) fun ht m hm j hj => ?_
      · exact path_driven (.runMotor i speed time) hok hos hres ⟨hi, h.2.1, hpass.1⟩ hpass.2.2.1
          rfl hquiet
          (fun hclash => absurd (fun _ => by simp) hclash) he
      · refine leavesRunning_of_mem ?_ (by simpa [Line.forever] using ht)
        rw [List.mem_singleton] at hm
        simp [Line.motors, hj, hm]
  · simp only [forall_check, notConnected_bad] at h
    refine Leads.get_bind (Leads.guarded hok fun hpass => ?_)
    simp only [forall_check] at hpass
    refine wp_sendFor_clear hok h.1 (fun reply e he => ?_) fun ht m hm j hj => ?_
    · refine path_overridden (.runMotor motor speed time) hok ho rfl hpass.2.2.1 hquiet
        (fun hforever o hmem hspeed => ?_) he
      rw [List.mem_singleton.1 hmem] at hspeed
      exact hbypass ho (by simpa [Line.forever] using hforever) hspeed
    · refine leavesRunning_of_mem ?_ (by simpa [Line.forever] using ht)
      rw [List.mem_singleton] at hm
      simp [Line.motors, hj, hm]

theorem leads_runTwoMotors {motor1 speed1 motor2 speed2 time : ℤ}
    (hlapse : d.overrideValidation = false → speed1 = 0 ∨ speed2 = 0 →
      ¬ d.Ready [motor1, motor2] time → ok .lapse)
    (hclash : d.overrideValidation = false → time = 0 → motor1 = motor2 → ok .clash)
    (hbypass : d.overrideValidation = true → time = 0 → speed1 ≠ 0 ∨ speed2 ≠ 0 → ok .bypass) :
    Leads hw port ok (runTwoMotors port turns motor1 speed1 motor2 speed2 time) d := by
  refine Leads.get_bind (Leads.guarded hok fun h =>
    leads_limited hok (fun os hos hres => ?_) fun ho => ?_)
  · simp only [forall_check, notConnected_bad, invalid_bad, Bool.or_eq_false_iff, outside_eq_false,
      hres.noOverride, Bool.false_eq_true, false_or] at h
    obtain ⟨i, i', rfl, rfl, rfl⟩ := orders_two hos
    have hi : Line.Within 0 3 i := ⟨by omega, by omega⟩
    have hi' : Line.Within 0 3 i' := ⟨by omega, by omega⟩
    have hearly : ¬ d.Ready [(i : ℤ), (i' : ℤ)] time → Steps (Change hw port) ok d
        { d with motorsRunning := setRunning [(i, speed1), (i', speed2)] d.motorsRunning } := by
      refine fun hready => path_early hok hres fun o ho hzero => hlapse hres.noOverride ?_ hready
      rcases List.mem_cons.1 ho with rfl | ho
      · exact .inl hzero
      · rw [List.mem_singleton.1 ho] at hzero
        exact .inr hzero
    rw [wp_bind, wp_get]
    refine wp_guarded_early hok (fun hfail => hearly fun hready => hfail ?_) fun htime => ?_
    · simp only [forall_check, invalid_bad, outside_eq_false]
      exact ⟨.inr hready.1, by simp⟩
    · simp only [forall_check, invalid_bad, outside_eq_false, hres.noOverride, Bool.false_eq_true,
        false_or] at htime
      -- the motors are in range, so that nothing is reported
      have hwarn : (Device.invalid { d with
          motorsRunning := setRunning [(i, speed1), (i', speed2)] d.motorsRunning }
          (outside 0 3 (i : ℤ) || outside 0 3 (i' : ℤ))
          "runMotor was not given a correct motor argument." "runMotor").bad = .ok false :=
        invalid_bad.2 (.inr (by rw [outside_eq_false.2 hi, outside_eq_false.2 hi']; rfl))
      rw [wp_bind]
      unfold warn
      rw [wp_bind, hwarn, wp_lift_ok]
      refine wp_guarded_early hok (fun hfail => hearly fun hready => hfail ?_) fun hpass => ?_
      · simp only [forall_check]
        exact ⟨hready.2, by simp⟩
      · simp only [forall_check] at hpass
        refine wp_sendFor_clear hok h.1 (fun reply e he => ?_) fun ht m hm j hj => ?_
        · refine path_driven (.runTwoMotors i speed1 i' speed2 time) hok hos hres
            ⟨⟨hi, h.2.1.1⟩, ⟨hi', h.2.1.2⟩, htime.1⟩ hpass.1 rfl hquiet (fun hdistinct => ?_) he
          rw [Classical.not_imp] at hdistinct
          refine hclash hres.noOverride (by simpa [Line.forever] using hdistinct.1) ?_
          simpa [Fin.ext_iff] using hdistinct.2
        · refine leavesRunning_of_mem ?_ (by simpa [Line.forever] using ht)
          simpa [Line.motors, hj] using hm
  · simp only [forall_check, notConnected_bad] at h
    refine Leads.get_bind (Leads.guarded hok fun _ => (Leads.warn hok _).bind fun _ e he => ?_)
    -- the warning is not given
    have hsame : e = d := by
      unfold warn at he
      rw [invalid, ho] at he
      cases he
      rfl
    subst hsame
    refine Leads.guarded hok fun hpass => ?_
    simp only [forall_check] at hpass
    refine wp_sendFor_clear hok h.1 (fun reply e he => ?_) fun ht m hm j hj => ?_
    · refine path_overridden (.runTwoMotors motor1 speed1 motor2 speed2 time) hok ho rfl
        hpass.1 hquiet (fun hforever o hmem hspeed => ?_) he
      refine hbypass ho (by simpa [Line.forever] using hforever) ?_
      simp only [Line.motors, List.mem_cons, List.not_mem_nil, or_false] at hmem
      rcases hmem with rfl | rfl
      · exact .inl hspeed
      · exact .inr hspeed
    · refine leavesRunning_of_mem ?_ (by simpa [Line.forever] using ht)
      simpa [Line.motors, hj] using hm

theorem leads_runFourMotors {motor1 speed1 motor2 speed2 motor3 speed3 motor4 speed4 time : ℤ}
    (hbypass : d.overrideValidation = true → time = 0 →
      speed1 ≠ 0 ∨ speed2 ≠ 0 ∨ speed3 ≠ 0 ∨ speed4 ≠ 0 → ok .bypass) :
    Leads hw port ok
      (runFourMotors port turns motor1 speed1 motor2 speed2 motor3 speed3 motor4 speed4 time) d := by
  refine Leads.get_bind (Leads.guarded hok fun h => ?_)
  simp only [forall_check, notConnected_bad, invalid_bad] at h
  obtain ⟨hconn, -, hlimit, -, -, hattached, -⟩ := h
  have ho : d.overrideValidation = true := hlimit.resolve_right (by decide)
  refine wp_sendFor hok hconn (fun reply e he => ?_) fun _ he _ => he
  refine path_overridden
    (.runFourMotors motor1 speed1 motor2 speed2 motor3 speed3 motor4 speed4 time) hok ho rfl
    hattached hquiet (fun hforever o hmem hspeed => ?_) he
  refine hbypass ho (by simpa [Line.forever] using hforever) ?_
  simp only [Line.motors, List.mem_cons, List.not_mem_nil, or_false] at hmem
  rcases hmem with rfl | rfl | rfl | rfl
  · exact .inl hspeed
  · exact .inr (.inl hspeed)
  · exact .inr (.inr (.inl hspeed))
  · exact .inr (.inr (.inr hspeed))

theorem leads_runEncodedMotor (motor speed ticks : ℤ) :
    Leads hw port ok (runEncodedMotor port turns motor speed ticks) d := by
  have hflag : Steps (Change hw port) ok d { d with moveEncodedMotor := true } :=
    Steps.single (hok .flag rfl) (.flag d d.attemptTryAgain d.waitForResponse true)
  have hidle : ∀ m ∈ [motor], ∀ j : Fin 4, (j : ℤ) = m →
      (Line.runEncodedMotor motor speed ticks).leavesRunning j = some false := fun m hm j hj =>
    leavesRunning_of_mem (by simpa [Line.motors, hj] using hm) rfl
  refine Leads.get_bind (Leads.guarded hok fun h =>
    leads_limited hok (fun os hos hres => ?_) fun ho => ?_)
  · simp only [forall_check, notConnected_bad, invalid_bad, outside_eq_false, hres.noOverride,
      Bool.false_eq_true, false_or, decide_eq_false_iff_not, not_le] at h
    refine wp_runEncoded hok h.1 (fun reply e he => hflag.trans ?_) hidle
    exact path_driven (.runEncodedMotor motor speed ticks) (d := { d with moveEncodedMotor := true })
      hok hos ⟨hres.noOverride, hres.few⟩ ⟨h.2.2.1, h.2.1, h.2.2.2.1⟩ trivial rfl hquiet
      (fun hclash => absurd (fun hforever => by cases hforever) hclash) he
  · simp only [forall_check, notConnected_bad] at h
    refine wp_runEncoded hok h.1 (fun reply e he => hflag.trans ?_) hidle
    exact path_overridden (.runEncodedMotor motor speed ticks)
      (d := { d with moveEncodedMotor := true })
      hok ho rfl trivial hquiet (fun hforever => by cases hforever) he

theorem leads_runTwoEncodedMotors {motor1 speed1 tick1 motor2 speed2 tick2 : ℤ}
    (hlapse : d.overrideValidation = false → speed1 = 0 ∨ speed2 = 0 → ¬ (0 < tick1 ∧ 0 < tick2) →
      ok .lapse) :
    Leads hw port ok (runTwoEncodedMotors port turns motor1 speed1 tick1 motor2 speed2 tick2) d := by
  have hflag : ∀ d : Device P,
      Steps (Change hw port) ok d { d with moveEncodedMotor := true } := fun d =>
    Steps.single (hok .flag rfl) (.flag d d.attemptTryAgain d.waitForResponse true)
  have hnote : ∀ (d : Device P) message method, Steps (Change hw port) ok d
      { d with log := d.log ++ [.error message method] } := fun d message method =>
    Steps.single (hok .note rfl) (.note d message method)
  have hidle : ∀ m ∈ [motor1, motor2], ∀ j : Fin 4, (j : ℤ) = m →
      (Line.runTwoEncodedMotors motor1 speed1 tick1 motor2 speed2 tick2).leavesRunning j = some false :=
    fun m hm j hj => leavesRunning_of_mem (by simpa [Line.motors, hj] using hm) rfl
  refine Leads.get_bind (Leads.guarded hok fun h =>
    leads_limited hok (fun os hos hres => ?_) fun ho => ?_)
  · simp only [forall_check, notConnected_bad, invalid_bad, Bool.or_eq_false_iff, outside_eq_false,
      hres.noOverride, Bool.false_eq_true, false_or] at h
    obtain ⟨i, i', rfl, rfl, rfl⟩ := orders_two hos
    rw [wp_bind, wp_get]
    refine wp_guarded_early hok (fun hfail => ?_) fun htick => ?_
    · refine path_early hok hres fun o ho hzero => hlapse hres.noOverride ?_ fun hticks => hfail ?_
      · rcases List.mem_cons.1 ho with rfl | ho
        · exact .inl hzero
        · rw [List.mem_singleton.1 ho] at hzero
          exact .inr hzero
      · simp only [forall_check, invalid_bad, Bool.or_eq_false_iff, decide_eq_false_iff_not, not_le]
        exact ⟨.inr hticks, by simp⟩
    · simp only [forall_check, invalid_bad, Bool.or_eq_false_iff, decide_eq_false_iff_not, not_le,
        hres.noOverride, Bool.false_eq_true, false_or] at htick
      have hrange : ∀ j : Fin 4, Line.Within 0 3 j := fun j => ⟨by omega, by omega⟩
      have hdriven : ∀ d' : Device P, Steps (Change hw port) ok d d' → d'.connected = true →
          d'.Reserved [(i, speed1), (i', speed2)] → d'.attemptTryAgain = false →
          wp (runEncoded port turns (.runTwoEncodedMotors i speed1 tick1 i' speed2 tick2) [↑i, ↑i'])
            (fun _ e => Steps (Change hw port) ok d e) (fun _ e => Steps (Change hw port) ok d e)
            { d' with motorsRunning := setRunning [(i, speed1), (i', speed2)] d'.motorsRunning } := by
        refine fun d' hd' hconn hres hquiet =>
          wp_runEncoded hok hconn (fun reply e he => hd'.trans ((hflag d').trans ?_)) hidle
        exact path_driven (.runTwoEncodedMotors i speed1 tick1 i' speed2 tick2)
          (d := { d' with moveEncodedMotor := true }) hok hos ⟨hres.noOverride, hres.few⟩
          ⟨⟨hrange i, h.2.1.1, htick.1.1⟩, hrange i', h.2.1.2, htick.1.2⟩ trivial rfl hquiet
          (fun hclash => absurd (fun hforever => by cases hforever) hclash) he
      rw [wp_bind]
      unfold warn
      rw [wp_bind]
      refine wp_lift (fun bad hbad => wp_ite (fun _ => ?_) fun _ => ?_) fun f hf => by cases hf
      · exact hdriven _ (hnote d _ _) h.1 ⟨hres.noOverride, hres.few⟩ hquiet
      · exact hdriven d (Steps.refl d) h.1 hres hquiet
  · simp only [forall_check, notConnected_bad] at h
    refine Leads.get_bind (Leads.guarded hok fun _ => (Leads.warn hok _).bind fun _ e he => ?_)
    have hsame : e = d := by
      unfold warn at he
      rw [invalid, ho] at he
      cases he
      rfl
    subst hsame
    refine wp_runEncoded hok h.1 (fun reply e' he => (hflag _).trans ?_) hidle
    exact path_overridden (.runTwoEncodedMotors motor1 speed1 tick1 motor2 speed2 tick2)
      (d := { e with moveEncodedMotor := true }) hok ho rfl trivial hquiet
      (fun hforever => by cases hforever) he

/-! ### The mixer and the settings -/

theorem leads_runMixer {motor time : ℤ} (hmixer : time = 0 → d.mixerSpeed ≠ 0 → ok .mixer)
    (hstir : ok .stir) :
    Leads hw port ok (runMixer port turns motor time) d := by
  refine Leads.get_bind (Leads.guarded hok fun h => ?_)
  simp only [forall_check, notConnected_bad, invalid_bad, outside_eq_false, decide_eq_false_iff_not,
    not_lt] at h
  refine wp_sendFor hok h.1 (fun reply e he => ?_) fun _ he _ => he
  refine Steps.single ?_ (.mixer (.inl rfl) ?_ hquiet he)
  · split
    · exact hmixer ‹_ ∧ _›.1 ‹_ ∧ _›.2
    · exact hstir
  · rcases h.2.1 with ho | hm
    · exact .inl ho
    · exact h.2.2.1.imp_right fun ht => ⟨hm, ht⟩

theorem leads_stopMixer {motor : ℤ} (hstir : ok .stir) :
    Leads hw port ok (stopMixer port turns motor) d := by
  refine Leads.get_bind (Leads.guarded hok fun h => ?_)
  simp only [forall_check, notConnected_bad, invalid_bad, outside_eq_false] at h
  have hsend : Leads hw port ok (sendRaw port turns (.runMotor motor 0 0) 100) d := by
    refine Leads.sendRaw hok h.1 fun reply e he => ?_
    exact Steps.single hstir
      (.mixer (.inr rfl) (h.2.1.imp_right fun hm => ⟨hm, le_rfl⟩) hquiet he : Change hw port .stir d e)
  exact hsend.bind fun _ _ _ => Leads.pure ()

end

theorem leads_setMixerSpeed (speed : ℤ) : Leads hw port ok (setMixerSpeed speed) d := by
  have hset : ∀ (d : Device P) v, d.overrideValidation = true ∨ Line.Within 0 255 v →
      Steps (Change hw port) ok d { d with mixerSpeed := v } := fun d v hv =>
    Steps.single (hok .setting rfl) (.mixerSpeed d v hv)
  have hnote : ∀ message, Steps (Change hw port) ok d { d with
      log := d.log ++ [.error message (some "setMixerSpeed")] } := fun message =>
    Steps.single (hok .note rfl) (.note d message _)
  refine Leads.get_bind (Leads.ite (fun _ => ?_) fun hhigh =>
    Leads.get_bind (Leads.ite (fun _ => ?_) fun hlow => ?_))
  · exact (hnote _).trans (hset _ 255 (.inr ⟨by omega, le_rfl⟩))
  · exact (hnote _).trans (hset _ 0 (.inr ⟨le_rfl, by omega⟩))
  · refine hset d speed ?_
    cases ho : d.overrideValidation with
    | true => exact .inl rfl
    | false =>
      simp only [ho, Bool.not_false, Bool.true_and, decide_eq_true_eq, not_lt] at hhigh hlow
      exact .inr ⟨hlow, hhigh⟩

/-! ### The connection -/

theorem leads_connect (hopened : ok .opened) : Leads hw port ok (connect hw port turns) d := by
  refine Leads.get_bind (Leads.ite (fun _ => Leads.error hok _ _) fun hc => ?_)
  rw [Bool.not_eq_true] at hc
  unfold Leads
  simp only [wp_bind, wp_sleep, wp_modify]
  have hslept : Steps (Change hw port) ok d
      { d with port := port.sleep 500 d.port, log := d.log ++ [.slept 500] } :=
    Steps.single (hok .note rfl) (.slept d 500)
  have hopen := hslept.trans (Steps.single hopened (.opened hc))
  have hready := hopen.trans (Steps.single (hok .note rfl) (.slept _ 2500))
  exact wp_mono (leads_refreshAnalogPins hok) (fun _ _ he => hready.trans he) fun _ _ he =>
    hready.trans he

omit hok in
/-- A loop all of whose turns are paths. -/
theorem leads_forM {α : Type} {l : List α} {f : α → Act P Unit} (hd : Quiet d)
    (hf : ∀ a, Settles (f a)) (h : ∀ a ∈ l, ∀ d, Quiet d → Leads hw port ok (f a) d) :
    Leads hw port ok (l.forM f) d := by
  refine wp_mono (wp_forM (I := fun e => Steps (Change hw port) ok d e ∧ Quiet e) (fun a ha s hs => ?_)
    ⟨Steps.refl d, hd⟩) (fun _ _ he => he.1) fun _ _ he => he
  exact wp_mono (wp_and (h a ha s hs.2) (hf a s hs.2)) (fun _ _ he => ⟨hs.1.trans he.1, he.2⟩)
    fun _ _ he => hs.1.trans he.1

theorem leads_reset (hd : Quiet d) : Leads hw port ok (reset port turns) d := by
  unfold reset Leads
  have hservos : ∀ i : Fin 3, Settles (do
      if (← get).servosAttached i then moveServo port turns i.val 90) := fun i =>
    settles_get.bind fun _ => .ite (settles_moveServo _ _) (settles_pure _)
  have hmotors : ∀ i : Fin 4, Settles (do
      if (← get).motorsAttached i then runMotor port turns i.val 0 0) := fun i =>
    settles_get.bind fun _ => .ite (settles_runMotor _ _ _) (settles_pure _)
  rw [wp_bind]
  refine wp_mono (wp_and (leads_forM hd hservos fun i _ d hd => ?_) (Settles.forM hservos d hd))
    (fun _ e he => ?_) fun _ _ he => he.1
  · exact Leads.get_bind (Leads.ite (fun _ => leads_moveServo hok hd.1 _ _) fun _ => Leads.pure ())
  refine wp_mono (leads_forM he.2 hmotors fun i _ d hd => ?_) (fun _ _ h => he.1.trans h)
    fun _ _ h => he.1.trans h
  refine Leads.get_bind (Leads.ite (fun hattached => ?_) fun _ => Leads.pure ())
  refine leads_runMotor hok hd.1 (fun _ _ hready => absurd ⟨⟨le_rfl, by omega⟩, ?_⟩ hready)
    fun _ _ hspeed => absurd rfl hspeed
  rw [someDetached, index_eq_ok.2 (rfl : (i : ℤ) = i)]
  show (if d.motorsAttached i then someDetached d [] else _) = _
  rw [if_pos hattached]
  rfl

theorem leads_close (hd : Quiet d) : Leads hw port ok (close port turns) d := by
  have hclosed : ∀ d : Device P, Leads hw port ok
      (modify fun d => { d with connected := false, log := d.log ++ [.closed] }) d := fun d =>
    Steps.single (hok .closed rfl) (.closed d)
  have hslept : Steps (Change hw port) ok d
      { d with port := port.sleep 300 d.port, log := d.log ++ [.slept 300] } :=
    Steps.single (hok .note rfl) (.slept d 300)
  have hrest : ∀ d : Device P, Quiet d → Leads hw port ok (do
      if (← get).resetOnClose then reset port turns
      modify fun d => { d with connected := false, log := d.log ++ [.closed] }) d := fun d hd =>
    Leads.get_bind (Leads.ite (fun _ => (leads_reset hok hd).bind fun _ d _ => hclosed d)
      fun _ => hclosed d)
  exact wp_mono (hrest _ hd) (fun _ _ he => hslept.trans he) fun _ _ he => hslept.trans he

end

/-- Where a call leads: the changes that lift a limit are made by the calls that can. -/
theorem Call.leads (call : Call) (hd : Quiet d) :
    Leads hw port (call.May d) (call.run hw port turns) d := by
  have hok : ∀ l : Label, l.common = true → call.May d l := by
    intro l hl
    cases l <;> first | exact trivial | cases hl
  cases call with
  | connect => exact leads_connect hok rfl
  | close => exact leads_close hok hd
  | attachMotor motor pin => exact leads_attach hok _ _ _ _ _
  | attachServo servo pin => exact leads_attach hok _ _ _ _ _
  | refreshAnalogPins => exact leads_refreshAnalogPins hok
  | refreshDigitalPins => exact leads_refreshDigitalPins hok (.inl rfl)
  | getAnalogPin x =>
    have hentry : ∀ d : Device P, Leads hw port _ (do
        let d ← get
        pinEntry d.analogPinsAvailable d.analogPinCache x "Analog" "getAnalogPin") d := fun d =>
      Leads.get_bind (leads_pinEntry hok _ _ _ _ _)
    refine Leads.ignoring (Leads.get_bind (Leads.ite (fun _ => ?_) fun _ => hentry d))
    exact (leads_refreshAnalogPins hok).bind fun _ d _ => hentry d
  | getDigitalPin x =>
    have hentry : ∀ d : Device P, Leads hw port _ (do
        let d ← get
        pinEntry d.digitalPinsAvailable d.digitalPinCache x "Digital" "getDigitalPin") d := fun d =>
      Leads.get_bind (leads_pinEntry hok _ _ _ _ _)
    refine Leads.ignoring (Leads.get_bind (Leads.ite (fun hnone => ?_) fun _ => hentry d))
    exact (leads_refreshDigitalPins hok (.inr ⟨hnone, x, rfl⟩)).bind fun _ d _ => hentry d
  | getAvailableDigitalPins =>
    exact Leads.ignoring (Leads.get_bind (wp_lift (fun _ _ => Steps.refl d) fun _ _ => Steps.refl d))
  | getTemperature => exact Leads.ignoring (leads_getTemperature hok hd.1)
  | getPing pin => exact Leads.ignoring (leads_getPing hok pin)
  | getConductivity => exact Leads.ignoring (leads_getConductivity hok)
  | getIRChar => exact Leads.ignoring (leads_getIRChar hok)
  | getGyroscope => exact Leads.ignoring (leads_getGyroscope hok)
  | getGPSCoordinates => exact Leads.ignoring (leads_getGPSCoordinates hok)
  | readCompass => exact Leads.ignoring (leads_readCompass hok)
  | moveServo servo position => exact leads_moveServo hok hd.1 _ _
  | moveAllServos pos1 pos2 pos3 => exact leads_moveAllServos hok hd.1 _ _ _
  | runMotor motor speed time =>
    refine leads_runMotor hok hd.1 (fun ho hs hready h => ?_) fun ho ht hs h => ?_
    · exact hready (h.2 ho hs)
    · exact hs ((h.1 ho).resolve_left (not_not.2 ht))
  | runTwoMotors motor1 speed1 motor2 speed2 time =>
    refine leads_runTwoMotors hok hd.1 (fun ho hs hready h => ?_) (fun ho ht hm h => ?_)
      fun ho ht hs h => ?_
    · exact hready ((h.2 ho).2 hs)
    · exact (h.2 ho).1 ht hm
    · obtain ⟨h1, h2⟩ := (h.1 ho).resolve_left (not_not.2 ht)
      exact hs.elim (absurd h1) (absurd h2)
  | runFourMotors motor1 speed1 motor2 speed2 motor3 speed3 motor4 speed4 time =>
    refine leads_runFourMotors hok hd.1 fun ho ht hs h => ?_
    obtain ⟨h1, h2, h3, h4⟩ := (h ho).resolve_left (not_not.2 ht)
    exact hs.elim (absurd h1) (Or.rec (absurd h2) (Or.rec (absurd h3) (absurd h4)))
  | runEncodedMotor motor speed ticks => exact leads_runEncodedMotor hok hd.1 _ _ _
  | runTwoEncodedMotors motor1 speed1 tick1 motor2 speed2 tick2 =>
    exact leads_runTwoEncodedMotors hok hd.1 fun ho hs hticks h => hticks (h ho hs)
  | getEncodedMotorPosition motor => exact Leads.ignoring (leads_getEncodedMotorPosition hok motor)
  | resetEncodedMotorPosition motor => exact leads_resetEncodedMotorPosition hok hd.1 motor
  | setMotorRampUpTime millis => exact leads_setMotorRampUpTime hok hd.1 millis
  | runMixer motor time => exact leads_runMixer hok hd.1 (fun ht hs => ⟨rfl, fun h => hs (h ht)⟩) rfl
  | stopMixer motor => exact leads_stopMixer hok hd.1 rfl
  | setMixerSpeed speed => exact leads_setMixerSpeed hok speed
  | setResetOnClose r => exact Steps.single (hok .setting rfl) (.resetOnClose d r)
  | setOverrideValidation o =>
    refine Steps.single ?_ (.override d o)
    cases o with
    | true => exact rfl
    | false => exact hok .setting rfl
  | runPCAServo channel position => exact leads_runPCAServo hok hd.1 _ _
  | runPCATimedServo channel position duration => exact leads_runPCATimedServo hok hd.1 _ _ _
  | runPCATimedContServo channel speed duration => exact leads_runPCATimedContServo hok hd.1 _ _ _
  | runPCAContServo channel speed => exact leads_runPCAContServo hok hd.1 _ _
  | runPCAMotor channel speed time => exact leads_runPCAMotor hok hd.1 _ _ _
  | runTwoPCAMotor channel1 speed1 channel2 speed2 time => exact leads_runTwoPCAMotor hok hd.1 _ _ _ _ _
  | runPCAEncoder channel speed pin ticks => exact leads_runPCAEncoder hok hd.1 _ _ _ _
  | runTwoPCAEncoder channel1 speed1 pin1 ticks1 channel2 speed2 pin2 ticks2 =>
    exact leads_runTwoPCAEncoder hok hd.1 _ _ _ _ _ _ _ _
  | getPCAEncodedMotorTicks channel => exact Leads.ignoring (leads_getPCAEncodedMotorTicks hok channel)
  | channelPCAStop channel => exact leads_unguarded hok hd.1 _ ⟨rfl, rfl⟩ trivial trivial
  | allPCAStop => exact leads_unguarded hok hd.1 _ ⟨rfl, rfl⟩ trivial trivial
  | sleep time => exact Leads.sleepFor hok time

/-- The flags are clear after every run. -/
theorem Runs.quiet {cond : Call → Device P → Prop} {calls : List Call}
    (h : Runs hw port cond calls d e) (hd : Quiet d) : Quiet e :=
  h.invariant (fun _ _ _ _ hcall => hcall.quiet) hd

/-- What the changes keep holds after a run.  The labels are those that the calls can make in
states where it holds. -/
theorem Runs.keeps {cond : Call → Device P → Prop} {L : Label → Prop} {I : Device P → Prop}
    (hL : ∀ call d l, cond call d → I d → call.May d l → L l)
    (hI : ∀ l d e, L l → Change hw port l d e → I d → I e) {calls : List Call}
    (h : Runs hw port cond calls d e) (hquiet : Quiet d) (hd : I d) : I e := by
  induction h with
  | nil d => exact hd
  | @cons call calls d _ _ hcond hcall _ ih =>
    refine ih (hcall.quiet hquiet) ?_
    obtain ⟨turns, rfl⟩ := hcall.final
    have hpath : Steps (Change hw port) L d (final (call.run hw port turns d)) :=
      (wp_final.1 (call.leads hquiet)).mono fun l hl => hL _ _ l hcond hd hl
    exact hpath.invariant hI hd

end Device
end ExeRobot
