/-
# The small model of the object agrees with the whole one

The programs of the team run on a model of `RXTXRobot` that leaves out what they never
use: the other settings, the texts of the errors, and how `sendRaw` gets at its answer,
which is the work of a link there.  Here that model is connected to the whole object.  A
port gives a link (`Port.link`), if no exchange over it blocks (`Port.Returns`); an
`IOException` is allowed, and shows as an empty answer.  Each method the programs call then
does the same on both: it returns the same value and leaves the two objects in the same
state (`Same`), with the same lines, waits and answers in their logs.
-/

import ExeRobot.Device.Caches
import ExeRobot.Library.Simulation

namespace ExeRobot

open Persistent

/-- The line of a command. -/
def Command.line : Command → Line
  | .readAnalog => .readAnalog
  | .readDigital => .readDigital
  | .ping pin => .ping pin
  | .conductivity => .conductivity
  | .irChar => .irChar
  | .servo channel position => .pcaServo channel position
  | .timedServo channel position duration => .pcaTimedServo channel position duration
  | .twoMotor channel1 speed1 channel2 speed2 => .twoPCAMotor channel1 speed1 channel2 speed2
  | .twoMotorTimed channel1 speed1 channel2 speed2 time =>
      .twoPCATimedMotor channel1 speed1 channel2 speed2 time
  | .attachedServo number position => .moveServo number position
  | .attachedMotor motor speed time => .runMotor motor speed time

namespace Port

variable {P : Type} (port : Port P)

/-- What `sendRaw` gets for a text, and the port after it, when it reads once. -/
def answer (again waits : Bool) (s : JString) (wait : ℕ) (p : P) : JString × P :=
  let result := (port.exchange s wait again waits false 0 p).2
  (Device.replyOf result, final result)

/-- The port as a link. -/
def link : Link P JString where
  text := id
  sendRaw again cmd wait p := port.answer again false cmd.line.text wait p
  sleep := port.sleep

/-- An exchange that reads once ends, normally or with an `IOException`. -/
def Returns : Prop :=
  ∀ s wait again waits p p', (port.exchange s wait again waits false 0 p).2 ≠ .error .blocks p'

/-- An exchange that reads once does not read on. -/
theorem exchange_once (s : JString) (wait : ℕ) (again waits : Bool) (turns : ℕ) (p : P) :
    port.exchange s wait again waits false turns p = port.exchange s wait again waits false 0 p := by
  unfold exchange
  simp only [collect_once]

end Port

namespace Device

variable {P : Type} {port : Port P} {turns : ℕ} {d e : Device P} {s s' : Robot P JString}

/-! ### `sendRaw` over a port that does not block -/

theorem wp_sendRaw_answer (hport : port.Returns) {line : Line} {wait : ℕ} {reply : JString} {p : P}
    (hc : d.connected = true) (hmoving : d.moveEncodedMotor = false)
    (hanswer : port.answer d.attemptTryAgain d.waitForResponse line.text wait d.port = (reply, p)) :
    wp (sendRaw port turns line wait) (fun got e => got = reply ∧
      ∃ errors, (∀ x ∈ errors, x.isError = true) ∧
        e = { d with port := p, log := d.log ++ .sent line wait reply :: errors })
      (fun _ _ => False) d := by
  have hends := hport line.text wait d.attemptTryAgain d.waitForResponse d.port
  have honce : port.exchange line.text wait d.attemptTryAgain d.waitForResponse d.moveEncodedMotor turns
      d.port = port.exchange line.text wait d.attemptTryAgain d.waitForResponse false 0 d.port := by
    rw [hmoving, Port.exchange_once]
  unfold Port.answer at hanswer
  unfold sendRaw
  rw [wp_bind, wp_get]
  refine wp_ite (fun h => absurd h (by simp [hc])) fun _ => ?_
  rw [honce]
  generalize port.exchange line.text wait d.attemptTryAgain d.waitForResponse false 0 d.port = r
    at hends hanswer ⊢
  obtain ⟨tired, result⟩ := r
  cases hanswer
  -- what is returned in the end, after the errors so far
  have hend : ∀ errors : List Entry, (∀ x ∈ errors, x.isError = true) →
      wp (conclude result) (fun got e => got = replyOf result ∧
        ∃ errors, (∀ x ∈ errors, x.isError = true) ∧
          e = { d with
            port := final result, log := d.log ++ .sent line wait (replyOf result) :: errors })
        (fun _ _ => False)
        { d with
          port := final result, log := d.log ++ .sent line wait (replyOf result) :: errors } := by
    intro errors herrors
    cases result with
    | ok reply p => exact ⟨rfl, errors, herrors, rfl⟩
    | error t p =>
      cases t with
      | ioException =>
        refine ⟨rfl, errors ++ [.error "Could not read or use Input or Output streams (IOException)"
          (some "sendRaw")], by simpa [Entry.isError, or_imp, forall_and] using herrors, ?_⟩
        simp [replyOf, List.append_assoc]
      | blocks => exact absurd rfl (hends p)
  rw [wp_bind, wp_set]
  cases tired with
  | false => exact hend [] (by simp)
  | true =>
    have := hend [.error "There was no response from the Arduino" (some "sendRaw")]
      (by simp [Entry.isError])
    rw [List.append_cons] at this
    exact this

theorem wp_ask_answer (hport : port.Returns) {line : Line} {wait : ℕ} (reply : JString) (p : P)
    (hc : d.connected = true) (hmoving : d.moveEncodedMotor = false)
    (hanswer : port.answer true d.waitForResponse line.text wait d.port = (reply, p)) :
    wp (ask port turns line wait) (fun got e => got = reply ∧
      ∃ errors, (∀ x ∈ errors, x.isError = true) ∧
        e = { d with
          port := p, attemptTryAgain := false, log := d.log ++ .sent line wait reply :: errors })
      (fun _ _ => False) d := by
  unfold ask
  rw [wp_bind, wp_setAttemptTryAgain, wp_bind]
  refine wp_mono
    (wp_sendRaw_answer (d := { d with attemptTryAgain := true }) hport hc hmoving hanswer) ?_
    fun _ _ hE => hE
  rintro _ e ⟨rfl, errors, herrors, rfl⟩
  exact ⟨rfl, errors, herrors, rfl⟩

/-! ### Related objects -/

/-- What the robot does: the entries that the small model has too, errors aside. -/
def Entry.isDeed : Entry → Bool
  | .sent _ _ _ | .slept _ => true
  | _ => false

/-- The entry of an event. -/
def deedOf : Event JString → Option Entry
  | .sent cmd wait reply => some (.sent cmd.line wait reply)
  | .slept ms => some (.slept ms)
  | _ => none

/-- The two models of the object are in the same state, with the settings of the constructor
and nothing attached. -/
structure Same (s : Robot P JString) (d : Device P) : Prop where
  port : d.port = s.link
  connected : d.connected = s.connected
  analogPinCache : d.analogPinCache = s.analogPinCache
  digitalPinCache : d.digitalPinCache = s.digitalPinCache
  analogPins : d.analogPinsAvailable = some s.analogPinsAvailable
  digitalPins : d.digitalPinsAvailable = some s.digitalPinsAvailable
  motorsRunning : d.motorsRunning = s.motorsRunning
  motorsAttached : d.motorsAttached = s.motorsAttached
  servosAttached : d.servosAttached = s.servosAttached
  noMotors : ∀ i, s.motorsAttached i = false
  noServos : ∀ i, s.servosAttached i = false
  again : d.attemptTryAgain = s.attemptTryAgain
  waits : d.waitForResponse = false
  moving : d.moveEncodedMotor = false
  checked : d.overrideValidation = false
  resets : d.resetOnClose = true
  deeds : d.log.filter Entry.isDeed = s.log.filterMap deedOf

theorem filter_errors {errors : List Entry} (h : ∀ x ∈ errors, x.isError = true) :
    errors.filter Entry.isDeed = [] := by
  rw [List.filter_eq_nil_iff]
  intro x hx
  have := h x hx
  cases x with
  | error message method => simp [Entry.isDeed]
  | _ => cases this

/-- The logs grow by the same deeds. -/
theorem Same.append (h : Same s d) (es : List (Event JString)) (xs : List Entry)
    (hdeeds : xs.filter Entry.isDeed = es.filterMap deedOf) :
    Same { s with log := s.log ++ es } { d with log := d.log ++ xs } :=
  { h with deeds := by rw [List.filter_append, List.filterMap_append, h.deeds, hdeeds] }

/-- A line has been sent, with any errors after it. -/
theorem Same.sent (h : Same s d) (cmd : Command) (wait : ℕ) (reply : JString) {p : P}
    {errors : List Entry} {es : List (Event JString)} (herrors : ∀ x ∈ errors, x.isError = true)
    (hes : es.filterMap deedOf = []) :
    Same { s with link := p, log := s.log ++ .sent cmd wait reply :: es }
      { d with port := p, log := d.log ++ .sent cmd.line wait reply :: errors } := by
  have hdeeds : (Entry.sent cmd.line wait reply :: errors).filter Entry.isDeed =
      (Event.sent cmd wait reply :: es).filterMap deedOf := by
    show _ = Entry.sent cmd.line wait reply :: es.filterMap deedOf
    rw [List.filter_cons_of_pos rfl, filter_errors herrors, hes]
  exact { h.append _ _ hdeeds with port := rfl }

/-- What the link answers. -/
theorem Same.answer (h : Same s d) (port : Port P) (again : Bool) (cmd : Command) (wait : ℕ) :
    port.answer again d.waitForResponse cmd.line.text wait d.port =
      port.link.sendRaw again cmd wait s.link := by
  rw [h.waits, h.port]
  rfl

theorem filterMap_errors (es : List ApiError) :
    (es.map (Event.error : ApiError → Event JString)).filterMap deedOf = [] := by
  rw [List.filterMap_eq_nil_iff]
  intro x hx
  obtain ⟨e, -, rfl⟩ := List.mem_map.1 hx
  rfl

/-! ### The steps of the methods -/

section

variable {α β : Type} {V : α → β → Prop}

theorem sim_error (h : Same s d) (e : ApiError) (message method : String) :
    Simulates Same Eq (RXTXRobot.error e) (error message method) s d :=
  .modify (h.append _ _ rfl)

theorem sim_sleep (h : Same s d) (ms : ℕ) :
    Simulates Same Eq (RXTXRobot.sleep port.link ms) (sleep port ms) s d := by
  refine .modify { h.append [.slept ms] [.slept ms] rfl with port := ?_ }
  rw [h.port]
  rfl

theorem sim_sendRaw (hport : port.Returns) (h : Same s d) (cmd : Command) (wait : ℕ) :
    Simulates Same Eq (RXTXRobot.sendRaw port.link cmd wait) (sendRaw port turns cmd.line wait)
      s d := by
  cases hc : s.connected with
  | false =>
    refine .of_run (RXTXRobot.sendRaw_of_not_connected port.link hc cmd wait) ?_
    exact wp_sendRaw_of_not_connected (h.connected.trans hc) fun _ _ => ⟨rfl, h.append _ _ rfl⟩
  | true =>
    refine .of_run (RXTXRobot.sendRaw_of_connected port.link hc cmd wait) ?_
    have hanswer := (h.answer port d.attemptTryAgain cmd wait).trans (by rw [h.again])
    refine wp_mono (wp_sendRaw_answer hport (h.connected.trans hc) h.moving hanswer) ?_ fun _ _ hE => hE
    rintro _ e ⟨rfl, errors, herrors, rfl⟩
    exact ⟨rfl, h.sent cmd wait _ herrors rfl⟩

/-- The small model asks whether it is connected. -/
theorem sim_isConnected {f : Bool → Api P JString α} {y : Act P β}
    (h : Simulates Same V (f s.connected) y s d) :
    Simulates Same V (RXTXRobot.isConnected >>= f) y s d := h

/-- A check that both models make. -/
theorem sim_guarded {x x' : Api P JString α} {c : Check} {cs : List Check} {r : β} {body : Act P β}
    {p : Prop} [Decidable p] {b : Bool} (hc : c.bad = .ok b) (hp : p ↔ b = true)
    (hfail : Simulates Same V x (do error c.message c.method; return r) s d)
    (hpass : ¬ p → Simulates Same V x' (guarded cs r body) s d) :
    Simulates Same V (if p then x else x') (guarded (c :: cs) r body) s d := by
  intro a s' hrun
  rw [guarded, wp_bind, hc, wp_lift_ok]
  by_cases h : p
  · rw [if_pos h] at hrun
    rw [if_pos (hp.1 h)]
    exact hfail a s' hrun
  · rw [if_neg h] at hrun
    rw [if_neg fun hb => h (hp.2 hb)]
    exact hpass h a s' hrun

theorem sim_report (h : Same s d) (e : ApiError) (message method : String) {a : α} {b : β}
    (hV : V a b) :
    Simulates Same V (do RXTXRobot.error e; return a) (do error message method; return b) s d :=
  .bind (sim_error h e message method) fun _ _ _ _ _ h => .pure hV h

end

/-! ### Pins -/

/-- A refresh over a closed connection. -/
theorem wp_refresh_closed {available : Device P → Option (List ℤ)}
    {store : List ℤ → Device P → Device P} {line : Line}
    {values : ℕ → JString → List ℤ × Option ApiError} {method : String} {pins : List ℤ}
    {Q : Unit → Device P → Prop} {E : Stop → Device P → Prop}
    (hpins : available d = some pins) (hc : d.connected = false)
    (hframe : ∀ c, ∃ x y, store c d = { d with analogPinCache := x, digitalPinCache := y })
    (hQ : ∀ message, Q () { store (List.replicate pins.length (-1)) d with
      log := (store (List.replicate pins.length (-1)) d).log ++ [.error message (some method)] }) :
    wp (refresh port turns available store line values method) Q E d := by
  obtain ⟨x, y, hblank⟩ := hframe (List.replicate pins.length (-1))
  unfold refresh
  rw [wp_bind, wp_get, hpins, wp_bind, nonNull, wp_lift_ok, wp_bind, wp_modify, wp_bind, wp_get]
  refine wp_guarded_fail [] (fun _ hmem => absurd hmem List.not_mem_nil) ?_ (hQ _)
  rw [notConnected, hblank]
  simp [hc]

/-- A refresh over an open connection. -/
theorem wp_refresh_answer (hport : port.Returns) {available : Device P → Option (List ℤ)}
    {store : List ℤ → Device P → Device P} {line : Line}
    {values : ℕ → JString → List ℤ × Option ApiError} {method : String} {pins : List ℤ}
    {reply : JString} {p : P} (hpins : available d = some pins) (hc : d.connected = true)
    (hmoving : d.moveEncodedMotor = false)
    (hanswer : port.answer true d.waitForResponse line.text 100 d.port = (reply, p))
    (hframe : ∀ c, ∃ x y, store c d = { d with analogPinCache := x, digitalPinCache := y })
    (hstore : ∀ c c' p b l, store c { store c' d with port := p, attemptTryAgain := b, log := l } =
      { store c d with port := p, attemptTryAgain := b, log := l }) :
    wp (refresh port turns available store line values method)
      (fun _ e => ∃ errors, (∀ x ∈ errors, x.isError = true) ∧
        e = { store (values pins.length reply).1 d with
          port := p, attemptTryAgain := false, log := d.log ++ .sent line 100 reply :: errors })
      (fun _ _ => False) d := by
  obtain ⟨x, y, hblank⟩ := hframe (List.replicate pins.length (-1))
  unfold refresh
  rw [wp_bind, wp_get, hpins, wp_bind, nonNull, wp_lift_ok, wp_bind, wp_modify, wp_bind, wp_get]
  refine wp_guarded_pass (fun c h => ?_) ?_
  · rw [List.mem_singleton.1 h, notConnected, hblank]
    simp [hc]
  · rw [wp_bind]
    refine wp_mono (wp_ask_answer hport reply p ?_ ?_ ?_) ?_ fun _ _ hE => hE
    · rw [hblank]
      exact hc
    · rw [hblank]
      exact hmoving
    · rw [hblank]
      exact hanswer
    · rintro got e ⟨rfl, errors, herrors, rfl⟩
      rw [wp_bind, wp_modify, hstore]
      have hlog : (store (List.replicate pins.length (-1)) d).log = d.log := by rw [hblank]
      rw [hlog]
      cases (values pins.length got).2 with
      | none => exact ⟨errors, herrors, rfl⟩
      | some e =>
        refine ⟨errors ++ [.error (refreshMessage got e) (some method)],
          by simpa [Entry.isError, or_imp, forall_and] using herrors, ?_⟩
        simp [List.append_assoc]

theorem sim_refreshAnalogPins (hport : port.Returns) (h : Same s d) :
    Simulates Same Eq (RXTXRobot.refreshAnalogPins port.link) (refreshAnalogPins port turns) s d := by
  cases hc : s.connected with
  | false =>
    refine .of_run (RXTXRobot.refreshAnalogPins_of_not_connected port.link hc) ?_
    exact wp_refresh_closed h.analogPins (h.connected.trans hc) (fun c => ⟨some c, d.digitalPinCache, rfl⟩)
      fun _ => ⟨rfl, { h.append _ _ rfl with analogPinCache := rfl }⟩
  | true =>
    have hrun := RXTXRobot.refreshAnalogPins_of_connected port.link hc
    rcases hlink : port.link.sendRaw true .readAnalog 100 s.link with ⟨reply, p⟩
    rw [hlink] at hrun
    refine .of_run hrun ?_
    refine wp_mono (wp_refresh_answer hport h.analogPins (h.connected.trans hc) h.moving
      ((h.answer port true .readAnalog 100).trans hlink) (fun c => ⟨some c, d.digitalPinCache, rfl⟩)
      fun _ _ _ _ _ => rfl) ?_ fun _ _ hE => hE
    rintro _ e ⟨errors, herrors, rfl⟩
    exact ⟨rfl, { h.sent .readAnalog 100 reply herrors (filterMap_errors _) with
      analogPinCache := rfl, again := rfl }⟩

theorem sim_refreshDigitalPins (hport : port.Returns) (h : Same s d) :
    Simulates Same Eq (RXTXRobot.refreshDigitalPins port.link) (refreshDigitalPins port turns) s d := by
  cases hc : s.connected with
  | false =>
    refine .of_run (RXTXRobot.refreshDigitalPins_of_not_connected port.link hc) ?_
    exact wp_refresh_closed h.digitalPins (h.connected.trans hc) (fun c => ⟨d.analogPinCache, some c, rfl⟩)
      fun _ => ⟨rfl, { h.append _ _ rfl with digitalPinCache := rfl }⟩
  | true =>
    have hrun := RXTXRobot.refreshDigitalPins_of_connected port.link hc
    rcases hlink : port.link.sendRaw true .readDigital 100 s.link with ⟨reply, p⟩
    rw [hlink] at hrun
    refine .of_run hrun ?_
    refine wp_mono (wp_refresh_answer hport h.digitalPins (h.connected.trans hc) h.moving
      ((h.answer port true .readDigital 100).trans hlink) (fun c => ⟨d.analogPinCache, some c, rfl⟩)
      fun _ _ _ _ _ => rfl) ?_ fun _ _ hE => hE
    rintro _ e ⟨errors, herrors, rfl⟩
    exact ⟨rfl, { h.sent .readDigital 100 reply herrors (filterMap_errors _) with
      digitalPinCache := rfl, again := rfl }⟩

theorem sim_pinEntry (h : Same s d) {available : List ℤ} {cache : Option (List ℤ)} {x : ℤ}
    {noun method : String} :
    Simulates Same (fun v r => r = some v) (RXTXRobot.pinValue available (cache.getD []) x)
      (pinEntry (some available) cache x noun method) s d := by
  by_cases hx : x ∈ available
  · by_cases hlt : available.idxOf x < (cache.getD []).length
    · cases cache with
      | none => exact absurd hlt (Nat.not_lt_zero _)
      | some cache =>
        change available.idxOf x < cache.length at hlt
        refine .of_run (RXTXRobot.pinValue_run hx hlt s) ?_
        have := h.append [.pinRead x cache[available.idxOf x]] [] rfl
        rw [List.append_nil] at this
        exact (wp_of_ok (pinEntry_ok hx (List.getElem?_eq_getElem hlt))).2 ⟨rfl, this⟩
    · intro a s' hrun
      unfold RXTXRobot.pinValue getAt at hrun
      rw [if_pos hx, Stateful.run_bind_lift, if_neg (by omega), Int.toNat_natCast,
        List.getElem?_eq_none (not_lt.1 hlt)] at hrun
      cases hrun
  · intro a s' hrun
    unfold RXTXRobot.pinValue at hrun
    rw [if_neg hx] at hrun
    cases hrun

theorem sim_getAnalogPin (hport : port.Returns) (h : Same s d) (x : ℤ) :
    Simulates Same (fun v r => r = some v) (RXTXRobot.getAnalogPin port.link x)
      (getAnalogPin port turns x) s d := by
  have hread : ∀ {s : Robot P JString} {d : Device P}, Same s d →
      Simulates Same (fun v r => r = some v)
        (RXTXRobot.pinValue s.analogPinsAvailable (s.analogPinCache.getD []) x)
        (pinEntry d.analogPinsAvailable d.analogPinCache x "Analog" "getAnalogPin") s d := by
    intro s d h
    rw [h.analogPins, h.analogPinCache]
    exact sim_pinEntry h
  unfold RXTXRobot.getAnalogPin getAnalogPin
  refine .get_bind (.ite (by rw [h.analogPinCache]) (fun _ => ?_) fun _ => .get_bind (hread h))
  exact .bind (sim_refreshAnalogPins hport h) fun _ _ _ _ _ h => .get_bind (hread h)

theorem sim_getDigitalPin (hport : port.Returns) (h : Same s d) (x : ℤ) :
    Simulates Same (fun v r => r = some v) (RXTXRobot.getDigitalPin port.link x)
      (getDigitalPin port turns x) s d := by
  have hread : ∀ {s : Robot P JString} {d : Device P}, Same s d →
      Simulates Same (fun v r => r = some v)
        (RXTXRobot.pinValue s.digitalPinsAvailable (s.digitalPinCache.getD []) x)
        (pinEntry d.digitalPinsAvailable d.digitalPinCache x "Digital" "getDigitalPin") s d := by
    intro s d h
    rw [h.digitalPins, h.digitalPinCache]
    exact sim_pinEntry h
  unfold RXTXRobot.getDigitalPin getDigitalPin
  refine .get_bind (.ite (by rw [h.digitalPinCache]) (fun _ => ?_) fun _ => .get_bind (hread h))
  exact .bind (sim_refreshDigitalPins hport h) fun _ _ _ _ _ h => .get_bind (hread h)

/-! ### Sensors -/

/-- What follows a question returns the value in the answer, or `failed`, and reports errors. -/
def Decodes {α : Type} (decode : JString → Except ApiError α) (failed : α)
    (g : JString → Act P α) : Prop :=
  ∀ response (e : Device P), wp (g response) (fun v e' => v = (decode response).toOption.getD failed ∧
    ∃ errors, (∀ x ∈ errors, x.isError = true) ∧ e' = { e with log := e.log ++ errors })
    (fun _ _ => False) e

theorem decodes_orResponse {α : Type} (decode : JString → Except ApiError α) (failed : α)
    (method : String) :
    Decodes decode failed (fun response => (orResponse failed method response decode : Act P α)) := by
  intro response e
  show wp (orReport failed method ((decode response).mapError (responseMessage response))) _ _ e
  cases decode response with
  | ok v => exact ⟨rfl, [], by simp, by rw [List.append_nil]⟩
  | error x =>
    exact ⟨rfl, [.error (responseMessage response x) (some method)], by simp [Entry.isError], rfl⟩

theorem sim_query {α : Type} (hport : port.Returns) (h : Same s d) (hc : s.connected = true)
    (cmd : Command) (wait : ℕ) {decode : JString → Except ApiError α} {failed : α}
    {g : JString → Act P α}
    (hg : Decodes decode failed g) :
    Simulates Same Eq (RXTXRobot.query port.link cmd wait decode failed)
      (ask port turns cmd.line wait >>= g) s d := by
  have hrun := RXTXRobot.query_of_connected port.link hc cmd wait decode failed
  rcases hlink : port.link.sendRaw true cmd wait s.link with ⟨reply, p⟩
  rw [hlink] at hrun
  refine .of_run hrun ?_
  rw [wp_bind]
  refine wp_mono (wp_ask_answer hport reply p (h.connected.trans hc) h.moving
    ((h.answer port true cmd wait).trans hlink)) ?_ fun _ _ hE => hE
  rintro got e ⟨rfl, errors, herrors, rfl⟩
  refine wp_mono (hg got _) ?_ fun _ _ hE => hE
  rintro v e ⟨rfl, errors', herrors', rfl⟩
  refine ⟨rfl, ?_⟩
  have hall : ∀ x ∈ errors ++ errors', x.isError = true := fun x hx =>
    (List.mem_append.1 hx).elim (herrors x) (herrors' x)
  have hsent := h.sent (p := p) cmd wait got hall
    (filterMap_errors (RXTXRobot.failure (decode got)).toList)
  rw [← List.cons_append, ← List.append_assoc] at hsent
  exact { hsent with again := rfl }

theorem sim_getConductivity (hport : port.Returns) (h : Same s d) :
    Simulates Same Eq (RXTXRobot.getConductivity port.link) (getConductivity port turns) s d := by
  refine sim_isConnected (.get_right (sim_guarded rfl (by rw [h.connected]) ?_ fun hc => ?_))
  · exact sim_report h _ _ _ rfl
  · exact sim_query hport h (by simpa using hc) .conductivity 3000 (decodes_orResponse _ _ _)

theorem sim_getIRChar (hport : port.Returns) (h : Same s d) :
    Simulates Same Eq (RXTXRobot.getIRChar port.link) (getIRChar port turns) s d := by
  refine sim_isConnected (.get_right (sim_guarded rfl (by rw [h.connected]) ?_ fun hc => ?_))
  · exact sim_report h _ _ _ rfl
  · exact sim_query hport h (by simpa using hc) .irChar 700 (decodes_orResponse _ _ _)

theorem sim_getPing (hport : port.Returns) (h : Same s d) (pin : ℤ) :
    Simulates Same Eq (RXTXRobot.getPing port.link pin) (getPing port turns pin) s d := by
  refine sim_isConnected (.get_right (sim_guarded rfl (by rw [h.connected]) ?_ fun hc => .get_left ?_))
  · exact sim_report h _ _ _ rfl
  · refine sim_guarded (b := !s.digitalPinsAvailable.contains pin) (by rw [h.digitalPins]; rfl)
      (by simp) (sim_report h _ _ _ rfl) fun _ => ?_
    refine sim_query hport h (by simpa using hc) (.ping pin) 200 fun response e => ?_
    cases RXTXRobot.pingValue response with
    | ok v => exact ⟨rfl, [], by simp, by rw [List.append_nil]⟩
    | error x =>
      have hreport : ∀ message method, ∃ errors : List Entry, (∀ x ∈ errors, x.isError = true) ∧
          ({ e with log := e.log ++ [.error message method] } : Device P) =
            { e with log := e.log ++ errors } :=
        fun message method => ⟨[.error message method], by simp [Entry.isError], rfl⟩
      cases x with
      | incorrectLength =>
        refine ⟨rfl, [.error "Incorrect response from Arduino (Invalid length)!" (some "getPing"),
          .error ("Ping Response: " ++ shown response) none], by simp [Entry.isError], ?_⟩
        rw [List.append_cons]
      | _ => exact ⟨rfl, hreport _ _⟩

/-! ### Lines without an answer -/

/-- A method that checks one argument and sends a line. -/
theorem sim_command (hport : port.Returns) (h : Same s d) {valid bad : Bool} (hvalid : bad = !valid)
    (e : ApiError) (message method method' : String) (cmd : Command) :
    Simulates Same Eq (RXTXRobot.command port.link valid e cmd)
      (guarded [notConnected d method, d.invalid bad message method'] () (send port turns cmd.line))
      s d := by
  have hreport : ∀ {c : Check} (x : ApiError),
      Simulates Same Eq (RXTXRobot.error x) (do error c.message c.method; return ()) s d := by
    intro c x a s' hrun
    cases hrun
    exact ⟨rfl, h.append _ _ rfl⟩
  refine sim_isConnected (sim_guarded rfl (by rw [h.connected]) (hreport _) fun _ => ?_)
  refine sim_guarded rfl (by rw [h.checked, hvalid]; rfl) (hreport _) fun _ => ?_
  exact .bind (sim_sendRaw hport h cmd 100) fun _ _ _ _ _ h => .pure rfl h

theorem outside_eq_not (lo hi v : ℤ) : outside lo hi v = !(decide (lo ≤ v) && decide (v ≤ hi)) := by
  unfold outside
  rw [Bool.not_and, ← decide_not, ← decide_not]
  simp only [not_le]

theorem sim_runPCAServo (hport : port.Returns) (h : Same s d) (channel position : ℤ) :
    Simulates Same Eq (RXTXRobot.runPCAServo port.link channel position)
      (runPCAServo port turns channel position) s d :=
  .get_right (sim_command hport h (outside_eq_not _ _ _) _ _ _ _ (.servo channel position))

theorem sim_runPCATimedServo (hport : port.Returns) (h : Same s d) (channel position duration : ℤ) :
    Simulates Same Eq (RXTXRobot.runPCATimedServo port.link channel position duration)
      (runPCATimedServo port turns channel position duration) s d :=
  .get_right (sim_command hport h (outside_eq_not _ _ _) _ _ _ _
    (.timedServo channel position duration))

theorem sim_runTwoPCAMotor (hport : port.Returns) (h : Same s d)
    (channel1 speed1 channel2 speed2 time : ℤ) :
    Simulates Same Eq (RXTXRobot.runTwoPCAMotor port.link channel1 speed1 channel2 speed2 time)
      (runTwoPCAMotor port turns channel1 speed1 channel2 speed2 time) s d := by
  have hline : (RXTXRobot.twoPCAMotorLine channel1 speed1 channel2 speed2 time).line =
      if time ≠ 0 then .twoPCATimedMotor channel1 speed1 channel2 speed2 time
      else .twoPCAMotor channel1 speed1 channel2 speed2 := by
    unfold RXTXRobot.twoPCAMotorLine
    split <;> rfl
  unfold runTwoPCAMotor
  rw [← hline]
  exact .get_right (sim_command hport h (outside_eq_not _ _ _) _ _ _ _ _)

/-! ### The connection -/

/-- A new object connects. -/
theorem sim_connect (hport : port.Returns) (p : P) :
    Simulates Same Eq (RXTXRobot.connect port.link) (connect arduinoUno port turns) (RXTXRobot.new p)
      (new p) := by
  intro a s' hrun
  rw [RXTXRobot.connect_new] at hrun
  unfold connect
  rw [wp_bind, wp_get]
  refine wp_ite (fun h => by cases h) fun _ => ?_
  simp only [wp_bind, wp_sleep, wp_modify]
  refine wp_mono (sim_refreshAnalogPins hport ?_ a s' hrun) (fun _ _ h => ⟨trivial, h.2⟩)
    fun _ _ hE => hE
  exact ⟨rfl, rfl, rfl, rfl, rfl, rfl, rfl, rfl, rfl, fun _ => rfl, fun _ => rfl, rfl, rfl, rfl, rfl,
    rfl, rfl⟩

/-- Nothing is attached that `close` could set back. -/
theorem sim_close (h : Same s d) :
    Simulates Same Eq (RXTXRobot.close port.link) (close port turns) s d := by
  refine .bind (sim_sleep h 300) fun _ _ s d _ h => .get_right ?_
  have hopen : ∀ {s : Robot P JString} {d : Device P}, Same s d →
      Simulates Same Eq (modify fun s => { s with connected := false } : Api P JString Unit)
        (modify fun d => { d with connected := false, log := d.log ++ [.closed] } : Act P Unit)
        s d := by
    intro s d h
    have hclosed := h.append [] [.closed] rfl
    rw [List.append_nil] at hclosed
    exact .modify { hclosed with connected := rfl }
  refine .ite (by simp [RXTXRobot.getResetOnClose, h.resets]) (fun _ => ?_) fun _ => hopen h
  unfold reset
  rw [bind_assoc]
  refine .bind (.forM (fun i s d h => .get_bind (.ite (by rw [h.servosAttached])
    (fun hi => ?_) fun _ => ?_)) _ h) fun _ _ s d _ h => ?_
  · exact absurd hi (by simp [h.noServos])
  · exact .pure rfl h
  refine .bind (.forM (fun i s d h => .get_bind (.ite (by rw [h.motorsAttached])
    (fun hi => ?_) fun _ => ?_)) _ h) fun _ _ s d _ h => hopen h
  · exact absurd hi (by simp [h.noMotors])
  · exact .pure rfl h

end Device
end ExeRobot
