/-
# The flags around `sendRaw`

`sendRaw` is told by three flags of the object to try again, to wait for the response,
and to read until the line comes back.  A method that sets one of them clears it after
the exchange, so that between two calls all three are clear (`Call.settles`) — unless
the call never returns.
-/

import ExeRobot.Device.Leads

namespace ExeRobot
namespace Device

open Persistent

variable {P : Type} {hw : Hardware} {port : Port P} {turns : ℕ} {α β : Type}

/-- None of the flags is set. -/
def Quiet (d : Device P) : Prop :=
  d.attemptTryAgain = false ∧ d.waitForResponse = false ∧ d.moveEncodedMotor = false

/-- `x` keeps the flags clear. -/
def Settles (x : Act P α) : Prop :=
  ∀ d, Quiet d → wp x (fun _ => Quiet) (fun s e => s = .blocks ∨ Quiet e) d

/-! ### Parts of methods -/

theorem settles_pure (a : α) : Settles (pure a : Act P α) := fun _ hd => hd

theorem settles_throw (s : Stop) : Settles (throw s : Act P α) := fun _ hd => .inr hd

theorem settles_lift (c : Except Stop α) : Settles (lift c : Act P α) := fun _ hd =>
  wp_lift (fun _ _ => hd) fun _ _ => .inr hd

theorem settles_get : Settles (get : Act P (Device P)) := fun _ hd => hd

theorem settles_modify {g : Device P → Device P} (hg : ∀ d, Quiet d → Quiet (g d)) :
    Settles (modify g : Act P PUnit) := hg

theorem Settles.bind {x : Act P α} {f : α → Act P β} (hx : Settles x) (hf : ∀ a, Settles (f a)) :
    Settles (x >>= f) := fun d hd => by
  rw [wp_bind]
  exact wp_mono (hx d hd) (fun a e he => hf a e he) fun _ _ he => he

theorem Settles.ite {c : Prop} [Decidable c] {x y : Act P α} (hx : Settles x) (hy : Settles y) :
    Settles (if c then x else y) := fun d hd => wp_ite (fun _ => hx d hd) fun _ => hy d hd

theorem settles_error (message method : String) : Settles (error message method : Act P Unit) :=
  fun _ hd => hd

theorem settles_errorLine (message : String) : Settles (errorLine message : Act P Unit) :=
  fun _ hd => hd

theorem settles_sleep (ms : ℕ) : Settles (sleep port ms) := fun _ hd => hd

theorem settles_sleepFor (time : ℤ) : Settles (sleepFor port time) :=
  .ite (settles_throw _) (settles_sleep _)

theorem settles_warn (c : Check) : Settles (warn c : Act P Unit) :=
  (settles_lift _).bind fun _ => .ite (fun _ hd => hd) (settles_pure _)

theorem Settles.guarded {checks : List Check} {r : α} {body : Act P α} (h : Settles body) :
    Settles (guarded checks r body) := fun d hd =>
  wp_guarded (fun _ _ _ _ => .inr hd) (fun _ _ _ => hd) fun _ => h d hd

/-- An exchange leaves the flags as they are. -/
theorem wp_sendRaw_flags {line : Line} {wait : ℕ} (d : Device P) :
    wp (sendRaw port turns line wait)
      (fun _ e => e.attemptTryAgain = d.attemptTryAgain ∧ e.waitForResponse = d.waitForResponse ∧
        e.moveEncodedMotor = d.moveEncodedMotor) (fun s _ => s = .blocks) d := by
  rcases Bool.eq_false_or_eq_true d.connected with hc | hc
  · refine wp_sendRaw hc (fun reply e errors he _ => ?_) fun _ _ _ _ => rfl
    obtain ⟨-, _, _, rfl⟩ := he
    exact ⟨rfl, rfl, rfl⟩
  · exact wp_sendRaw_of_not_connected hc fun _ _ => ⟨rfl, rfl, rfl⟩

theorem settles_sendRaw (line : Line) (wait : ℕ) : Settles (sendRaw port turns line wait) :=
  fun d hd => wp_mono (wp_sendRaw_flags d)
    (fun _ _ he => ⟨he.1.trans hd.1, he.2.1.trans hd.2.1, he.2.2.trans hd.2.2⟩) fun _ _ he => .inl he

theorem settles_ask (line : Line) (wait : ℕ) : Settles (ask port turns line wait) := by
  intro d hd
  unfold ask
  rw [wp_bind, wp_setAttemptTryAgain, wp_bind]
  refine wp_mono (wp_sendRaw_flags _) (fun _ _ he => ?_) fun _ _ he => .inl he
  exact ⟨rfl, he.2.1.trans hd.2.1, he.2.2.trans hd.2.2⟩

theorem Settles.map {x : Act P α} (f : α → β) (hx : Settles x) : Settles (f <$> x) := by
  rw [map_eq_pure_bind]
  exact hx.bind fun a => settles_pure (f a)

theorem Settles.forM {l : List α} {f : α → Act P PUnit} (hf : ∀ a, Settles (f a)) :
    Settles (l.forM f) := fun _ hd => wp_forM (fun a _ s hs => hf a s hs) hd

/-! ### Methods -/

theorem settles_orReport (r : α) (method : String) (v : Except String α) :
    Settles (orReport r method v : Act P α) := by
  cases v with
  | ok v => exact settles_pure v
  | error message => exact (settles_error message method).bind fun _ => settles_pure r

theorem settles_send (line : Line) : Settles (send port turns line) :=
  (settles_sendRaw line 100).bind fun _ => settles_pure ()

theorem settles_sendFor (line : Line) (time : ℤ) : Settles (sendFor port turns line time) :=
  (settles_sendRaw line 100).bind fun _ => .ite (settles_sleepFor _) (settles_pure _)

theorem settles_acknowledged (line : Line) : Settles (acknowledged port turns line) :=
  (settles_sendRaw line 100).bind fun _ => .ite (settles_errorLine _) (settles_pure _)

theorem settles_attach (k : Kind) (method : String) (wait : ℕ) (number pin : ℤ) :
    Settles (attach port turns k method wait number pin) := by
  refine settles_get.bind fun d => .guarded ((settles_ask _ _).bind fun response => ?_)
  refine .ite (settles_error _ _) ((settles_lift _).bind fun i => settles_modify fun d hd => ?_)
  cases k <;> exact hd

theorem settles_refresh {available : Device P → Option (List ℤ)}
    {store : List ℤ → Device P → Device P} {line : Line}
    {values : ℕ → JString → List ℤ × Option ApiError} {method : String}
    (hstore : ∀ cache d, Quiet d → Quiet (store cache d)) :
    Settles (refresh port turns available store line values method) := by
  refine settles_get.bind fun d => (settles_lift _).bind fun pins => ?_
  refine (settles_modify (hstore _)).bind fun _ => settles_get.bind fun d => .guarded ?_
  refine (settles_ask _ _).bind fun reply => (settles_modify (hstore _)).bind fun _ => ?_
  cases (values pins.length reply).2 with
  | none => exact settles_pure ()
  | some e => exact settles_error _ _

theorem settles_refreshAnalogPins : Settles (refreshAnalogPins port turns) :=
  settles_refresh fun _ _ hd => hd

theorem settles_refreshDigitalPins : Settles (refreshDigitalPins port turns) :=
  settles_refresh fun _ _ hd => hd

theorem settles_pinEntry (available cache : Option (List ℤ)) (x : ℤ) (noun method : String) :
    Settles (pinEntry available cache x noun method : Act P (Option ℤ)) :=
  (settles_lift _).bind fun _ => .ite
    ((settles_lift _).bind fun _ => (settles_lift _).bind fun _ => settles_pure _)
    ((settles_error _ _).bind fun _ => settles_pure _)

theorem settles_getTemperature : Settles (getTemperature port turns) := by
  refine settles_get.bind fun _ => .guarded fun d hd => ?_
  rw [wp_bind, wp_setWaitForResponse, wp_bind]
  refine wp_mono (wp_sendRaw_flags _) (fun reply e he => ?_) fun _ _ he => .inl he
  rw [wp_bind, wp_setWaitForResponse]
  exact settles_orReport _ _ _ _ ⟨he.1.trans hd.1, rfl, he.2.2.trans hd.2.2⟩

theorem settles_getPing (pin : ℤ) : Settles (getPing port turns pin) := by
  refine settles_get.bind fun _ => .guarded ((settles_ask _ _).bind fun response => ?_)
  split
  · exact settles_pure _
  · exact (settles_error _ _).bind fun _ => (settles_errorLine _).bind fun _ => settles_pure _
  · exact (settles_error _ _).bind fun _ => settles_pure _

theorem settles_ticksOf (response : JString) : Settles (ticksOf response : Act P ℤ) := by
  refine .ite ((settles_error _ _).bind fun _ => settles_pure _) ?_
  split
  · exact settles_pure _
  · exact settles_throw _

theorem settles_clearRunning (motors : List ℤ) : Settles (clearRunning motors : Act P Unit) :=
  .forM fun _ => (settles_lift _).bind fun _ => settles_modify fun _ hd => hd

theorem settles_limited {motors : List (ℤ × ℤ)} {body : Act P Unit} (h : Settles body) :
    Settles (limited motors body) := fun d hd =>
  wp_limited (fun _ _ => .inr hd) (fun _ _ => hd) (fun _ _ _ => h _ hd) fun _ => h d hd

theorem settles_runMotor (motor speed time : ℤ) : Settles (runMotor port turns motor speed time) :=
  settles_get.bind fun _ => .guarded (settles_limited (settles_get.bind fun _ => .guarded
    ((settles_sendFor _ _).bind fun _ => .ite (settles_clearRunning _) (settles_pure _))))

theorem settles_runTwoMotors (motor1 speed1 motor2 speed2 time : ℤ) :
    Settles (runTwoMotors port turns motor1 speed1 motor2 speed2 time) :=
  settles_get.bind fun _ => .guarded (settles_limited (settles_get.bind fun _ => .guarded
    ((settles_warn _).bind fun _ => .guarded
      ((settles_sendFor _ _).bind fun _ => .ite (settles_clearRunning _) (settles_pure _)))))

theorem settles_runEncoded (line : Line) (motors : List ℤ) :
    Settles (runEncoded port turns line motors) := by
  intro d hd
  unfold runEncoded send
  rw [wp_bind, wp_setMoveEncodedMotor, wp_bind, wp_bind]
  refine wp_mono (wp_sendRaw_flags _) (fun _ e he => ?_) fun _ _ he => .inl he
  have hend : Settles (do clearRunning motors; sleep port 1000 : Act P Unit) :=
    (settles_clearRunning motors).bind fun _ => settles_sleep 1000
  exact hend _ ⟨he.1.trans hd.1, he.2.1.trans hd.2.1, rfl⟩

theorem settles_moveServo (servo position : ℤ) : Settles (moveServo port turns servo position) :=
  settles_get.bind fun _ => .guarded (settles_send _)

theorem settles_setMixerSpeed (speed : ℤ) : Settles (setMixerSpeed speed : Act P Unit) := by
  have hset : ∀ v, Settles (modify fun d => { d with mixerSpeed := v } : Act P Unit) := fun v =>
    settles_modify fun _ hd => hd
  refine settles_get.bind fun _ => .ite ((settles_error _ _).bind fun _ => hset 255) ?_
  exact settles_get.bind fun _ => .ite ((settles_error _ _).bind fun _ => hset 0) (hset speed)

theorem settles_connect : Settles (connect hw port turns) := by
  refine settles_get.bind fun _ => .ite (settles_error _ _) ((settles_sleep 500).bind fun _ => ?_)
  refine .bind (settles_modify fun _ hd => hd) fun _ => .bind (settles_sleep 2500) fun _ => ?_
  refine .bind (settles_modify fun _ hd => hd) fun _ => ?_
  refine .bind (settles_modify fun _ hd => hd) fun _ => ?_
  exact settles_refreshAnalogPins

theorem settles_close : Settles (close port turns) := by
  have hclosed : Settles (modify fun d => { d with connected := false, log := d.log ++ [.closed] } :
    Act P Unit) := settles_modify fun _ hd => hd
  have hreset : Settles (reset port turns) :=
    (Settles.forM fun i => settles_get.bind fun _ => .ite (settles_moveServo _ _) (settles_pure _)).bind
      fun _ => .forM fun i => settles_get.bind fun _ => .ite (settles_runMotor _ _ _) (settles_pure _)
  exact (settles_sleep 300).bind fun _ => settles_get.bind fun _ =>
    .ite (hreset.bind fun _ => hclosed) hclosed

theorem Settles.ignoring {x : Act P α} (hx : Settles x) : Settles (ignoring x) :=
  hx.bind fun _ => settles_pure ()

/-- A method that checks its arguments and sends a line. -/
theorem settles_command {checks : Device P → List Check} {line : Device P → Line} :
    Settles (do let d ← get; guarded (checks d) () (send port turns (line d))) :=
  settles_get.bind fun _ => .guarded (settles_send _)

/-- A method that asks and evaluates the response. -/
theorem settles_query {checks : Device P → List Check} {r : α} {line : Line} {wait : ℕ}
    {f : JString → Act P α} (hf : ∀ response, Settles (f response)) :
    Settles (do let d ← get; guarded (checks d) r (ask port turns line wait >>= f)) :=
  settles_get.bind fun _ => .guarded ((settles_ask _ _).bind hf)

theorem Call.settles (call : Call) : Settles (call.run hw port turns) := by
  cases call with
  | connect => exact settles_connect
  | close => exact settles_close
  | attachMotor motor pin => exact settles_attach _ _ _ _ _
  | attachServo servo pin => exact settles_attach _ _ _ _ _
  | refreshAnalogPins => exact settles_refreshAnalogPins
  | refreshDigitalPins => exact settles_refreshDigitalPins
  | getAnalogPin x =>
    have hentry : Settles (do
        let d ← get
        pinEntry d.analogPinsAvailable d.analogPinCache x "Analog" "getAnalogPin" : Act P (Option ℤ)) :=
      settles_get.bind fun _ => settles_pinEntry _ _ _ _ _
    exact .ignoring (settles_get.bind fun _ =>
      .ite (settles_refreshAnalogPins.bind fun _ => hentry) hentry)
  | getDigitalPin x =>
    have hentry : Settles (do
        let d ← get
        pinEntry d.digitalPinsAvailable d.digitalPinCache x "Digital" "getDigitalPin" :
          Act P (Option ℤ)) :=
      settles_get.bind fun _ => settles_pinEntry _ _ _ _ _
    exact .ignoring (settles_get.bind fun _ =>
      .ite (settles_refreshDigitalPins.bind fun _ => hentry) hentry)
  | getAvailableDigitalPins => exact .ignoring (settles_get.bind fun _ => settles_lift _)
  | getTemperature => exact .ignoring settles_getTemperature
  | getPing pin => exact .ignoring (settles_getPing pin)
  | getConductivity => exact .ignoring (settles_query fun _ => settles_orReport _ _ _)
  | getIRChar => exact .ignoring (settles_query fun _ => settles_orReport _ _ _)
  | getGyroscope =>
    exact .ignoring (settles_query fun _ => (settles_warn _).bind fun _ => (settles_warn _).bind fun _ =>
      settles_pure _)
  | getGPSCoordinates =>
    exact .ignoring (settles_query fun _ => .ite ((settles_error _ _).bind fun _ => settles_pure _)
      (settles_pure _))
  | readCompass => exact .ignoring (settles_query fun _ => settles_orReport _ _ _)
  | runMotor motor speed time => exact settles_runMotor _ _ _
  | runTwoMotors motor1 speed1 motor2 speed2 time => exact settles_runTwoMotors _ _ _ _ _
  | runFourMotors motor1 speed1 motor2 speed2 motor3 speed3 motor4 speed4 time =>
    exact settles_get.bind fun _ => .guarded (settles_sendFor _ _)
  | runEncodedMotor motor speed ticks =>
    exact settles_get.bind fun _ => .guarded (settles_limited (settles_runEncoded _ _))
  | runTwoEncodedMotors motor1 speed1 tick1 motor2 speed2 tick2 =>
    exact settles_get.bind fun _ => .guarded (settles_limited (settles_get.bind fun _ => .guarded
      ((settles_warn _).bind fun _ => settles_runEncoded _ _)))
  | getEncodedMotorPosition motor => exact .ignoring (settles_query settles_ticksOf)
  | getPCAEncodedMotorTicks channel => exact .ignoring (settles_query settles_ticksOf)
  | resetEncodedMotorPosition motor => exact settles_get.bind fun _ => .guarded (settles_acknowledged _)
  | setMotorRampUpTime millis => exact settles_get.bind fun _ => .guarded (settles_acknowledged _)
  | runMixer motor time => exact settles_get.bind fun _ => .guarded (settles_sendFor _ _)
  | setMixerSpeed speed => exact settles_setMixerSpeed speed
  | setResetOnClose r => exact settles_modify fun _ hd => hd
  | setOverrideValidation o => exact settles_modify fun _ hd => hd
  | channelPCAStop channel => exact settles_send _
  | allPCAStop => exact settles_send _
  | sleep time => exact settles_sleepFor time
  | _ => exact settles_command

/-- The flags are clear after every call that ends. -/
theorem Call.Ends.quiet {call : Call} {d e : Device P} (h : call.Ends hw port d e) (hd : Quiet d) :
    Quiet e := by
  obtain ⟨turns, h | ⟨stop, hstop, h⟩⟩ := h
  · exact (wp_of_ok h).1 (call.settles d hd)
  · exact ((wp_of_error h).1 (call.settles d hd)).resolve_left hstop

end Device
end ExeRobot
