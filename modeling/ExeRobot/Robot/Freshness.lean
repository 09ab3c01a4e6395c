/-
# Readings that answer their own call

The sensor operations over the serial line of `ExeRobot.Robot.SerialLink`.  What an
operation does is followed by `Wrote`: the events it adds to the log, the numbers of
the command lines behind them, and the invariant of the line.  If the line has
nothing left to read and every call of `sendRaw` in the log is timely, the line has
nothing left to read afterwards, and every call has read answers to the lines it
wrote itself.  On a line at rest every call is timely when the board answers within
the shortest wait of a call.

The rules follow the programs with the effect `sending`, which also keeps track of
the commands a program may send.  That is how a scan is taken apart: the characters
of a row come from commands after the servo command of its step and before the next
one, so by the numbers of the lines they were sampled in between.
-/

import ExeRobot.Library.Effect
import ExeRobot.Robot.BumpLoop
import ExeRobot.Robot.Returns
import ExeRobot.Robot.SerialLink

namespace ExeRobot

open Stateful RXTXRobot

/-- Every call of `sendRaw` in the log is timely. -/
def AllTimely (board : Board) (es : List (Event Reading)) : Prop :=
  ∀ cmd wait r, .sent cmd wait r ∈ es → Timely board r.tryAgain cmd wait r.before

theorem AllTimely.append {board : Board} {es es' : List (Event Reading)} (h : AllTimely board es)
    (h' : AllTimely board es') : AllTimely board (es ++ es') := by
  intro cmd wait r hr
  rcases List.mem_append.1 hr with hr | hr
  · exact h cmd wait r hr
  · exact h' cmd wait r hr

/-- Only allowed commands are sent. -/
def OnlySends (allowed : Command → Prop) (es : List (Event Reading)) : Prop :=
  ∀ cmd wait r, .sent cmd wait r ∈ es → allowed cmd

theorem OnlySends.append {allowed : Command → Prop} {es es' : List (Event Reading)}
    (h : OnlySends allowed es) (h' : OnlySends allowed es') : OnlySends allowed (es ++ es') := by
  intro cmd wait r hr
  rcases List.mem_append.1 hr with hr | hr
  · exact h cmd wait r hr
  · exact h' cmd wait r hr

theorem OnlySends.mono {allowed allowed' : Command → Prop} {es : List (Event Reading)}
    (h : OnlySends allowed es) (himp : ∀ cmd, allowed cmd → allowed' cmd) : OnlySends allowed' es :=
  fun cmd wait r hr => himp cmd (h cmd wait r hr)

/-- The shortest wait of a call of `sendRaw`. -/
def shortestWait : ℕ := 100

/-- What a stretch of a run does to the line. -/
structure Wrote (board : Board) (es : List (Event Reading)) (s t : Robot Wire Reading) : Prop where
  log : t.log = s.log ++ es
  connected : t.connected = s.connected
  written : s.link.written ≤ t.link.written
  lines : ∀ cmd wait r, .sent cmd wait r ∈ es →
    s.link.written ≤ r.before.written ∧ r.before.written + r.lines ≤ t.link.written
  idle : s.link.unread = [] → AllTimely board es →
    t.link.unread = [] ∧ ∀ cmd wait r, .sent cmd wait r ∈ es → r.Fresh
  prompt : board.Prompt shortestWait → s.link.AtRest → t.link.AtRest ∧ AllTimely board es

namespace Wrote

variable {board : Board} {es es' : List (Event Reading)} {s s' t : Robot Wire Reading}

/-- Steps that send nothing. -/
theorem quiet (ms : ℕ) (hlog : t.log = s.log ++ es) (hconnected : t.connected = s.connected)
    (hlink : t.link = s.link.pass ms) (hnone : OnlySends (fun _ => False) es) : Wrote board es s t where
  log := hlog
  connected := hconnected
  written := by
    rw [hlink]
    exact le_rfl
  lines := fun cmd wait r h => (hnone cmd wait r h).elim
  idle := fun hnil _ => by
    rw [hlink]
    exact ⟨hnil, fun cmd wait r h => (hnone cmd wait r h).elim⟩
  prompt := fun _ hrest => by
    rw [hlink]
    exact ⟨hrest.pass ms, fun cmd wait r h => (hnone cmd wait r h).elim⟩

theorem refl (s : Robot Wire Reading) : Wrote board [] s s :=
  quiet 0 (List.append_nil _).symm rfl rfl fun _ _ _ h => absurd h List.not_mem_nil

theorem trans (h : Wrote board es s s') (h' : Wrote board es' s' t) : Wrote board (es ++ es') s t where
  log := by rw [h'.log, h.log, List.append_assoc]
  connected := h'.connected.trans h.connected
  written := h.written.trans h'.written
  lines := fun cmd wait r hr => by
    rcases List.mem_append.1 hr with hr | hr
    · obtain ⟨hfrom, hto⟩ := h.lines cmd wait r hr
      exact ⟨hfrom, hto.trans h'.written⟩
    · obtain ⟨hfrom, hto⟩ := h'.lines cmd wait r hr
      exact ⟨h.written.trans hfrom, hto⟩
  idle := fun hnil htimely => by
    obtain ⟨hnil', hfresh⟩ := h.idle hnil fun cmd wait r hr =>
      htimely cmd wait r (List.mem_append_left _ hr)
    obtain ⟨hnil'', hfresh'⟩ := h'.idle hnil' fun cmd wait r hr =>
      htimely cmd wait r (List.mem_append_right _ hr)
    refine ⟨hnil'', fun cmd wait r hr => ?_⟩
    rcases List.mem_append.1 hr with hr | hr
    · exact hfresh cmd wait r hr
    · exact hfresh' cmd wait r hr
  prompt := fun hboard hrest => by
    obtain ⟨hrest', htimely⟩ := h.prompt hboard hrest
    obtain ⟨hrest'', htimely'⟩ := h'.prompt hboard hrest'
    exact ⟨hrest'', htimely.append htimely'⟩

/-- A call of `sendRaw` over an open connection. -/
theorem call {tryAgain : Bool} {cmd : Command} {wait : ℕ} (hwait : shortestWait ≤ wait)
    (hlog : t.log = s.log ++ [.sent cmd wait (readingOf board tryAgain cmd wait s.link)])
    (hconnected : t.connected = s.connected)
    (hlink : t.link = wireAfter board tryAgain cmd wait s.link) :
    Wrote board [.sent cmd wait (readingOf board tryAgain cmd wait s.link)] s t where
  log := hlog
  connected := hconnected
  written := by
    rw [hlink, written_wireAfter]
    omega
  lines := fun cmd' wait' r hr => by
    cases List.mem_singleton.1 hr
    rw [hlink, written_wireAfter]
    exact ⟨le_rfl, le_rfl⟩
  idle := fun hnil htimely => by
    refine ⟨?_, fun cmd' wait' r hr => ?_⟩
    · rw [hlink, unread_nil_iff]
      exact htimely cmd wait _ (List.mem_singleton_self _)
    · cases List.mem_singleton.1 hr
      exact fresh_of_unread_nil hnil
  prompt := fun hboard hrest => by
    obtain ⟨htimely, hrest'⟩ := timely_of_prompt hboard hwait hrest
    refine ⟨hlink ▸ hrest', fun cmd' wait' r hr => ?_⟩
    cases List.mem_singleton.1 hr
    exact htimely

end Wrote

/-- The effect of writing to the line, with allowed commands only. -/
def sending (board : Board) (allowed : Command → Prop) : Effect (Robot Wire Reading) Unit where
  rel _ s t := ∃ es, Wrote board es s t ∧ OnlySends allowed es
  unit := ()
  comp _ _ := ()
  refl s := ⟨[], Wrote.refl s, fun _ _ _ h => absurd h List.not_mem_nil⟩
  trans := fun {m n s s' t} h h' => by
    obtain ⟨es, hw, honly⟩ := h
    obtain ⟨es', hw', honly'⟩ := h'
    exact ⟨es ++ es', hw.trans hw', honly.append honly'⟩

/-- Every run of `x` writes to the line, and sends allowed commands only. -/
abbrev Sends (board : Board) (allowed : Command → Prop) {α : Type} (x : Api Wire Reading α) : Prop :=
  (sending board allowed).Has x ()

namespace Sends

variable {board : Board} {allowed : Command → Prop} {α β ι : Type}

theorem pure (a : α) : Sends board allowed (Pure.pure a) := Effect.Has.pure a

theorem lift (x : Except Fault α) : Sends board allowed (liftM x : Api Wire Reading α) :=
  Effect.Has.lift x

theorem bind {x : Api Wire Reading α} {f : α → Api Wire Reading β} (hx : Sends board allowed x)
    (hf : ∀ a, Sends board allowed (f a)) : Sends board allowed (x >>= f) := Effect.Has.bind hx hf

theorem mapM {f : ι → Api Wire Reading α} (h : ∀ i, Sends board allowed (f i)) (l : List ι) :
    Sends board allowed (l.mapM f) := Effect.Has.mapM h l

theorem foldlM {f : α → ι → Api Wire Reading α} (h : ∀ a i, Sends board allowed (f a i)) (l : List ι)
    (a : α) : Sends board allowed (l.foldlM f a) := Effect.Has.foldlM h l a

/-- The first step of a finished sequence. -/
theorem peel {x : Api Wire Reading α} {f : α → Api Wire Reading β} (hx : Sends board allowed x)
    {s t : Robot Wire Reading} {b : β} (h : (x >>= f) s = .ok (b, t)) :
    ∃ a s' es, Wrote board es s s' ∧ OnlySends allowed es ∧ f a s' = .ok (b, t) := by
  obtain ⟨a, s', hfirst, hrest⟩ := bind_eq_ok.1 h
  obtain ⟨es, hw, honly⟩ := hx hfirst
  exact ⟨a, s', es, hw, honly, hrest⟩

/-- A change of the state that leaves the line, and may report something. -/
theorem report_change {f : Robot Wire Reading → Robot Wire Reading} (es : List (Event Reading)) (ms : ℕ)
    (hlog : ∀ s, (f s).log = s.log ++ es) (hconnected : ∀ s, (f s).connected = s.connected)
    (hlink : ∀ s, (f s).link = s.link.pass ms) (hnone : OnlySends (fun _ => False) es) :
    Sends board allowed (modify f : Api Wire Reading PUnit) := by
  intro s a t h
  obtain ⟨-, rfl⟩ : a = PUnit.unit ∧ f s = t := by cases h; exact ⟨rfl, rfl⟩
  exact ⟨es, Wrote.quiet ms (hlog s) (hconnected s) (hlink s) hnone,
    fun cmd wait r hr => (hnone cmd wait r hr).elim⟩

/-- A change of the state that leaves the line and the log. -/
theorem change {f : Robot Wire Reading → Robot Wire Reading} (hlog : ∀ s, (f s).log = s.log)
    (hconnected : ∀ s, (f s).connected = s.connected) (hlink : ∀ s, (f s).link = s.link) :
    Sends board allowed (modify f : Api Wire Reading PUnit) :=
  report_change [] 0 (fun s => (hlog s).trans (List.append_nil _).symm) hconnected hlink
    fun _ _ _ h => absurd h List.not_mem_nil

theorem guard {f : Bool → Api Wire Reading α} (h : ∀ b, Sends board allowed (f b)) :
    Sends board allowed (isConnected >>= f) := by
  intro s a t hrun
  rw [run_bind_ok (isConnected_run s)] at hrun
  exact h _ hrun

theorem get_bind {f : Robot Wire Reading → Api Wire Reading α} (h : ∀ s, Sends board allowed (f s)) :
    Sends board allowed (get >>= f) := by
  intro s a t hrun
  exact h s hrun

/-- Adding an event to the log that is not a command. -/
theorem record {e : Event Reading} (he : ∀ cmd wait r, e ≠ .sent cmd wait r) :
    Sends board allowed (RXTXRobot.record e : Api Wire Reading Unit) :=
  report_change [e] 0 (fun _ => rfl) (fun _ => rfl) (fun _ => rfl) fun cmd wait r h =>
    he cmd wait r (List.mem_singleton.1 h).symm

/-! ### The API -/

theorem error (e : ApiError) : Sends board allowed (RXTXRobot.error e : Api Wire Reading Unit) :=
  record fun _ _ _ h => by cases h

theorem report : ∀ e : Option ApiError, Sends board allowed (RXTXRobot.report e : Api Wire Reading Unit)
  | none => pure _
  | some e => error e

theorem setAttemptTryAgain (b : Bool) :
    Sends board allowed (RXTXRobot.setAttemptTryAgain b : Api Wire Reading Unit) :=
  change (fun _ => rfl) (fun _ => rfl) fun _ => rfl

theorem sleep (ms : ℕ) : Sends board allowed (RXTXRobot.sleep (serial board) ms) :=
  report_change [.slept ms] ms (fun _ => rfl) (fun _ => rfl) (fun _ => rfl)
    fun cmd wait r h => by cases List.mem_singleton.1 h

theorem sendRaw {cmd : Command} (h : allowed cmd) {wait : ℕ} (hwait : shortestWait ≤ wait) :
    Sends board allowed (RXTXRobot.sendRaw (serial board) cmd wait) := by
  intro s a t hrun
  cases hc : s.connected with
  | true =>
    rw [sendRaw_of_connected _ hc] at hrun
    obtain ⟨-, rfl⟩ := Prod.mk.inj (Except.ok.inj hrun)
    refine ⟨_, Wrote.call hwait rfl rfl rfl, fun cmd' wait' r hr => ?_⟩
    cases List.mem_singleton.1 hr
    exact h
  | false =>
    rw [sendRaw_of_not_connected _ hc] at hrun
    obtain ⟨-, rfl⟩ := Prod.mk.inj (Except.ok.inj hrun)
    have hnone : ∀ cmd' wait' r, (.sent cmd' wait' r : Event Reading) ∉ [.error .notConnected] :=
      fun _ _ _ hr => by cases List.mem_singleton.1 hr
    exact ⟨_, Wrote.quiet 0 rfl rfl rfl fun _ _ _ hr => hnone _ _ _ hr,
      fun _ _ _ hr => (hnone _ _ _ hr).elim⟩

/-- A command that may be repeated, and what is done with the reply. -/
theorem ask {cmd : Command} (h : allowed cmd) {wait : ℕ} (hwait : shortestWait ≤ wait)
    {f : JString → Api Wire Reading α} (hf : ∀ reply, Sends board allowed (f reply)) :
    Sends board allowed (do
      RXTXRobot.setAttemptTryAgain true
      let reply ← RXTXRobot.sendRaw (serial board) cmd wait
      RXTXRobot.setAttemptTryAgain false
      f reply) := by
  refine bind (setAttemptTryAgain true) fun _ => ?_
  refine bind (sendRaw h hwait) fun reply => ?_
  exact bind (setAttemptTryAgain false) fun _ => hf reply

theorem refreshAnalogPins (h : allowed .readAnalog) :
    Sends board allowed (RXTXRobot.refreshAnalogPins (serial board)) := by
  refine get_bind fun s => bind (change (fun _ => rfl) (fun _ => rfl) fun _ => rfl) fun _ => ?_
  refine guard fun _ => Effect.Has.ite (error _) (ask h le_rfl fun reply => ?_)
  exact bind (change (fun _ => rfl) (fun _ => rfl) fun _ => rfl) fun _ => report _

theorem refreshDigitalPins (h : allowed .readDigital) :
    Sends board allowed (RXTXRobot.refreshDigitalPins (serial board)) := by
  refine get_bind fun s => bind (change (fun _ => rfl) (fun _ => rfl) fun _ => rfl) fun _ => ?_
  refine guard fun _ => Effect.Has.ite (error _) (ask h le_rfl fun reply => ?_)
  exact bind (change (fun _ => rfl) (fun _ => rfl) fun _ => rfl) fun _ => report _

theorem pinValue (available cache : List ℤ) (x : ℤ) :
    Sends board allowed (RXTXRobot.pinValue available cache x : Api Wire Reading ℤ) := by
  unfold RXTXRobot.pinValue
  refine Effect.Has.ite ?_ ?_
  · refine bind (lift _) fun v => ?_
    exact bind (record fun _ _ _ h => by cases h) fun _ => pure v
  · exact bind (error _) fun _ => lift _

theorem getAnalogPin (h : allowed .readAnalog) (x : ℤ) :
    Sends board allowed (RXTXRobot.getAnalogPin (serial board) x) := by
  have hread : Sends board allowed (get >>= fun s : Robot Wire Reading =>
      RXTXRobot.pinValue s.analogPinsAvailable (s.analogPinCache.getD []) x) :=
    get_bind fun s => pinValue _ _ _
  exact get_bind fun s => Effect.Has.ite (bind (refreshAnalogPins h) fun _ => hread) hread

theorem getDigitalPin (h : allowed .readDigital) (x : ℤ) :
    Sends board allowed (RXTXRobot.getDigitalPin (serial board) x) := by
  have hread : Sends board allowed (get >>= fun s : Robot Wire Reading =>
      RXTXRobot.pinValue s.digitalPinsAvailable (s.digitalPinCache.getD []) x) :=
    get_bind fun s => pinValue _ _ _
  exact get_bind fun s => Effect.Has.ite (bind (refreshDigitalPins h) fun _ => hread) hread

theorem query {cmd : Command} (h : allowed cmd) {wait : ℕ} (hwait : shortestWait ≤ wait)
    (decode : JString → Except ApiError α) (failed : α) :
    Sends board allowed (RXTXRobot.query (serial board) cmd wait decode failed) := by
  unfold RXTXRobot.query
  refine ask h hwait fun response => ?_
  cases decode response with
  | ok v => exact pure v
  | error e => exact bind (error e) fun _ => pure failed

theorem getPing {pin : ℤ} (h : allowed (.ping pin)) :
    Sends board allowed (RXTXRobot.getPing (serial board) pin) :=
  guard fun _ => Effect.Has.ite (bind (error _) fun _ => pure _) (get_bind fun _ =>
    Effect.Has.ite (bind (error _) fun _ => pure _) (query h (by decide) _ _))

theorem getConductivity (h : allowed .conductivity) :
    Sends board allowed (RXTXRobot.getConductivity (serial board)) :=
  guard fun _ => Effect.Has.ite (bind (error _) fun _ => pure _) (query h (by decide) _ _)

theorem getIRChar (h : allowed .irChar) : Sends board allowed (RXTXRobot.getIRChar (serial board)) :=
  guard fun _ => Effect.Has.ite (bind (error _) fun _ => pure _) (query h (by decide) _ _)

theorem command (valid : Bool) (e : ApiError) {cmd : Command} (h : allowed cmd) :
    Sends board allowed (RXTXRobot.command (serial board) valid e cmd) :=
  guard fun _ => Effect.Has.ite (error _) (Effect.Has.ite (error _)
    (bind (sendRaw h le_rfl) fun _ => pure _))

end Sends

namespace EXERobot

variable {board : Board} {allowed : Command → Prop}

namespace Sends

open ExeRobot.Sends

/-! ### The sensor operations -/

theorem checkBump (h : allowed .readDigital) :
    ExeRobot.Sends board allowed (EXERobot.checkBump (serial board)) :=
  bind (refreshDigitalPins h) fun _ => bind (getDigitalPin h _) fun _ => pure _

theorem readIRChar (h : allowed .readDigital) (hir : allowed .irChar) :
    ExeRobot.Sends board allowed (EXERobot.readIRChar (serial board)) := by
  refine bind (refreshDigitalPins h) fun _ => bind (mapM (fun _ => ?_) _) fun _ => pure _
  refine bind (getIRChar hir) fun _ => bind (refreshDigitalPins h) fun _ => ?_
  exact bind (sleep 10) fun _ => pure _

theorem sumOf {reading : Api Wire Reading ℤ} (h : ExeRobot.Sends board allowed reading) (count : ℕ) :
    ExeRobot.Sends board allowed (EXERobot.sumOf count reading) :=
  foldlM (fun _ _ => bind h fun _ => pure _) _ _

theorem getTemperature (h : allowed .readAnalog) :
    ExeRobot.Sends board allowed (EXERobot.getTemperature (serial board)) :=
  bind (sumOf (bind (sleep 200) fun _ => bind (refreshAnalogPins h) fun _ => getAnalogPin h _) 10)
    fun _ => pure _

theorem getPing (h : allowed .readDigital) (hping : allowed (.ping PING_SENSOR)) :
    ExeRobot.Sends board allowed (EXERobot.getPing (serial board)) :=
  bind (sumOf (bind (refreshDigitalPins h) fun _ => ExeRobot.Sends.getPing hping) 10) fun _ => pure _

theorem getConductivity (h : allowed .readDigital) (hcond : allowed .conductivity) :
    ExeRobot.Sends board allowed (EXERobot.getConductivity (serial board)) :=
  bind (sleep 1000) fun _ => bind (refreshDigitalPins h) fun _ =>
    bind (ExeRobot.Sends.getConductivity hcond) fun _ => pure _

theorem runPCAServo (channel position : ℤ) (h : allowed (.servo channel position)) :
    ExeRobot.Sends board allowed (RXTXRobot.runPCAServo (serial board) channel position) :=
  command _ _ h

theorem zeroServos (h : ∀ p, allowed (.servo SERVO_MEASUREMENTS_1 p))
    (htimed : ∀ p, allowed (.timedServo SERVO_MEASUREMENTS_2 p 1000)) :
    ExeRobot.Sends board allowed (EXERobot.zeroServos (serial board)) :=
  bind (command _ _ (h _)) fun _ => command _ _ (htimed _)

theorem getIRArray (h : allowed .readDigital) (hir : allowed .irChar) :
    ExeRobot.Sends board allowed (EXERobot.getIRArray (serial board)) := by
  refine bind (sleep 1000) fun _ => bind (refreshDigitalPins h) fun _ => mapM (fun _ => ?_) _
  refine bind (refreshDigitalPins h) fun _ => bind (getIRChar hir) fun _ => ?_
  exact bind (sleep 100) fun _ => pure _

theorem generateIRArrayMatrix (h : ∀ cmd, allowed cmd) :
    ExeRobot.Sends board allowed (EXERobot.generateIRArrayMatrix (serial board)) := by
  refine bind (zeroServos (fun _ => h _) fun _ => h _) fun _ => mapM (fun _ => ?_) _
  refine bind (runPCAServo _ _ (h _)) fun _ => bind (sleep 10) fun _ => ?_
  exact bind (refreshDigitalPins (h _)) fun _ => getIRArray (h _) (h _)

end Sends

/-! ### Where the characters of a row come from -/

/-- The character a reading of the IR sensor gives. -/
def irCharOf (r : Reading) : JChar := (irValue r.text).toOption.getD (jc '0')

/-- The character comes from a reading of the IR sensor in this stretch. -/
def Sampled (es : List (Event Reading)) (c : JChar) : Prop :=
  ∃ wait r, .sent .irChar wait r ∈ es ∧ c = irCharOf r

/-- The command is a step of the sweep. -/
def IsSweep (cmd : Command) : Prop := ∃ position, cmd = .servo 4 position

/-- The command is no step of the sweep. -/
def NoSweep (cmd : Command) : Prop := ¬ IsSweep cmd

theorem noSweep_readDigital : NoSweep .readDigital := fun ⟨_, h⟩ => by cases h

theorem noSweep_irChar : NoSweep .irChar := fun ⟨_, h⟩ => by cases h

theorem Sampled.mono {es es' : List (Event Reading)} {c : JChar} (h : Sampled es c) (hsub : es ⊆ es') :
    Sampled es' c := by
  obtain ⟨wait, r, hr, hc⟩ := h
  exact ⟨wait, r, hsub hr, hc⟩

/-- A reading of the IR sensor. -/
theorem getIRChar_wrote {s t : Robot Wire Reading} {c : JChar} (hs : s.connected = true)
    (h : RXTXRobot.getIRChar (serial board) s = .ok (c, t)) :
    ∃ es, Wrote board es s t ∧ OnlySends (fun cmd => cmd = .irChar) es ∧ Sampled es c := by
  have hsends : ExeRobot.Sends board (fun cmd => cmd = .irChar) (RXTXRobot.getIRChar (serial board)) :=
    ExeRobot.Sends.getIRChar rfl
  obtain ⟨es, hw, honly⟩ := hsends h
  have hrun := (getIRChar_of_connected (serial board) hs).trans (query_of_connected _ hs _ _ _ _)
  obtain ⟨hc, ht⟩ := Prod.mk.inj (Except.ok.inj (h.symm.trans hrun))
  have hes : es = .sent .irChar 700 (readingOf board true .irChar 700 s.link) :: _ :=
    List.append_cancel_left (hw.log.symm.trans (congrArg Robot.log ht))
  have hsampled : Sampled es c := by
    refine ⟨700, readingOf board true .irChar 700 s.link, ?_, ?_⟩
    · rw [hes]
      exact List.mem_cons_self ..
    · rw [hc, text_serial]
      rfl
  exact ⟨es, hw, honly, hsampled⟩

/-- The readings of a row. -/
theorem mapM_wrote {ι : Type} {f : ι → Api Wire Reading JChar}
    (hf : ∀ i s t c, s.connected = true → f i s = .ok (c, t) →
      ∃ es, Wrote board es s t ∧ OnlySends allowed es ∧ Sampled es c)
    {l : List ι} {s t : Robot Wire Reading} {row : List JChar} (hs : s.connected = true)
    (h : l.mapM f s = .ok (row, t)) :
    ∃ es, Wrote board es s t ∧ OnlySends allowed es ∧ ∀ c ∈ row, Sampled es c := by
  induction l generalizing s row with
  | nil =>
    obtain ⟨rfl, rfl⟩ : [] = row ∧ s = t := by simpa using h
    exact ⟨[], Wrote.refl s, fun _ _ _ hr => absurd hr List.not_mem_nil,
      fun c hc => absurd hc List.not_mem_nil⟩
  | cons i l ih =>
    obtain ⟨c, s', row', hfirst, hrest, rfl⟩ := mapM_cons_ok.1 h
    obtain ⟨es, hw, honly, hc⟩ := hf i s s' c hs hfirst
    obtain ⟨es', hw', honly', hrow⟩ := ih (hw.connected.trans hs) hrest
    refine ⟨es ++ es', hw.trans hw', honly.append honly', fun c' hc' => ?_⟩
    rcases List.mem_cons.1 hc' with rfl | hc'
    · exact hc.mono (List.subset_append_left ..)
    · exact (hrow c' hc').mono (List.subset_append_right ..)

/-- The readings of a direction: no step of the sweep is among the commands. -/
theorem getIRArray_wrote {s t : Robot Wire Reading} {row : List JChar} (hs : s.connected = true)
    (h : getIRArray (serial board) s = .ok (row, t)) :
    ∃ es, Wrote board es s t ∧ OnlySends NoSweep es ∧ ∀ c ∈ row, Sampled es c := by
  have hsleep : ∀ ms, ExeRobot.Sends board NoSweep (sleep (serial board) ms) := ExeRobot.Sends.sleep
  have hrefresh : ExeRobot.Sends board NoSweep (refreshDigitalPins (serial board)) :=
    ExeRobot.Sends.refreshDigitalPins noSweep_readDigital
  obtain ⟨_, s₁, es₁, hw₁, honly₁, h⟩ := (hsleep 1000).peel h
  obtain ⟨_, s₂, es₂, hw₂, honly₂, h⟩ := hrefresh.peel h
  have hs₂ : s₂.connected = true := (hw₂.connected.trans hw₁.connected).trans hs
  have hturn : ∀ (i : ℕ) (s t : Robot Wire Reading) (c : JChar), s.connected = true →
      (do
        refreshDigitalPins (serial board)
        let currentReceived ← RXTXRobot.getIRChar (serial board)
        sleep (serial board) 100
        return currentReceived : Api Wire Reading JChar) s = .ok (c, t) →
      ∃ es, Wrote board es s t ∧ OnlySends NoSweep es ∧ Sampled es c := by
    intro _ s t c hs h
    obtain ⟨_, s', es, hw, honly, h⟩ := hrefresh.peel h
    obtain ⟨c', s'', hchar, h⟩ := bind_eq_ok.1 h
    obtain ⟨es', hw', honly', hc⟩ := getIRChar_wrote (hw.connected.trans hs) hchar
    obtain ⟨_, t', es'', hw'', honly'', h⟩ := (hsleep 100).peel h
    obtain ⟨rfl, rfl⟩ : c' = c ∧ t' = t := by simpa using h
    refine ⟨es ++ es' ++ es'', (hw.trans hw').trans hw'', ?_, ?_⟩
    · refine (honly.append (honly'.mono fun cmd hcmd => ?_)).append honly''
      rw [hcmd]
      exact noSweep_irChar
    · exact (hc.mono (List.subset_append_right es es')).mono (List.subset_append_left ..)
  obtain ⟨es₃, hw₃, honly₃, hrow⟩ := mapM_wrote hturn hs₂ h
  refine ⟨es₁ ++ es₂ ++ es₃, (hw₁.trans hw₂).trans hw₃, (honly₁.append honly₂).append honly₃, ?_⟩
  exact fun c hc => (hrow c hc).mono (List.subset_append_right ..)

/-- **A step of the sweep**: its servo command, then its readings. -/
theorem sweepStep_wrote {index : ℕ} {s t : Robot Wire Reading} {row : List JChar}
    (hs : s.connected = true) (h : sweepStep (serial board) index s = .ok (row, t)) :
    ∃ es es' s', Wrote board es s s' ∧ Wrote board es' s' t ∧
      OnlySends (fun cmd => cmd = .servo 4 (measurementScale (index * 5))) es ∧
      OnlySends NoSweep es' ∧ ∀ c ∈ row, Sampled es' c := by
  have hservo : ExeRobot.Sends board (fun cmd => cmd = .servo 4 (measurementScale (index * 5)))
      (RXTXRobot.runPCAServo (serial board) 4 (measurementScale (index * 5))) :=
    Sends.runPCAServo _ _ rfl
  have hsleep : ExeRobot.Sends board NoSweep (sleep (serial board) 10) := ExeRobot.Sends.sleep 10
  have hrefresh : ExeRobot.Sends board NoSweep (refreshDigitalPins (serial board)) :=
    ExeRobot.Sends.refreshDigitalPins noSweep_readDigital
  obtain ⟨_, s', es, hw, honly, h⟩ := hservo.peel h
  obtain ⟨_, s₁, es₁, hw₁, honly₁, h⟩ := hsleep.peel h
  obtain ⟨_, s₂, es₂, hw₂, honly₂, h⟩ := hrefresh.peel h
  have hs₂ : s₂.connected = true :=
    ((hw₂.connected.trans hw₁.connected).trans hw.connected).trans hs
  obtain ⟨es₃, hw₃, honly₃, hrow⟩ := getIRArray_wrote hs₂ h
  refine ⟨es, es₁ ++ es₂ ++ es₃, s', hw, (hw₁.trans hw₂).trans hw₃, honly,
    (honly₁.append honly₂).append honly₃, ?_⟩
  exact fun c hc => (hrow c hc).mono (List.subset_append_right ..)

/-- The servo command of the step `index`. -/
def stepCommand (index : ℕ) : Command := .servo 4 (measurementScale (index * 5))

theorem stepCommand_injective {i j : ℕ} (h : stepCommand i = stepCommand j) : i = j := by
  unfold stepCommand at h
  rw [measurementScale_step, measurementScale_step, Command.servo.injEq] at h
  omega

/-- The reading's commands come after every servo command of the steps up to `i` and
before every one of the steps after it. -/
def DuringStep (es : List (Event Reading)) (i : ℕ) (r : Reading) : Prop :=
  ∀ j wait r', .sent (stepCommand j) wait r' ∈ es →
    (j ≤ i → r'.before.written + r'.lines ≤ r.before.written) ∧
      (i < j → r.before.written + r.lines ≤ r'.before.written)

section

/- The step `i` of a sweep, `es₁` with its servo command and `es₂` with its readings, and
the steps after it, `es₃`. -/
variable {es₁ es₂ es₃ : List (Event Reading)} {s s₁ s' t : Robot Wire Reading} {i : ℕ}
  (hw₁ : Wrote board es₁ s s₁) (hw₂ : Wrote board es₂ s₁ s') (hw₃ : Wrote board es₃ s' t)
  (hfirst : ∀ j wait r, .sent (stepCommand j) wait r ∈ es₁ → j = i)
  (hnone : ∀ j wait r, .sent (stepCommand j) wait r ∉ es₂)

include hw₁ hw₂ hw₃ hfirst hnone

/-- The readings of the step come between its servo command and those of the later steps. -/
theorem duringStep_first (hlater : ∀ j wait r, .sent (stepCommand j) wait r ∈ es₃ → i < j)
    {cmd : Command} {wait : ℕ} {r : Reading} (hr : .sent cmd wait r ∈ es₂) :
    DuringStep (es₁ ++ (es₂ ++ es₃)) i r := by
  obtain ⟨hfrom, hto⟩ := hw₂.lines _ _ _ hr
  intro j wait' r' hr'
  rcases List.mem_append.1 hr' with hr' | hr'
  · obtain rfl := hfirst j wait' r' hr'
    have hbefore := (hw₁.lines _ _ _ hr').2
    exact ⟨fun _ => hbefore.trans hfrom, fun hlt => absurd hlt (lt_irrefl _)⟩
  · rcases List.mem_append.1 hr' with hr' | hr'
    · exact absurd hr' (hnone j wait' r')
    · have hlt := hlater j wait' r' hr'
      have hafter := (hw₃.lines _ _ _ hr').1
      exact ⟨fun hle => absurd hle hlt.not_ge, fun _ => hto.trans hafter⟩

/-- The readings of a later step come after the servo command of this one as well. -/
theorem duringStep_later {i' : ℕ} (hlt : i < i') {cmd : Command} {wait : ℕ} {r : Reading}
    (hr : .sent cmd wait r ∈ es₃) (hduring : DuringStep es₃ i' r) :
    DuringStep (es₁ ++ (es₂ ++ es₃)) i' r := by
  have hfrom := (hw₃.lines _ _ _ hr).1
  intro j wait' r' hr'
  rcases List.mem_append.1 hr' with hr' | hr'
  · obtain rfl := hfirst j wait' r' hr'
    have hbefore := (hw₁.lines _ _ _ hr').2
    have hbetween := hw₂.written
    exact ⟨fun _ => by omega, fun hgt => absurd hgt (by omega)⟩
  · rcases List.mem_append.1 hr' with hr' | hr'
    · exact absurd hr' (hnone j wait' r')
    · exact hduring j wait' r' hr'

end

/-- **The sweep over increasing steps**, by induction on the steps: the readings of a
row come between the servo command of its step and those of the steps after it. -/
theorem sweep_wrote {l : List ℕ} (hl : l.Pairwise (· < ·)) {s t : Robot Wire Reading}
    {rows : List (List JChar)} (hs : s.connected = true)
    (h : l.mapM (sweepStep (serial board)) s = .ok (rows, t)) :
    ∃ es, Wrote board es s t ∧
      (∀ j wait r, .sent (stepCommand j) wait r ∈ es → j ∈ l) ∧
      ∀ i row, (i, row) ∈ l.zip rows → ∀ c ∈ row,
        ∃ wait r, .sent .irChar wait r ∈ es ∧ c = irCharOf r ∧ DuringStep es i r := by
  induction l generalizing s rows with
  | nil =>
    obtain ⟨rfl, rfl⟩ : [] = rows ∧ s = t := by simpa using h
    exact ⟨[], Wrote.refl s, fun _ _ _ hr => absurd hr List.not_mem_nil,
      fun _ _ hrow => absurd hrow List.not_mem_nil⟩
  | cons i l ih =>
    obtain ⟨row, s', rows', hstep, hrest, rfl⟩ := mapM_cons_ok.1 h
    obtain ⟨es₁, es₂, s₁, hw₁, hw₂, honly₁, honly₂, hrow⟩ := sweepStep_wrote hs hstep
    have hs' : s'.connected = true := (hw₂.connected.trans hw₁.connected).trans hs
    obtain ⟨hhead, htail⟩ := List.pairwise_cons.1 hl
    obtain ⟨es₃, hw₃, hsteps, hrows⟩ := ih htail hs' hrest
    have hfirst : ∀ j wait r, .sent (stepCommand j) wait r ∈ es₁ → j = i := fun j wait r hr =>
      stepCommand_injective (honly₁ _ wait r hr)
    have hnone : ∀ j wait r, .sent (stepCommand j) wait r ∉ es₂ := fun j wait r hr =>
      honly₂ _ wait r hr ⟨_, rfl⟩
    refine ⟨es₁ ++ (es₂ ++ es₃), hw₁.trans (hw₂.trans hw₃), fun j wait r hr => ?_,
      fun i' row' hmem c hc => ?_⟩
    · rcases List.mem_append.1 hr with hr | hr
      · rw [hfirst j wait r hr]
        exact List.mem_cons_self ..
      · rcases List.mem_append.1 hr with hr | hr
        · exact absurd hr (hnone j wait r)
        · exact List.mem_cons_of_mem _ (hsteps j wait r hr)
    · rcases List.mem_cons.1 hmem with heq | hmem
      · -- a character of the first row: read in `es₂`
        obtain ⟨rfl, rfl⟩ := Prod.mk.inj heq
        obtain ⟨wait, r, hr, hcr⟩ := hrow c hc
        refine ⟨wait, r, List.mem_append_right _ (List.mem_append_left _ hr), hcr, ?_⟩
        exact duringStep_first hw₁ hw₂ hw₃ hfirst hnone
          (fun j wait' r' hr' => hhead j (hsteps j wait' r' hr')) hr
      · -- a character of a later row: read in `es₃`
        obtain ⟨wait, r, hr, hcr, hduring⟩ := hrows i' row' hmem c hc
        refine ⟨wait, r, List.mem_append_right _ (List.mem_append_right _ hr), hcr, ?_⟩
        exact duringStep_later hw₁ hw₂ hw₃ hfirst hnone (hhead i' (List.of_mem_zip hmem).1) hr hduring

/-- **A scan**: the readings of row `i` come during step `i`. -/
theorem generateIRArrayMatrix_wrote {s t : Robot Wire Reading} {matrix : List (List JChar)}
    (hs : s.connected = true) (h : generateIRArrayMatrix (serial board) s = .ok (matrix, t)) :
    ∃ es, Wrote board es s t ∧ ∀ i row, matrix[i]? = some row → ∀ c ∈ row,
      ∃ wait r, .sent .irChar wait r ∈ es ∧ c = irCharOf r ∧ DuringStep es i r := by
  have hzero : ExeRobot.Sends board NoSweep (zeroServos (serial board)) :=
    Sends.zeroServos (fun p ⟨_, hp⟩ => by cases hp) (fun p ⟨_, hp⟩ => by cases hp)
  obtain ⟨_, s', es₀, hw₀, honly₀, h⟩ := hzero.peel h
  obtain ⟨es, hw, -, hrows⟩ :=
    sweep_wrote List.pairwise_lt_range (hw₀.connected.trans hs) h
  refine ⟨es₀ ++ es, hw₀.trans hw, fun i row hrow c hc => ?_⟩
  have hlen : matrix.length = ANGLE_COUNT := (mapM_length h).trans List.length_range
  have hi : i < ANGLE_COUNT := by
    rw [← hlen]
    exact (List.getElem?_eq_some_iff.1 hrow).1
  have hmem : (i, row) ∈ (List.range ANGLE_COUNT).zip matrix :=
    List.mem_iff_getElem?.2 ⟨i, List.getElem?_zip_eq_some.2 ⟨by simp [hi], hrow⟩⟩
  obtain ⟨wait, r, hr, hcr, hduring⟩ := hrows i row hmem c hc
  refine ⟨wait, r, List.mem_append_right _ hr, hcr, fun j wait' r' hr' => ?_⟩
  rcases List.mem_append.1 hr' with hr' | hr'
  · exact absurd ⟨_, rfl⟩ (honly₀ _ wait' r' hr')
  · exact hduring j wait' r' hr'

/-! ### Runs of sensor operations -/

/-- The operations that take a reading. -/
def Op.isSensor : Op → Bool
  | .readIRChar => true
  | .getIRArray => true
  | .generateIRArrayMatrix => true
  | .checkBump => true
  | .getTemperature => true
  | .getPing => true
  | .getConductivity => true
  | _ => false

theorem Op.wrote {op : Op} (h : op.isSensor = true) {s t : Robot Wire Reading}
    (hrun : op.Returns (serial board) s t) : ∃ es, Wrote board es s t := by
  have dropped : ∀ {α : Type} {x : Api Wire Reading α}, ExeRobot.Sends board (fun _ => True) x →
      returning x s = .ok (true, t) → ∃ es, Wrote board es s t := fun hx hret => by
    obtain ⟨es, hw, -⟩ := ExeRobot.Sends.bind hx (fun _ => ExeRobot.Sends.pure true) hret
    exact ⟨es, hw⟩
  obtain ⟨turns, hrun⟩ := hrun
  cases op with
  | readIRChar => exact dropped (Sends.readIRChar trivial trivial) hrun
  | getIRArray => exact dropped (Sends.getIRArray trivial trivial) hrun
  | generateIRArrayMatrix => exact dropped (Sends.generateIRArrayMatrix fun _ => trivial) hrun
  | checkBump => exact dropped (Sends.checkBump trivial) hrun
  | getTemperature => exact dropped (Sends.getTemperature trivial) hrun
  | getPing => exact dropped (Sends.getPing trivial trivial) hrun
  | getConductivity => exact dropped (Sends.getConductivity trivial trivial) hrun
  | _ => cases h

theorem RunOps.wrote {ops : List Op} {s t : Robot Wire Reading} (h : RunOps (serial board) ops s t)
    (hops : ∀ op ∈ ops, op.isSensor = true) : ∃ es, Wrote board es s t := by
  induction h with
  | nil s => exact ⟨[], Wrote.refl s⟩
  | cons first rest ih =>
    obtain ⟨es, hw⟩ := Op.wrote (hops _ (List.mem_cons_self ..)) first
    obtain ⟨es', hw'⟩ := ih fun op hop => hops op (List.mem_cons_of_mem _ hop)
    exact ⟨es ++ es', hw.trans hw'⟩

/-- The value of a pin comes from the reading: it is the last one before it, by a
refresh, and the value is one of its fields. -/
def UsedForPin (es : List (Event Reading)) (r : Reading) : Prop :=
  ∃ pre cmd wait mid pin value post,
    es = pre ++ .sent cmd wait r :: (mid ++ .pinRead pin value :: post) ∧
      (cmd = .readAnalog ∨ cmd = .readDigital) ∧ OnlySends (fun _ => False) mid ∧
      ∃ field ∈ split r.text, parseInt field = some value

/-- A value that an operation uses is parsed from the reading. -/
def Used (es : List (Event Reading)) (r : Reading) : Prop :=
  (∃ wait c, .sent .irChar wait r ∈ es ∧ irValue r.text = .ok c) ∨
    (∃ pin wait v, .sent (.ping pin) wait r ∈ es ∧ pingValue r.text = .ok v) ∨
    (∃ wait v, .sent .conductivity wait r ∈ es ∧ conductivityValue r.text = .ok v) ∨
    UsedForPin es r

theorem Used.sent {es : List (Event Reading)} {r : Reading} (h : Used es r) :
    ∃ cmd wait, .sent cmd wait r ∈ es := by
  rcases h with ⟨wait, c, hr, -⟩ | ⟨pin, wait, v, hr, -⟩ | ⟨wait, v, hr, -⟩ |
    ⟨pre, cmd, wait, mid, pin, value, post, rfl, -⟩
  · exact ⟨_, wait, hr⟩
  · exact ⟨_, wait, hr⟩
  · exact ⟨_, wait, hr⟩
  · exact ⟨cmd, wait, List.mem_append_right _ (List.mem_cons_self ..)⟩

/-- The character was sampled by the Arduino after the servo commands of the steps up
to `i`, and before those of the steps after it, for a command of its own call. -/
def SampledInStep (es : List (Event Reading)) (i : ℕ) (c : JChar) : Prop :=
  ∃ wait r, .sent .irChar wait r ∈ es ∧ c = irCharOf r ∧ r.Fresh ∧
    ∀ o ∈ r.octets, ∀ j wait' r', .sent (stepCommand j) wait' r' ∈ es →
      (j ≤ i → r'.before.written + r'.lines ≤ o.line) ∧ (i < j → o.line < r'.before.written)

/-- **Timely calls make fresh readings.**  On an idle line, if every call of `sendRaw`
in a run of sensor operations is timely, every value used is parsed from answers to
lines its own call wrote; and in a scan after it the characters of row `i` are
sampled during step `i`. -/
theorem readings_fresh {ops : List Op} (hops : ∀ op ∈ ops, op.isSensor = true)
    {s t : Robot Wire Reading} (hopen : s.connected = true) (hidle : s.link.unread = [])
    (hrun : RunOps (serial board) ops s t) {es : List (Event Reading)} (hlog : t.log = s.log ++ es)
    (htimely : AllTimely board es) :
    (∀ r, Used es r → r.Fresh) ∧
      ∀ matrix t' es', generateIRArrayMatrix (serial board) t = .ok (matrix, t') →
        t'.log = t.log ++ es' → AllTimely board es' →
          ∀ i row, matrix[i]? = some row → ∀ c ∈ row, SampledInStep es' i c := by
  obtain ⟨es₀, hw⟩ := hrun.wrote hops
  obtain rfl : es₀ = es := List.append_cancel_left (hw.log.symm.trans hlog)
  obtain ⟨hidle', hfresh⟩ := hw.idle hidle htimely
  constructor
  · intro r hr
    obtain ⟨cmd, wait, hsent⟩ := hr.sent
    exact hfresh cmd wait r hsent
  · intro matrix t' es' hscan hlog' htimely' i row hrow c hc
    obtain ⟨es₁, hw', hrows⟩ := generateIRArrayMatrix_wrote (hw.connected.trans hopen) hscan
    obtain rfl : es₁ = es' := List.append_cancel_left (hw'.log.symm.trans hlog')
    obtain ⟨wait, r, hr, hcr, hduring⟩ := hrows i row hrow c hc
    have hown := (hw'.idle hidle' htimely').2 _ _ _ hr
    refine ⟨wait, r, hr, hcr, hown, fun o ho j wait' r' hr' => ?_⟩
    obtain ⟨hfrom, hto⟩ := hown o ho
    obtain ⟨hbefore, hafter⟩ := hduring j wait' r' hr'
    exact ⟨fun hle => (hbefore hle).trans hfrom, fun hlt => hto.trans_le (hafter hlt)⟩

/-- A board whose bump sensor is triggered from the third command line on, and which
takes `ms` milliseconds for each answer. -/
def bumpBoard (ms : ℕ) : Board where
  reply := fun id _ => bumpReply (if id < 2 then '1' else '0')
  delay := fun _ i => if i = 0 then ms else 0
  oneLine := fun id _ => by split_ifs <;> decide

/-- A call of `checkBump` on an open line. -/
theorem checkBump_returns (board : Board) {s : Robot Wire Reading} (hs : s.connected = true)
    (hp : s.digitalPinsAvailable = initialFreeDigitalPins) :
    ∃ t v errors, Op.checkBump.Returns (serial board) s t ∧ t.connected = true ∧
      t.digitalPinsAvailable = initialFreeDigitalPins ∧
      t.link = wireAfter board true .readDigital 100 s.link ∧
      bumpShown initialFreeDigitalPins (readingOf board true .readDigital 100 s.link).text = some v ∧
      t.log = s.log ++ .sent .readDigital 100 (readingOf board true .readDigital 100 s.link) ::
        (List.map Event.error errors ++ [.pinRead BUMP_SENSOR v]) := by
  have hpin : BUMP_SENSOR ∈ s.digitalPinsAvailable := by
    rw [hp]
    decide
  obtain ⟨t, v, errors, hrun, hshown, hc, hpins, hl, hlog⟩ :=
    checkBump_of_connected (serial board) hs hpin
  rw [hp, text_serial] at hshown
  rw [hp] at hpins
  exact ⟨t, v, errors, ⟨0, run_bind_ok hrun⟩, hc, hpins, hl, hshown, hlog⟩

/-- A board that takes 100 milliseconds for each answer: the bump sensor is triggered from the
second command line on, and the star the Arduino sees changes during a scan. -/
def starBoard : Board where
  reply := fun id cmd =>
    if cmd = .irChar then jstr ['i', ' ', if id < 200 then 'K' else 'A']
    else bumpReply (if id < 1 then '1' else '0')
  delay := fun _ i => if i = 0 then 100 else 0
  oneLine := fun id cmd => by split_ifs <;> decide

theorem starBoard_prompt : starBoard.Prompt shortestWait := by
  refine Board.prompt_of_piece (fun _ => le_rfl) (fun _ _ => rfl) fun id cmd => ?_
  simp only [Board.answer, starBoard]
  split_ifs <;> decide

/-- Two polls and a scan, each answer after 100 ms: the second poll reads the answer to its own
line, which shows the sensor triggered. -/
theorem readings_fresh_prompt : ∃ t es matrix t' es',
    RunOps (serial starBoard) [.checkBump, .checkBump] (connectedTo Wire.init) t ∧
      t.log = (connectedTo Wire.init : Robot Wire Reading).log ++ es ∧ AllTimely starBoard es ∧
      .pinRead BUMP_SENSOR 0 ∈ es ∧ (∃ r, Used es r) ∧ (∀ r, Used es r → r.Fresh) ∧
      generateIRArrayMatrix (serial starBoard) t = .ok (matrix, t') ∧ t'.log = t.log ++ es' ∧
      AllTimely starBoard es' ∧ matrix.length = ANGLE_COUNT ∧ (∀ row ∈ matrix, row.length = 3) ∧
      ∀ i row, matrix[i]? = some row → ∀ c ∈ row, SampledInStep es' i c := by
  obtain ⟨s, v, errors, hfirst, hs, hp, hl, -, hlog⟩ :=
    checkBump_returns starBoard (s := connectedTo Wire.init) rfl rfl
  obtain ⟨t, v', errors', hsecond, ht, hp', -, hshown, hlog'⟩ := checkBump_returns starBoard hs hp
  have hlink : s.link = wireAfter starBoard true .readDigital 100 Wire.init := hl
  rw [hlink] at hshown hlog'
  obtain rfl : v' = 0 := by
    have hzero : bumpShown initialFreeDigitalPins (readingOf starBoard true .readDigital 100
      (wireAfter starBoard true .readDigital 100 Wire.init)).text = some 0 := by decide
    exact Option.some.inj (hshown.symm.trans hzero)
  rw [hlog, List.append_assoc] at hlog'
  have hrun : RunOps (serial starBoard) [.checkBump, .checkBump] (connectedTo Wire.init) t :=
    .cons hfirst (.cons hsecond (.nil t))
  have hsensor : ∀ op ∈ [Op.checkBump, Op.checkBump], op.isSensor = true := by decide
  have hopen : (connectedTo Wire.init : Robot Wire Reading).connected = true := rfl
  have hidle : (connectedTo Wire.init : Robot Wire Reading).link.unread = [] := rfl
  have hrest : (connectedTo Wire.init : Robot Wire Reading).link.AtRest := ⟨rfl, le_rfl⟩
  -- the polls are timely, and leave the line at rest for the scan
  obtain ⟨es, hw⟩ := hrun.wrote hsensor
  obtain rfl := List.append_cancel_left (hw.log.symm.trans hlog')
  obtain ⟨hrest', htimely⟩ := hw.prompt starBoard_prompt hrest
  obtain ⟨matrix, t', hscan, -⟩ :=
    Ends.generateIRArrayMatrix (serial starBoard) stable_true (s := t) trivial
  obtain ⟨es', hw', -⟩ := generateIRArrayMatrix_wrote ht hscan
  obtain ⟨-, htimely'⟩ := hw'.prompt starBoard_prompt hrest'
  obtain ⟨hfresh, hrows⟩ := readings_fresh hsensor hopen hidle hrun hw.log htimely
  obtain ⟨hlen, hthree⟩ := generateIRArrayMatrix_shape hscan
  refine ⟨t, _, matrix, t', es', hrun, hw.log, htimely, by simp, ⟨readingOf starBoard true .readDigital
    100 (wireAfter starBoard true .readDigital 100 Wire.init), ?_⟩, hfresh, hscan, hw'.log, htimely',
    hlen, hthree, hrows matrix t' es' hscan hw'.log htimely'⟩
  exact .inr (.inr (.inr ⟨_, .readDigital, 100, List.map Event.error errors', BUMP_SENSOR, 0, [], rfl,
    .inr rfl, fun cmd wait r hr => by simp at hr, [jc '0'], by decide, by decide⟩))

/-- An answer takes 150 ms: the first call has written its line again by then, and the
second call reads the answer to that, which shows the sensor relaxed where its own
answer will show it triggered. -/
theorem not_readings_fresh_late : ∃ t es r,
    RunOps (serial (bumpBoard 150)) [.checkBump, .checkBump] (connectedTo Wire.init) t ∧
      t.log = (connectedTo Wire.init : Robot Wire Reading).log ++ es ∧ Used es r ∧ ¬ r.Fresh := by
  obtain ⟨s, v, errors, hfirst, hs, hp, hl, -, hlog⟩ :=
    checkBump_returns (bumpBoard 150) (s := connectedTo Wire.init) rfl rfl
  obtain ⟨t, v', errors', hsecond, -, -, -, hshown, hlog'⟩ := checkBump_returns (bumpBoard 150) hs hp
  have hlink : s.link = wireAfter (bumpBoard 150) true .readDigital 100 Wire.init := hl
  rw [hlink] at hshown hlog'
  obtain rfl : v' = 1 := by
    have hone : bumpShown initialFreeDigitalPins (readingOf (bumpBoard 150) true .readDigital 100
      (wireAfter (bumpBoard 150) true .readDigital 100 Wire.init)).text = some 1 := by decide
    exact Option.some.inj (hshown.symm.trans hone)
  rw [hlog, List.append_assoc] at hlog'
  refine ⟨t, _, readingOf (bumpBoard 150) true .readDigital 100
    (wireAfter (bumpBoard 150) true .readDigital 100 Wire.init),
    .cons hfirst (.cons hsecond (.nil t)), hlog', ?_, ?_⟩
  · exact .inr (.inr (.inr ⟨_, .readDigital, 100, List.map Event.error errors', BUMP_SENSOR, 1, [], rfl,
      .inr rfl, fun cmd wait r hr => by simp at hr, [jc '1'], by decide, by decide⟩))
  · decide

end EXERobot
end ExeRobot
