/-
# Every call is a path of changes

For each method, where it ends is where a path of changes leads (`Leads`), whichever
way it ends.  The lemmas follow the parts methods are made of: the checks
(`wp_guarded`), a line that is sent (`wp_sendRaw`), and the flags of motors that are set
and set back (`wp_limited`).
-/

import ExeRobot.Device.Change

namespace ExeRobot
namespace Device

open Persistent Labelled

variable {P : Type} {hw : Hardware} {port : Port P} {turns : ℕ} {α : Type}
variable {Q : α → Device P → Prop} {E : Stop → Device P → Prop} {d d' e : Device P}

/-! ### The parts of methods -/

@[simp] theorem wp_error {Q : Unit → Device P → Prop} (message method : String) :
    wp (error message method) Q E d ↔ Q () { d with log := d.log ++ [.error message (some method)] } :=
  Iff.rfl

@[simp] theorem wp_sleep {Q : Unit → Device P → Prop} (ms : ℕ) :
    wp (sleep port ms) Q E d ↔
      Q () { d with port := port.sleep ms d.port, log := d.log ++ [.slept ms] } := Iff.rfl

theorem wp_sleepFor {Q : Unit → Device P → Prop} {time : ℤ} (hE : time < 0 → E .illegalArgument d)
    (hQ : 0 ≤ time → Q () { d with
      port := port.sleep time.toNat d.port, log := d.log ++ [.slept time.toNat] }) :
    wp (sleepFor port time) Q E d :=
  wp_ite hE fun h => hQ (not_lt.1 h)

@[simp] theorem wp_setAttemptTryAgain {Q : Unit → Device P → Prop} (b : Bool) :
    wp (setAttemptTryAgain b) Q E d ↔ Q () { d with attemptTryAgain := b } := Iff.rfl

@[simp] theorem wp_setWaitForResponse {Q : Unit → Device P → Prop} (b : Bool) :
    wp (setWaitForResponse b) Q E d ↔ Q () { d with waitForResponse := b } := Iff.rfl

@[simp] theorem wp_setMoveEncodedMotor {Q : Unit → Device P → Prop} (b : Bool) :
    wp (setMoveEncodedMotor b) Q E d ↔ Q () { d with moveEncodedMotor := b } := Iff.rfl

/-- A method goes through its checks: one of them throws, or one of them fails and is
reported, or all of them pass. -/
theorem wp_guarded {checks : List Check} {r : α} {body : Act P α}
    (hfault : ∀ c ∈ checks, ∀ f, c.bad = .error f → E f d)
    (hrefused : ∀ c ∈ checks, c.bad = .ok true →
      Q r { d with log := d.log ++ [.error c.message (some c.method)] })
    (hbody : (∀ c ∈ checks, c.bad = .ok false) → wp body Q E d) :
    wp (guarded checks r body) Q E d := by
  induction checks with
  | nil => exact hbody fun c hc => absurd hc List.not_mem_nil
  | cons c cs ih =>
    rw [guarded, wp_bind]
    refine wp_lift (fun b hb => ?_) fun f hf => hfault c (List.mem_cons_self ..) f hf
    cases b with
    | true => exact hrefused c (List.mem_cons_self ..) hb
    | false =>
      refine ih (fun c' hc' => hfault c' (List.mem_cons_of_mem _ hc'))
        (fun c' hc' => hrefused c' (List.mem_cons_of_mem _ hc')) fun hcs => hbody fun c' hc' => ?_
      rcases List.mem_cons.1 hc' with rfl | hc'
      · exact hb
      · exact hcs c' hc'

/-- All checks pass. -/
theorem wp_guarded_pass {checks : List Check} {r : α} {body : Act P α}
    (h : ∀ c ∈ checks, c.bad = .ok false) (hbody : wp body Q E d) :
    wp (guarded checks r body) Q E d :=
  wp_guarded (fun c hc f hf => by simp [h c hc] at hf) (fun c hc hbad => by simp [h c hc] at hbad)
    fun _ => hbody

/-- A check fails after those before it have passed. -/
theorem wp_guarded_fail (checks : List Check) {rest : List Check} {c : Check} {r : α}
    {body : Act P α} (h : ∀ c ∈ checks, c.bad = .ok false) (hc : c.bad = .ok true)
    (hQ : Q r { d with log := d.log ++ [.error c.message (some c.method)] }) :
    wp (guarded (checks ++ c :: rest) r body) Q E d := by
  induction checks with
  | nil =>
    rw [List.nil_append, guarded, wp_bind, hc, wp_lift_ok]
    exact hQ
  | cons c' cs ih =>
    rw [List.cons_append, guarded, wp_bind, h c' (List.mem_cons_self ..), wp_lift_ok]
    exact ih fun c hc => h c (List.mem_cons_of_mem _ hc)

/-- A line over an open connection: it has been sent, with a reply and possibly errors
after it, unless the call never returns. -/
theorem wp_sendRaw {Q : JString → Device P → Prop} {line : Line} {wait : ℕ}
    (hc : d.connected = true)
    (hQ : ∀ reply e errors, Exchanged port d e line reply → (∀ x ∈ errors, x.isError = true) →
      Q reply { e with log := e.log ++ errors })
    (hE : ∀ e errors, Exchanged port d e line [] → (∀ x ∈ errors, x.isError = true) →
      E .blocks { e with log := e.log ++ errors }) :
    wp (sendRaw port turns line wait) Q E d := by
  unfold sendRaw
  rw [wp_bind, wp_get]
  refine wp_ite (fun h => absurd h (by simp [hc])) fun _ => ?_
  generalize hrun : port.exchange line.text wait d.attemptTryAgain d.waitForResponse d.moveEncodedMotor
    turns d.port = r
  obtain ⟨tired, result⟩ := r
  have he : Exchanged port d (d.sent line wait (replyOf result) (final result)) line (replyOf result) :=
    ⟨hc, wait, turns, by rw [hrun]⟩
  -- what is returned or thrown in the end, after the errors so far
  have hend : ∀ errors : List Entry, (∀ x ∈ errors, x.isError = true) →
      wp (conclude result) Q E
        { d.sent line wait (replyOf result) (final result) with
          log := (d.sent line wait (replyOf result) (final result)).log ++ errors } := by
    intro errors herrors
    cases result with
    | ok reply p => exact hQ reply _ errors he herrors
    | error t p =>
      cases t with
      | ioException =>
        have := hQ [] _ (errors ++ [.error "Could not read or use Input or Output streams (IOException)"
          (some "sendRaw")]) he (by simpa [Entry.isError, or_imp, forall_and] using herrors)
        rwa [← List.append_assoc] at this
      | blocks => exact hE _ errors he herrors
  rw [wp_bind, wp_set]
  cases tired with
  | false =>
    have := hend [] (by simp)
    rwa [List.append_nil] at this
  | true =>
    exact hend [.error "There was no response from the Arduino" (some "sendRaw")]
      (by simp [Entry.isError])

theorem wp_sendRaw_of_not_connected {Q : JString → Device P → Prop} {line : Line} {wait : ℕ}
    (hc : d.connected = false)
    (hQ : ∀ message method, Q [] { d with log := d.log ++ [.error message method] }) :
    wp (sendRaw port turns line wait) Q E d := by
  unfold sendRaw
  rw [wp_bind, wp_get]
  exact wp_ite (fun _ => hQ _ _) fun h => absurd (show (!d.connected) = true by simp [hc]) h

/-- What is left after exactly the lines `ls`, and nothing else than the port and the log has
changed. -/
def After (d : Device P) (ls : List Line) (e : Device P) : Prop :=
  sentLines e.log = sentLines d.log ++ ls ∧ ∃ p l, e = { d with port := p, log := l }

theorem After.trans {d d' e : Device P} {ls ls' : List Line} (h : d.After ls d') (h' : d'.After ls' e) :
    d.After (ls ++ ls') e := by
  obtain ⟨hl, p, l, rfl⟩ := h
  obtain ⟨hl', p', l', rfl⟩ := h'
  refine ⟨?_, p', l', rfl⟩
  rw [hl', hl, List.append_assoc]

theorem wp_sendRaw_after {line : Line} {wait : ℕ} (hc : d.connected = true) :
    wp (sendRaw port turns line wait) (fun _ e => d.After [line] e) (fun s _ => s = .blocks) d := by
  refine wp_sendRaw hc (fun reply e errors he herrors => ?_) fun _ _ _ _ => rfl
  obtain ⟨-, _, _, rfl⟩ := he
  refine ⟨?_, _, _, rfl⟩
  rw [sentLines_append, sentLines_errors herrors, List.append_nil]
  exact sentLines_append ..

theorem wp_send_after {line : Line} (hc : d.connected = true) :
    wp (send port turns line) (fun _ e => d.After [line] e) (fun s _ => s = .blocks) d := by
  unfold send
  rw [wp_bind]
  exact wp_mono (wp_sendRaw_after hc) (fun _ _ he => he) fun _ _ he => he

theorem wp_sendFor_after {line : Line} {time : ℤ} (hc : d.connected = true) (htime : 0 ≤ time) :
    wp (sendFor port turns line time) (fun _ e => d.After [line] e) (fun s _ => s = .blocks) d := by
  unfold sendFor
  rw [wp_bind]
  refine wp_mono (wp_sendRaw_after hc) (fun _ e he => wp_ite (fun _ => ?_) fun _ => he) fun _ _ he => he
  refine wp_sleepFor (fun h => absurd h (not_lt.2 htime)) fun _ => ?_
  obtain ⟨hl, p, l, rfl⟩ := he
  refine ⟨?_, _, _, rfl⟩
  rw [sentLines_append, hl]
  exact List.append_nil _

/-- What `sendRaw` changes. -/
theorem wp_sendRaw_frame {line : Line} {wait : ℕ} (d : Device P) :
    wp (sendRaw port turns line wait) (fun _ e => ∃ p l, e = { d with port := p, log := l })
      (fun s _ => s = .blocks) d := by
  rcases Bool.eq_false_or_eq_true d.connected with hc | hc
  · exact wp_mono (wp_sendRaw_after hc) (fun _ _ he => he.2) fun _ _ he => he
  · exact wp_sendRaw_of_not_connected hc fun _ _ => ⟨d.port, _, rfl⟩

/-- What `ask` changes. -/
theorem wp_ask_frame {line : Line} {wait : ℕ} (d : Device P) :
    wp (ask port turns line wait)
      (fun _ e => ∃ p l, e = { d with port := p, log := l, attemptTryAgain := false })
      (fun s _ => s = .blocks) d := by
  unfold ask
  rw [wp_bind, wp_setAttemptTryAgain, wp_bind]
  refine wp_mono (wp_sendRaw_frame _) (fun _ e he => ?_) fun _ _ he => he
  obtain ⟨p, l, rfl⟩ := he
  exact ⟨p, l, rfl⟩

/-! ### Flags of motors -/

theorem setRunning_of_notMem {os : List (Fin 4 × ℤ)} {i : Fin 4} (h : i ∉ os.map Prod.fst)
    (flags : Fin 4 → Bool) : setRunning os flags i = flags i := by
  induction os generalizing flags with
  | nil => rfl
  | cons o os ih =>
    rw [List.map_cons, List.mem_cons, not_or] at h
    show setRunning os (Function.update flags o.1 _) i = _
    rw [ih h.2, Function.update_of_ne h.1]

theorem restore_of_notMem {os : List (Fin 4 × ℤ)} {i : Fin 4} (h : i ∉ os.map Prod.fst)
    (before flags : Fin 4 → Bool) : restore os before flags i = flags i := by
  induction os generalizing flags with
  | nil => rfl
  | cons o os ih =>
    rw [List.map_cons, List.mem_cons, not_or] at h
    show restore os before (Function.update flags o.1 _) i = _
    rw [ih h.2, Function.update_of_ne h.1]

theorem restore_of_mem {os : List (Fin 4 × ℤ)} {i : Fin 4} (h : i ∈ os.map Prod.fst)
    (before flags : Fin 4 → Bool) : restore os before flags i = before i := by
  induction os generalizing flags with
  | nil => cases h
  | cons o os ih =>
    show restore os before (Function.update flags o.1 (before o.1)) i = _
    by_cases hos : i ∈ os.map Prod.fst
    · exact ih hos _
    · rw [restore_of_notMem hos]
      have hi : i = o.1 := by simpa [hos] using h
      rw [hi, Function.update_self]

/-- What is set and set back is as before. -/
theorem restore_setRunning (os : List (Fin 4 × ℤ)) (flags : Fin 4 → Bool) :
    restore os flags (setRunning os flags) = flags := by
  funext i
  by_cases h : i ∈ os.map Prod.fst
  · exact restore_of_mem h flags _
  · rw [restore_of_notMem h, setRunning_of_notMem h]

/-- The limit on running motors: an index throws, or there would be too many and nothing
has changed, or the rest runs with the flags set, or the checks are overridden. -/
theorem wp_limited {Q : Unit → Device P → Prop} {motors : List (ℤ × ℤ)} {body : Act P Unit}
    (hfault : ∀ f, orders motors = .error f → E f d)
    (hmany : ∀ message method, Q () { d with log := d.log ++ [.error message method] })
    (hbody : ∀ os, orders motors = .ok os → d.Reserved os →
      wp body Q E { d with motorsRunning := setRunning os d.motorsRunning })
    (hover : d.overrideValidation = true → wp body Q E d) : wp (limited motors body) Q E d := by
  unfold limited
  rw [wp_bind, wp_get]
  cases ho : d.overrideValidation with
  | true => exact hover ho
  | false =>
    refine wp_ite (fun _ => ?_) fun h => absurd rfl h
    rw [wp_bind]
    unfold reserve
    rw [wp_bind]
    refine wp_lift (fun os hos => ?_) hfault
    rw [wp_bind, wp_get, wp_bind, wp_modify, wp_bind]
    unfold checkRunningMotors
    rw [wp_bind, wp_get]
    refine wp_ite (fun h => ?_) fun _ => wp_ite (fun _ => ?_) fun hfew => ?_
    · rw [ho] at h
      cases h
    · have := hmany "You may not run more than two motors at any given time!"
        (some "checkRunningMotors")
      show Q () { d with
        motorsRunning := restore os d.motorsRunning (setRunning os d.motorsRunning), log := _ }
      rwa [restore_setRunning]
    · exact hbody os hos ⟨ho, not_lt.1 hfew⟩

/-- The motors fit under the limit. -/
theorem wp_limited_pass {Q : Unit → Device P → Prop} {motors : List (ℤ × ℤ)} {body : Act P Unit}
    {os : List (Fin 4 × ℤ)} (hos : orders motors = .ok os) (hres : d.Reserved os)
    (hbody : wp body Q E { d with motorsRunning := setRunning os d.motorsRunning }) :
    wp (limited motors body) Q E d := by
  unfold limited reserve checkRunningMotors
  rw [wp_bind, wp_get]
  refine wp_ite (fun _ => ?_) fun h => absurd (by rw [hres.noOverride]; rfl) h
  simp only [hos, wp_bind, wp_lift_ok, wp_get, wp_modify]
  refine wp_ite (fun h => absurd (hres.noOverride.symm.trans h) (by simp)) fun _ => ?_
  exact wp_ite (fun h => absurd h (not_lt.2 hres.few)) fun _ => hbody

/-! ### Where methods lead -/

/-- The changes that any call may make. -/
def Label.common : Label → Bool
  | .lapse | .clash | .bypass | .mixer | .stir | .digital | .opened | .override => false
  | _ => true

/-- Where `x` ends, started in `d`, is where changes with labels in `ok` lead from `d`. -/
def Leads (hw : Hardware) (port : Port P) (ok : Label → Prop) (x : Act P α) (d : Device P) : Prop :=
  wp x (fun _ e => Steps (Change hw port) ok d e) (fun _ e => Steps (Change hw port) ok d e) d

namespace Leads

variable {ok : Label → Prop} {x : Act P α} {β : Type}

theorem pure (a : α) : Leads hw port ok (Pure.pure a : Act P α) d := Steps.refl d

theorem throw (s : Stop) : Leads hw port ok (MonadExcept.throw s : Act P α) d := Steps.refl d

theorem change {l : Label} {g : Device P → Device P} (hl : ok l) (h : Change hw port l d (g d)) :
    Leads hw port ok (modify g : Act P Unit) d := Steps.single hl h

theorem bind {f : α → Act P β} (hx : Leads hw port ok x d)
    (hf : ∀ a e, x d = .ok a e → Leads hw port ok (f a) e) : Leads hw port ok (x >>= f) d := by
  unfold Leads at hx ⊢
  rw [wp_bind]
  unfold wp at hx ⊢
  cases h : x d with
  | error s e =>
    rw [h] at hx
    exact hx
  | ok a e =>
    rw [h] at hx
    exact wp_mono (hf a e h) (fun _ _ => hx.trans) fun _ _ => hx.trans

/-- A change, and the rest. -/
theorem modify_bind {l : Label} {g : Device P → Device P} {f : PUnit → Act P β} (hl : ok l)
    (h : Change hw port l d (g d)) (hf : Leads hw port ok (f ⟨⟩) (g d)) :
    Leads hw port ok (modify g >>= f) d :=
  wp_mono (show wp (f ⟨⟩) _ _ (g d) from hf) (fun _ _ => (Steps.single hl h).trans)
    fun _ _ => (Steps.single hl h).trans

theorem get_bind {f : Device P → Act P β} (h : Leads hw port ok (f d) d) :
    Leads hw port ok (get >>= f) d := h

theorem lift_bind {c : Except Stop α} {f : α → Act P β}
    (h : ∀ a, c = .ok a → Leads hw port ok (f a) d) :
    Leads hw port ok (lift c >>= f) d := by
  unfold Leads
  rw [wp_bind]
  exact wp_lift (fun a ha => h a ha) fun _ _ => Steps.refl d

theorem ite {c : Prop} [Decidable c] {y : Act P α} (hx : c → Leads hw port ok x d)
    (hy : ¬ c → Leads hw port ok y d) : Leads hw port ok (if c then x else y) d := wp_ite hx hy

theorem ignoring (h : Leads hw port ok x d) : Leads hw port ok (Device.ignoring x) d :=
  h.bind fun _ _ _ => pure ()

variable (hok : ∀ l : Label, l.common = true → ok l)

include hok

theorem error (message method : String) : Leads hw port ok (Device.error message method) d :=
  Steps.single (hok .note rfl) (.note d message (some method))

theorem errorLine (message : String) : Leads hw port ok (Device.errorLine message) d :=
  Steps.single (hok .note rfl) (.note d message none)

theorem sleepFor (time : ℤ) : Leads hw port ok (Device.sleepFor port time) d :=
  wp_sleepFor (fun _ => Steps.refl d) fun _ => Steps.single (hok .note rfl) (.slept d time.toNat)

theorem warn (c : Check) : Leads hw port ok (Device.warn c) d :=
  lift_bind fun _ _ => ite (fun _ => error hok _ _) fun _ => pure ()

theorem guarded {checks : List Check} {r : α} {body : Act P α}
    (h : (∀ c ∈ checks, c.bad = .ok false) → Leads hw port ok body d) :
    Leads hw port ok (Device.guarded checks r body) d :=
  wp_guarded (fun _ _ _ _ => Steps.refl d)
    (fun c _ _ => Steps.single (hok .note rfl) (.note d c.message (some c.method))) h

/-- Errors that are reported. -/
theorem noted {errors : List Entry} (h : ∀ x ∈ errors, x.isError = true) (d : Device P) :
    Steps (Change hw port) ok d { d with log := d.log ++ errors } := by
  induction errors generalizing d with
  | nil =>
    rw [List.append_nil]
    exact Steps.refl d
  | cons x errors ih =>
    obtain ⟨hx, herrors⟩ := List.forall_mem_cons.1 h
    cases x with
    | error message method =>
      have := (Steps.single (hok .note rfl) (.note d message method)).trans (ih herrors _)
      rwa [List.append_assoc] at this
    | _ => cases hx

/-- A line whose sending is a change. -/
theorem sendRaw {line : Line} {wait : ℕ} (hc : d.connected = true)
    (h : ∀ reply e, Exchanged port d e line reply → Steps (Change hw port) ok d e) :
    Leads hw port ok (Device.sendRaw port turns line wait) d :=
  wp_sendRaw hc (fun reply e _ he herrors => (h reply e he).trans (noted hok herrors e))
    fun e _ he herrors => (h [] e he).trans (noted hok herrors e)

theorem sendRaw_of_not_connected {line : Line} {wait : ℕ} (hc : d.connected = false) :
    Leads hw port ok (Device.sendRaw port turns line wait) d :=
  wp_sendRaw_of_not_connected hc fun message method =>
    Steps.single (hok .note rfl) (.note d message method)

omit hok in
/-- The conditions under which a plain line is sent. -/
theorem plain {line : Line} {reply : JString} (hok : ∀ l : Label, l.common = true → ok l)
    (hplain : line.isAttach = false ∧ line.motors = [])
    (hasked : line.asked = true ∨ d.attemptTryAgain = false)
    (hchecked : d.overrideValidation = true ∨ line.Checked) (hserves : d.Serves line)
    (he : Exchanged port d e line reply) : Steps (Change hw port) ok d e :=
  Steps.single (hok .send rfl) (.send hplain.1 hplain.2 hasked hchecked hserves he)

/-- A plain line. -/
theorem send {line : Line} (hc : d.connected = true)
    (hplain : line.isAttach = false ∧ line.motors = []) (hquiet : d.attemptTryAgain = false)
    (hchecked : d.overrideValidation = true ∨ line.Checked) (hserves : d.Serves line) :
    Leads hw port ok (Device.send port turns line) d :=
  (sendRaw hok hc fun _ _ he => plain hok hplain (.inr hquiet) hchecked hserves he).bind fun _ _ _ =>
    pure ()

theorem acknowledged {line : Line} (hc : d.connected = true)
    (hplain : line.isAttach = false ∧ line.motors = []) (hquiet : d.attemptTryAgain = false)
    (hchecked : d.overrideValidation = true ∨ line.Checked) (hserves : d.Serves line) :
    Leads hw port ok (Device.acknowledged port turns line) d :=
  (sendRaw hok hc fun _ _ he => plain hok hplain (.inr hquiet) hchecked hserves he).bind fun _ _ _ =>
    ite (fun _ => errorLine hok _) fun _ => pure ()

theorem setAttemptTryAgain_bind {b : Bool} {f : Unit → Act P β}
    (hf : Leads hw port ok (f ()) { d with attemptTryAgain := b }) :
    Leads hw port ok (setAttemptTryAgain b >>= f) d :=
  have h : Change hw port .flag d { d with attemptTryAgain := b } :=
    .flag d b d.waitForResponse d.moveEncodedMotor
  modify_bind (g := fun d => { d with attemptTryAgain := b }) (hok .flag rfl) h hf

theorem setWaitForResponse_bind {b : Bool} {f : Unit → Act P β}
    (hf : Leads hw port ok (f ()) { d with waitForResponse := b }) :
    Leads hw port ok (setWaitForResponse b >>= f) d :=
  have h : Change hw port .flag d { d with waitForResponse := b } :=
    .flag d d.attemptTryAgain b d.moveEncodedMotor
  modify_bind (g := fun d => { d with waitForResponse := b }) (hok .flag rfl) h hf

/-- A plain line that is asked. -/
theorem ask {line : Line} {wait : ℕ} (hc : d.connected = true)
    (hplain : line.isAttach = false ∧ line.motors = []) (hasked : line.asked = true)
    (hchecked : d.overrideValidation = true ∨ line.Checked)
    (hserves : Serves { d with attemptTryAgain := true } line) :
    Leads hw port ok (Device.ask port turns line wait) d := by
  have hsend : Leads hw port ok (Device.sendRaw port turns line wait)
      { d with attemptTryAgain := true } :=
    sendRaw hok hc fun _ _ he => plain hok hplain (.inl hasked) hchecked hserves he
  exact setAttemptTryAgain_bind hok
    (hsend.bind fun _ _ _ => setAttemptTryAgain_bind hok (pure _))

theorem orReport (r : α) (method : String) (v : Except String α) :
    Leads hw port ok (Device.orReport r method v) d := by
  cases v with
  | ok v => exact pure v
  | error message => exact (error hok message method).bind fun _ _ _ => pure r

end Leads

/-! ### Facts from checks that pass -/

@[simp] theorem notConnected_bad {method : String} :
    (notConnected d method).bad = .ok false ↔ d.connected = true := by
  simp [notConnected]

@[simp] theorem invalid_bad {bad : Bool} {message method : String} :
    (d.invalid bad message method).bad = .ok false ↔ d.overrideValidation = true ∨ bad = false := by
  cases h : d.overrideValidation <;> simp [invalid, h]

@[simp] theorem outside_eq_false {lo hi v : ℤ} : outside lo hi v = false ↔ Line.Within lo hi v := by
  simp [outside]

@[simp] theorem forall_check {c : Check} {cs : List Check} :
    (∀ c' ∈ c :: cs, c'.bad = .ok false) ↔ c.bad = .ok false ∧ ∀ c' ∈ cs, c'.bad = .ok false :=
  List.forall_mem_cons

end Device
end ExeRobot
