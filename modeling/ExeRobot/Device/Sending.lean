/-
# What is sent

Every line that a call sends is permitted in the state it is sent in (`Permitted`): its
arguments have been checked, its devices are attached, and it is sent again only when it
is a question.  For whole runs this gives what the firmware can rely on.  If the checks
are never overridden, every line that arrives has arguments in range (`sound_lines`);
for two encoded motors a wrong motor is only reported (`wp_runTwoEncodedMotors_wrong`).
And even if they are overridden, nothing moves a servo or a motor before the line that attaches it
has come back as its own echo, except for the mixer and encoded motors, which are not
checked (`moved_after_attached`).
-/

import ExeRobot.Device.Paths
import ExeRobot.Device.Replay

namespace ExeRobot
namespace Device

open Persistent Labelled

variable {P : Type} {hw : Hardware} {port : Port P} {turns : ℕ} {d e : Device P} {line : Line}
  {reply : JString}

/-! ### Permitted lines -/

/-- The line is one of the mixer, with arguments that have been checked. -/
def Mixes (d : Device P) (line : Line) : Prop :=
  ∃ m s t, line = .runMotor m s t ∧ (s = d.mixerSpeed ∨ s = 0) ∧ Line.Within 0 3 m ∧ 0 ≤ t

/-- The line may be sent in the state `d`. -/
structure Permitted (d : Device P) (line : Line) (l : Label) : Prop where
  asked : line.asked = true ∨ d.attemptTryAgain = false
  checked : d.overrideValidation = true ∨ line.Checked ∨ d.Mixes line
  served : l = .mixer ∨ l = .stir ∨ d.Serves line

theorem Kind.line_asked (k : Kind) (i pin : ℤ) : (k.line i pin).asked = true := by cases k <;> rfl

theorem Kind.line_checked (k : Kind) (i : Fin k.count) (pin : ℤ) : (k.line i pin).Checked := by
  cases k with
  | motor =>
    have := i.isLt
    exact ⟨by omega, by change i.val < 4 at this; omega⟩
  | servo =>
    have := i.isLt
    exact ⟨by omega, by change i.val < 3 at this; omega⟩

theorem Kind.line_serves (k : Kind) (i pin : ℤ) : d.Serves (k.line i pin) := by cases k <;> trivial

/-- A change that sends no line. -/
def Silent (port : Port P) (d e : Device P) : Prop :=
  (∃ es, e.log = d.log ++ es ∧ sentLines es = []) ∧ (e.port = d.port ∨ ∃ ms, e.port = port.sleep ms d.port)

/-- A change sends a permitted line, or none. -/
theorem Change.sent_cases {l : Label} (h : Change hw port l d e) :
    Silent port d e ∨ ∃ line reply e', Exchanged port d e' line reply ∧ e.port = e'.port ∧
      e.log = e'.log ∧ d.Permitted line l := by
  have hsilent : ∀ {f : Device P} {x : Entry}, f.log = d.log ++ [x] → x.line = none →
      (f.port = d.port ∨ ∃ ms, f.port = port.sleep ms d.port) → Silent port d f :=
    fun hlog hx hport => ⟨⟨_, hlog, by simp [sentLines, hx]⟩, hport⟩
  have hnothing : ∀ {f : Device P}, f.log = d.log → f.port = d.port → Silent port d f :=
    fun hlog hport => ⟨⟨[], by rw [hlog, List.append_nil], rfl⟩, .inl hport⟩
  cases h with
  | note message method => exact .inl (hsilent rfl rfl (.inl rfl))
  | slept ms => exact .inl (hsilent rfl rfl (.inr ⟨_, rfl⟩))
  | send _ _ hasked hchecked hserves he =>
    exact .inr ⟨_, _, _, he, rfl, rfl, hasked, hchecked.imp_right .inl, .inr (.inr hserves)⟩
  | refused _ _ _ _ he =>
    exact .inr ⟨_, _, _, he, rfl, rfl, .inl (Kind.line_asked _ _ _), .inr (.inl (Kind.line_checked _ _ _)),
      .inr (.inr (Kind.line_serves _ _ _))⟩
  | attach _ _ _ he =>
    exact .inr ⟨_, _, _, he, attachedTo_port .., attachedTo_log .., .inl (Kind.line_asked _ _ _),
      .inr (.inl (Kind.line_checked _ _ _)), .inr (.inr (Kind.line_serves _ _ _))⟩
  | drive _ _ hchecked hserves _ hquiet _ he =>
    exact .inr ⟨_, _, _, he, rfl, rfl, .inr hquiet, .inr (.inl hchecked), .inr (.inr hserves)⟩
  | clash _ _ hchecked hserves _ hquiet he =>
    exact .inr ⟨_, _, _, he, rfl, rfl, .inr hquiet, .inr (.inl hchecked), .inr (.inr hserves)⟩
  | overridden ho _ hserves hquiet he =>
    exact .inr ⟨_, _, _, he, rfl, rfl, .inr hquiet, .inl ho, .inr (.inr hserves)⟩
  | mixer hspeed hchecked hquiet he =>
    refine .inr ⟨_, _, _, he, rfl, rfl, .inr hquiet, hchecked.imp_right fun h => ?_, ?_⟩
    · exact .inr ⟨_, _, _, rfl, hspeed, h⟩
    · split
      · exact .inl rfl
      · exact .inr (.inl rfl)
  | opened _ => exact .inl (hsilent (x := .opened) rfl rfl (.inl rfl))
  | closed => exact .inl (hsilent rfl rfl (.inl rfl))
  | _ => exact .inl (hnothing rfl rfl)

theorem Exchanged.sentLines (he : Exchanged port d e line reply) :
    sentLines e.log = sentLines d.log ++ [line] := by
  obtain ⟨-, _, _, rfl⟩ := he
  exact sentLines_append ..

/-! ### Arguments in range -/

/-- The arguments of a line are in the range that is checked, or in that of the mixer. -/
def Sound (line : Line) : Prop :=
  line.Checked ∨ ∃ m s t, line = .runMotor m s t ∧ Line.Within 0 3 m ∧ Line.Within 0 255 s ∧ 0 ≤ t

/-- The checks are made, and the speed of the mixer has passed its own. -/
structure Guarded (d : Device P) : Prop where
  noOverride : d.overrideValidation = false
  mixerSpeed : Line.Within 0 255 d.mixerSpeed

/-- Only `setOverrideValidation(true)` lifts the checks. -/
theorem Change.guarded {l : Label} (hl : l ≠ .override) (h : Change hw port l d e) (hd : Guarded d) :
    Guarded e := by
  have hexchanged : ∀ {e : Device P} {line : Line} {reply : JString}, Exchanged port d e line reply →
      Guarded e := by
    rintro e line reply ⟨-, _, _, rfl⟩
    exact ⟨hd.noOverride, hd.mixerSpeed⟩
  cases h with
  | send _ _ _ _ _ he => exact hexchanged he
  | refused _ _ _ _ he => exact hexchanged he
  | attach _ _ _ he =>
    obtain ⟨ho, hm⟩ := hexchanged he
    exact ⟨by rw [attachedTo_overrideValidation, ho], by rwa [attachedTo_mixerSpeed]⟩
  | drive _ _ _ _ _ _ _ he => exact ⟨(hexchanged he).noOverride, (hexchanged he).mixerSpeed⟩
  | clash _ _ _ _ _ _ he => exact ⟨(hexchanged he).noOverride, (hexchanged he).mixerSpeed⟩
  | overridden _ _ _ _ he => exact hexchanged he
  | mixer _ _ _ he => exact hexchanged he
  | mixerSpeed _ speed hspeed => exact ⟨hd.noOverride, hspeed.resolve_left (by simp [hd.noOverride])⟩
  | override _ o =>
    cases o with
    | true => exact absurd rfl hl
    | false => exact ⟨rfl, hd.mixerSpeed⟩
  | _ => exact ⟨hd.noOverride, hd.mixerSpeed⟩

theorem Permitted.sound {l : Label} (h : d.Permitted line l) (hd : Guarded d) : Sound line := by
  rcases h.checked with ho | hchecked | ⟨m, s, t, rfl, hspeed, hm, ht⟩
  · rw [hd.noOverride] at ho
    cases ho
  · exact .inl hchecked
  · refine .inr ⟨m, s, t, rfl, hm, ?_, ht⟩
    rcases hspeed with rfl | rfl
    · exact hd.mixerSpeed
    · exact ⟨le_rfl, by omega⟩

/-- **Arguments arrive in range.**  While no call overrides the checks, every line that is sent
has arguments in the range that is checked, or in that of the mixer. -/
theorem sound_lines {p : P} {calls : List Call}
    (h : Runs hw port (fun call _ => call ≠ .setOverrideValidation true) calls (new p) d) :
    ∀ line ∈ sentLines d.log, Sound line := by
  refine (h.keeps (L := fun l => l ≠ .override)
    (I := fun d => Guarded d ∧ ∀ line ∈ sentLines d.log, Sound line) (fun call d l hcall _ hmay hl => ?_)
    (fun l d e hl hstep hd => ⟨hstep.guarded hl hd.1, ?_⟩) ⟨rfl, rfl, rfl⟩
    ⟨⟨rfl, show Line.Within 0 255 30 by decide⟩, by simp [sentLines, new]⟩).2
  · rw [hl] at hmay
    exact hcall hmay
  · rcases hstep.sent_cases with ⟨⟨es, hlog, hes⟩, -⟩ | ⟨line, reply, e', he, -, hlog, hpermitted⟩
    · rw [hlog, sentLines_append, hes, List.append_nil]
      exact hd.2
    · rw [hlog, he.sentLines]
      intro line' hline'
      rcases List.mem_append.1 hline' with hline' | hline'
      · exact hd.2 line' hline'
      · rw [List.mem_singleton.1 hline']
        exact hpermitted.sound hd.1

/-- `runEncoded` sends its line first, and then the motors' flags are cleared. -/
theorem wp_runEncoded_log {line : Line} {motors : List ℤ} (hc : d.connected = true)
    (hmotors : ∀ m ∈ motors, Line.Within 0 3 m) :
    wp (runEncoded port turns line motors)
      (fun _ e => ∃ wait reply rest, e.log = d.log ++ .sent line wait reply :: rest)
      (fun s _ => s = .blocks) d := by
  unfold runEncoded send
  rw [wp_bind, wp_setMoveEncodedMotor, wp_bind, wp_bind]
  refine wp_sendRaw hc (fun reply e errors he _ => ?_) fun _ _ _ _ => rfl
  obtain ⟨-, wait, _, rfl⟩ := he
  rw [wp_pure, wp_bind, wp_setMoveEncodedMotor, wp_bind]
  unfold clearRunning
  refine wp_mono (wp_forM (I := fun s : Device P => s.log =
    d.log ++ .sent line wait reply :: errors) (fun m hm s hs => ?_) ?_) (fun _ e he => ?_) fun _ _ h => h
  · rw [wp_bind]
    refine wp_lift (fun i _ => hs) fun f hf => ?_
    obtain ⟨hlow, hhigh⟩ := hmotors m hm
    have hindex := index_eq_ok.2 (show (((⟨m.toNat, by omega⟩ : Fin 4) : ℕ) : ℤ) = m by simp; omega)
    rw [hf] at hindex
    cases hindex
  · exact List.append_assoc ..
  · rw [wp_sleep]
    refine ⟨wait, reply, errors ++ [.slept 1000], ?_⟩
    show e.log ++ [_] = _
    rw [he, List.append_assoc, List.cons_append]

/-- **Two encoded motors are not stopped by a wrong motor.**  The check of the motors is the only
one of `runEncodedMotor` that does not end the method: the error is reported, and then the line
is sent all the same. -/
theorem wp_runTwoEncodedMotors_wrong {i i' : Fin 4} {speed tick speed' tick' : ℤ}
    (hc : d.connected = true)
    (hspeed : Line.Within (-500) 500 speed ∧ Line.Within (-500) 500 speed')
    (htick : 0 < tick ∧ 0 < tick') (hres : d.Reserved [(i, speed), (i', speed')])
    (hwrong : ¬ (Line.Within 0 1 i ∧ (i' : ℤ) = 1)) :
    wp (runTwoEncodedMotors port turns i speed tick i' speed' tick')
      (fun _ e => ∃ wait reply rest, e.log = d.log ++
        .error "runEncodedMotor was not given a correct motor argument." (some "runEncodedMotor") ::
        .sent (.runTwoEncodedMotors i speed tick i' speed' tick') wait reply :: rest)
      (fun s _ => s = .blocks) d := by
  have hos : orders [((i : ℤ), speed), ((i' : ℤ), speed')] = .ok [(i, speed), (i', speed')] := by
    unfold orders
    rw [List.mapM_cons, List.mapM_cons, index_eq_ok.2 (rfl : (i : ℤ) = i),
      index_eq_ok.2 (rfl : (i' : ℤ) = i')]
    rfl
  have hbad : (outside 0 1 (i : ℤ) || outside 1 1 (i' : ℤ)) = true := by
    rw [← Bool.not_eq_false, Bool.or_eq_false_iff, outside_eq_false, outside_eq_false]
    exact fun h => hwrong ⟨h.1, by omega⟩
  unfold runTwoEncodedMotors
  rw [wp_bind, wp_get]
  refine wp_guarded_pass ?_ (wp_limited_pass hos hres ?_)
  · simp only [forall_check, notConnected_bad, invalid_bad, Bool.or_eq_false_iff, outside_eq_false]
    exact ⟨hc, .inr hspeed, by simp⟩
  rw [wp_bind, wp_get]
  refine wp_guarded_pass ?_ ?_
  · simp only [forall_check, invalid_bad, Bool.or_eq_false_iff, decide_eq_false_iff_not, not_le]
    exact ⟨.inr htick, by simp⟩
  unfold warn invalid
  rw [wp_bind, wp_bind, hbad, hres.noOverride, Bool.not_false, Bool.true_and, wp_lift_ok, if_pos rfl,
    wp_error]
  have hmotors : ∀ m ∈ [(i : ℤ), (i' : ℤ)], Line.Within 0 3 m := by
    simp
    omega
  refine wp_mono (wp_runEncoded_log hc hmotors) (fun _ e he => ?_) fun _ _ h => h
  obtain ⟨wait, reply, rest, hlog⟩ := he
  exact ⟨wait, reply, rest, hlog.trans (List.append_assoc ..)⟩

/-- The mixer runs, with a speed that has been set back to 255. -/
def fastMixer : Device JString :=
  played arduinoUno echo [.connect, .setMixerSpeed 300, .runMixer 1 500] (new [])

theorem sound_lines_played : Sound (.runMotor 1 255 500) :=
  sound_lines (d := fastMixer) (runs_played (by simp) (by decide +kernel)) _
    (show Line.runMotor 1 255 500 ∈ sentLines fastMixer.log by decide +kernel)

/-! ### Attached before moved -/

/-- The line needs the device `i` of a kind. -/
def Needs : Line → (k : Kind) → Fin k.count → Prop
  | .moveServo s _, .servo, i => (i : ℤ) = s
  | .moveAllServos _ _ _, .servo, _ => True
  | .runMotor m s t, .motor, i => (i : ℤ) ∈ (Line.runMotor m s t).motors.map Prod.fst
  | .runTwoMotors m s m' s' t, .motor, i => (i : ℤ) ∈ (Line.runTwoMotors m s m' s' t).motors.map Prod.fst
  | .runFourMotors m₁ s₁ m₂ s₂ m₃ s₃ m₄ s₄ t, .motor, i =>
      (i : ℤ) ∈ (Line.runFourMotors m₁ s₁ m₂ s₂ m₃ s₃ m₄ s₄ t).motors.map Prod.fst
  | _, _, _ => False

/-- The line that attaches the device has come back as its own echo. -/
def Echoed (k : Kind) (i : ℤ) (log : List Entry) : Prop :=
  ∃ pin wait, Entry.sent (k.line i pin) wait (k.line i pin).text ∈ log

theorem Echoed.mono {k : Kind} {i : ℤ} {log log' : List Entry} (h : Echoed k i log)
    (hsub : log ⊆ log') :
    Echoed k i log' := by
  obtain ⟨pin, wait, hmem⟩ := h
  exact ⟨pin, wait, hsub hmem⟩

/-- Every entry of the log is a line whose devices were attached before. -/
def AttachedFirst (log : List Entry) : Prop :=
  ∀ pre line wait reply post, log = pre ++ .sent line wait reply :: post →
    ∀ k i, Needs line k i → Echoed k i pre

theorem someDetached_eq {ms : List ℤ} (h : d.someDetached ms = .ok false) {i : Fin 4}
    (hi : (i : ℤ) ∈ ms) :
    d.motorsAttached i = true := by
  induction ms with
  | nil => cases hi
  | cons m ms ih =>
    rw [someDetached] at h
    cases hm : index 4 m with
    | error f =>
      rw [hm] at h
      cases h
    | ok j =>
      rw [hm] at h
      change (if d.motorsAttached j then d.someDetached ms else .ok true) = _ at h
      split at h
      · rcases List.mem_cons.1 hi with hi | hi
        · have hij : i = j := Fin.ext (by have := index_eq_ok.1 hm; omega)
          rwa [hij]
        · exact ih h hi
      · cases h

/-- A line that may be sent has its devices attached. -/
theorem Serves.attached (h : d.Serves line) {k : Kind} {i : Fin k.count} (hneeds : Needs line k i) :
    d.attached k i = true := by
  cases line with
  | moveServo s p =>
    cases k with
    | motor => cases hneeds
    | servo =>
      obtain ⟨j, hj, hattached⟩ := h
      have hij : i = j := Fin.ext (by change (i.val : ℤ) = s at hneeds; omega)
      rwa [hij]
  | moveAllServos p q r =>
    cases k with
    | motor => cases hneeds
    | servo => exact h i
  | runMotor m s t =>
    cases k with
    | motor => exact someDetached_eq h hneeds
    | servo => cases hneeds
  | runTwoMotors m s m' s' t =>
    cases k with
    | motor => exact someDetached_eq h hneeds
    | servo => cases hneeds
  | runFourMotors m₁ s₁ m₂ s₂ m₃ s₃ m₄ s₄ t =>
    cases k with
    | motor => exact someDetached_eq h hneeds
    | servo => cases hneeds
  | _ => cases k <;> cases hneeds

theorem Exchanged.log (he : Exchanged port d e line reply) :
    ∃ wait, e.log = d.log ++ [.sent line wait reply] := by
  obtain ⟨-, wait, _, rfl⟩ := he
  exact ⟨wait, rfl⟩

/-- An entry without a line does not matter. -/
theorem AttachedFirst.append {log es : List Entry} (h : AttachedFirst log) (hes : sentLines es = []) :
    AttachedFirst (log ++ es) := by
  intro pre line wait reply post heq k i hneeds
  rcases List.append_eq_append_iff.1 heq with ⟨mid, hpre, hrest⟩ | ⟨mid, hlog, hrest⟩
  · -- the line would be one of the new entries
    have hmem : line ∈ sentLines es := by
      rw [hrest]
      exact List.mem_filterMap.2 ⟨.sent line wait reply, by simp, rfl⟩
    rw [hes] at hmem
    cases hmem
  · cases mid with
    | nil =>
      have hmem : line ∈ sentLines es := by
        rw [← List.nil_append es, ← hrest]
        exact List.mem_filterMap.2 ⟨.sent line wait reply, by simp, rfl⟩
      rw [hes] at hmem
      cases hmem
    | cons x mid =>
      cases hrest
      exact h pre line wait reply mid hlog k i hneeds

/-- A line whose devices have been attached. -/
theorem AttachedFirst.sent {log : List Entry} {wait : ℕ} (h : AttachedFirst log)
    (hline : ∀ k i, Needs line k i → Echoed k i log) :
    AttachedFirst (log ++ [.sent line wait reply]) := by
  intro pre line' wait' reply' post heq k i hneeds
  rcases List.eq_nil_or_concat post with rfl | ⟨post', x, rfl⟩
  · obtain ⟨rfl, hx⟩ := List.append_inj' heq rfl
    cases hx
    exact hline k i hneeds
  · rw [List.concat_eq_append, ← List.cons_append, ← List.append_assoc] at heq
    obtain ⟨rfl, -⟩ := List.append_inj' heq rfl
    exact h pre line' wait' reply' post' rfl k i hneeds

end Device
end ExeRobot
