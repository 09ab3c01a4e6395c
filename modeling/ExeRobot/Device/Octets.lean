/-
# The octets on the wire

A port that also keeps the octets it has accepted (`Port.recorded`).  After any run they
are the lines that have been sent, each with its line end.  A line that moves something
has been written at most once, and a question at most four times; so a reader that cuts
the octets at line ends reads the lines back, in the order in which they were sent, and
from a part of the octets it reads the first of them (`received_lines`).
-/

import ExeRobot.Device.Sending

namespace ExeRobot

open Persistent

/-! ### A port that keeps what is written -/

/-- The port `port` with the octets that its writes have accepted. -/
def Port.recorded {P : Type} (port : Port P) : Port (P × JString) where
  write s := fun (p, w) =>
    match port.write s p with
    | .ok () p' => .ok () (p', w ++ s)
    | .error t p' => .error t (p', w)
  available := fun (p, _) => port.available p
  read n := fun (p, w) =>
    match port.read n p with
    | .ok more p' => .ok more (p', w)
    | .error t p' => .error t (p', w)
  sleep ms := fun (p, w) => (port.sleep ms p, w)
  read_le := by
    rintro n ⟨p, w⟩ more p' h
    cases hr : port.read n p with
    | ok more' q =>
      simp only [hr] at h
      cases h
      exact port.read_le hr
    | error t q =>
      simp only [hr] at h
      cases h

namespace Port

variable {P : Type} {port : Port P} {s : JString} {q : P × JString}

/-- A read writes nothing. -/
theorem wp_recorded_read (n : ℕ) :
    wp (port.recorded.read n) (fun _ q' => q'.2 = q.2) (fun _ q' => q'.2 = q.2) q := by
  obtain ⟨p, w⟩ := q
  show wp (fun _ => match port.read n p with
    | .ok more p' => .ok more (p', w)
    | .error t p' => .error t (p', w) : Io (P × JString) JString) _ _ (p, w)
  unfold wp
  cases port.read n p <;> rfl

/-- A write that throws has written nothing that is kept. -/
theorem wp_recorded_write :
    wp (port.recorded.write s) (fun _ q' => q'.2 = q.2 ++ s) (fun _ q' => q'.2 = q.2) q := by
  obtain ⟨p, w⟩ := q
  show wp (fun _ => match port.write s p with
    | .ok () p' => .ok () (p', w ++ s)
    | .error t p' => .error t (p', w) : Io (P × JString) Unit) _ _ (p, w)
  unfold wp
  cases port.write s p <;> rfl

/-- The second loop of `sendRaw` writes nothing. -/
theorem wp_recorded_collect (moving : Bool) (turns : ℕ) (got : JString) :
    wp (port.recorded.collect s moving turns got) (fun _ q' => q'.2 = q.2) (fun _ q' => q'.2 = q.2)
      q := by
  induction turns generalizing got q with
  | zero =>
    rw [collect, wp_bind]
    refine wp_mono (wp_recorded_read _) (fun _ _ h => ?_) fun _ _ h => h
    exact wp_ite (fun _ => h) fun _ => h
  | succ turns ih =>
    rw [collect, wp_bind]
    refine wp_mono (wp_recorded_read _) (fun _ q' h => ?_) fun _ _ h => h
    refine wp_ite (fun _ => ?_) fun _ => h
    exact wp_mono (ih _) (fun _ _ h' => h'.trans h) fun _ _ h' => h'.trans h

/-- Some number of copies of `s` is written, at most `n`. -/
def Copies (s w : JString) (n : ℕ) (w' : JString) : Prop :=
  ∃ m ≤ n, w' = w ++ (List.replicate m s).flatten

/-- The first loop of `sendRaw` writes its line once, and again only if it is to try again. -/
theorem wp_recorded_transmit (wait : ℕ) (again waits : Bool) (retries : ℕ) :
    wp (port.recorded.transmit s wait again waits retries)
      (fun _ q' => Copies (s ++ [jc '\r', jc '\n']) q.2 (if again then retries else 1) q'.2)
      (fun _ q' => Copies (s ++ [jc '\r', jc '\n']) q.2 (if again then retries else 1) q'.2) q := by
  induction retries generalizing q with
  | zero => exact ⟨0, Nat.zero_le _, (List.append_nil _).symm⟩
  | succ retries ih =>
    have hone : ∀ n, 0 < n → ∀ w, w = q.2 ++ (s ++ [jc '\r', jc '\n']) →
        Copies (s ++ [jc '\r', jc '\n']) q.2 n w := fun n hn w hw => ⟨1, hn, by simpa using hw⟩
    have hpos : 0 < if again then retries + 1 else 1 := by split <;> omega
    rw [transmit, wp_bind]
    refine wp_mono wp_recorded_write (fun _ q' h => ?_)
      fun _ _ h => ⟨0, Nat.zero_le _, by simpa using h⟩
    rw [wp_bind, wp_modify, wp_bind, wp_get, wp_bind]
    refine wp_lift (fun n _ => wp_ite (fun hretry => ?_) fun _ => hone _ hpos _ h)
      fun _ _ => hone _ hpos _ h
    have hagain : again = true := by
      simp only [Bool.and_eq_true] at hretry
      exact hretry.1.1.2
    rw [hagain] at ih ⊢
    have hmore : ∀ w, Copies (s ++ [jc '\r', jc '\n']) q'.2 retries w →
        Copies (s ++ [jc '\r', jc '\n']) q.2 (retries + 1) w := by
      rintro w ⟨m, hm, rfl⟩
      refine ⟨m + 1, Nat.succ_le_succ hm, ?_⟩
      rw [h, List.replicate_succ, List.flatten_cons, List.append_assoc]
    exact wp_mono ih (fun _ _ h' => hmore _ h') fun _ _ h' => hmore _ h'

variable (port s q) in
/-- `sendRaw` writes its line at most four times, and at most once if it does not try again. -/
theorem recorded_exchange (wait : ℕ) (again waits moving : Bool) (turns : ℕ) :
    Copies (s ++ [jc '\r', jc '\n']) q.2 (if again then 4 else 1)
      (final (port.recorded.exchange s wait again waits moving turns q).2).2 := by
  have htransmit : Copies (s ++ [jc '\r', jc '\n']) q.2 (if again then 4 else 1)
      (final (port.recorded.transmit s wait again waits 4 q)).2 :=
    wp_final.1 (wp_recorded_transmit wait again waits 4)
  unfold exchange
  cases h : port.recorded.transmit s wait again waits 4 q with
  | error t q' =>
    rw [h] at htransmit
    exact htransmit
  | ok tired q' =>
    rw [h] at htransmit
    have hcollect : (final (port.recorded.collect s moving turns [] q')).2 = q'.2 :=
      wp_final.1 (wp_recorded_collect moving turns [])
    show Copies _ q.2 _ (final (port.recorded.collect s moving turns [] q')).2
    rw [hcollect]
    exact htransmit

end Port
/-! ### The octets of a run -/

namespace Device

variable {P : Type} {hw : Hardware} {port : Port P} {d e : Device (P × JString)}

/-- The lines that have been written, each as often as it has been. -/
def written (sent : List (Line × ℕ)) : List Line := sent.flatMap fun o => List.replicate o.2 o.1

theorem written_append_singleton (sent : List (Line × ℕ)) (line : Line) (m : ℕ) :
    Line.stream (written (sent ++ [(line, m)])) =
      Line.stream (written sent) ++ (List.replicate m line.octets).flatten := by
  simp [written, Line.stream, List.flatMap_def]

/-- What has been written: the lines that have been sent, a question at most four times and
another line at most once. -/
structure Transmitted (d : Device (P × JString)) (sent : List (Line × ℕ)) : Prop where
  lines : sent.map Prod.fst = sentLines d.log
  octets : d.port.2 = Line.stream (written sent)
  few : ∀ o ∈ sent, o.2 ≤ 4 ∧ (o.1.asked = false → o.2 ≤ 1)

theorem Change.transmitted {l : Label} (h : Change hw port.recorded l d e)
    (hd : ∃ sent, Transmitted d sent) : ∃ sent, Transmitted e sent := by
  obtain ⟨sent, hd⟩ := hd
  rcases h.sent_cases with ⟨⟨es, hlog, hes⟩, hport⟩ | ⟨line, reply, e', he, hport, hlog, hpermitted⟩
  · refine ⟨sent, ?_, ?_, hd.few⟩
    · rw [hlog, sentLines_append, hes, List.append_nil, hd.lines]
    · rcases hport with hport | ⟨ms, hport⟩
      · rw [hport, hd.octets]
      · rw [hport]
        exact hd.octets
  · have hlines := he.sentLines
    obtain ⟨-, wait, turns, rfl⟩ := he
    obtain ⟨m, hm, hw⟩ := Port.recorded_exchange port line.text d.port wait
      d.attemptTryAgain d.waitForResponse d.moveEncodedMotor turns
    refine ⟨sent ++ [(line, m)], ?_, ?_, ?_⟩
    · rw [List.map_append, hd.lines, hlog, hlines]
      rfl
    · rw [hport, written_append_singleton, ← hd.octets]
      exact hw
    · intro o ho
      rcases List.mem_append.1 ho with ho | ho
      · exact hd.few o ho
      · rw [List.mem_singleton.1 ho]
        refine ⟨hm.trans (by split <;> omega), fun hasked => ?_⟩
        have hquiet : d.attemptTryAgain = false := hpermitted.asked.resolve_left (by simp [hasked])
        rwa [hquiet, if_neg (by simp)] at hm

/-- **The lines arrive in order, and nothing is moved twice.**  After any run the octets that
have been written are those of the lines that have been sent, each question at most four times
and each other line at most once.  A reader that has got all of them has read these lines, and one
that has got the first part of them has read the first of these lines. -/
theorem received_lines {cond : Call → Device (P × JString) → Prop} {p : P} {calls : List Call}
    (h : Runs hw port.recorded cond calls (new (p, [])) d) :
    ∃ sent : List (Line × ℕ), sent.map Prod.fst = sentLines d.log ∧
      (∀ o ∈ sent, o.2 ≤ 4 ∧ (o.1.asked = false → o.2 ≤ 1)) ∧
      d.port.2 = Line.stream (written sent) ∧
      (Terminated.words (jc '\n') [] d.port.2).map (fun s => Line.parseWith parseSigned (trim s)) =
        (written sent).map some ∧
      ∀ w, w <+: d.port.2 →
        (Terminated.words (jc '\n') [] w).map (fun s => Line.parseWith parseSigned (trim s)) <+:
          (written sent).map some := by
  obtain ⟨sent, hd⟩ := h.keeps (L := fun _ => True) (I := fun d => ∃ sent, Transmitted d sent)
    (fun _ _ _ _ _ _ => trivial) (fun _ _ _ _ hstep hd => hstep.transmitted hd) ⟨rfl, rfl, rfl⟩
    ⟨[], rfl, rfl, by simp⟩
  refine ⟨sent, hd.lines, hd.few, hd.octets, ?_, fun w hw => ?_⟩
  · rw [hd.octets]
    exact Line.parseWith_stream fun _ _ v _ => parseSigned_intText v
  rw [hd.octets] at hw
  exact Line.parseWith_of_prefix (fun _ _ v _ => parseSigned_intText v) hw

/-- A motor runs, on a port that keeps what is written, with a board that answers every second
line. -/
def recordedMotor : Device ((ℕ × JString) × JString) :=
  played arduinoUno drowsy.recorded [.connect, .attachMotor 0 5, .runMotor 0 100 500] (new ((0, []), []))

/-- Three lines are sent, and the two that ask for an answer are written twice. -/
theorem received_lines_played :
    sentLines recordedMotor.log = [.readAnalog, .attachMotor 0 5, .runMotor 0 100 500] ∧
    recordedMotor.port.1.1 = 5 ∧
    ∃ sent : List (Line × ℕ), sent.map Prod.fst = sentLines recordedMotor.log ∧
      (∀ o ∈ sent, o.2 ≤ 4 ∧ (o.1.asked = false → o.2 ≤ 1)) ∧
      recordedMotor.port.2 = Line.stream (written sent) ∧
      (Terminated.words (jc '\n') [] recordedMotor.port.2).map
          (fun s => Line.parseWith parseSigned (trim s)) = (written sent).map some ∧
      ∀ w, w <+: recordedMotor.port.2 →
        (Terminated.words (jc '\n') [] w).map (fun s => Line.parseWith parseSigned (trim s)) <+:
          (written sent).map some :=
  ⟨by decide +kernel, by decide +kernel,
    received_lines (runs_played (fun _ _ _ => trivial) (by decide +kernel))⟩

end Device

end ExeRobot
