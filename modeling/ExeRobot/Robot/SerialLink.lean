/-
# The serial line, and what one `sendRaw` reads from it

The line is two lossless queues.  The Arduino handles command lines in order and
answers each with one line of text; when the octets of an answer arrive is
arbitrary, in order and after the command was written (`Board`).  An octet on its
way to the computer carries its time of arrival and the number of the command line
it answers; neither is known to the program.  Command lines are numbered in the
order they are written, which is the order the Arduino handles them in.

`sendRaw` writes its line and waits, up to four times while nothing has come back,
and then reads once (`transmit`, `receive`).  A read waits for a first octet and
takes what has arrived by then, 1024 octets at most.  Nothing tells an octet that
answers an earlier line from one that answers this line.  So a call reads its own
answers when it starts on a line with nothing left to read (`fresh_of_unread_nil`),
reads an old octet first when it does not (`not_fresh_of_unread`), and leaves
nothing to read exactly when all answers to the lines it wrote are there when it
reads (`unread_nil_iff`), as on a line at rest when the board answers within the wait
(`timely_of_prompt`).
-/

import ExeRobot.Robot.RXTXRobot

namespace ExeRobot

/-! ### The line -/

/-- An octet on its way to the computer, or waiting there to be read. -/
structure Octet where
  arrival : ℕ
  /-- The number of the command line it answers. -/
  line : ℕ
  value : JChar
  deriving DecidableEq, Repr

/-- The Arduino: to each command line, by its number, one line of text, and the time
each octet of it takes after the one before. -/
structure Board where
  reply : ℕ → Command → JString
  delay : ℕ → ℕ → ℕ
  oneLine : ∀ id cmd, jc '\n' ∉ reply id cmd

/-- The answer to a command line, as it is sent. -/
def Board.answer (board : Board) (id : ℕ) (cmd : Command) : JString :=
  board.reply id cmd ++ [jc '\r', jc '\n']

/-- The two ends of the serial line at a moment. -/
structure Wire where
  now : ℕ
  /-- The number of command lines written so far. -/
  written : ℕ
  /-- When the Arduino is done with the lines written so far. -/
  ready : ℕ
  /-- What has been sent back and not been read, in order. -/
  unread : List Octet
  deriving DecidableEq, Repr

namespace Wire

/-- A line on which nothing has been written yet. -/
def init : Wire := ⟨0, 0, 0, []⟩

/-- The octets of an answer, from the position `i` on, `t` being the arrival of the one before. -/
def octets (delay : ℕ → ℕ) (line : ℕ) : ℕ → ℕ → JString → List Octet
  | _, _, [] => []
  | t, i, c :: s => ⟨t + delay i, line, c⟩ :: octets delay line (t + delay i) (i + 1) s

/-- The arrival of the last octet of a list, `t` when there is none. -/
def lastArrival (t : ℕ) (l : List Octet) : ℕ := (l.getLast?.map Octet.arrival).getD t

/-- `out.write(cmd)`: the Arduino answers when it is done with the lines before. -/
def write (board : Board) (cmd : Command) (w : Wire) : Wire :=
  let start := max w.ready w.now
  let sent := octets (board.delay w.written) w.written start 0 (board.answer w.written cmd)
  { w with
    written := w.written + 1
    ready := lastArrival start sent
    unread := w.unread ++ sent }

/-- Time passes. -/
def pass (ms : ℕ) (w : Wire) : Wire := { w with now := w.now + ms }

/-- What has arrived at the time `t`. -/
def arrived (w : Wire) (t : ℕ) : List Octet := w.unread.takeWhile fun o => o.arrival ≤ t

/-- `in.available()`. -/
def available (w : Wire) : ℕ := (w.arrived w.now).length

/-- When `in.read(...)` returns: as soon as there is an octet. -/
def readTime (w : Wire) : ℕ := max w.now ((w.unread.head?.map Octet.arrival).getD w.now)

/-- The length of the buffer of `sendRaw`. -/
def bufferSize : ℕ := 1024

/-- `in.read(buffer, 0, 1024)`: what it reads, and the line after it. -/
def receive (w : Wire) : List Octet × Wire :=
  let n := min bufferSize (w.arrived w.readTime).length
  (w.unread.take n, { w with now := w.readTime, unread := w.unread.drop n })

/-- The first loop of `sendRaw`, lines 446-462, with `retries` lines left to write. -/
def transmit (board : Board) (tryAgain : Bool) (cmd : Command) (wait : ℕ) : ℕ → Wire → Wire
  | 0, w => w
  | retries + 1, w =>
      let w' := (w.write board cmd).pass wait
      if w'.available = 0 ∧ tryAgain ∧ retries ≠ 0 then transmit board tryAgain cmd wait retries w'
      else w'

end Wire

/-- What one `sendRaw` did: the line before it, how many command lines it wrote, and
the octets it read. -/
structure Reading where
  before : Wire
  tryAgain : Bool
  lines : ℕ
  octets : List Octet
  deriving DecidableEq, Repr

/-- `String.trim()`: it takes off blanks and control characters. -/
def trim (s : JString) : JString := (s.dropWhile (· ≤ 32)).rdropWhile (· ≤ 32)

/-- `new String(buffer).trim()`. -/
def Reading.text (r : Reading) : JString := trim (r.octets.map Octet.value)

/-- The serial port with a board at the other end. -/
def serial (board : Board) : Link Wire Reading where
  text := Reading.text
  sendRaw := fun tryAgain cmd wait w =>
    let w' := w.transmit board tryAgain cmd wait 4
    (⟨w, tryAgain, w'.written - w.written, w'.receive.1⟩, w'.receive.2)
  sleep := Wire.pass

theorem text_serial (board : Board) (r : Reading) : (serial board).text r = r.text := rfl

/-- Every octet read answers a command line that the same call wrote. -/
def Reading.Fresh (r : Reading) : Prop :=
  ∀ o ∈ r.octets, r.before.written ≤ o.line ∧ o.line < r.before.written + r.lines

instance (r : Reading) : Decidable r.Fresh := by unfold Reading.Fresh; infer_instance

namespace Wire

/-! ### What a write adds -/

variable {board : Board} {cmd : Command} {wait : ℕ} {w : Wire}

theorem line_of_mem_octets {delay : ℕ → ℕ} {line t i : ℕ} {s : JString} {o : Octet}
    (h : o ∈ octets delay line t i s) : o.line = line := by
  induction s generalizing t i with
  | nil => simp [octets] at h
  | cons c s ih =>
    rcases List.mem_cons.1 h with rfl | h
    · rfl
    · exact ih h

/-- Lines written, each followed by the wait. -/
def linesSent (board : Board) (cmd : Command) (wait j : ℕ) (w : Wire) : Wire :=
  (fun w => (w.write board cmd).pass wait)^[j] w

theorem linesSent_succ (j : ℕ) :
    w.linesSent board cmd wait (j + 1) =
      ((w.write board cmd).pass wait).linesSent board cmd wait j := rfl

theorem written_linesSent (j : ℕ) : (w.linesSent board cmd wait j).written = w.written + j := by
  induction j generalizing w with
  | zero => rfl
  | succ j ih =>
    rw [linesSent_succ, ih]
    show w.written + 1 + j = _
    omega

/-- Writing adds octets at the end of the queue, and they answer the lines written. -/
theorem unread_linesSent (board : Board) (cmd : Command) (wait : ℕ) (w : Wire) (j : ℕ) :
    ∃ more, (w.linesSent board cmd wait j).unread = w.unread ++ more ∧
    ∀ o ∈ more, w.written ≤ o.line ∧ o.line < w.written + j := by
  induction j generalizing w with
  | zero => exact ⟨[], (List.append_nil _).symm, fun o ho => absurd ho List.not_mem_nil⟩
  | succ j ih =>
    obtain ⟨more, hmore, hlines⟩ := ih ((w.write board cmd).pass wait)
    refine ⟨_ ++ more, by rw [linesSent_succ, hmore]; exact List.append_assoc _ _ _, fun o ho => ?_⟩
    rcases List.mem_append.1 ho with ho | ho
    · rw [line_of_mem_octets ho]
      omega
    · have := hlines o ho
      simp only [pass, write] at this
      omega

/-! ### When a call reads -/

/-- A call that may write `n` lines reads after `a` of them: it has tried again while
nothing had come back. -/
structure ReadsAfter (board : Board) (tryAgain : Bool) (cmd : Command) (wait n : ℕ) (w : Wire) (a : ℕ) :
    Prop where
  pos : 1 ≤ a
  le : a ≤ n
  again : ∀ j, 1 ≤ j → j < a → tryAgain = true ∧ (w.linesSent board cmd wait j).available = 0
  stop : tryAgain = false ∨ a = n ∨ (w.linesSent board cmd wait a).available ≠ 0

variable {tryAgain : Bool} {n a : ℕ}

theorem ReadsAfter.not_lt {a' : ℕ} (h : ReadsAfter board tryAgain cmd wait n w a)
    (h' : ReadsAfter board tryAgain cmd wait n w a') : ¬ a < a' := by
  intro hlt
  obtain ⟨htry, hnone⟩ := h'.again a h.pos hlt
  rcases h.stop with hstop | rfl | hsome
  · rw [htry] at hstop
    cases hstop
  · exact absurd h'.le (by omega)
  · exact hsome hnone

theorem ReadsAfter.unique {a' : ℕ} (h : ReadsAfter board tryAgain cmd wait n w a)
    (h' : ReadsAfter board tryAgain cmd wait n w a') : a = a' := by
  have := h.not_lt h'
  have := h'.not_lt h
  omega

/-- **The loop of `sendRaw` ends after the number of lines that `ReadsAfter` says.** -/
theorem exists_readsAfter (board : Board) (tryAgain : Bool) (cmd : Command) (wait n : ℕ) (w : Wire) :
    ∃ a, ReadsAfter board tryAgain cmd wait (n + 1) w a ∧
      w.transmit board tryAgain cmd wait (n + 1) = w.linesSent board cmd wait a := by
  induction n generalizing w with
  | zero =>
    refine ⟨1, ⟨le_rfl, le_rfl, fun j hj hj' => absurd hj' (by omega), .inr (.inl rfl)⟩, ?_⟩
    rw [transmit, if_neg (by simp)]
    rfl
  | succ n ih =>
    rw [transmit]
    by_cases hagain : ((w.write board cmd).pass wait).available = 0 ∧ tryAgain ∧ n + 1 ≠ 0
    · obtain ⟨a, ha, htransmit⟩ := ih ((w.write board cmd).pass wait)
      rw [if_pos hagain, htransmit]
      refine ⟨a + 1, ⟨by omega, by have := ha.le; omega, fun j hj hj' => ?_, ?_⟩, rfl⟩
      · obtain ⟨j, rfl⟩ := Nat.exists_eq_add_of_le' hj
        rcases Nat.eq_zero_or_pos j with rfl | hpos
        · exact ⟨hagain.2.1, hagain.1⟩
        · exact ha.again j hpos (by omega)
      · rcases ha.stop with hstop | rfl | hsome
        · exact .inl hstop
        · exact .inr (.inl rfl)
        · exact .inr (.inr hsome)
    · rw [if_neg hagain]
      refine ⟨1, ⟨le_rfl, by omega, fun j hj hj' => absurd hj' (by omega), ?_⟩, rfl⟩
      cases tryAgain with
      | false => exact .inl rfl
      | true => exact .inr (.inr fun hnone => hagain ⟨hnone, rfl, by omega⟩)

/-! ### What a call reads -/

/-- Everything sent back is there when the read returns, and fits the buffer. -/
structure Complete (w : Wire) : Prop where
  arrived : ∀ o ∈ w.unread, o.arrival ≤ w.readTime
  fits : w.unread.length ≤ bufferSize

theorem receive_unread_nil_iff : w.receive.2.unread = [] ↔ w.Complete := by
  have hprefix : w.arrived w.readTime <+: w.unread := List.takeWhile_prefix _
  show w.unread.drop (min bufferSize (w.arrived w.readTime).length) = [] ↔ _
  rw [List.drop_eq_nil_iff, le_min_iff]
  constructor
  · rintro ⟨hfits, hlen⟩
    refine ⟨fun o ho => ?_, hfits⟩
    have hall : w.arrived w.readTime = w.unread := hprefix.eq_of_length_le hlen
    rw [← hall] at ho
    exact of_decide_eq_true
      (List.mem_takeWhile_imp (p := fun o : Octet => decide (o.arrival ≤ w.readTime)) ho)
  · rintro ⟨harrived, hfits⟩
    refine ⟨hfits, ?_⟩
    rw [arrived, List.takeWhile_eq_self_iff.2 fun o ho => decide_eq_true (harrived o ho)]

/-- A read takes the first octet that is left, whenever it arrives. -/
theorem head_mem_receive {o : Octet} {l : List Octet} (h : w.unread = o :: l) : o ∈ w.receive.1 := by
  have htime : o.arrival ≤ w.readTime := by
    rw [readTime, h]
    exact le_max_right _ _
  have harrived : w.arrived w.readTime = o :: l.takeWhile fun o => o.arrival ≤ w.readTime := by
    simp [arrived, h, htime]
  show o ∈ w.unread.take (min bufferSize (w.arrived w.readTime).length)
  rw [harrived, h, List.length_cons, show min bufferSize ((l.takeWhile _).length + 1) =
    min (bufferSize - 1) (l.takeWhile fun o => o.arrival ≤ w.readTime).length + 1 by
      unfold bufferSize; omega]
  exact List.mem_cons_self ..

end Wire

/-! ### One call of `sendRaw` -/

section

open Wire

/-- What a call does: it reads after the number of lines that `ReadsAfter` says. -/
theorem sendRaw_eq (board : Board) (tryAgain : Bool) (cmd : Command) (wait : ℕ) (w : Wire) :
    ∃ a, ReadsAfter board tryAgain cmd wait 4 w a ∧ (serial board).sendRaw tryAgain cmd wait w =
      (⟨w, tryAgain, a, (w.linesSent board cmd wait a).receive.1⟩,
        (w.linesSent board cmd wait a).receive.2) := by
  obtain ⟨a, ha, htransmit⟩ := exists_readsAfter board tryAgain cmd wait 3 w
  refine ⟨a, ha, ?_⟩
  show (Reading.mk w tryAgain ((w.transmit board tryAgain cmd wait 4).written - w.written) _, _) = _
  rw [htransmit, written_linesSent, Nat.add_sub_cancel_left]

variable {board : Board} {tryAgain : Bool} {cmd : Command} {wait : ℕ} {w : Wire}

/-- The reading of a call. -/
abbrev readingOf (board : Board) (tryAgain : Bool) (cmd : Command) (wait : ℕ) (w : Wire) : Reading :=
  ((serial board).sendRaw tryAgain cmd wait w).1

/-- The line after a call. -/
abbrev wireAfter (board : Board) (tryAgain : Bool) (cmd : Command) (wait : ℕ) (w : Wire) : Wire :=
  ((serial board).sendRaw tryAgain cmd wait w).2

theorem written_wireAfter : (wireAfter board tryAgain cmd wait w).written =
    w.written + (readingOf board tryAgain cmd wait w).lines := by
  obtain ⟨a, -, hrun⟩ := sendRaw_eq board tryAgain cmd wait w
  unfold wireAfter readingOf
  rw [hrun]
  exact written_linesSent a

/-- **The condition of a call**: after the lines it writes, all that is sent back is
there when it reads. -/
def Timely (board : Board) (tryAgain : Bool) (cmd : Command) (wait : ℕ) (w : Wire) : Prop :=
  ∃ a, ReadsAfter board tryAgain cmd wait 4 w a ∧ (w.linesSent board cmd wait a).Complete

/-- A call leaves nothing to read exactly when it is timely. -/
theorem unread_nil_iff :
    (wireAfter board tryAgain cmd wait w).unread = [] ↔ Timely board tryAgain cmd wait w := by
  obtain ⟨a, ha, hrun⟩ := sendRaw_eq board tryAgain cmd wait w
  unfold wireAfter
  rw [hrun, receive_unread_nil_iff]
  constructor
  · exact fun h => ⟨a, ha, h⟩
  · rintro ⟨a', ha', h⟩
    rwa [ha.unique ha']

/-- **A call that starts with nothing left to read reads answers to its own lines.** -/
theorem fresh_of_unread_nil (h : w.unread = []) : (readingOf board tryAgain cmd wait w).Fresh := by
  obtain ⟨a, -, hrun⟩ := sendRaw_eq board tryAgain cmd wait w
  obtain ⟨more, hmore, hlines⟩ := unread_linesSent board cmd wait w a
  unfold readingOf
  rw [hrun]
  intro o ho
  have hmem : o ∈ (w.linesSent board cmd wait a).unread := List.mem_of_mem_take ho
  rw [hmore, h, List.nil_append] at hmem
  exact hlines o hmem

/-- What is left to read answers lines written before, after a call as before it. -/
theorem line_lt_of_unread (h : w.unread = []) {o : Octet}
    (ho : o ∈ (wireAfter board tryAgain cmd wait w).unread) :
    o.line < (wireAfter board tryAgain cmd wait w).written := by
  obtain ⟨a, -, hrun⟩ := sendRaw_eq board tryAgain cmd wait w
  obtain ⟨more, hmore, hlines⟩ := unread_linesSent board cmd wait w a
  unfold wireAfter at ho ⊢
  rw [hrun] at ho ⊢
  have hmem : o ∈ (w.linesSent board cmd wait a).unread := List.mem_of_mem_drop ho
  rw [hmore, h, List.nil_append] at hmem
  show o.line < (w.linesSent board cmd wait a).written
  rw [written_linesSent]
  exact (hlines o hmem).2

/-- A call that starts with an old octet left to read reads it. -/
theorem not_fresh_of_unread (h : w.unread ≠ []) (hold : ∀ o ∈ w.unread, o.line < w.written) :
    ¬ (readingOf board tryAgain cmd wait w).Fresh := by
  obtain ⟨o, l, hunread⟩ := List.exists_cons_of_ne_nil h
  obtain ⟨a, -, hrun⟩ := sendRaw_eq board tryAgain cmd wait w
  obtain ⟨more, hmore, -⟩ := unread_linesSent board cmd wait w a
  unfold readingOf
  rw [hrun]
  intro hfresh
  have hread : o ∈ (w.linesSent board cmd wait a).receive.1 :=
    head_mem_receive (l := l ++ more) (by rw [hmore, hunread, List.cons_append])
  have hnew : w.written ≤ o.line := (hfresh o hread).1
  have := hold o (by rw [hunread]; exact List.mem_cons_self ..)
  omega

/-- **The condition is needed**: after a call that is not timely the next one reads
an answer to a line it did not write. -/
theorem not_fresh_after (h : w.unread = []) (hlate : ¬ Timely board tryAgain cmd wait w)
    (tryAgain' : Bool) (cmd' : Command) (wait' ms : ℕ) :
    ¬ (readingOf board tryAgain' cmd' wait' ((wireAfter board tryAgain cmd wait w).pass ms)).Fresh := by
  refine not_fresh_of_unread (fun hnil => hlate (unread_nil_iff.1 hnil)) fun o ho => ?_
  exact line_lt_of_unread h ho

/-! ### Prompt answers -/

/-- Every answer is there `ms` milliseconds after the Arduino has begun its line, and fits
the buffer. -/
structure Board.Prompt (board : Board) (ms : ℕ) : Prop where
  arrival : ∀ id cmd t, ∀ o ∈ octets (board.delay id) id t 0 (board.answer id cmd), o.arrival ≤ t + ms
  fits : ∀ id cmd, (board.answer id cmd).length ≤ bufferSize

/-- Nothing is left to read, and the Arduino is done with all lines. -/
structure Wire.AtRest (w : Wire) : Prop where
  unread : w.unread = []
  ready : w.ready ≤ w.now

theorem Wire.AtRest.pass (h : w.AtRest) (ms : ℕ) : (w.pass ms).AtRest :=
  ⟨h.unread, h.ready.trans (Nat.le_add_right ..)⟩

theorem length_octets (delay : ℕ → ℕ) (line t i : ℕ) (s : JString) :
    (octets delay line t i s).length = s.length := by
  induction s generalizing t i with
  | nil => rfl
  | cons c s ih => exact congrArg (· + 1) (ih _ _)

theorem lastArrival_le {l : List Octet} {t m : ℕ} (ht : t ≤ m) (h : ∀ o ∈ l, o.arrival ≤ m) :
    lastArrival t l ≤ m := by
  unfold lastArrival
  cases hlast : l.getLast? with
  | none => exact ht
  | some o => exact h o (List.mem_of_getLast? hlast)

/-- The answer to a line that is written on a line at rest. -/
def Wire.answerTo (board : Board) (cmd : Command) (w : Wire) : List Octet :=
  octets (board.delay w.written) w.written w.now 0 (board.answer w.written cmd)

theorem Wire.AtRest.unread_one (h : w.AtRest) :
    (w.linesSent board cmd wait 1).unread = w.answerTo board cmd := by
  show w.unread ++ octets _ _ (max w.ready w.now) 0 _ = _
  rw [h.unread, max_eq_right h.ready, List.nil_append]
  rfl

theorem Wire.AtRest.ready_one (h : w.AtRest) :
    (w.linesSent board cmd wait 1).ready = lastArrival w.now (w.answerTo board cmd) := by
  show lastArrival (max w.ready w.now) (octets _ _ (max w.ready w.now) 0 _) = _
  rw [max_eq_right h.ready]
  rfl

theorem Board.Prompt.arrival_answerTo {ms : ℕ} (hboard : board.Prompt ms) (hwait : ms ≤ wait) {o : Octet}
    (ho : o ∈ w.answerTo board cmd) : o.arrival ≤ (w.linesSent board cmd wait 1).now :=
  (hboard.arrival _ _ _ o ho).trans (Nat.add_le_add_left hwait _)

/-- **A prompt answer makes a timely call.**  On a line at rest the answer to the first line
is there after the wait, so the call reads all of it, and leaves the line at rest. -/
theorem timely_of_prompt {ms : ℕ} (hboard : board.Prompt ms) (hwait : ms ≤ wait) (h : w.AtRest) :
    Timely board tryAgain cmd wait w ∧ (wireAfter board tryAgain cmd wait w).AtRest := by
  have harrived : ∀ o ∈ w.answerTo board cmd, o.arrival ≤ (w.linesSent board cmd wait 1).now :=
    fun o ho => hboard.arrival_answerTo hwait ho
  have hready : (w.linesSent board cmd wait 1).ready ≤ (w.linesSent board cmd wait 1).now := by
    rw [h.ready_one]
    exact lastArrival_le (Nat.le_add_right ..) harrived
  have hlen : (w.answerTo board cmd).length = (board.answer w.written cmd).length := length_octets ..
  have hreads : ReadsAfter board tryAgain cmd wait 4 w 1 := by
    refine ⟨le_rfl, by omega, fun j hj hj' => absurd hj' (by omega), .inr (.inr ?_)⟩
    rw [available, arrived, h.unread_one,
      List.takeWhile_eq_self_iff.2 fun o ho => decide_eq_true (harrived o ho), hlen, Board.answer,
      List.length_append]
    exact Nat.succ_ne_zero _
  have hcomplete : (w.linesSent board cmd wait 1).Complete := by
    constructor
    · rw [h.unread_one]
      exact fun o ho => (harrived o ho).trans (le_max_left ..)
    · rw [h.unread_one, hlen]
      exact hboard.fits _ _
  have htimely : Timely board tryAgain cmd wait w := ⟨1, hreads, hcomplete⟩
  refine ⟨htimely, unread_nil_iff.2 htimely, ?_⟩
  obtain ⟨a, ha, hrun⟩ := sendRaw_eq board tryAgain cmd wait w
  obtain rfl := ha.unique hreads
  unfold wireAfter
  rw [hrun]
  exact hready.trans (le_max_left ..)

/-- After the first octet of an answer the others come without delay. -/
theorem arrival_octets {delay : ℕ → ℕ} (hdelay : ∀ i, delay (i + 1) = 0) {line t i : ℕ} {s : JString}
    {o : Octet} (ho : o ∈ octets delay line t (i + 1) s) : o.arrival = t := by
  induction s generalizing t i with
  | nil => cases ho
  | cons c s ih =>
    have htime : t + delay (i + 1) = t := by rw [hdelay, Nat.add_zero]
    rw [octets, htime] at ho
    rcases List.mem_cons.1 ho with rfl | ho
    · rfl
    · exact ih ho

/-- A board whose answers come in one piece. -/
theorem Board.prompt_of_piece {ms : ℕ} (hfirst : ∀ id, board.delay id 0 ≤ ms)
    (hrest : ∀ id i, board.delay id (i + 1) = 0)
    (hfits : ∀ id cmd, (board.answer id cmd).length ≤ bufferSize) : board.Prompt ms := by
  refine ⟨fun id cmd t o ho => ?_, hfits⟩
  cases hanswer : board.answer id cmd with
  | nil =>
    rw [hanswer] at ho
    cases ho
  | cons c s =>
    rw [hanswer] at ho
    rcases List.mem_cons.1 ho with rfl | ho
    · exact Nat.add_le_add_left (hfirst id) t
    · rw [arrival_octets (hrest id) ho]
      exact Nat.add_le_add_left (hfirst id) t

end

end ExeRobot
