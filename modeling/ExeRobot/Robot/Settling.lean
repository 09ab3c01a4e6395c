/-
# Readings after a settling delay

`getTemperature`, `getSlope` and `checkBump` read a pin through the cache of the API,
which only a refresh updates.  `getTemperature` waits, refreshes and reads, ten times;
`checkBump` refreshes and reads.  `getSlope` waits, refreshes, reads, waits again and
reads again, with no refresh between: the value it uses is from before the second wait.

The board of `clocked` is in time.  A pin carries an arbitrary signal, a command takes an
arbitrary time, and the value in its reply is sampled at an arbitrary moment of that time.
`SettledReads` says that the values read are those of the signal at some moment since the
operation last waited (`settledReads_iff`).
-/

import ExeRobot.Robot.EXERobot

namespace ExeRobot
namespace EXERobot

open Stateful RXTXRobot

/-! ### A pin in time -/

/-- A signal on a pin, and the board that samples it: the text of the reply to the `n`-th
command when the value is `v`, the time until it is sampled, and the time the command
takes beyond the wait of `sendRaw`. -/
structure Bench where
  signal : ℕ → ℤ
  reply : ℕ → Command → ℤ → JString
  lag : ℕ → ℕ
  took : ℕ → ℕ

/-- The time, and the number of commands sent. -/
structure Clock where
  now : ℕ
  sent : ℕ
  deriving DecidableEq, Repr

namespace Bench

variable (b : Bench)

/-- When the command sent at `c` is done. -/
def doneAt (wait : ℕ) (c : Clock) : ℕ := c.now + (wait + b.took c.sent)

/-- When the value in its reply is sampled: at some moment until then. -/
def sampledAt (wait : ℕ) (c : Clock) : ℕ := c.now + min (b.lag c.sent) (wait + b.took c.sent)

end Bench

/-- The text of a reply, and the time it was read. -/
abbrev Stamped := JString × ℕ

/-- The board of a bench. -/
def clocked (b : Bench) : Link Clock Stamped where
  text := Prod.fst
  sendRaw := fun _ cmd wait c =>
    ((b.reply c.sent cmd (b.signal (b.sampledAt wait c)), b.doneAt wait c),
      ⟨b.doneAt wait c, c.sent + 1⟩)
  sleep := fun ms c => { c with now := c.now + ms }

/-- A moment of an operation: when its last sleep ended, or it started, and the time. -/
structure Moment where
  settled : ℕ
  now : ℕ

/-- The moment after an event. -/
def Event.pass (m : Moment) : Event Stamped → Moment
  | .slept ms => ⟨m.now + ms, m.now + ms⟩
  | .sent _ _ r => { m with now := r.2 }
  | _ => m

/-- Every pin value read, when the result depends on it, is that of the signal at some
moment since the operation last slept.  `based rest` says that the result depends on a
value after which the operation goes on with `rest`. -/
def SettledReads (signal : ℕ → ℤ) (based : List (Event Stamped) → Prop) :
    Moment → List (Event Stamped) → Prop
  | _, [] => True
  | m, e :: es =>
      (∀ pin v, e = .pinRead pin v → based es → ∃ t, m.settled ≤ t ∧ t ≤ m.now ∧ v = signal t) ∧
        SettledReads signal based (Event.pass m e) es

/-! ### The operations -/

/-- The operations whose results depend on pins. -/
inductive PinOp where
  | temperature
  | slope
  | bump
  deriving DecidableEq, Repr

namespace PinOp

/-- The operation, its result dropped. -/
def run {L ρ : Type} (k : Link L ρ) : PinOp → Api L ρ Unit
  | temperature => do let _ ← getTemperature k
  | slope => do let _ ← getSlope k
  | bump => do let _ ← checkBump k

/-- The value of its pin in a reply. -/
def decode : PinOp → JString → Option ℤ
  | temperature, reply => analogReading TEMP_SENSOR_PORT reply
  | slope, reply => analogReading INCLINOMETER_SENSOR_PORT reply
  | bump, reply => digitalReading BUMP_SENSOR reply

/-- The command that samples the pin. -/
def command : PinOp → Command
  | temperature | slope => .readAnalog
  | bump => .readDigital

/-- The result of `getSlope` depends on the last value read, the others on all. -/
def Based : PinOp → List (Event Stamped) → Prop
  | slope, rest => ∀ pin v, .pinRead pin v ∉ rest
  | _, _ => True

end PinOp

/-- All commands succeed: the reply to each refresh has the value sampled. -/
def Bench.Succeeds (b : Bench) (op : PinOp) : Prop :=
  ∀ n t, op.decode (b.reply n op.command (b.signal t)) = some (b.signal t)

/-- The signal is the same when the refresh of `getSlope` samples it and when its second
sleep ends. -/
def Bench.StillDuringSlope (b : Bench) (start : Clock) : Prop :=
  let refresh : Clock := { start with now := start.now + 1000 }
  b.signal (b.sampledAt 100 refresh) = b.signal (b.doneAt 100 refresh + 1000)

/-! ### Samples -/

variable {b : Bench} {signal : ℕ → ℤ} {based : List (Event Stamped) → Prop}

/-- Errors are no pin values. -/
theorem settledReads_errors (m : Moment) (es : List ApiError) (rest : List (Event Stamped)) :
    SettledReads signal based m (es.map Event.error ++ rest) ↔ SettledReads signal based m rest := by
  induction es with
  | nil => rfl
  | cons e es ih =>
    refine Iff.trans ⟨And.right, fun h => ⟨nofun, h⟩⟩ ih

/-- When the result depends on all values, a run can be cut anywhere. -/
theorem settledReads_append (m : Moment) (es es' : List (Event Stamped)) :
    SettledReads signal (fun _ => True) m (es ++ es') ↔
      SettledReads signal (fun _ => True) m es ∧
        SettledReads signal (fun _ => True) (es.foldl Event.pass m) es' := by
  induction es generalizing m with
  | nil => exact ⟨fun h => ⟨trivial, h⟩, And.right⟩
  | cons e es ih => exact (and_congr_right fun _ => ih _).trans and_assoc.symm

theorem foldl_pass_errors (m : Moment) (es : List ApiError) :
    (es.map (Event.error : ApiError → Event Stamped)).foldl Event.pass m = m := by
  induction es with
  | nil => rfl
  | cons e es ih => exact ih

theorem sampledAt_le_doneAt (b : Bench) (wait : ℕ) (c : Clock) :
    b.sampledAt wait c ≤ b.doneAt wait c :=
  Nat.add_le_add_left (Nat.min_le_right _ _) _

theorem now_le_sampledAt (b : Bench) (wait : ℕ) (c : Clock) : c.now ≤ b.sampledAt wait c :=
  Nat.le_add_right _ _

/-- `refresh` sends `cmd`, and leaves at `index` of a cache the value the signal had when
it was sampled. -/
def Samples (b : Bench) (refresh : Api Clock Stamped Unit) (cmd : Command)
    (cacheOf : Robot Clock Stamped → Option (List ℤ)) (index : ℕ) : Prop :=
  ∀ ⦃s⦄, Online s → ∃ (s' : Robot Clock Stamped) (text : JString) (as : List ApiError),
    refresh s = .ok ((), s') ∧ Online s' ∧ s'.link = ⟨b.doneAt 100 s.link, s.link.sent + 1⟩ ∧
    s'.log = s.log ++ .sent cmd 100 (text, b.doneAt 100 s.link) :: as.map Event.error ∧
    ∃ cache, cacheOf s' = some cache ∧ cache[index]? = some (b.signal (b.sampledAt 100 s.link))

theorem samples_refreshAnalogPins {pin : ℤ} (hpin : pin ∈ initialFreeAnalogPins)
    (h : ∀ n t, analogReading pin (b.reply n .readAnalog (b.signal t)) = some (b.signal t)) :
    Samples b (refreshAnalogPins (clocked b)) .readAnalog Robot.analogPinCache
      (initialFreeAnalogPins.idxOf pin) := by
  intro s hs
  refine ⟨_, _, _, refreshAnalogPins_of_connected (clocked b) hs.connected,
    ⟨hs.connected, hs.analogPins, hs.digitalPins⟩, rfl, rfl, _, rfl, ?_⟩
  rw [hs.analogPins]
  refine (readPins_entry _ hpin _).trans (congrArg some ?_)
  exact congrArg (Option.getD · (-1)) (h s.link.sent (b.sampledAt 100 s.link))

theorem samples_refreshDigitalPins {pin : ℤ} (hpin : pin ∈ initialFreeDigitalPins)
    (h : ∀ n t, digitalReading pin (b.reply n .readDigital (b.signal t)) = some (b.signal t)) :
    Samples b (refreshDigitalPins (clocked b)) .readDigital Robot.digitalPinCache
      (initialFreeDigitalPins.idxOf pin) := by
  intro s hs
  refine ⟨_, _, _, refreshDigitalPins_of_connected (clocked b) hs.connected,
    ⟨hs.connected, hs.analogPins, hs.digitalPins⟩, rfl, rfl, _, rfl, ?_⟩
  rw [hs.digitalPins]
  refine (readPins_entry _ hpin _).trans (congrArg some ?_)
  exact congrArg (Option.getD · (-1)) (h s.link.sent (b.sampledAt 100 s.link))

/-! ### Programs all of whose values are settled -/

/-- The values read in a stretch of a run from `c` to `c'` are settled, if the operation
last slept at any moment before. -/
def SettledBetween (b : Bench) (c c' : Clock) (es : List (Event Stamped)) : Prop :=
  ∀ settled ≤ c.now, SettledReads b.signal (fun _ => True) ⟨settled, c.now⟩ es ∧
    ∃ settled' ≤ c'.now, es.foldl Event.pass ⟨settled, c.now⟩ = ⟨settled', c'.now⟩

theorem SettledBetween.append {c c' c'' : Clock} {es es' : List (Event Stamped)}
    (h : SettledBetween b c c' es) (h' : SettledBetween b c' c'' es') :
    SettledBetween b c c'' (es ++ es') := by
  intro settled hle
  obtain ⟨hes, settled', hle', hmoment⟩ := h settled hle
  obtain ⟨hes', settled'', hle'', hmoment'⟩ := h' settled' hle'
  refine ⟨(settledReads_append _ _ _).2 ⟨hes, hmoment ▸ hes'⟩, settled'', hle'', ?_⟩
  rw [List.foldl_append, hmoment, hmoment']

/-- A value that a refresh has just sampled. -/
theorem settledBetween_sample (c : Clock) (n : ℕ) (cmd : Command) (text : JString)
    (as : List ApiError) (pin : ℤ) :
    SettledBetween b c ⟨b.doneAt 100 c, n⟩ (.sent cmd 100 (text, b.doneAt 100 c) ::
      as.map Event.error ++ [.pinRead pin (b.signal (b.sampledAt 100 c))]) := by
  intro settled hle
  refine ⟨⟨nofun, (settledReads_errors _ _ _).2 ⟨fun _ v heq _ => ?_, trivial⟩⟩, settled, ?_, ?_⟩
  · obtain ⟨-, rfl⟩ := Event.pinRead.inj heq
    exact ⟨b.sampledAt 100 c, hle.trans (now_le_sampledAt b 100 c), sampledAt_le_doneAt b 100 c, rfl⟩
  · exact hle.trans ((now_le_sampledAt b 100 c).trans (sampledAt_le_doneAt b 100 c))
  · rw [List.cons_append, List.foldl_cons, List.foldl_append, foldl_pass_errors]
    rfl

/-- Every run of `x` over an open connection ends normally, and its values are settled. -/
def Settles {α : Type} (b : Bench) (x : Api Clock Stamped α) : Prop :=
  ∀ ⦃s⦄, Online s → ∃ a t es, x s = .ok (a, t) ∧ Online t ∧ t.log = s.log ++ es ∧
    SettledBetween b s.link t.link es

namespace Settles

variable {α β : Type}

theorem pure (a : α) : Settles b (Pure.pure a) := fun s hs =>
  ⟨a, s, [], rfl, hs, (List.append_nil _).symm, fun settled hle => ⟨trivial, settled, hle, rfl⟩⟩

theorem bind {x : Api Clock Stamped α} {f : α → Api Clock Stamped β} (hx : Settles b x)
    (hf : ∀ a, Settles b (f a)) : Settles b (x >>= f) := by
  intro s hs
  obtain ⟨a, s', es, hrun, hs', hlog, hes⟩ := hx hs
  obtain ⟨c, t, es', hrest, ht, hlog', hes'⟩ := hf a hs'
  refine ⟨c, t, es ++ es', (run_bind_ok hrun).trans hrest, ht, ?_, hes.append hes'⟩
  rw [hlog', hlog, List.append_assoc]

theorem sleep (ms : ℕ) : Settles b (RXTXRobot.sleep (clocked b) ms) := fun s hs =>
  ⟨(), _, [.slept ms], rfl, ⟨hs.connected, hs.analogPins, hs.digitalPins⟩, rfl,
    fun _ _ => ⟨⟨nofun, trivial⟩, s.link.now + ms, le_rfl, rfl⟩⟩

theorem foldlM {f : α → ℕ → Api Clock Stamped α} (h : ∀ a i, Settles b (f a i)) (l : List ℕ) (a : α) :
    Settles b (l.foldlM f a) := by
  induction l generalizing a with
  | nil => exact pure a
  | cons i l ih =>
    rw [List.foldlM_cons]
    exact bind (h a i) ih

/-- Reading a pin right after the refresh that samples it. -/
theorem sample {refresh : Api Clock Stamped Unit} {read : Api Clock Stamped ℤ} {cmd : Command}
    {cacheOf : Robot Clock Stamped → Option (List ℤ)} {index : ℕ} {pin : ℤ}
    (h : Samples b refresh cmd cacheOf index)
    (hread : ∀ ⦃s cache v⦄, Online s → cacheOf s = some cache → cache[index]? = some v →
      read s = .ok (v, { s with log := s.log ++ [.pinRead pin v] })) :
    Settles b (refresh >>= fun _ => read) := by
  intro s hs
  obtain ⟨s', text, as, hrun, hs', hlink, hlog, cache, hcache, hv⟩ := h hs
  refine ⟨_, _, .sent cmd 100 (text, b.doneAt 100 s.link) :: as.map Event.error ++
    [.pinRead pin (b.signal (b.sampledAt 100 s.link))],
    (run_bind_ok hrun).trans (hread hs' hcache hv),
    ⟨hs'.connected, hs'.analogPins, hs'.digitalPins⟩, ?_, ?_⟩
  · rw [hlog, List.append_assoc]
  · show SettledBetween b s.link s'.link _
    rw [hlink]
    exact settledBetween_sample s.link _ cmd text as pin

theorem sampleAnalog {pin : ℤ} (hpin : pin ∈ initialFreeAnalogPins)
    (h : ∀ n t, analogReading pin (b.reply n .readAnalog (b.signal t)) = some (b.signal t)) :
    Settles b (refreshAnalogPins (clocked b) >>= fun _ => getAnalogPin (clocked b) pin) :=
  sample (samples_refreshAnalogPins hpin h) fun _ _ _ hs hcache hv =>
    getAnalogPin_cached (clocked b) hpin hs hcache hv

theorem sampleDigital {pin : ℤ} (hpin : pin ∈ initialFreeDigitalPins)
    (h : ∀ n t, digitalReading pin (b.reply n .readDigital (b.signal t)) = some (b.signal t)) :
    Settles b (refreshDigitalPins (clocked b) >>= fun _ => getDigitalPin (clocked b) pin) :=
  sample (samples_refreshDigitalPins hpin h) fun _ _ _ hs hcache hv =>
    getDigitalPin_cached (clocked b) hpin hs hcache hv

theorem getTemperature (h : b.Succeeds .temperature) :
    Settles b (EXERobot.getTemperature (clocked b)) := by
  have hsample := sampleAnalog (by decide : TEMP_SENSOR_PORT ∈ initialFreeAnalogPins) h
  refine bind (foldlM (fun sum _ => bind (bind (sleep 200) fun _ => hsample) fun _ => pure _) _ _) ?_
  exact fun _ => pure _

theorem checkBump (h : b.Succeeds .bump) : Settles b (EXERobot.checkBump (clocked b)) := by
  have hsample := sampleDigital (by decide : BUMP_SENSOR ∈ initialFreeDigitalPins) h
  have heq : EXERobot.checkBump (clocked b) =
      (refreshDigitalPins (clocked b) >>= fun _ => getDigitalPin (clocked b) BUMP_SENSOR) >>=
        fun v => Pure.pure (decide (v = BUMP_SENSOR_TRIGGERED)) := by
    rw [bind_assoc]
    rfl
  rw [heq]
  exact bind hsample fun _ => pure _

end Settles

/-! ### The operations -/

/-- What `getSlope` leaves in the log. -/
theorem getSlope_log (h : b.Succeeds .slope) {s : Robot Clock Stamped} (hs : Online s) :
    let refresh : Clock := { s.link with now := s.link.now + 1000 }
    let read : Event Stamped := .pinRead INCLINOMETER_SENSOR_PORT (b.signal (b.sampledAt 100 refresh))
    ∃ (a : ℤ) (t : Robot Clock Stamped) (text : JString) (as : List ApiError),
      getSlope (clocked b) s = .ok (a, t) ∧
      t.log = s.log ++ (.slept 1000 :: .sent .readAnalog 100 (text, b.doneAt 100 refresh) ::
        (as.map Event.error ++ [read, .slept 1000, read])) := by
  intro refresh read
  let s₁ : Robot Clock Stamped := { s with link := refresh, log := s.log ++ [.slept 1000] }
  have hs₁ : Online s₁ := ⟨hs.connected, hs.analogPins, hs.digitalPins⟩
  obtain ⟨s', text, as, hrun, hs', -, hlog, cache, hcache, hv⟩ :=
    samples_refreshAnalogPins (by decide) h hs₁
  refine ⟨_, _, text, as, getSlope_of_refresh (clocked b) hrun hs' hcache hv, ?_⟩
  show s'.log ++ _ = _
  rw [hlog]
  simp [s₁, read, refresh]

/-- The value `getSlope` uses, `v`, is settled if the signal still has it when the second
sleep ends. -/
theorem settledReads_getSlope (m : Moment) (text : JString) (done : ℕ) (as : List ApiError)
    (pin v : ℤ) :
    SettledReads signal (PinOp.Based .slope) m (.slept 1000 :: .sent .readAnalog 100 (text, done) ::
      (as.map Event.error ++ [.pinRead pin v, .slept 1000, .pinRead pin v])) ↔
      v = signal (done + 1000) := by
  refine (and_iff_right nofun).trans ((and_iff_right nofun).trans ?_)
  refine (settledReads_errors _ _ _).trans ?_
  constructor
  · rintro ⟨-, -, hlast, -⟩
    obtain ⟨t, hlo, hhi, hv⟩ := hlast pin v rfl nofun
    obtain rfl : t = done + 1000 := Nat.le_antisymm hhi hlo
    exact hv
  · intro hv
    refine ⟨fun p w _ hbased => ?_, nofun, fun p w heq _ => ?_, trivial⟩
    · -- the first value read is overwritten by the second
      exact absurd (List.mem_cons_of_mem _ (List.mem_singleton_self _)) (hbased pin v)
    · obtain ⟨-, rfl⟩ := Event.pinRead.inj heq
      exact ⟨done + 1000, le_rfl, le_rfl, hv⟩

/-- **When the values an operation uses are settled**: over every open connection, whatever
the signal and whatever time the commands take, as long as they succeed. -/
theorem settledReads_iff (op : PinOp) (h : b.Succeeds op) {s : Robot Clock Stamped} (hs : Online s) :
    ∃ t es, op.run (clocked b) s = .ok ((), t) ∧ t.log = s.log ++ es ∧
      (SettledReads b.signal op.Based ⟨s.link.now, s.link.now⟩ es ↔
        (op = .slope → b.StillDuringSlope s.link)) := by
  cases op with
  | temperature =>
    obtain ⟨a, t, es, hrun, -, hlog, hes⟩ := Settles.getTemperature h hs
    exact ⟨t, es, run_bind_ok hrun, hlog, iff_of_true (hes _ le_rfl).1 nofun⟩
  | bump =>
    obtain ⟨a, t, es, hrun, -, hlog, hes⟩ := Settles.checkBump h hs
    exact ⟨t, es, run_bind_ok hrun, hlog, iff_of_true (hes _ le_rfl).1 nofun⟩
  | slope =>
    obtain ⟨a, t, text, as, hrun, hlog⟩ := getSlope_log h hs
    refine ⟨t, _, run_bind_ok hrun, hlog, (settledReads_getSlope _ _ _ _ _ _).trans ?_⟩
    exact ⟨fun hv _ => hv, fun hstill => hstill rfl⟩

/-! ### A robot coming to rest -/

/-- A board whose inclinometer reads `0` for two seconds and then `9`, and which answers
at once. -/
def tippingBench : Bench where
  signal := fun t => if t < 2000 then 0 else 9
  reply := fun _ _ v =>
    if v = 0 then jstr ['a', ' ', '0', ' ', '0', ' ', '0', ' ', '0', ' ', '0', ' ', '0']
    else jstr ['a', ' ', '9', ' ', '9', ' ', '9', ' ', '9', ' ', '9', ' ', '9']
  lag := fun _ => 0
  took := fun _ => 0

theorem tippingBench_succeeds : tippingBench.Succeeds .slope := by
  intro n t
  have hsignal : tippingBench.signal t = 0 ∨ tippingBench.signal t = 9 := by
    by_cases ht : t < 2000
    · exact .inl (if_pos ht)
    · exact .inr (if_neg ht)
  have hzero : PinOp.slope.decode (tippingBench.reply 0 PinOp.slope.command 0) = some 0 := by decide
  have hnine : PinOp.slope.decode (tippingBench.reply 0 PinOp.slope.command 9) = some 9 := by decide
  rcases hsignal with hv | hv
  · rw [hv]
    exact hzero
  · rw [hv]
    exact hnine

/-- The slope on that board, from a new connection. -/
theorem settledReads_iff_tipping : ∃ t es,
    PinOp.run (clocked tippingBench) .slope (connectedTo ⟨0, 0⟩) = .ok ((), t) ∧ t.log = [] ++ es ∧
      (SettledReads tippingBench.signal (PinOp.Based .slope) ⟨0, 0⟩ es ↔
        (PinOp.slope = .slope → tippingBench.StillDuringSlope ⟨0, 0⟩)) :=
  settledReads_iff .slope tippingBench_succeeds (online_connectedTo _)

/-- It is the one of two seconds ago. -/
theorem not_settledReads_tipping : ∃ t es,
    PinOp.run (clocked tippingBench) .slope (connectedTo ⟨0, 0⟩) = .ok ((), t) ∧ t.log = [] ++ es ∧
      ¬ SettledReads tippingBench.signal (PinOp.Based .slope) ⟨0, 0⟩ es := by
  obtain ⟨a, t, text, as, hrun, hlog⟩ :=
    getSlope_log tippingBench_succeeds (online_connectedTo ⟨0, 0⟩)
  refine ⟨t, _, run_bind_ok hrun, hlog, fun h => ?_⟩
  have hv := (settledReads_getSlope _ _ _ _ _ _).1 h
  exact absurd hv (by decide)

end EXERobot
end ExeRobot
