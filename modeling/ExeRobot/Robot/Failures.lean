/-
# Failed readings in the measurements

The API marks a reading that failed by `-1`, in the pin cache and in the results of
`getPing` and `getConductivity`, and the four measurements of `EXERobot.java` do their
arithmetic on it.  `getTemperature` and `getPing` average ten readings, `getSlope` and
`getConductivity` use one; the calibration line is applied to the average
(`Measurement.run_averaging`) or to the reading (`Measurement.run_single`).

So the result of an averaging measurement is that of its successful readings exactly
when none failed and their sum is an `int`, or when their mean happens to be `-1`
(`average_eq_mean_iff`).  When all readings failed, `getTemperature` and
`getConductivity` return a value no sound readings give; `getSlope` returns `80`, as for
the reading `0`; and `getPing` returns what ten readings give whose sum overflows to
`-10`.  `measurement_failuresShow_iff` puts this together.
-/

import ExeRobot.Library.Sentinel
import ExeRobot.Robot.EXERobot
import Mathlib.Tactic.IntervalCases
import Mathlib.Tactic.NormNum

namespace ExeRobot
namespace EXERobot

open Stateful RXTXRobot Sentinel

variable {L ρ : Type} {k : Link L ρ}

/-! ### The measurements -/

/-- The measurements that apply a calibration line to readings. -/
inductive Measurement where
  | temperature
  | ping
  | slope
  | conductivity
  deriving DecidableEq, Repr

namespace Measurement

variable (k) in
/-- The operation, its result as an exact number. -/
def run : Measurement → Api L ρ ℚ
  | temperature => getTemperature k
  | ping => EXERobot.getPing k
  | slope => do return ((← getSlope k : ℤ) : ℚ)
  | conductivity => EXERobot.getConductivity k

/-- The calibration line. -/
def line : Measurement → ℚ → ℚ
  | temperature, v => v * (-534779 / 10 ^ 6) + 447017 / 10 ^ 3
  | ping, v => (v - 295889918 / 10 ^ 9) / (374359205 / 10 ^ 9)
  | slope, v => truncate (-169839 / 10 ^ 6 * v + 80516 / 10 ^ 3)
  | conductivity, v => 578889 / 10 ^ 3 + -568211 / 10 ^ 6 * v

/-- It averages ten readings; the others use one. -/
def Averages : Measurement → Prop
  | temperature | ping => True
  | slope | conductivity => False

theorem averages_temperature : temperature.Averages := trivial

theorem averages_ping : ping.Averages := trivial

theorem not_averages_slope : ¬ slope.Averages := id

theorem not_averages_conductivity : ¬ conductivity.Averages := id

/-- The readings a sound sensor gives. -/
def InRange : Measurement → ℤ → Prop
  | ping, v => 0 ≤ v
  | _, v => 0 ≤ v ∧ v ≤ 1023

end Measurement

/-! ### Readings -/

namespace Measurement

/-- The command whose reply is a reading. -/
def command : Measurement → Command
  | temperature | slope => .readAnalog
  | ping => .ping PING_SENSOR
  | conductivity => .conductivity

/-- The reading in a reply, `none` for one that failed. -/
def decode : Measurement → JString → Option ℤ
  | temperature, reply => analogReading TEMP_SENSOR_PORT reply
  | slope, reply => analogReading INCLINOMETER_SENSOR_PORT reply
  | ping, reply => (pingValue reply).toOption
  | conductivity, reply => (conductivityValue reply).toOption

end Measurement

/-- The reading a measurement gets from an event. -/
def Event.reading (text : ρ → JString) (m : Measurement) : Event ρ → Option (Option ℤ)
  | .sent cmd _ r => if cmd = m.command then some (m.decode (text r)) else none
  | _ => none

/-- The readings of a stretch of a run. -/
def readings (text : ρ → JString) (m : Measurement) (es : List (Event ρ)) : List (Option ℤ) :=
  es.filterMap (Event.reading text m)

@[simp] theorem readings_nil (text : ρ → JString) (m : Measurement) : readings text m [] = [] := rfl

@[simp] theorem readings_append (text : ρ → JString) (m : Measurement) (es es' : List (Event ρ)) :
    readings text m (es ++ es') = readings text m es ++ readings text m es' := List.filterMap_append

/-- Errors are no readings. -/
@[simp] theorem readings_map_error (text : ρ → JString) (m : Measurement) (es : List ApiError) :
    readings text m (es.map Event.error) = [] := by
  unfold readings
  rw [List.filterMap_eq_nil_iff]
  intro e he
  obtain ⟨a, -, rfl⟩ := List.mem_map.1 he
  cases m <;> rfl

/-! ### Taking readings -/

/-- Every reading the board gives of the measurement has `P`. -/
def Answers (k : Link L ρ) (m : Measurement) (P : Option ℤ → Prop) : Prop :=
  ∀ wait l, P (m.decode (k.text (k.sendRaw true m.command wait l).1))

/-- From every object over an open connection, `x` takes one reading of the measurement,
which has `P`, and returns it, `-1` if it failed. -/
def Polls (k : Link L ρ) (m : Measurement) (P : Option ℤ → Prop) (x : Api L ρ ℤ) : Prop :=
  ∀ ⦃s⦄, Online s → ∃ r t es, x s = .ok (r.getD (-1), t) ∧ P r ∧ Online t ∧ t.log = s.log ++ es ∧
    readings k.text m es = [r]

/-- What is left in the log by a command whose reply is a reading, and by one whose is not. -/
theorem readings_command (k : Link L ρ) (m : Measurement) (wait : ℕ) (r : ρ) (es : List ApiError) :
    readings k.text m (.sent m.command wait r :: es.map Event.error) = [m.decode (k.text r)] := by
  rw [← List.singleton_append, readings_append, readings_map_error, List.append_nil]
  simp [readings, Event.reading]

theorem readings_other (k : Link L ρ) {m : Measurement} {cmd : Command} (h : cmd ≠ m.command) (wait : ℕ)
    (r : ρ) (es : List ApiError) : readings k.text m (.sent cmd wait r :: es.map Event.error) = [] := by
  rw [← List.singleton_append, readings_append, readings_map_error, List.append_nil]
  simp [readings, Event.reading, h]

namespace Polls

variable {m : Measurement} {P : Option ℤ → Prop} {x : Api L ρ ℤ}

/-- A first step that takes no reading. -/
theorem after {y : Api L ρ Unit} (hx : Polls k m P x)
    (hy : ∀ ⦃s⦄, Online s → ∃ s' es, y s = .ok ((), s') ∧ Online s' ∧ s'.log = s.log ++ es ∧
      readings k.text m es = []) : Polls k m P (y >>= fun _ => x) := by
  intro s hs
  obtain ⟨s', es, hrun, hs', hlog, hes⟩ := hy hs
  obtain ⟨r, t, es', hrest, hr, ht, hlog', hes'⟩ := hx hs'
  refine ⟨r, t, es ++ es', (run_bind_ok hrun).trans hrest, hr, ht, ?_, ?_⟩
  · rw [hlog', hlog, List.append_assoc]
  · rw [readings_append, hes, hes', List.nil_append]

theorem after_sleep (hx : Polls k m P x) (ms : ℕ) : Polls k m P (sleep k ms >>= fun _ => x) :=
  hx.after fun _ hs => ⟨_, [.slept ms], rfl, ⟨hs.connected, hs.analogPins, hs.digitalPins⟩, rfl, rfl⟩

theorem after_refreshDigitalPins (hx : Polls k m P x) (h : .readDigital ≠ m.command) :
    Polls k m P (refreshDigitalPins k >>= fun _ => x) :=
  hx.after fun _ hs => ⟨_, _, refreshDigitalPins_of_connected k hs.connected,
    ⟨hs.connected, hs.analogPins, hs.digitalPins⟩, rfl, readings_other k h _ _ _⟩

/-- A sensor method takes the reading its command asks for. -/
theorem query (hk : Answers k m P) (wait : ℕ) {decode : JString → Except ApiError ℤ}
    (h : ∀ reply, (decode reply).toOption = m.decode reply) :
    Polls k m P (RXTXRobot.query k m.command wait decode (-1)) := by
  intro s hs
  have hrun := query_of_connected k hs.connected m.command wait decode (-1)
  simp only [h] at hrun
  exact ⟨_, _, _, hrun, hk wait s.link, ⟨hs.connected, hs.analogPins, hs.digitalPins⟩, rfl,
    readings_command k m _ _ _⟩

theorem getPing (hk : Answers k .ping P) : Polls k .ping P (RXTXRobot.getPing k PING_SENSOR) := by
  intro s hs
  have hpin : ¬ PING_SENSOR ∉ s.digitalPinsAvailable := by
    rw [hs.digitalPins]
    decide
  unfold RXTXRobot.getPing
  rw [run_bind_ok (isConnected_run s), if_neg (by simp [hs.connected]), run_bind_get, if_neg hpin]
  exact query hk 200 (fun _ => rfl) hs

theorem getConductivity (hk : Answers k .conductivity P) :
    Polls k .conductivity P (RXTXRobot.getConductivity k) := by
  intro s hs
  unfold RXTXRobot.getConductivity
  rw [run_bind_ok (isConnected_run s), if_neg (by simp [hs.connected])]
  exact query hk 3000 (fun _ => rfl) hs

end Polls

/-- A refresh of the analog pins takes a reading of the pin, which stays in the cache. -/
theorem refreshAnalogPins_reading {m : Measurement} {pin : ℤ} (hpin : pin ∈ initialFreeAnalogPins)
    (hcmd : m.command = .readAnalog) (hm : m.decode = analogReading pin) {P : Option ℤ → Prop}
    (hk : Answers k m P) {s : Robot L ρ} (hs : Online s) :
    ∃ r s' es, refreshAnalogPins k s = .ok ((), s') ∧ P r ∧ Online s' ∧ s'.log = s.log ++ es ∧
      readings k.text m es = [r] ∧ ∃ cache, s'.analogPinCache = some cache ∧
        cache[initialFreeAnalogPins.idxOf pin]? = some (r.getD (-1)) := by
  refine ⟨m.decode (k.text (k.sendRaw true .readAnalog 100 s.link).1), _, _,
    refreshAnalogPins_of_connected k hs.connected, hcmd ▸ hk 100 s.link,
    ⟨hs.connected, hs.analogPins, hs.digitalPins⟩, rfl, ?_, _, rfl, ?_⟩
  · have hread := readings_command k m 100 (k.sendRaw true m.command 100 s.link).1
    rw [hcmd] at hread
    exact hread _
  · rw [hs.analogPins, hm]
    exact readPins_entry _ hpin _

theorem polls_temperature {P : Option ℤ → Prop} (hk : Answers k .temperature P) :
    Polls k .temperature P (do
      sleep k 200
      refreshAnalogPins k
      getAnalogPin k TEMP_SENSOR_PORT) := by
  refine Polls.after_sleep (fun s hs => ?_) 200
  have hpin : TEMP_SENSOR_PORT ∈ initialFreeAnalogPins := by decide
  obtain ⟨r, s', es, hrun, hr, hs', hlog, hes, cache, hcache, hv⟩ :=
    refreshAnalogPins_reading hpin rfl rfl hk hs
  refine ⟨r, _, es ++ [.pinRead TEMP_SENSOR_PORT (r.getD (-1))],
    (run_bind_ok hrun).trans (getAnalogPin_cached k hpin hs' hcache hv), hr,
    ⟨hs'.connected, hs'.analogPins, hs'.digitalPins⟩, ?_, ?_⟩
  · rw [hlog, List.append_assoc]
  · rw [readings_append, hes]
    rfl

/-- `getSlope` uses one reading, twice. -/
theorem getSlope_run {P : Option ℤ → Prop} (hk : Answers k .slope P) {s : Robot L ρ} (hs : Online s) :
    ∃ r t es, getSlope k s = .ok (truncate (-169839 / 10 ^ 6 * (r.getD (-1) : ℤ) + 80516 / 10 ^ 3), t) ∧
      P r ∧ t.log = s.log ++ es ∧ readings k.text .slope es = [r] := by
  have hslept : Online { s with link := k.sleep 1000 s.link, log := s.log ++ [.slept 1000] } :=
    ⟨hs.connected, hs.analogPins, hs.digitalPins⟩
  obtain ⟨r, s', es, hrun, hr, hs', hlog, hes, cache, hcache, hv⟩ :=
    refreshAnalogPins_reading (by decide) rfl rfl hk hslept
  let read : Event ρ := .pinRead INCLINOMETER_SENSOR_PORT (r.getD (-1))
  refine ⟨r, _, [.slept 1000] ++ es ++ [read, .slept 1000, read],
    getSlope_of_refresh k hrun hs' hcache hv, hr, ?_, ?_⟩
  · show s'.log ++ _ = _
    rw [hlog]
    simp [read]
  · rw [readings_append, readings_append, hes]
    rfl

/-! ### Sums and averages -/

/-- Adding to a wrapped sum. -/
theorem jint_add (a v : ℤ) : jint (jint a + v) = jint (a + v) := Int.bmod_add_bmod

theorem jint_of_range {v : ℤ} (h : -2 ^ 31 ≤ v ∧ v < 2 ^ 31) : jint v = v :=
  Int.bmod_eq_of_le_mul_two (by push_cast; omega) (by push_cast; omega)

theorem jint_range (v : ℤ) : -2 ^ 31 ≤ jint v ∧ jint v < 2 ^ 31 := by
  have hlo := Int.le_bmod (x := v) (m := 2 ^ 32) (by decide)
  have hhi := Int.bmod_lt (x := v) (m := 2 ^ 32) (by decide)
  unfold jint
  constructor <;> omega

/-- The sum of the readings as the code takes it: exact up to the overflow of the `int`. -/
theorem Polls.foldlM {m : Measurement} {P : Option ℤ → Prop} {x : Api L ρ ℤ} (hx : Polls k m P x)
    (l : List ℕ) (a : ℤ) {s : Robot L ρ} (hs : Online s) :
    ∃ rs t es, (l.foldlM (fun sum _ => do return jint (sum + (← x))) (jint a) : Api L ρ ℤ) s =
        .ok (jint (a + (rs.map fun r => r.getD (-1)).sum), t) ∧
      (∀ r ∈ rs, P r) ∧ t.log = s.log ++ es ∧ readings k.text m es = rs ∧ rs.length = l.length := by
  induction l generalizing a s with
  | nil => exact ⟨[], s, [], by simp, nofun, (List.append_nil _).symm, rfl, rfl⟩
  | cons i l ih =>
    obtain ⟨r, s', es, hrun, hr, hs', hlog, hes⟩ := hx hs
    obtain ⟨rs, t, es', hrest, hrs, hlog', hes', hlen⟩ := ih (a + r.getD (-1)) hs'
    have hturn : (do return jint (jint a + (← x)) : Api L ρ ℤ) s =
        .ok (jint (a + r.getD (-1)), s') := by
      rw [run_bind_ok hrun, jint_add]
      rfl
    refine ⟨r :: rs, t, es ++ es', ?_, List.forall_mem_cons.2 ⟨hr, hrs⟩, ?_, ?_, congrArg (· + 1) hlen⟩
    · rw [List.foldlM_cons, run_bind_ok hturn, hrest, List.map_cons, List.sum_cons, add_assoc]
    · rw [hlog', hlog, List.append_assoc]
    · rw [readings_append, hes, hes', List.singleton_append]

/-- The average of the readings as the code takes it, failures counted as `-1`. -/
def average (rs : List (Option ℤ)) : ℚ := jint (rs.map fun r => r.getD (-1)).sum / rs.length

/-- The mean of the successful readings. -/
def mean (rs : List (Option ℤ)) : ℚ := (successes rs).sum / (successes rs).length

theorem Polls.sumOf {m : Measurement} {P : Option ℤ → Prop} {x : Api L ρ ℤ} (hx : Polls k m P x)
    (count : ℕ) {s : Robot L ρ} (hs : Online s) :
    ∃ rs t es, sumOf count x s = .ok (jint (rs.map fun r => r.getD (-1)).sum, t) ∧ (∀ r ∈ rs, P r) ∧
      t.log = s.log ++ es ∧ readings k.text m es = rs ∧ rs.length = count := by
  obtain ⟨rs, t, es, hrun, hrs, hlog, hes, hlen⟩ := hx.foldlM (List.range count) 0 hs
  rw [zero_add] at hrun
  exact ⟨rs, t, es, hrun, hrs, hlog, hes, hlen.trans List.length_range⟩

/-- **What `getTemperature` and `getPing` compute from their ten readings.** -/
theorem Measurement.run_averaging {m : Measurement} (hm : m.Averages) {P : Option ℤ → Prop}
    (hk : Answers k m P) {s : Robot L ρ} (hs : Online s) :
    ∃ rs t es, m.run k s = .ok (m.line (average rs), t) ∧ (∀ r ∈ rs, P r) ∧ t.log = s.log ++ es ∧
      readings k.text m es = rs ∧ rs.length = 10 := by
  cases m with
  | temperature =>
    obtain ⟨rs, t, es, hrun, hrs, hlog, hes, hlen⟩ := (polls_temperature hk).sumOf 10 hs
    refine ⟨rs, t, es, (run_bind_ok hrun).trans ?_, hrs, hlog, hes, hlen⟩
    unfold average
    rw [hlen]
    rfl
  | ping =>
    obtain ⟨rs, t, es, hrun, hrs, hlog, hes, hlen⟩ :=
      ((Polls.getPing hk).after_refreshDigitalPins nofun).sumOf 10 hs
    refine ⟨rs, t, es, (run_bind_ok hrun).trans ?_, hrs, hlog, hes, hlen⟩
    unfold average
    rw [hlen]
    rfl
  | slope => exact hm.elim
  | conductivity => exact hm.elim

/-- **What `getSlope` and `getConductivity` compute from their reading.** -/
theorem Measurement.run_single {m : Measurement} (hm : ¬ m.Averages) {P : Option ℤ → Prop}
    (hk : Answers k m P) {s : Robot L ρ} (hs : Online s) :
    ∃ (r : Option ℤ) (t : Robot L ρ) (es : List (Event ρ)),
      m.run k s = .ok (m.line (r.getD (-1) : ℤ), t) ∧ P r ∧ t.log = s.log ++ es ∧
      readings k.text m es = [r] := by
  cases m with
  | temperature => exact absurd trivial hm
  | ping => exact absurd trivial hm
  | slope =>
    obtain ⟨r, t, es, hrun, hr, hlog, hes⟩ := getSlope_run hk hs
    exact ⟨r, t, es, (run_bind_ok hrun).trans rfl, hr, hlog, hes⟩
  | conductivity =>
    have hpolls : Polls k .conductivity P (do
        sleep k 1000
        refreshDigitalPins k
        RXTXRobot.getConductivity k) :=
      ((Polls.getConductivity hk).after_refreshDigitalPins nofun).after_sleep 1000
    have heq : run k .conductivity = (do
        sleep k 1000
        refreshDigitalPins k
        RXTXRobot.getConductivity k : Api L ρ ℤ) >>=
          fun adc : ℤ => Pure.pure (conductivity.line adc) := by
      simp only [bind_assoc]
      rfl
    obtain ⟨r, t, es, hrun, hr, -, hlog, hes⟩ := hpolls hs
    refine ⟨r, t, es, ?_, hr, hlog, hes⟩
    rw [heq, run_bind_ok hrun]
    rfl

/-- A sum beyond the range of `int` is so large that no wrapped sum averages like it. -/
theorem wrapped_ne {S j : ℤ} {n f : ℕ} (hcount : n + f = 10) (hpos : 0 < n)
    (hj : -2 ^ 31 ≤ j ∧ j < 2 ^ 31) (hout : ¬ (-2 ^ 31 ≤ S - f ∧ S - f < 2 ^ 31)) : j * n ≠ S * 10 := by
  intro h
  obtain rfl : f = 10 - n := by omega
  have hn : n ≤ 10 := by omega
  interval_cases n <;> omega

/-- **When failures do not enter an average**: none failed and the sum is an `int`, or the
successful readings have the mean `-1`. -/
theorem average_eq_mean_iff {rs : List (Option ℤ)} (hlen : rs.length = 10) (h : successes rs ≠ []) :
    average rs = mean rs ↔
      (failed rs = 0 ∧ -2 ^ 31 ≤ (successes rs).sum ∧ (successes rs).sum < 2 ^ 31) ∨
        (successes rs).sum = -(successes rs).length := by
  have hcount := length_successes_add_failed rs
  have hpos := List.length_pos_iff.2 h
  have htotal := sum_getD (-1) rs
  have hn : ((successes rs).length : ℚ) ≠ 0 := by exact_mod_cast hpos.ne'
  by_cases hin : -2 ^ 31 ≤ (successes rs).sum - failed rs ∧ (successes rs).sum - failed rs < 2 ^ 31
  · have hwrap : jint (rs.map fun r => r.getD (-1)).sum = (rs.map fun r => r.getD (-1)).sum :=
      jint_of_range (by omega)
    have hmean : mean rs = ((-1 : ℤ) : ℚ) ↔ (successes rs).sum = -(successes rs).length := by
      unfold mean
      rw [div_eq_iff hn, ← Int.cast_natCast, ← Int.cast_mul, Int.cast_inj]
      omega
    have haverage := average_getD_eq_iff (Int.castRingHom ℚ) (-1) h
    unfold average
    rw [hwrap]
    refine (haverage.trans (or_congr Iff.rfl hmean)).trans ?_
    omega
  · have hne := wrapped_ne (hlen ▸ hcount) hpos (jint_range (rs.map fun r => r.getD (-1)).sum) hin
    refine iff_of_false (fun heq => hne ?_) (by omega)
    unfold average mean at heq
    rw [hlen, div_eq_div_iff (by norm_num) hn] at heq
    exact_mod_cast heq

/-! ### What a result shows -/

/-- A value the measurement returns, on some board, when all its readings are sound. -/
def Measurement.Healthy (m : Measurement) (value : ℚ) : Prop :=
  ∃ (L ρ : Type) (k : Link L ρ) (s t : Robot L ρ) (es : List (Event ρ)), Online s ∧
    m.run k s = .ok (value, t) ∧ t.log = s.log ++ es ∧
    ∀ r ∈ readings k.text m es, ∃ v, r = some v ∧ m.InRange v

/-- Failed readings do not enter a result: an average is that of the successful readings,
and a result without a successful reading is none that sound readings give. -/
structure FailuresShow (m : Measurement) (rs : List (Option ℤ)) (value : ℚ) : Prop where
  averaged : m.Averages → successes rs ≠ [] → value = m.line (mean rs)
  shown : successes rs = [] → ¬ m.Healthy value

/-- None of the readings failed and their sum is an `int`, or the successful ones have
the mean `-1`. -/
def MeanKept (rs : List (Option ℤ)) : Prop :=
  (failed rs = 0 ∧ -2 ^ 31 ≤ (successes rs).sum ∧ (successes rs).sum < 2 ^ 31) ∨
    (successes rs).sum = -(successes rs).length

/-- When the failures among the readings do not matter, or show. -/
def Measurement.Safe : Measurement → List (Option ℤ) → Prop
  | temperature, rs => MeanKept rs
  | ping, rs => successes rs ≠ [] ∧ MeanKept rs
  | slope, rs => failed rs = 0
  | conductivity, _ => True

theorem Measurement.line_injective {m : Measurement} (hm : m ≠ .slope) : Function.Injective m.line := by
  intro a b h
  cases m with
  | slope => exact absurd rfl hm
  | temperature | ping | conductivity =>
    simp only [line] at h
    linarith

/-- A run with sound readings only, in a form that says what they are. -/
theorem Measurement.Healthy.averaging {m : Measurement} (hm : m.Averages) {value : ℚ}
    (h : m.Healthy value) :
    ∃ rs, value = m.line (average rs) ∧ rs.length = 10 ∧ ∀ r ∈ rs, ∃ v, r = some v ∧ m.InRange v := by
  obtain ⟨L, ρ, k, s, t, es, hs, hrun, hlog, hsound⟩ := h
  obtain ⟨rs, t', es', hrun', -, hlog', hes, hlen⟩ :=
    m.run_averaging (k := k) hm (P := fun _ => True) (fun _ _ => trivial) hs
  rw [hrun'] at hrun
  cases hrun
  obtain rfl : es' = es := List.append_cancel_left (hlog'.symm.trans hlog)
  exact ⟨rs, rfl, hlen, hes ▸ hsound⟩

theorem Measurement.Healthy.single {m : Measurement} (hm : ¬ m.Averages) {value : ℚ}
    (h : m.Healthy value) :
    ∃ v : ℤ, value = m.line v ∧ m.InRange v := by
  obtain ⟨L, ρ, k, s, t, es, hs, hrun, hlog, hsound⟩ := h
  obtain ⟨r, t', es', hrun', -, hlog', hes⟩ :=
    m.run_single (k := k) hm (P := fun _ => True) (fun _ _ => trivial) hs
  rw [hrun'] at hrun
  cases hrun
  obtain rfl : es' = es := List.append_cancel_left (hlog'.symm.trans hlog)
  obtain ⟨v, rfl, hv⟩ := hsound r (hes ▸ List.mem_singleton_self r)
  exact ⟨v, rfl, hv⟩

/-- A board that gives the same reply to every command. -/
def constantBoard (reply : JString) : Link Unit JString where
  text := id
  sendRaw := fun _ _ _ _ => (reply, ())
  sleep := fun _ _ => ()

/-- What ten equal sound readings give is healthy. -/
theorem healthy_of_replies {m : Measurement} (hm : m.Averages) {reply : JString} {v : ℤ}
    (hreply : m.decode reply = some v) (hv : m.InRange v) :
    m.Healthy (m.line (jint (10 * v) / 10)) := by
  obtain ⟨rs, t, es, hrun, hrs, hlog, hes, hlen⟩ :=
    m.run_averaging (k := constantBoard reply) hm (P := (· = some v)) (fun _ _ => hreply)
      (online_connectedTo ())
  obtain rfl : rs = List.replicate 10 (some v) := List.eq_replicate_iff.2 ⟨hlen, hrs⟩
  have haverage : average (List.replicate 10 (some v)) = jint (10 * v) / 10 := by
    unfold average
    rw [List.map_replicate, List.sum_replicate, hlen, Option.getD_some, nsmul_eq_mul]
    rfl
  refine ⟨Unit, JString, constantBoard reply, connectedTo (), t, es, online_connectedTo (), ?_,
    hlog, ?_⟩
  · rw [hrun, haverage]
  · intro r hr
    exact ⟨v, hrs r (hes ▸ hr), hv⟩

/-- What one sound reading gives is healthy. -/
theorem healthy_of_reply {m : Measurement} (hm : ¬ m.Averages) {reply : JString} {v : ℤ}
    (hreply : m.decode reply = some v) (hv : m.InRange v) : m.Healthy (m.line v) := by
  obtain ⟨r, t, es, hrun, rfl, hlog, hes⟩ :=
    m.run_single (k := constantBoard reply) hm (P := (· = some v)) (fun _ _ => hreply)
      (online_connectedTo ())
  refine ⟨Unit, JString, constantBoard reply, connectedTo (), t, es, online_connectedTo (), hrun,
    hlog, ?_⟩
  intro r hr
  rw [hes, List.mem_singleton] at hr
  exact ⟨v, hr, hv⟩

/-- Ten pings of the largest `int`: their sum overflows to `-10`. -/
theorem healthy_ping_overflow : Measurement.Healthy .ping (Measurement.line .ping (-1)) := by
  have hreply : Measurement.decode .ping
      (jstr ['q', ' ', '7', ' ', '2', '1', '4', '7', '4', '8', '3', '6', '4', '7']) =
        some 2147483647 := by
    decide
  have hvalue := healthy_of_replies (m := .ping) trivial hreply (by decide : (0 : ℤ) ≤ 2147483647)
  have hsum : jint (10 * 2147483647) = -10 := by decide
  rw [hsum] at hvalue
  norm_num at hvalue ⊢
  exact hvalue

/-- The inclination for the reading `0` is the one for a failed reading. -/
theorem healthy_slope_zero : Measurement.Healthy .slope (Measurement.line .slope (-1)) := by
  have hreply : Measurement.decode .slope
      (jstr ['a', ' ', '0', ' ', '0', ' ', '0', ' ', '0', ' ', '0', ' ', '0']) = some 0 := by
    decide
  have hvalue := healthy_of_reply id hreply (by decide : (0 : ℤ) ≤ 0 ∧ (0 : ℤ) ≤ 1023)
  have hsame : Measurement.line .slope (-1) = Measurement.line .slope (0 : ℤ) := by decide +kernel
  rw [hsame]
  exact hvalue

/-! ### All readings failed -/

theorem average_of_failures {rs : List (Option ℤ)} (hlen : rs.length = 10) (h : successes rs = []) :
    average rs = -1 := by
  have hcount := length_successes_add_failed rs
  have htotal := sum_getD (-1) rs
  rw [h, List.length_nil, zero_add, hlen] at hcount
  rw [h, hcount] at htotal
  have hsum : jint (-10) = -10 := by decide
  unfold average
  rw [htotal, hlen]
  norm_num [hsum]

/-- Sound temperature readings have a nonnegative average. -/
theorem average_nonneg {rs : List (Option ℤ)} (hlen : rs.length = 10)
    (h : ∀ r ∈ rs, ∃ v, r = some v ∧ 0 ≤ v ∧ v ≤ 1023) : 0 ≤ average rs := by
  have hsum : 0 ≤ (rs.map fun r => r.getD (-1)).sum ∧
      (rs.map fun r => r.getD (-1)).sum ≤ 1023 * rs.length := by
    clear hlen
    induction rs with
    | nil => decide
    | cons r rs ih =>
      obtain ⟨hr, hrs⟩ := List.forall_mem_cons.1 h
      obtain ⟨v, rfl, hv⟩ := hr
      have := ih hrs
      rw [List.map_cons, List.sum_cons, Option.getD_some, List.length_cons]
      push_cast
      omega
  rw [hlen] at hsum
  unfold average
  rw [jint_of_range (by omega)]
  have hcast : (0 : ℚ) ≤ ((rs.map fun r => r.getD (-1)).sum : ℤ) := by exact_mod_cast hsum.1
  positivity

/-! ### Failures in measurements -/

/-- Ten failed readings give a temperature below those of sound readings. -/
theorem temperature_shown :
    ¬ Measurement.Healthy .temperature (Measurement.line .temperature (-1)) := by
  intro hhealthy
  obtain ⟨rs, hvalue, hlen, hsound⟩ := hhealthy.averaging Measurement.averages_temperature
  have heq := Measurement.line_injective (m := .temperature) (by decide) hvalue
  have hnonneg := average_nonneg hlen hsound
  rw [← heq] at hnonneg
  norm_num at hnonneg

theorem conductivity_shown :
    ¬ Measurement.Healthy .conductivity (Measurement.line .conductivity (-1)) := by
  intro hhealthy
  obtain ⟨v, hvalue, hv⟩ := hhealthy.single Measurement.not_averages_conductivity
  have heq := Measurement.line_injective (m := .conductivity) (by decide) hvalue
  have hv0 : ((-1 : ℤ) : ℚ) = v := by exact_mod_cast heq
  have hsound : 0 ≤ v := hv.1
  rw [Int.cast_inj] at hv0
  omega

/-- An averaging measurement returns the mean of the successful readings. -/
theorem averaged_iff {m : Measurement} (hm : m.Averages) {rs : List (Option ℤ)} (hlen : rs.length = 10)
    (h : successes rs ≠ []) : m.line (average rs) = m.line (mean rs) ↔ MeanKept rs := by
  have hslope : m ≠ .slope := by
    rintro rfl
    exact hm
  exact (Measurement.line_injective hslope).eq_iff.trans (average_eq_mean_iff hlen h)

/-- With no successful reading there is no mean to miss. -/
theorem meanKept_of_failures {rs : List (Option ℤ)} (h : successes rs = []) : MeanKept rs := by
  right
  rw [h]
  rfl

/-- An average shows its failures when the mean is kept, and when ten failed readings
give a value of their own. -/
theorem failuresShow_averaging {m : Measurement} (hm : m.Averages) {rs : List (Option ℤ)}
    (hlen : rs.length = 10) :
    FailuresShow m rs (m.line (average rs)) ↔
      MeanKept rs ∧ (successes rs = [] → ¬ m.Healthy (m.line (-1))) := by
  constructor
  · intro h
    by_cases hnone : successes rs = []
    · have hshown := h.shown hnone
      rw [average_of_failures hlen hnone] at hshown
      exact ⟨meanKept_of_failures hnone, fun _ => hshown⟩
    · exact ⟨(averaged_iff hm hlen hnone).1 (h.averaged hm hnone), fun h => absurd h hnone⟩
  · rintro ⟨hkept, hshown⟩
    refine ⟨fun _ hsome => (averaged_iff hm hlen hsome).2 hkept, fun hnone => ?_⟩
    rw [average_of_failures hlen hnone]
    exact hshown hnone

/-- A single reading shows its failure when `-1` gives a value of its own. -/
theorem failuresShow_single {m : Measurement} (hm : ¬ m.Averages) (r : Option ℤ) :
    FailuresShow m [r] (m.line (r.getD (-1) : ℤ)) ↔ (r = none → ¬ m.Healthy (m.line (-1))) := by
  cases r with
  | none =>
    have hcast : m.line ((none.getD (-1) : ℤ) : ℚ) = m.line (-1) := by norm_num
    rw [hcast]
    exact ⟨fun h _ => h.shown rfl, fun h => ⟨fun h => absurd h hm, fun _ => h rfl⟩⟩
  | some v =>
    refine iff_of_true ⟨fun h => absurd h hm, fun h => ?_⟩ fun h => ?_
    · simp at h
    · cases h

/-- **When failed readings do not enter a measurement**: over every open connection, and
whatever the board replies, each of the four operations returns a result, and failures
stay out of it exactly when `Safe` holds of the readings. -/
theorem measurement_failuresShow_iff (m : Measurement) {s : Robot L ρ} (hs : Online s) :
    ∃ value t es, m.run k s = .ok (value, t) ∧ t.log = s.log ++ es ∧
      (FailuresShow m (readings k.text m es) value ↔ m.Safe (readings k.text m es)) := by
  have hany : Answers k m fun _ => True := fun _ _ => trivial
  cases m with
  | temperature =>
    obtain ⟨rs, t, es, hrun, -, hlog, rfl, hlen⟩ :=
      Measurement.run_averaging Measurement.averages_temperature hany hs
    refine ⟨_, t, es, hrun, hlog, ?_⟩
    rw [failuresShow_averaging Measurement.averages_temperature hlen]
    exact and_iff_left fun _ => temperature_shown
  | ping =>
    obtain ⟨rs, t, es, hrun, -, hlog, rfl, hlen⟩ :=
      Measurement.run_averaging Measurement.averages_ping hany hs
    refine ⟨_, t, es, hrun, hlog, ?_⟩
    rw [failuresShow_averaging Measurement.averages_ping hlen]
    constructor
    · rintro ⟨hkept, hshown⟩
      exact ⟨fun hnone => hshown hnone healthy_ping_overflow, hkept⟩
    · rintro ⟨hsome, hkept⟩
      exact ⟨hkept, fun hnone => absurd hnone hsome⟩
  | slope =>
    obtain ⟨r, t, es, hrun, -, hlog, hes⟩ :=
      Measurement.run_single Measurement.not_averages_slope hany hs
    refine ⟨_, t, es, hrun, hlog, ?_⟩
    rw [hes, failuresShow_single Measurement.not_averages_slope]
    cases r with
    | none => exact iff_of_false (fun h => h rfl healthy_slope_zero) (by simp [Measurement.Safe])
    | some v => exact iff_of_true (fun h => by cases h) rfl
  | conductivity =>
    obtain ⟨r, t, es, hrun, -, hlog, hes⟩ :=
      Measurement.run_single Measurement.not_averages_conductivity hany hs
    refine ⟨_, t, es, hrun, hlog, ?_⟩
    rw [hes, failuresShow_single Measurement.not_averages_conductivity]
    exact iff_of_true (fun _ => conductivity_shown) trivial

/-- The temperature from a board that does not answer. -/
theorem measurement_failuresShow_iff_silent : ∃ value t es,
    Measurement.run (constantBoard []) .temperature (connectedTo ()) = .ok (value, t) ∧
      t.log = [] ++ es ∧
      (FailuresShow .temperature (readings id .temperature es) value ↔
        Measurement.Safe .temperature (readings id .temperature es)) :=
  measurement_failuresShow_iff .temperature (online_connectedTo ())

/-- A board that misses the first command and gives the same reply to all others. -/
def lateBoard (reply : JString) : Link Bool JString where
  text := id
  sendRaw := fun _ _ _ ready => (if ready then reply else [], true)
  sleep := fun _ ready => ready

/-- Nine readings of `5` and one missing reply: the temperature is not that of the
reading `5`. -/
theorem not_failuresShow_late :
    let reply := jstr ['a', ' ', '5', ' ', '5', ' ', '5', ' ', '5', ' ', '5', ' ', '5']
    ∃ value t es,
      Measurement.run (lateBoard reply) .temperature (connectedTo false) = .ok (value, t) ∧
      t.log = [] ++ es ∧ readings id .temperature es = none :: List.replicate 9 (some 5) ∧
      ¬ FailuresShow .temperature (readings id .temperature es) value := by
  intro reply
  obtain ⟨rs, t, es, hrun, -, hlog, hes, hlen⟩ :=
    Measurement.run_averaging (k := lateBoard reply) Measurement.averages_temperature
      (P := fun _ => True) (fun _ _ => trivial) (online_connectedTo false)
  have hreadings : ((Measurement.run (lateBoard reply) .temperature (connectedTo false)).toOption.map
      fun r => readings id .temperature r.2.log) = some (none :: List.replicate 9 (some 5)) := by
    decide +kernel
  rw [hrun] at hreadings
  have hlist : readings id .temperature es = none :: List.replicate 9 (some 5) := by
    have hall : readings id .temperature t.log = _ := Option.some.inj hreadings
    rwa [show t.log = es from hlog] at hall
  obtain rfl : rs = none :: List.replicate 9 (some 5) := hes.symm.trans hlist
  refine ⟨_, t, es, hrun, hlog, hlist, fun h => ?_⟩
  have hsome : successes (none :: List.replicate 9 (some (5 : ℤ))) ≠ [] := by decide
  have hkept := (averaged_iff Measurement.averages_temperature hlen hsome).1
    (hlist ▸ h.averaged Measurement.averages_temperature (hlist.symm ▸ hsome))
  exact absurd hkept (by unfold MeanKept; decide)

end EXERobot
end ExeRobot
