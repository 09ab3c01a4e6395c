/-
# The limit of two motors

The object counts motors by their flags, and refuses a call that would make more than
two flags true.  Whatever is called, at most two flags are true (`running_le_two`).

The flags stand for motors that have been left running, by a line with a time of 0.
While all calls are orderly, a motor that was left running has its flag set, so at most
two motors are left running at any moment (`leftRunning_le_two`).  Other calls break the
limit for good: a motor whose stopping is refused keeps running without its flag, and a
third motor can be started (`third_motor`); and the mixer does not look at the flags.
-/

import ExeRobot.Device.Paths
import ExeRobot.Device.Replay

namespace ExeRobot
namespace Device

open Persistent Labelled

variable {P : Type} {hw : Hardware} {port : Port P} {d e : Device P}

/-- The number of motors with a property. -/
abbrev howMany (f : Fin 4 → Bool) : ℕ := (List.finRange 4).countP f

/-! ### Flags -/

theorem howMany_mono {f g : Fin 4 → Bool} (h : ∀ i, f i = true → g i = true) : howMany f ≤ howMany g :=
  List.countP_mono_left fun i _ => h i

theorem update_false_le (f : Fin 4 → Bool) (i j : Fin 4) (h : Function.update f i false j = true) :
    f j = true := by
  by_cases hij : j = i
  · rw [hij, Function.update_self] at h
    cases h
  · rwa [Function.update_of_ne hij] at h

/-- No change makes more than two flags true. -/
theorem Change.running_le_two {l : Label} (h : Change hw port l d e)
    (hd : howMany d.motorsRunning ≤ 2) :
    howMany e.motorsRunning ≤ 2 := by
  have hexchanged : ∀ {e : Device P} {line : Line} {reply : JString},
      Exchanged port d e line reply → howMany e.motorsRunning ≤ 2 := by
    rintro e line reply ⟨-, _, _, rfl⟩
    exact hd
  cases h with
  | send _ _ _ _ _ he => exact hexchanged he
  | refused _ _ _ _ he => exact hexchanged he
  | attach _ _ _ he =>
    rw [attachedTo_motorsRunning]
    exact hexchanged he
  | drive _ hres => exact hres.few
  | clash _ hres => exact hres.few
  | finish _ _ => exact (howMany_mono (update_false_le _ _)).trans hd
  | raise hres _ => exact hres.few
  | lapse hres => exact hres.few
  | overridden _ _ _ _ he => exact hexchanged he
  | mixer _ _ _ he => exact hexchanged he
  | _ => exact hd

/-- At most two flags are true, whatever is called and in whatever order. -/
theorem running_le_two {cond : Call → Device P → Prop} {p : P} {calls : List Call}
    (h : Runs hw port cond calls (new p) d) : howMany d.motorsRunning ≤ 2 :=
  h.keeps (L := fun _ => True) (fun _ _ _ _ _ _ => trivial) (fun _ _ _ _ hstep => hstep.running_le_two)
    ⟨rfl, rfl, rfl⟩ (show howMany (fun _ => false) ≤ 2 by decide)

/-! ### Motors that are left running -/

/-- A line that does not spin a motor leaves none running. -/
theorem leavesRunning_of_not_spins {line : Line} (h : ¬ Spins line) (i : Fin 4) :
    line.leavesRunning i ≠ some true := by
  intro hi
  unfold Line.leavesRunning at hi
  split at hi
  · rw [Option.some.injEq, Bool.and_eq_true, List.any_eq_true] at hi
    obtain ⟨hforever, o, ho, hspeed⟩ := hi
    rw [Bool.and_eq_true, bne_iff_ne] at hspeed
    exact h ⟨hforever, o, ho, hspeed.2⟩
  · cases hi

theorem not_spins_of_motors {line : Line} (h : line.motors = []) : ¬ Spins line := by
  rintro ⟨-, o, ho, -⟩
  rw [h] at ho
  cases ho

variable {turns : ℕ}

theorem orders_index (i : Fin 4) (speed : ℤ) : orders [((i : ℤ), speed)] = .ok [(i, speed)] := by
  unfold orders
  rw [List.mapM_cons, index_eq_ok.2 (rfl : (i : ℤ) = i)]
  rfl

/-- A motor that is called with a wrong time has its flag set or cleared, and no line is sent. -/
theorem wp_runMotor_refused {i : Fin 4} {speed time : ℤ} (hc : d.connected = true)
    (hspeed : Line.Within (-500) 500 speed) (hres : d.Reserved [(i, speed)])
    (htime : ¬ Line.Within 0 30000 time) :
    wp (runMotor port turns i speed time) (fun _ e => e = { d with
      motorsRunning := Function.update d.motorsRunning i (speed != 0)
      log := d.log ++
        [.error "runMotor not given a time that is 0 <= time <= 30000." (some "runMotor")] })
      (fun _ _ => False) d := by
  unfold runMotor
  rw [wp_bind, wp_get]
  refine wp_guarded_pass ?_ (wp_limited_pass (orders_index i speed) hres ?_)
  · simp only [forall_check, notConnected_bad, invalid_bad, outside_eq_false]
    exact ⟨hc, .inr hspeed, by simp⟩
  · rw [wp_bind, wp_get]
    refine wp_guarded_fail [] (by simp) ?_ rfl
    have hbad : outside 0 30000 time = true := by
      cases h : outside 0 30000 time with
      | true => rfl
      | false => exact absurd (outside_eq_false.1 h) htime
    show Except.ok (!d.overrideValidation && outside 0 30000 time) = _
    rw [hres.noOverride, hbad]
    rfl

/-- A motor that is left running. -/
theorem wp_runMotor_forever {i : Fin 4} {speed : ℤ} (hc : d.connected = true)
    (hspeed : Line.Within (-500) 500 speed) (hres : d.Reserved [(i, speed)])
    (hattached : d.motorsAttached i = true) :
    wp (runMotor port turns i speed 0) (fun _ e => After
      { d with motorsRunning := Function.update d.motorsRunning i (speed != 0) }
      [.runMotor i speed 0] e) (fun s _ => s = .blocks) d := by
  unfold runMotor
  rw [wp_bind, wp_get]
  refine wp_guarded_pass ?_ (wp_limited_pass (orders_index i speed) hres ?_)
  · simp only [forall_check, notConnected_bad, invalid_bad, outside_eq_false]
    exact ⟨hc, .inr hspeed, by simp⟩
  · rw [wp_bind, wp_get]
    refine wp_guarded_pass ?_ ?_
    · have hi : Line.Within 0 3 i := ⟨by omega, by omega⟩
      simp only [forall_check, invalid_bad, outside_eq_false]
      refine ⟨.inr ⟨le_rfl, by omega⟩, .inr hi, ?_, by simp⟩
      rw [someDetached, index_eq_ok.2 (rfl : (i : ℤ) = i)]
      show (if d.motorsAttached i then someDetached _ [] else _) = _
      rw [if_pos hattached]
      rfl
    · rw [wp_bind]
      exact wp_mono (wp_sendFor_after hc le_rfl) (fun _ _ he => wp_ite (fun h => absurd rfl h) fun _ => he)
        fun _ _ he => he

theorem leavesRunning_runMotor (i j : Fin 4) (speed time : ℤ) :
    (Line.runMotor i speed time).leavesRunning j =
      if j = i then some (time == 0 && speed != 0) else none := by
  by_cases hij : j = i
  · simp [Line.leavesRunning, Line.motors, Line.forever, hij]
  · have hne : ¬ (j : ℤ) = i := fun h => hij (Fin.ext (by omega))
    simp [Line.leavesRunning, Line.motors, hij, hne]

theorem After.leftRunning {line : Line} (h : d.After [line] e) (i : Fin 4) :
    leftRunning e.log i = (line.leavesRunning i).getD (leftRunning d.log i) := by
  rw [leftRunning_eq, h.1, List.foldl_append, leftRunning_eq d.log i]
  rfl

theorem howMany_le_two {f : Fin 4 → Bool} {a b : Fin 4} (h : ∀ i, f i = true → i = a ∨ i = b) :
    howMany f ≤ 2 := by
  have hpair : ∀ a b : Fin 4, howMany (fun i => i == a || i == b) ≤ 2 := by decide
  exact (howMany_mono fun i hi => by simpa using h i hi).trans (hpair a b)

/-- **A refused stop lets a third motor run.**  Two motors have been left running.  A call that
stops one of them is refused for its time; the flag is cleared all the same, so that a third
motor can be started, and then all three are left running. -/
theorem third_motor {a b c : Fin 4} {speed time : ℤ} (hconn : d.connected = true)
    (hoverride : d.overrideValidation = false) (hab : a ≠ b) (hac : a ≠ c) (hbc : b ≠ c)
    (hrunning : leftRunning d.log a = true ∧ leftRunning d.log b = true)
    (hflags : ∀ i, d.motorsRunning i = true → i = a ∨ i = b) (hattached : d.motorsAttached c = true)
    (hspeed : Line.Within (-500) 500 speed ∧ speed ≠ 0) (htime : ¬ Line.Within 0 30000 time)
    (h : Runs hw port (fun _ _ => True) [.runMotor a 0 time, .runMotor c speed 0] d e) :
    leftRunning e.log a = true ∧ leftRunning e.log b = true ∧ leftRunning e.log c = true := by
  cases h with
  | cons _ hstop h =>
  cases h with
  | cons _ hstart h =>
  cases h
  have hstopped := hstop.of_wp fun turns => wp_mono (wp_runMotor_refused hconn ⟨by omega, by omega⟩
    ⟨hoverride, howMany_le_two fun i hi => hflags i (update_false_le _ a i hi)⟩ htime)
    (fun _ _ he => he) fun _ _ he => he.elim
  subst hstopped
  have hlog : ∀ i, ExeRobot.leftRunning (d.log ++ [.error
      "runMotor not given a time that is 0 <= time <= 30000." (some "runMotor")]) i =
      ExeRobot.leftRunning d.log i := fun i => leftRunning_append_singleton ..
  -- only `b` and `c` are flagged when the third motor is reserved
  have hfew : ∀ i, setRunning [(c, speed)] (Function.update d.motorsRunning a (0 != 0)) i = true →
      i = b ∨ i = c := by
    intro i hi
    change Function.update (Function.update d.motorsRunning a false) c (speed != 0) i = true at hi
    by_cases hic : i = c
    · exact .inr hic
    · rw [Function.update_of_ne hic] at hi
      have hia : i ≠ a := by
        rintro rfl
        rw [Function.update_self] at hi
        cases hi
      rw [Function.update_of_ne hia] at hi
      exact .inl ((hflags i hi).resolve_left hia)
  have hafter := hstart.of_wp fun turns =>
    wp_runMotor_forever hconn hspeed.1 ⟨hoverride, howMany_le_two hfew⟩ hattached
  have hline : ∀ i, ExeRobot.leftRunning e.log i =
      ((Line.runMotor c speed 0).leavesRunning i).getD (ExeRobot.leftRunning d.log i) := fun i => by
    rw [← hlog i]
    exact hafter.leftRunning i
  refine ⟨?_, ?_, ?_⟩
  · rw [hline, leavesRunning_runMotor, if_neg hac]
    exact hrunning.1
  · rw [hline, leavesRunning_runMotor, if_neg hbc]
    exact hrunning.2
  · rw [hline, leavesRunning_runMotor, if_pos rfl]
    simpa using hspeed.2

/-- The motors 0 and 1 have been left running, and the motor 2 is attached. -/
def twoRunning : Device JString :=
  played arduinoUno echo
    [.connect, .attachMotor 0 5, .attachMotor 1 6, .attachMotor 2 7, .runMotor 0 100 0,
      .runMotor 1 100 0]
    (new [])

theorem third_motor_played :
    leftRunning (played arduinoUno echo [.runMotor 0 0 (-1), .runMotor 2 100 0] twoRunning).log 0 = true ∧
    leftRunning (played arduinoUno echo [.runMotor 0 0 (-1), .runMotor 2 100 0] twoRunning).log 1 = true ∧
    leftRunning (played arduinoUno echo [.runMotor 0 0 (-1), .runMotor 2 100 0] twoRunning).log 2 = true :=
  third_motor (by decide +kernel) (by decide +kernel) (by decide) (by decide) (by decide)
    (by decide +kernel)
    (by decide +kernel) (by decide +kernel) (by decide) (by decide)
    (runs_played (fun _ _ _ => trivial) (by decide +kernel))

/-- The mixer sends its line whatever is running or attached. -/
theorem wp_runMixer_after {i : Fin 4} {time : ℤ} (hc : d.connected = true) (htime : 0 ≤ time) :
    wp (runMixer port turns i time) (fun _ e => d.After [.runMotor i d.mixerSpeed time] e)
      (fun s _ => s = .blocks) d := by
  unfold runMixer
  rw [wp_bind, wp_get]
  have hi : Line.Within 0 3 i := ⟨by omega, by omega⟩
  refine wp_guarded_pass ?_ (wp_sendFor_after hc htime)
  simp only [forall_check, notConnected_bad, invalid_bad, outside_eq_false, decide_eq_false_iff_not,
    not_lt]
  exact ⟨hc, .inr hi, .inr htime, by simp⟩

/-- **The mixer does not keep to the limit.**  A mixer without a time is left running on every
motor it is called for, up to all four of them, and no flag changes. -/
theorem mixers_leftRunning {motors : List (Fin 4)} (hconn : d.connected = true)
    (hspeed : d.mixerSpeed ≠ 0)
    (h : Runs hw port (fun _ _ => True) (motors.map fun i : Fin 4 => .runMixer i 0) d e) :
    e.motorsRunning = d.motorsRunning ∧
      ∀ i, leftRunning e.log i = true ↔ i ∈ motors ∨ leftRunning d.log i = true := by
  induction motors generalizing d with
  | nil =>
    cases h
    exact ⟨rfl, fun i => by simp⟩
  | cons m motors ih =>
    cases h with
    | cons _ hcall h =>
    have hafter := hcall.of_wp fun turns => wp_runMixer_after hconn le_rfl
    have hline := hafter.leftRunning
    obtain ⟨-, p, l, rfl⟩ := hafter
    obtain ⟨hflags, hmotors⟩ := ih (by exact hconn) (by exact hspeed) h
    refine ⟨hflags, fun i => ?_⟩
    rw [hmotors i, hline i, leavesRunning_runMotor]
    by_cases hi : i = m
    · simp [hi, hspeed]
    · simp [hi]

theorem mixers_leftRunning_played :
    (played arduinoUno echo [.runMixer 1 0, .runMixer 2 0, .runMixer 3 0] twoRunning).motorsRunning =
        twoRunning.motorsRunning ∧
      ∀ i, leftRunning (played arduinoUno echo [.runMixer 1 0, .runMixer 2 0, .runMixer 3 0] twoRunning).log i =
        true ↔ i ∈ ([1, 2, 3] : List (Fin 4)) ∨ leftRunning twoRunning.log i = true :=
  mixers_leftRunning (by decide +kernel) (by decide +kernel)
    (runs_played (fun _ _ _ => trivial) (by decide +kernel))

end Device
end ExeRobot
