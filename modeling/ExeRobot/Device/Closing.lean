/-
# Closing the connection

`close()` first moves every attached servo to 90 and stops every attached motor, unless
it is told not to.  It does so through `moveServo` and `runMotor`, whose checks could
refuse a call.  From every state the object can reach they do not: the lines of `close`
are one for each attached device, in order, and no attached motor is left running
(`close_stops`).
-/

import ExeRobot.Device.Motors

namespace ExeRobot
namespace Device

open Persistent

variable {P : Type} {hw : Hardware} {port : Port P} {turns : ℕ} {d e : Device P}

/-! ### One device -/

theorem wp_moveServo_after {i : Fin 3} {position : ℤ} (hc : d.connected = true)
    (hattached : d.servosAttached i = true) (hposition : Line.Within 0 180 position) :
    wp (moveServo port turns i position) (fun _ e => d.After [.moveServo i position] e)
      (fun s _ => s = .blocks) d := by
  unfold moveServo
  rw [wp_bind, wp_get]
  refine wp_guarded_pass ?_ (wp_send_after hc)
  have hi : (i.val : ℤ) = 0 ∨ (i.val : ℤ) = 1 ∨ (i.val : ℤ) = 2 := by omega
  simp only [forall_check, notConnected_bad, invalid_bad, outside_eq_false]
  refine ⟨hc, .inr ?_, ?_, .inr hposition, by simp⟩
  · rcases hi with h | h | h <;> simp [h]
  · rw [index_eq_ok.2 (rfl : (i : ℤ) = i)]
    show Except.ok (!d.servosAttached i) = _
    rw [hattached]
    rfl

/-- The object after the lines `ls`, with fewer motors flagged. -/
def Stopped (d : Device P) (ls : List Line) (e : Device P) : Prop :=
  ∃ flags : Fin 4 → Bool, (∀ i, flags i = true → d.motorsRunning i = true) ∧
    After { d with motorsRunning := flags } ls e

theorem Stopped.trans {d d' e : Device P} {ls ls' : List Line} (h : d.Stopped ls d')
    (h' : d'.Stopped ls' e) : d.Stopped (ls ++ ls') e := by
  obtain ⟨flags, hflags, hl, p, l, rfl⟩ := h
  obtain ⟨flags', hflags', hl', p', l', rfl⟩ := h'
  refine ⟨flags', fun i hi => hflags i (hflags' i hi), ?_, p', l', rfl⟩
  change sentLines l' = _ at hl'
  show sentLines l' = _
  rw [hl']
  change sentLines l = _ at hl
  show sentLines l ++ ls' = _
  rw [hl, List.append_assoc]

/-- A motor that is stopped: with the checks the flag is cleared, and without them it is not. -/
theorem wp_runMotor_stop {i : Fin 4} (hc : d.connected = true) (hattached : d.motorsAttached i = true)
    (hfew : howMany d.motorsRunning ≤ 2) :
    wp (runMotor port turns i 0 0) (fun _ e => d.Stopped [.runMotor i 0 0] e)
      (fun s _ => s = .blocks) d := by
  cases ho : d.overrideValidation with
  | false =>
    have hres : d.Reserved [(i, 0)] := ⟨ho, (howMany_mono (update_false_le _ i)).trans hfew⟩
    exact wp_mono (wp_runMotor_forever hc ⟨by omega, by omega⟩ hres hattached)
      (fun _ e he => ⟨_, update_false_le _ i, he⟩) fun _ _ he => he
  | true =>
    have hserves : d.someDetached [(i : ℤ)] = .ok false := by
      rw [someDetached, index_eq_ok.2 (rfl : (i : ℤ) = i)]
      show (if d.motorsAttached i then someDetached d [] else _) = _
      rw [if_pos hattached]
      rfl
    unfold runMotor limited
    rw [wp_bind, wp_get]
    refine wp_guarded_pass ?_ ?_
    · simp only [forall_check, notConnected_bad, invalid_bad]
      exact ⟨hc, .inl ho, by simp⟩
    rw [wp_bind, wp_get]
    refine wp_ite (fun h => absurd h (by simp [ho])) fun _ => ?_
    rw [wp_bind, wp_get]
    refine wp_guarded_pass ?_ ?_
    · simp only [forall_check, invalid_bad]
      exact ⟨.inl ho, .inl ho, hserves, by simp⟩
    rw [wp_bind]
    exact wp_mono (wp_sendFor_after hc le_rfl)
      (fun _ _ he => wp_ite (fun h => absurd rfl h) fun _ => ⟨_, fun _ hi => hi, he⟩) fun _ _ he => he

/-! ### All devices -/

theorem wp_resetServos {l : List (Fin 3)} (hc : d.connected = true) :
    wp (l.forM fun i => do if (← get).servosAttached i then moveServo port turns i.val 90 : Act P Unit)
      (fun _ e => d.After ((l.filter d.servosAttached).map fun i : Fin 3 => Line.moveServo i 90) e)
      (fun s _ => s = .blocks) d := by
  induction l generalizing d with
  | nil => exact ⟨(List.append_nil _).symm, _, _, rfl⟩
  | cons i l ih =>
    show wp ((do if (← get).servosAttached i then moveServo port turns i.val 90) >>= fun _ => l.forM _)
      _ _ d
    rw [wp_bind, wp_bind, wp_get]
    refine wp_ite (fun hi => ?_) fun hi => ?_
    · refine wp_mono (wp_moveServo_after hc hi ⟨by omega, by omega⟩) (fun _ e he => ?_) fun _ _ he => he
      have hsame : e.servosAttached = d.servosAttached ∧ e.connected = true := by
        obtain ⟨-, p, l, rfl⟩ := he
        exact ⟨rfl, hc⟩
      refine wp_mono (ih hsame.2) (fun _ f hf => ?_) fun _ _ he => he
      rw [hsame.1] at hf
      rw [List.filter_cons_of_pos hi]
      exact he.trans hf
    · rw [List.filter_cons_of_neg hi]
      exact ih hc

theorem wp_resetMotors {l : List (Fin 4)} (hc : d.connected = true)
    (hfew : howMany d.motorsRunning ≤ 2) :
    wp (l.forM fun i => do if (← get).motorsAttached i then runMotor port turns i.val 0 0 : Act P Unit)
      (fun _ e => d.Stopped ((l.filter d.motorsAttached).map fun i : Fin 4 => Line.runMotor i 0 0) e)
      (fun s _ => s = .blocks) d := by
  induction l generalizing d with
  | nil => exact ⟨_, fun _ hi => hi, (List.append_nil _).symm, _, _, rfl⟩
  | cons i l ih =>
    show wp ((do if (← get).motorsAttached i then runMotor port turns i.val 0 0) >>= fun _ => l.forM _)
      _ _ d
    rw [wp_bind, wp_bind, wp_get]
    refine wp_ite (fun hi => ?_) fun hi => ?_
    · refine wp_mono (wp_runMotor_stop hc hi hfew) (fun _ e he => ?_) fun _ _ he => he
      have hsame : e.motorsAttached = d.motorsAttached ∧ e.connected = true ∧
          howMany e.motorsRunning ≤ 2 := by
        obtain ⟨flags, hflags, -, p, l, rfl⟩ := he
        exact ⟨rfl, hc, (howMany_mono hflags).trans hfew⟩
      refine wp_mono (ih hsame.2.1 hsame.2.2) (fun _ f hf => ?_) fun _ _ he => he
      rw [hsame.1] at hf
      rw [List.filter_cons_of_pos hi]
      exact he.trans hf
    · rw [List.filter_cons_of_neg hi]
      exact ih hc hfew

/-- The lines that set the attached devices back. -/
def resetLines (d : Device P) : List Line :=
  ((List.finRange 3).filter d.servosAttached).map (fun i : Fin 3 => Line.moveServo i 90) ++
    ((List.finRange 4).filter d.motorsAttached).map fun i : Fin 4 => Line.runMotor i 0 0

theorem wp_close (hc : d.connected = true) (hreset : d.resetOnClose = true)
    (hfew : howMany d.motorsRunning ≤ 2) :
    wp (close port turns) (fun _ e => e.connected = false ∧
      sentLines e.log = sentLines d.log ++ d.resetLines) (fun s _ => s = .blocks) d := by
  unfold close
  rw [wp_bind, wp_sleep, wp_bind, wp_get]
  refine wp_ite (fun _ => ?_) fun h => absurd hreset h
  unfold reset
  rw [wp_bind, wp_bind]
  refine wp_mono (wp_resetServos hc) (fun _ s hs => ?_) fun _ _ he => he
  have hservos := hs.1
  obtain ⟨-, p, l, rfl⟩ := hs
  refine wp_mono (wp_resetMotors hc hfew) (fun _ e he => ?_) fun _ _ he => he
  have hmotors := he.choose_spec.2.1
  refine ⟨rfl, ?_⟩
  show sentLines (e.log ++ [.closed]) = _
  rw [sentLines_append, hmotors]
  change (sentLines l ++ _) ++ [] = _
  change sentLines l = sentLines (d.log ++ [.slept 300]) ++ _ at hservos
  have hslept : sentLines (d.log ++ [.slept 300]) = sentLines d.log := by
    rw [sentLines_append]
    exact List.append_nil _
  rw [hservos, hslept, resetLines, List.append_nil, List.append_assoc]

/-- A motor that some of the lines stop, and none leaves running. -/
theorem foldl_leavesRunning {i : Fin 4} {ls : List Line} (h : ∀ l ∈ ls, l.leavesRunning i ≠ some true)
    {b : Bool} (hb : b = false ∨ ∃ l ∈ ls, l.leavesRunning i = some false) :
    ls.foldl (fun b l => (l.leavesRunning i).getD b) b = false := by
  induction ls generalizing b with
  | nil => exact hb.resolve_right (by simp)
  | cons l ls ih =>
    obtain ⟨hl, hls⟩ := List.forall_mem_cons.1 h
    rw [List.foldl_cons]
    refine ih hls ?_
    cases hi : l.leavesRunning i with
    | none =>
      rcases hb with hb | ⟨l', hl', hidle⟩
      · exact .inl (by rw [Option.getD_none, hb])
      · rcases List.mem_cons.1 hl' with rfl | hl'
        · rw [hi] at hidle
          cases hidle
        · exact .inr ⟨l', hl', hidle⟩
    | some b' =>
      refine .inl ?_
      cases b' with
      | false => rfl
      | true => exact absurd hi hl

/-- **Closing stops every attached motor.**  Whatever has been called before, `close` sends one
line for each attached device, servos first, and leaves no attached motor running. -/
theorem close_stops {cond : Call → Device P → Prop} {p : P} {calls : List Call}
    (h : Runs hw port cond calls (new p) d) (hc : d.connected = true) (hreset : d.resetOnClose = true)
    (hclose : Call.close.Ends hw port d e) :
    e.connected = false ∧ sentLines e.log = sentLines d.log ++ d.resetLines ∧
      ∀ i, d.motorsAttached i = true → leftRunning e.log i = false := by
  obtain ⟨hclosed, hlines⟩ := hclose.of_wp fun turns => wp_close hc hreset (running_le_two h)
  refine ⟨hclosed, hlines, fun i hi => ?_⟩
  rw [leftRunning_eq, hlines, List.foldl_append]
  refine foldl_leavesRunning (fun l hl => ?_) (.inr ⟨.runMotor i 0 0, ?_, ?_⟩)
  · rcases List.mem_append.1 hl with hl | hl
    · obtain ⟨j, -, rfl⟩ := List.mem_map.1 hl
      exact leavesRunning_of_not_spins (not_spins_of_motors rfl) i
    · obtain ⟨j, -, rfl⟩ := List.mem_map.1 hl
      rw [leavesRunning_runMotor]
      split <;> simp
  · refine List.mem_append_right _ (List.mem_map_of_mem (f := fun i : Fin 4 => Line.runMotor i 0 0) ?_)
    exact List.mem_filter.2 ⟨List.mem_finRange i, hi⟩
  · rw [leavesRunning_runMotor, if_pos rfl]
    rfl

theorem close_stops_played :
    (played arduinoUno echo [.close] twoRunning).connected = false ∧
      sentLines (played arduinoUno echo [.close] twoRunning).log =
        sentLines twoRunning.log ++ twoRunning.resetLines ∧
      ∀ i, twoRunning.motorsAttached i = true →
        leftRunning (played arduinoUno echo [.close] twoRunning).log i = false :=
  close_stops (runs_played (fun _ _ _ => trivial) (by decide +kernel))
    (by decide +kernel) (by decide +kernel) (ends_played (by decide +kernel))

end Device
end ExeRobot
