/-
# Playing a run

Methods are programs, so that a run on a port that can be computed can be played.  `played`
makes the calls one after the other, and where each of them ends (`plays`) this is a run of
the API (`runs_played`).

The port `echo` is a board that sends every line straight back, so that a device can be
attached.  `answering` sends the same reply to every line, and `drowsy` echoes every second
line only, so that a question is asked again and a command gets no answer.
-/

import ExeRobot.Device.Calls

namespace ExeRobot

open Persistent

/-- A board that sends back what is written. -/
def echo : Port JString where
  write s := modify fun unread => unread ++ s
  available unread := .ok unread.length
  read n := fun unread => .ok (unread.take n) (unread.drop n)
  sleep _ unread := unread
  read_le h := by
    cases h
    exact List.length_take_le ..

/-- A board that sends `reply` for whatever is written. -/
def answering (reply : JString) : Port JString where
  write _ := modify fun unread => unread ++ reply
  available unread := .ok unread.length
  read n := fun unread => .ok (unread.take n) (unread.drop n)
  sleep _ unread := unread
  read_le h := by
    cases h
    exact List.length_take_le ..

/-- A board that sends back every second line; with the number of lines it has got. -/
def drowsy : Port (ℕ × JString) where
  write s := modify fun (lines, unread) => (lines + 1, if lines % 2 = 0 then unread else unread ++ s)
  available := fun (_, unread) => .ok unread.length
  read n := fun (lines, unread) => .ok (unread.take n) (lines, unread.drop n)
  sleep _ q := q
  read_le h := by
    cases h
    exact List.length_take_le ..

namespace Device

variable {P : Type} (hw : Hardware) (port : Port P)

/-- A result that is not `blocks`. -/
def ended {α : Type} : EStateM.Result Stop (Device P) α → Bool
  | .ok _ _ => true
  | .error stop _ => stop ≠ .blocks

/-- The object after the calls, with no turn for the second loop of `sendRaw` beyond the first. -/
def played : List Call → Device P → Device P
  | [], d => d
  | call :: calls, d => played calls (final (call.run hw port 0 d))

/-- Each of the calls ends. -/
def plays : List Call → Device P → Bool
  | [], _ => true
  | call :: calls, d => ended (call.run hw port 0 d) && plays calls (final (call.run hw port 0 d))

variable {hw port}

/-- What is played is a call. -/
theorem ends_played {call : Call} {d : Device P} (h : ended (call.run hw port 0 d) = true) :
    call.Ends hw port d (played hw port [call] d) := by
  refine ⟨0, ?_⟩
  unfold played played
  cases hrun : call.run hw port 0 d with
  | ok a e => exact .inl rfl
  | error stop e =>
    rw [hrun] at h
    exact .inr ⟨stop, by simpa [ended] using h, rfl⟩

variable (hw port) in
/-- Each of the calls satisfies `ok` in the state it is played in. -/
def Meets (ok : Call → Device P → Prop) : List Call → Device P → Prop
  | [], _ => True
  | call :: calls, d => ok call d ∧ Meets ok calls (final (call.run hw port 0 d))

variable {ok : Call → Device P → Prop} {calls : List Call} {d : Device P}

/-- A condition that does not depend on the states. -/
theorem meets_of_forall (h : ∀ call ∈ calls, ∀ d, ok call d) : Meets hw port ok calls d := by
  induction calls generalizing d with
  | nil => exact trivial
  | cons call calls ih =>
    obtain ⟨hfirst, hrest⟩ := List.forall_mem_cons.1 h
    exact ⟨hfirst d, ih hrest⟩

/-- What is played is a run under a condition that it meets. -/
theorem runs_of_meets (hok : Meets hw port ok calls d) (h : plays hw port calls d = true) :
    Runs hw port ok calls d (played hw port calls d) := by
  induction calls generalizing d with
  | nil => exact .nil d
  | cons call calls ih =>
    obtain ⟨hcall, hcalls⟩ := Bool.and_eq_true_iff.1 h
    exact .cons hok.1 (ends_played hcall) (ih hok.2 hcalls)

/-- What is played is a run. -/
theorem runs_played (hok : ∀ call ∈ calls, ∀ d, ok call d) (h : plays hw port calls d = true) :
    Runs hw port ok calls d (played hw port calls d) :=
  runs_of_meets (meets_of_forall hok) h

end Device
end ExeRobot
