/-
# The interactive programs: `RobotDriver` and `Diagnostic`

Both programs read a line, perform the operation its first character selects, and go on
until a line starts with `'q'`; then they close the robot.  They differ in the
operations, in when the menu is printed, and in that `Diagnostic` reads its first line
before it connects.

The first character is `nextLine().charAt(0)`, which throws on an empty line, and an
exception leaves `main` without `close`.  So the programs do what they should exactly
when no line before the first `'q'` line is empty (`main_completes_iff`).

A run is observed through its steps; an exception carries the session it ends.
-/

import ExeRobot.Robot.Returns

namespace ExeRobot
namespace EXERobot

open Stateful RXTXRobot

variable {L ρ : Type}

/-! ### Sessions -/

/-- How an interactive program can end but by returning. -/
inductive Abort where
  /-- `NoSuchElementException`: there is no next line. -/
  | noSuchElement
  | fault (f : Fault)
  deriving DecidableEq, Repr

/-- What an interactive program does: it prints, or performs an operation. -/
inductive Step where
  | printed
  | call (op : Op)

/-- The operation a step performs. -/
def Step.op : Step → Option Op
  | printed => none
  | call op => some op

/-- The robot, and what the program has done. -/
structure Session (L ρ : Type) where
  robot : Robot L ρ
  steps : List Step

/-- The operations performed. -/
def Session.calls (s : Session L ρ) : List Op := s.steps.filterMap Step.op

/-- The session a program starts with; its robot has not been constructed yet. -/
def Session.start (link : L) : Session L ρ := ⟨RXTXRobot.new link, []⟩

/-- Interactive programs. -/
abbrev Console (L ρ : Type) := StateT (Session L ρ) (Except (Abort × Session L ρ))

/-- An exception leaves the program. -/
def abort {α : Type} (a : Abort) : Console L ρ α := fun s => .error (a, s)

/-- Printing; the texts are left out. -/
def print : Console L ρ Unit := modify fun s => { s with steps := s.steps ++ [.printed] }

/-- `line.charAt(i)`. -/
def charAt (line : JString) (i : ℤ) : Console L ρ JChar :=
  match getAt line i with
  | .ok c => return c
  | .error f => abort (.fault f)

variable (k : Link L ρ)

/-- Performing an operation; none of those selected is a loop. -/
def call (op : Op) : Console L ρ Unit := fun s =>
  match op.run k 0 s.robot with
  | .ok (_, robot) => .ok ((), ⟨robot, s.steps ++ [.call op]⟩)
  | .error f => .error (.fault f, { s with steps := s.steps ++ [.call op] })

/-- `new EXERobot()`. -/
def newEXERobot : Console L ρ Unit := fun s =>
  match construct k s.robot with
  | .ok (_, robot) => .ok ((), { s with robot := robot })
  | .error f => .error (.fault f, s)

/-- A `switch` whose cases each perform an operation. -/
def switch (select : JChar → Option Op) (c : JChar) : Console L ρ Unit :=
  match select c with
  | some op => call k op
  | none => return

/-- The loops of both programs: what they do before and after reading the next
character, given the lines still to come and the character read last. -/
def whileNotQ (select : JChar → Option Op) (before after : Console L ρ Unit) (lines : List JString)
    (c : JChar) : Console L ρ Unit :=
  if c = jc 'q' then return
  else do
    switch k select c
    before
    match lines with
    | [] => abort .noSuchElement
    | line :: lines => do
        let c ← charAt line 0
        after
        whileNotQ select before after lines c

namespace RobotDriver

def select (c : JChar) : Option Op :=
  if c = jc 'a' then some .quadrantOne
  else if c = jc 'b' then some .quadrantTwo
  else if c = jc 'c' then some .quadrantThree
  else if c = jc 'd' then some .quadrantFour
  else if c = jc 'e' then some .test
  else none

/-- `RobotDriver.main`. -/
def main : List JString → Console L ρ Unit
  | lines => do
      newEXERobot k
      print
      print
      match lines with
      | [] => abort .noSuchElement
      | line :: lines => do
          let c ← charAt line 0
          whileNotQ k select (pure ()) print lines c
          call k .close

end RobotDriver

namespace Diagnostic

def select (c : JChar) : Option Op :=
  if c = jc 'a' then some .testTemperature
  else if c = jc 'b' then some .testConductivity
  else if c = jc 'c' then some .testInclinometer
  else if c = jc 'd' then some .testIR
  else if c = jc 'e' then some .testPing
  else if c = jc 'f' then some .test
  else none

/-- `Diagnostic.main`. -/
def main : List JString → Console L ρ Unit
  | lines => do
      print
      match lines with
      | [] => abort .noSuchElement
      | line :: lines => do
          let c ← charAt line 0
          newEXERobot k
          whileNotQ k select print (pure ()) lines c
          call k .close

end Diagnostic

/-- The two programs. -/
inductive Program where
  | robotDriver
  | diagnostic
  deriving DecidableEq, Repr

def Program.select : Program → JChar → Option Op
  | robotDriver => RobotDriver.select
  | diagnostic => Diagnostic.select

/-- What the loop does before it reads the next character. -/
def Program.before : Program → Console L ρ Unit
  | robotDriver => pure ()
  | diagnostic => print

/-- What it does after. -/
def Program.after : Program → Console L ρ Unit
  | robotDriver => print
  | diagnostic => pure ()

def Program.main : Program → List JString → Console L ρ Unit
  | robotDriver => RobotDriver.main k
  | diagnostic => Diagnostic.main k

/-! ### What the lines select -/

/-- The line ends the program. -/
def Quits (line : JString) : Prop := line.head? = some (jc 'q')

instance (line : JString) : Decidable (Quits line) := by unfold Quits; infer_instance

/-- The lines before the first that ends the program. -/
def commandLines (lines : List JString) : List JString := lines.takeWhile fun line => ¬ Quits line

/-- The operations the first characters of these lines select. -/
def selected (select : JChar → Option Op) (lines : List JString) : List Op :=
  (commandLines lines).filterMap fun line => line.head?.bind select

/-- The program constructs the robot, performs the operations selected, in order and
once each, closes the robot, and returns. -/
def Program.Completes (p : Program) (link : L) (lines : List JString) : Prop :=
  ∃ s t, construct k (RXTXRobot.new link) = .ok ((), s) ∧
    p.main k lines (Session.start link) = .ok ((), t) ∧
    t.calls = selected p.select lines ++ [.close] ∧ RunOps k t.calls s t.robot

theorem commandLines_quits {line : JString} (h : Quits line) (lines : List JString) :
    commandLines (line :: lines) = [] := List.takeWhile_cons_of_neg (by simpa using h)

theorem commandLines_cons {line : JString} (h : ¬ Quits line) (lines : List JString) :
    commandLines (line :: lines) = line :: commandLines lines :=
  List.takeWhile_cons_of_pos (by simpa using h)

theorem selected_quits (select : JChar → Option Op) {line : JString} (h : Quits line)
    (lines : List JString) : selected select (line :: lines) = [] := by
  unfold selected
  rw [commandLines_quits h]
  rfl

theorem selected_cons (select : JChar → Option Op) {line : JString} (h : ¬ Quits line)
    (lines : List JString) {c : JChar} (hc : line.head? = some c) :
    selected select (line :: lines) = (select c).toList ++ selected select lines := by
  unfold selected
  rw [commandLines_cons h, List.filterMap_cons, hc, Option.bind_some]
  cases select c <;> rfl

/-! ### Live sessions -/

variable {k} {s₀ : Robot L ρ}

/-- A call after others. -/
theorem RunOps.snoc {ops : List Op} {op : Op} {s t u : Robot L ρ} (h : RunOps k ops s t)
    (hop : op.Returns k t u) : RunOps k (ops ++ [op]) s u := by
  induction h with
  | nil s => exact .cons hop (.nil u)
  | cons first _ ih => exact .cons first (ih hop)

/-- The robot was left by its constructor in the state `s₀`, and its state is that after
the operations performed. -/
structure Live (k : Link L ρ) (s₀ : Robot L ρ) (s : Session L ρ) : Prop where
  ran : RunOps k s.calls s₀ s.robot
  usable : Usable s.robot

/-- From every live session, `x` ends normally and has performed `ops`. -/
def Performs (k : Link L ρ) (s₀ : Robot L ρ) (x : Console L ρ Unit) (ops : List Op) : Prop :=
  ∀ ⦃s⦄, Live k s₀ s → ∃ t, x s = .ok ((), t) ∧ Live k s₀ t ∧ t.calls = s.calls ++ ops

/-- From every live session, `x` performs `ops` and is left by an exception of `charAt`. -/
def Breaks (k : Link L ρ) (s₀ : Robot L ρ) (x : Console L ρ Unit) (ops : List Op) : Prop :=
  ∀ ⦃s⦄, Live k s₀ s → ∃ t, x s = .error (.fault .indexOutOfBounds, t) ∧ t.calls = s.calls ++ ops

theorem charAt_cons (c : JChar) (line : JString) :
    (charAt (c :: line) 0 : Console L ρ JChar) = pure c := rfl

namespace Performs

variable {x : Console L ρ Unit} {f : Unit → Console L ρ Unit} {ops ops' : List Op}

theorem skip : Performs k s₀ (Pure.pure ()) [] := fun s hs => ⟨s, rfl, hs, (List.append_nil _).symm⟩

theorem bind (hx : Performs k s₀ x ops) (hf : Performs k s₀ (f ()) ops') :
    Performs k s₀ (x >>= f) (ops ++ ops') := by
  intro s hs
  obtain ⟨s', hrun, hs', hcalls⟩ := hx hs
  obtain ⟨t, hrest, ht, hcalls'⟩ := hf hs'
  refine ⟨t, (run_bind_ok hrun).trans hrest, ht, ?_⟩
  rw [hcalls', hcalls, List.append_assoc]

theorem bind_breaks (hx : Performs k s₀ x ops) (hf : Breaks k s₀ (f ()) ops') :
    Breaks k s₀ (x >>= f) (ops ++ ops') := by
  intro s hs
  obtain ⟨s', hrun, hs', hcalls⟩ := hx hs
  obtain ⟨t, hrest, hcalls'⟩ := hf hs'
  refine ⟨t, (run_bind_ok hrun).trans hrest, ?_⟩
  rw [hcalls', hcalls, List.append_assoc]

theorem print : Performs k s₀ EXERobot.print [] := by
  intro s hs
  have hcalls : Session.calls { s with steps := s.steps ++ [.printed] } = s.calls := by
    simp [Session.calls, Step.op]
  exact ⟨_, rfl, ⟨hcalls.symm ▸ hs.ran, hs.usable⟩, hcalls.trans (List.append_nil _).symm⟩

theorem call {op : Op} (hop : op.loops = false) : Performs k s₀ (EXERobot.call k op) [op] := by
  intro s hs
  obtain ⟨robot, hrun, hrobot⟩ := Op.run_returns k 0 hop hs.usable
  have hcalls : Session.calls ⟨robot, s.steps ++ [.call op]⟩ = s.calls ++ [op] := by
    simp [Session.calls, Step.op]
  refine ⟨⟨robot, s.steps ++ [.call op]⟩, ?_, ⟨?_, hrobot⟩, hcalls⟩
  · unfold EXERobot.call
    rw [hrun]
  · rw [hcalls]
    exact RunOps.snoc hs.ran ⟨0, hrun⟩

theorem switch {select : JChar → Option Op} (h : ∀ c op, select c = some op → op.loops = false)
    (c : JChar) : Performs k s₀ (EXERobot.switch k select c) (select c).toList := by
  unfold EXERobot.switch
  cases hc : select c with
  | none => exact skip
  | some op => exact call (h c op hc)

end Performs

/-! ### The loop -/

variable {select : JChar → Option Op} {before after : Console L ρ Unit}

/-- The loop at a character that does not end it, when there is another line. -/
theorem whileNotQ_cons {c : JChar} (hc : c ≠ jc 'q') (line : JString) (lines : List JString) :
    whileNotQ k select before after (line :: lines) c = (do
      switch k select c
      before
      let c ← charAt line 0
      after
      whileNotQ k select before after lines c) := by
  rw [whileNotQ, if_neg hc]

theorem quits_iff {line : JString} {c : JChar} (hc : line.head? = some c) :
    Quits line ↔ c = jc 'q' := by
  unfold Quits
  rw [hc, Option.some_inj]

section

variable (hselect : ∀ c op, select c = some op → op.loops = false) (hbefore : Performs k s₀ before [])
  (hafter : Performs k s₀ after [])

include hselect hbefore hafter

/-- With no empty line before the line that ends it, the loop performs what is selected. -/
theorem whileNotQ_performs {lines : List JString} {line : JString} {c : JChar}
    (hc : line.head? = some c) (hq : ∃ l ∈ line :: lines, Quits l)
    (h : ∀ l ∈ commandLines (line :: lines), l ≠ []) :
    Performs k s₀ (whileNotQ k select before after lines c) (selected select (line :: lines)) := by
  induction lines generalizing line c with
  | nil =>
    obtain ⟨l, hl, hquits⟩ := hq
    obtain rfl := List.mem_singleton.1 hl
    rw [selected_quits select hquits, whileNotQ, if_pos ((quits_iff hc).1 hquits)]
    exact Performs.skip
  | cons next lines ih =>
    by_cases hquits : Quits line
    · rw [selected_quits select hquits, whileNotQ, if_pos ((quits_iff hc).1 hquits)]
      exact Performs.skip
    · have hrest : ∀ l ∈ commandLines (next :: lines), l ≠ [] := fun l hl =>
        h l (commandLines_cons hquits _ ▸ List.mem_cons_of_mem _ hl)
      have hq' : ∃ l ∈ next :: lines, Quits l := by
        obtain ⟨l, hl, hlquits⟩ := hq
        rcases List.mem_cons.1 hl with rfl | hl
        · exact absurd hlquits hquits
        · exact ⟨l, hl, hlquits⟩
      rw [whileNotQ_cons (fun heq => hquits ((quits_iff hc).2 heq)),
        selected_cons select hquits _ hc]
      refine (Performs.switch hselect c).bind ?_
      cases next with
      | nil =>
        have hopen : ¬ Quits [] := nofun
        exact absurd rfl (hrest [] (commandLines_cons hopen _ ▸ List.mem_cons_self ..))
      | cons c' next =>
        rw [charAt_cons, pure_bind]
        exact hbefore.bind (hafter.bind (ih rfl hq' hrest))

/-- An empty line before the line that ends it ends the loop with an exception. -/
theorem whileNotQ_breaks {lines : List JString} {line : JString} {c : JChar}
    (hc : line.head? = some c) (h : [] ∈ commandLines (line :: lines)) :
    ∃ ops, Breaks k s₀ (whileNotQ k select before after lines c) ops := by
  induction lines generalizing line c with
  | nil =>
    by_cases hquits : Quits line
    · rw [commandLines_quits hquits] at h
      cases h
    · rw [commandLines_cons hquits] at h
      obtain rfl := List.mem_singleton.1 h
      cases hc
  | cons next lines ih =>
    by_cases hquits : Quits line
    · rw [commandLines_quits hquits] at h
      cases h
    · rw [commandLines_cons hquits] at h
      rw [whileNotQ_cons fun heq => hquits ((quits_iff hc).2 heq)]
      cases next with
      | nil =>
        have habort : Breaks k s₀ (charAt [] 0 >>= fun c => after >>= fun _ =>
            whileNotQ k select before after lines c) [] := fun s _ =>
          ⟨s, rfl, (List.append_nil _).symm⟩
        exact ⟨_, (Performs.switch hselect c).bind_breaks (hbefore.bind_breaks habort)⟩
      | cons c' next =>
        have hmem : [] ∈ commandLines ((c' :: next) :: lines) := by
          rcases List.mem_cons.1 h with rfl | h
          · cases hc
          · exact h
        obtain ⟨ops, hbreaks⟩ := ih rfl hmem
        rw [charAt_cons, pure_bind]
        refine ⟨(select c).toList ++ ([] ++ ([] ++ ops)),
          (Performs.switch hselect c).bind_breaks ?_⟩
        exact hbefore.bind_breaks (hafter.bind_breaks hbreaks)

end

/-! ### The programs -/

theorem Program.select_loops (p : Program) (c : JChar) (op : Op) (h : p.select c = some op) :
    op.loops = false := by
  cases p with
  | robotDriver =>
    have hsel : RobotDriver.select c = some op := h
    unfold RobotDriver.select at hsel
    split_ifs at hsel <;> cases hsel <;> rfl
  | diagnostic =>
    have hsel : Diagnostic.select c = some op := h
    unfold Diagnostic.select at hsel
    split_ifs at hsel <;> cases hsel <;> rfl

theorem Program.performs_before (p : Program) : Performs k s₀ p.before [] := by
  cases p with
  | robotDriver => exact Performs.skip
  | diagnostic => exact Performs.print

theorem Program.performs_after (p : Program) : Performs k s₀ p.after [] := by
  cases p with
  | robotDriver => exact Performs.print
  | diagnostic => exact Performs.skip

theorem newEXERobot_run {link : L} (hconstruct : construct k (RXTXRobot.new link) = .ok ((), s₀))
    (steps : List Step) :
    newEXERobot k ⟨RXTXRobot.new link, steps⟩ = .ok ((), ⟨s₀, steps⟩) := by
  unfold newEXERobot
  rw [hconstruct]

/-- A program whose first line is not empty goes through its loop with a live session. -/
theorem Program.main_cons (p : Program) {link : L}
    (hconstruct : construct k (RXTXRobot.new link) = .ok ((), s₀)) (hs₀ : Usable s₀) (c : JChar)
    (line : JString) (lines : List JString) :
    ∃ u, Live k s₀ u ∧ u.calls = [] ∧ p.main k ((c :: line) :: lines) (Session.start link) =
      (whileNotQ k p.select p.before p.after lines c >>= fun _ => call k .close) u := by
  cases p with
  | robotDriver =>
    exact ⟨⟨s₀, [.printed, .printed]⟩, ⟨.nil s₀, hs₀⟩, rfl,
      run_bind_ok (newEXERobot_run hconstruct [])⟩
  | diagnostic =>
    refine ⟨⟨s₀, [.printed]⟩, ⟨.nil s₀, hs₀⟩, rfl, ?_⟩
    show (newEXERobot k >>= fun _ => whileNotQ k Diagnostic.select print (pure ()) lines c >>= fun _ =>
      call k .close) ⟨RXTXRobot.new link, [.printed]⟩ = _
    exact run_bind_ok (newEXERobot_run hconstruct [.printed])

/-- A program whose first line is empty ends with an exception. -/
theorem Program.main_nil (p : Program) {link : L}
    (hconstruct : construct k (RXTXRobot.new link) = .ok ((), s₀)) (lines : List JString) :
    ∃ t, p.main k ([] :: lines) (Session.start link) = .error (.fault .indexOutOfBounds, t) := by
  cases p with
  | robotDriver => exact ⟨_, run_bind_ok (newEXERobot_run hconstruct [])⟩
  | diagnostic => exact ⟨_, rfl⟩

/-- With no empty line before the first `'q'` line, a program completes. -/
theorem Program.completes (p : Program) (link : L) {lines : List JString}
    (hq : ∃ line ∈ lines, Quits line) (h : ∀ line ∈ commandLines lines, line ≠ []) :
    p.Completes k link lines := by
  obtain ⟨s₀, hconstruct, hs₀⟩ := construct_returns k link
  cases lines with
  | nil =>
    obtain ⟨line, hmem, -⟩ := hq
    cases hmem
  | cons line lines =>
    cases line with
    | nil =>
      have hopen : ¬ Quits [] := nofun
      exact absurd rfl (h [] (commandLines_cons hopen _ ▸ List.mem_cons_self ..))
    | cons c line =>
      obtain ⟨u, hu, hnone, hrun⟩ := p.main_cons hconstruct hs₀ c line lines
      have hloop : Performs k s₀ (whileNotQ k p.select p.before p.after lines c) _ :=
        whileNotQ_performs p.select_loops p.performs_before p.performs_after rfl hq h
      have hclose : Performs k s₀ (call k .close) [.close] := Performs.call rfl
      obtain ⟨t, hrest, ht, hcalls⟩ := hloop.bind (f := fun _ => call k .close) hclose hu
      rw [hnone, List.nil_append] at hcalls
      exact ⟨s₀, t, hconstruct, hrun.trans hrest, hcalls, ht.ran⟩

/-- With an empty line before it, a program ends with an exception, the robot open. -/
theorem Program.breaks (p : Program) (link : L) {lines : List JString} (h : [] ∈ commandLines lines) :
    ∃ t, p.main k lines (Session.start link) = .error (.fault .indexOutOfBounds, t) := by
  obtain ⟨s₀, hconstruct, hs₀⟩ := construct_returns k link
  cases lines with
  | nil => cases h
  | cons line lines =>
    cases line with
    | nil => exact p.main_nil hconstruct lines
    | cons c line =>
      obtain ⟨u, hu, -, hrun⟩ := p.main_cons hconstruct hs₀ c line lines
      obtain ⟨ops, hbreaks⟩ : ∃ ops, Breaks k s₀ (whileNotQ k p.select p.before p.after lines c) ops :=
        whileNotQ_breaks p.select_loops p.performs_before p.performs_after rfl h
      obtain ⟨t, hloop, -⟩ := hbreaks hu
      exact ⟨t, hrun.trans (run_bind_error hloop)⟩

theorem Program.not_completes (p : Program) (link : L) {lines : List JString}
    (h : [] ∈ commandLines lines) : ¬ p.Completes k link lines := by
  rintro ⟨s, t, -, hrun, -⟩
  obtain ⟨t', hbreak⟩ := p.breaks (k := k) link h
  rw [hrun] at hbreak
  cases hbreak

/-- **When the programs complete**: whatever the board answers and whatever the lines are,
as long as one starts with `'q'`, each program performs what the lines before it select
and closes the robot exactly when none of these lines is empty. -/
theorem Program.main_completes_iff (p : Program) (k : Link L ρ) (link : L) {lines : List JString}
    (hq : ∃ line ∈ lines, Quits line) :
    p.Completes k link lines ↔ ∀ line ∈ commandLines lines, line ≠ [] := by
  constructor
  · rintro hcompletes line hline rfl
    exact p.not_completes link hline hcompletes
  · exact p.completes link hq

/-- Two choices and the end. -/
theorem Program.main_completes_iff_twoChoices :
    let lines := [jstr ['a'], jstr ['x', 'y'], jstr ['q', 'u', 'i', 't']]
    Program.Completes silent .diagnostic () lines ↔ ∀ line ∈ commandLines lines, line ≠ [] :=
  Program.main_completes_iff .diagnostic silent () ⟨jstr ['q', 'u', 'i', 't'], by decide, by decide⟩

/-- An empty line and then the end: neither program closes the robot. -/
theorem Program.not_completes_emptyLine :
    ¬ Program.Completes silent .robotDriver () [[], jstr ['q']] ∧
      ¬ Program.Completes silent .diagnostic () [[], jstr ['q']] := by
  have hempty : [] ∈ commandLines [[], jstr ['q']] := by decide
  exact ⟨Program.not_completes .robotDriver () hempty, Program.not_completes .diagnostic () hempty⟩

end EXERobot
end ExeRobot
