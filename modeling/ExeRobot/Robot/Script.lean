/-
# Scripts: what each operation makes the robot do

The commands an operation sends and the sleeps between them hardly depend on the
replies: but for the loop of `motorRunIndefinitely` each operation goes through a
fixed list of actions, its script.  `following` is the effect of a script on the
log.  On a robot that is not connected only the sleeps of the script happen.

The scripts hold for an object as its constructor leaves it and as every
operation keeps it (`Ready`): the pins of the board are free, the analog cache has
been filled once, so reading a pin does not refresh it, and no motor or servo has
been attached, so `close` finds nothing to reset.
-/

import ExeRobot.Library.Effect
import ExeRobot.Robot.EXERobot

namespace ExeRobot

open Stateful RXTXRobot

variable {L ρ : Type}

/-- The state of an object between two operations. -/
structure Ready (s : Robot L ρ) : Prop where
  analogPins : s.analogPinsAvailable = initialFreeAnalogPins
  digitalPins : s.digitalPinsAvailable = initialFreeDigitalPins
  analog : s.analogPinCache ≠ none
  motors : ∀ i, s.motorsAttached i = false
  servos : ∀ i, s.servosAttached i = false

/-- The part of a script that happens. -/
def performed (connected : Bool) (script : List Action) : List Action :=
  if connected then script else script.filter Action.isSleep

@[simp] theorem performed_nil (c : Bool) : performed c [] = [] := by cases c <;> rfl

@[simp] theorem performed_append (c : Bool) (l l' : List Action) :
    performed c (l ++ l') = performed c l ++ performed c l' := by
  cases c <;> simp [performed]

@[simp] theorem performed_sleep (c : Bool) (ms : ℕ) :
    performed c [.sleep ms] = [.sleep ms] := by cases c <;> rfl

theorem performed_true (l : List Action) : performed true l = l := rfl

@[simp] theorem performed_false_send (cmd : Command) (wait : ℕ) (l : List Action) :
    performed false (.send cmd wait :: l) = performed false l := rfl

/-- The effect of going through a script. -/
def following : Effect (Robot L ρ) (List Action) where
  rel script s t := Ready s → Ready t ∧ t.connected = s.connected ∧
    actions t.log = actions s.log ++ performed s.connected script
  unit := []
  comp := (· ++ ·)
  refl s hs := ⟨hs, rfl, by simp⟩
  trans := fun {m n s s' t} h h' hs => by
    obtain ⟨hs', hc, hl⟩ := h hs
    obtain ⟨ht, hc', hl'⟩ := h' hs'
    exact ⟨ht, hc'.trans hc, by rw [hl', hl, hc, performed_append, List.append_assoc]⟩

/-- Every run of `x` goes through the script. -/
abbrev Follows {α : Type} (x : Api L ρ α) (script : List Action) : Prop := following.Has x script

namespace Follows

theorem seq_map {ι : Type} (g : ι → List Action) (l : List ι) :
    (following : Effect (Robot L ρ) _).seq (l.map g) = l.flatMap g := by
  induction l with
  | nil => rfl
  | cons i l ih =>
    rw [List.flatMap_cons, ← ih]
    rfl

theorem forM {ι : Type} {f : ι → Api L ρ PUnit} {g : ι → List Action} (h : ∀ i, Follows (f i) (g i))
    (l : List ι) : Follows (l.forM f) (l.flatMap g) :=
  (Effect.Has.forM h l).of_eq (seq_map g l)

theorem mapM {ι α : Type} {f : ι → Api L ρ α} {g : ι → List Action} (h : ∀ i, Follows (f i) (g i))
    (l : List ι) : Follows (l.mapM f) (l.flatMap g) :=
  (Effect.Has.mapM h l).of_eq (seq_map g l)

theorem foldlM {ι α : Type} {f : α → ι → Api L ρ α} {g : ι → List Action}
    (h : ∀ a i, Follows (f a i) (g i)) (l : List ι) (a : α) : Follows (l.foldlM f a) (l.flatMap g) :=
  (Effect.Has.foldlM h l a).of_eq (seq_map g l)

theorem bind {α β : Type} {x : Api L ρ α} {f : α → Api L ρ β} {l l' : List Action}
    (hx : Follows x l) (hf : ∀ a, Follows (f a) l') : Follows (x >>= f) (l ++ l') :=
  Effect.Has.bind hx hf

theorem bind_nil {α β : Type} {x : Api L ρ α} {f : α → Api L ρ β} {l : List Action}
    (hx : Follows x []) (hf : ∀ a, Follows (f a) l) : Follows (x >>= f) l :=
  Effect.Has.bind hx hf

theorem bind_nil_right {α β : Type} {x : Api L ρ α} {f : α → Api L ρ β} {l : List Action}
    (hx : Follows x l) (hf : ∀ a, Follows (f a) []) : Follows (x >>= f) l :=
  (bind hx hf).of_eq (List.append_nil l)

theorem pure {α : Type} (a : α) : Follows (Pure.pure a : Api L ρ α) [] := Effect.Has.pure a

theorem lift {α : Type} (x : Except Fault α) : Follows (liftM x : Api L ρ α) [] := Effect.Has.lift x

/-- A change of the state that leaves what `following` looks at. -/
theorem modify {f : Robot L ρ → Robot L ρ} {l : List Action} (hr : ∀ s, Ready s → Ready (f s))
    (hc : ∀ s, (f s).connected = s.connected)
    (hl : ∀ s, actions (f s).log = actions s.log ++ performed s.connected l) :
    Follows (modify f : Api L ρ PUnit) l := by
  intro s a t h hs
  obtain ⟨-, rfl⟩ : a = PUnit.unit ∧ f s = t := by cases h; exact ⟨rfl, rfl⟩
  exact ⟨hr s hs, hc s, hl s⟩

/-- A computation that starts by reading the state. -/
theorem get_bind {α : Type} {f : Robot L ρ → Api L ρ α} {l : List Action}
    (h : ∀ s, Follows (f s) l) : Follows (get >>= f) l := by
  intro s a t hrun
  exact h s hrun

/-- A computation that starts by asking for the connection, and only sends. -/
theorem guard {α : Type} {f : Bool → Api L ρ α} {l : List Action} (hl : performed false l = [])
    (hout : Follows (f false) []) (hin : Follows (f true) l) : Follows (isConnected >>= f) l := by
  intro s a t hrun hs
  rw [run_bind_ok (isConnected_run s)] at hrun
  cases hc : s.connected with
  | false =>
    rw [hc] at hrun
    have h := hout hrun hs
    rwa [hc, performed_nil, ← hl] at h
  | true =>
    rw [hc] at hrun
    have h := hin hrun hs
    rwa [hc] at h

/-! ### The API -/

theorem error (e : ApiError) : Follows (RXTXRobot.error e : Api L ρ Unit) [] :=
  modify (fun _ hs => ⟨hs.1, hs.2, hs.3, hs.4, hs.5⟩) (fun _ => rfl) fun s => by simp

theorem setAttemptTryAgain (b : Bool) : Follows (RXTXRobot.setAttemptTryAgain b : Api L ρ Unit) [] :=
  modify (fun _ hs => ⟨hs.1, hs.2, hs.3, hs.4, hs.5⟩) (fun _ => rfl) fun s => by simp

theorem report : ∀ e : Option ApiError, Follows (RXTXRobot.report e : Api L ρ Unit) []
  | none => pure _
  | some e => error e

variable (k : Link L ρ)

theorem sleep (ms : ℕ) : Follows (RXTXRobot.sleep k ms) [.sleep ms] :=
  modify (fun _ hs => ⟨hs.1, hs.2, hs.3, hs.4, hs.5⟩) (fun _ => rfl) fun s => by simp

theorem sendRaw (cmd : Command) (wait : ℕ) :
    Follows (RXTXRobot.sendRaw k cmd wait) [.send cmd wait] := by
  intro s a t h hs
  cases hc : s.connected with
  | true =>
    rw [sendRaw_of_connected k hc] at h
    cases h
    exact ⟨⟨hs.1, hs.2, hs.3, hs.4, hs.5⟩, hc, by simp [performed_true]⟩
  | false =>
    rw [sendRaw_of_not_connected k hc] at h
    cases h
    exact ⟨⟨hs.1, hs.2, hs.3, hs.4, hs.5⟩, hc, by simp⟩

/-- A command that may be repeated, and what is done with the reply. -/
theorem ask (cmd : Command) (wait : ℕ) {α : Type} {f : JString → Api L ρ α}
    (hf : ∀ reply, Follows (f reply) []) :
    Follows (do
      RXTXRobot.setAttemptTryAgain true
      let reply ← RXTXRobot.sendRaw k cmd wait
      RXTXRobot.setAttemptTryAgain false
      f reply) [.send cmd wait] := by
  refine bind_nil (setAttemptTryAgain true) fun _ => ?_
  refine bind_nil_right (sendRaw k cmd wait) fun reply => ?_
  exact bind_nil (setAttemptTryAgain false) fun _ => hf reply

theorem refreshAnalogPins : Follows (RXTXRobot.refreshAnalogPins k) [.send .readAnalog 100] := by
  have hfilled : ∀ {s : Robot L ρ} {values}, Ready s →
      Ready { s with analogPinCache := some values } := fun hs => ⟨hs.1, hs.2, nofun, hs.4, hs.5⟩
  refine get_bind fun s => ?_
  refine bind_nil (modify (fun _ hs => hfilled hs) (fun _ => rfl) fun s => by simp) fun _ => ?_
  refine guard rfl (error _) (ask k .readAnalog 100 fun reply => ?_)
  exact bind_nil (modify (fun _ hs => hfilled hs) (fun _ => rfl) fun s => by simp) fun _ => report _

theorem refreshDigitalPins : Follows (RXTXRobot.refreshDigitalPins k) [.send .readDigital 100] := by
  have hfilled : ∀ {s : Robot L ρ} {values}, Ready s →
      Ready { s with digitalPinCache := some values } := fun hs => ⟨hs.1, hs.2, hs.3, hs.4, hs.5⟩
  refine get_bind fun s => ?_
  refine bind_nil (modify (fun _ hs => hfilled hs) (fun _ => rfl) fun s => by simp) fun _ => ?_
  refine guard rfl (error _) (ask k .readDigital 100 fun reply => ?_)
  exact bind_nil (modify (fun _ hs => hfilled hs) (fun _ => rfl) fun s => by simp) fun _ => report _

theorem pinValue (available cache : List ℤ) (x : ℤ) :
    Follows (RXTXRobot.pinValue available cache x : Api L ρ ℤ) [] := by
  unfold RXTXRobot.pinValue
  refine Effect.Has.ite ?_ ?_
  · refine bind_nil (lift _) fun v => bind_nil ?_ fun _ => pure v
    exact modify (fun _ hs => ⟨hs.1, hs.2, hs.3, hs.4, hs.5⟩) (fun _ => rfl) fun s => by simp
  · exact bind_nil (error _) fun _ => lift _

theorem getAnalogPin (x : ℤ) : Follows (RXTXRobot.getAnalogPin k x) [] := by
  intro s a t h hs
  obtain ⟨cache, hcache⟩ := Option.ne_none_iff_exists'.1 hs.analog
  rw [getAnalogPin_run k hcache] at h
  exact pinValue _ _ _ h hs

theorem query {α : Type} (cmd : Command) (wait : ℕ) (decode : JString → Except ApiError α)
    (failed : α) :
    Follows (RXTXRobot.query k cmd wait decode failed) [.send cmd wait] := by
  unfold RXTXRobot.query
  refine ask k cmd wait fun response => ?_
  cases decode response with
  | ok v => exact pure v
  | error e => exact bind_nil (error e) fun _ => pure failed

theorem getConductivity : Follows (RXTXRobot.getConductivity k) [.send .conductivity 3000] :=
  guard rfl (bind_nil (error _) fun _ => pure _) (query k _ _ _ _)

theorem getIRChar : Follows (RXTXRobot.getIRChar k) [.send .irChar 700] :=
  guard rfl (bind_nil (error _) fun _ => pure _) (query k _ _ _ _)

theorem command {valid : Bool} (h : valid = true) (e : ApiError) (cmd : Command) :
    Follows (RXTXRobot.command k valid e cmd) [.send cmd 100] := by
  subst h
  exact guard rfl (error _) (bind_nil_right (sendRaw k _ _) fun _ => pure _)

/-- A command whose arguments are refused is not sent. -/
theorem command_refused {valid : Bool} (h : valid = false) (e : ApiError) (cmd : Command) :
    Follows (RXTXRobot.command k valid e cmd) [] := by
  subst h
  exact guard rfl (error _) (error _)

/-- A script that holds whenever the object is ready. -/
theorem of_ready {α : Type} {x : Api L ρ α} {l : List Action}
    (h : ∀ s, Ready s → ∀ a t, x s = .ok (a, t) → following.rel l s t) : Follows x l :=
  fun s a t hrun hs => h s hs a t hrun hs

theorem getPing {pin : ℤ} (hpin : pin ∈ initialFreeDigitalPins) :
    Follows (RXTXRobot.getPing k pin) [.send (.ping pin) 200] := by
  refine guard rfl (bind_nil (error _) fun _ => pure _) (of_ready fun s hs a t hrun => ?_)
  have hfree : ¬ pin ∉ s.digitalPinsAvailable := by simpa [hs.digitalPins] using hpin
  refine query k (.ping pin) 200 pingValue (-1) (a := a) ?_
  rw [← hrun]
  exact (congrFun (if_neg hfree) s).symm

end Follows
end ExeRobot
