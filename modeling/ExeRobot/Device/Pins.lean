/-
# Pins and devices

A device is attached when its attaching line comes back as its own echo; the log says
which devices have been attached, and to which pins (`attachments`).  After any run the
object agrees with its log.  The flags are those of the devices that have been attached,
each of them once, ever (`attached_once`); and the free pins are those of the board
without the ones taken since the connection was opened, which are all different
(`free_pins`).  There are only seven devices, so some pins always stay free.

The flags outlive the connection, and the free pins do not: a pin that is taken is free
again after `close()` and `connect()` (`reconnect_frees`).
-/

import Mathlib.Data.List.Nodup
import Mathlib.Data.List.Perm.Subperm
import ExeRobot.Device.Sending

namespace ExeRobot
namespace Device

open Persistent Labelled

variable {P : Type} {hw : Hardware} {port : Port P} {turns : ℕ} {d e : Device P}

/-- A device that has been attached to a pin. -/
structure Attachment where
  kind : Kind
  number : ℤ
  pin : ℤ
  deriving DecidableEq, Repr

/-- What an entry of the log attaches: an attaching line that has come back. -/
def attachmentOf : Entry → Option Attachment
  | .sent (.attachMotor m pin) _ reply =>
      if reply = (Line.attachMotor m pin).text then some ⟨.motor, m, pin⟩ else none
  | .sent (.attachServo s pin) _ reply =>
      if reply = (Line.attachServo s pin).text then some ⟨.servo, s, pin⟩ else none
  | _ => none

def attachments (log : List Entry) : List Attachment := log.filterMap attachmentOf

/-- The entries since the connection was last opened. -/
def session (log : List Entry) : List Entry :=
  log.foldl (fun s x => if x = .opened then [] else s ++ [x]) []

/-- The pins that have been taken since the connection was last opened. -/
def takenPins (log : List Entry) : List ℤ := (attachments (session log)).map Attachment.pin

/-! ### The log -/

@[simp] theorem attachments_append (log es : List Entry) :
    attachments (log ++ es) = attachments log ++ attachments es := List.filterMap_append

theorem session_opened (log : List Entry) : session (log ++ [.opened]) = [] := by simp [session]

theorem session_append {log es : List Entry} (h : Entry.opened ∉ es) :
    session (log ++ es) = session log ++ es := by
  induction es generalizing log with
  | nil => rw [List.append_nil, List.append_nil]
  | cons x es ih =>
    rw [List.mem_cons, not_or] at h
    have hx : session (log ++ [x]) = session log ++ [x] := by
      simp [session, Ne.symm h.1]
    rw [List.append_cons, ih h.2, hx, List.append_assoc, List.singleton_append]

theorem session_sublist (log : List Entry) : (session log).Sublist log := by
  induction log using List.reverseRecOn with
  | nil => exact List.Sublist.refl []
  | append_singleton log x ih =>
    by_cases hx : x = .opened
    · rw [hx, session_opened]
      exact List.nil_sublist _
    · rw [session_append (by simpa using Ne.symm hx)]
      exact ih.append (List.Sublist.refl _)

@[simp] theorem attachmentOf_line (k : Kind) (i pin : ℤ) (wait : ℕ) (reply : JString) :
    attachmentOf (.sent (k.line i pin) wait reply) =
      if reply = (k.line i pin).text then some ⟨k, i, pin⟩ else none := by
  cases k <;> rfl

theorem attachmentOf_plain {line : Line} (h : line.isAttach = false) (wait : ℕ) (reply : JString) :
    attachmentOf (.sent line wait reply) = none := by
  cases line <;> first | rfl | cases h

/-! ### What a change does to pins and devices -/

/-- What a change does to pins and devices: nothing, or all pins are free, or one device is
attached. -/
inductive Books (hw : Hardware) (d e : Device P) : Label → Prop where
  | idle {l : Label} {es : List Entry} (hlog : e.log = d.log ++ es) (hes : attachments es = [])
      (hopened : Entry.opened ∉ es) (hpins : e.digitalPinsAvailable = d.digitalPinsAvailable)
      (hattached : ∀ k, e.attached k = d.attached k) : Books hw d e l
  | opened (hlog : e.log = d.log ++ [.opened]) (hpins : e.digitalPinsAvailable = some hw.digitalPins)
      (hattached : ∀ k, e.attached k = d.attached k) : Books hw d e .opened
  | taken {k : Kind} {i : Fin k.count} {pin : ℤ} {pins : List ℤ} {wait : ℕ}
      (hfree : d.attached k i = false) (hold : d.digitalPinsAvailable = some pins) (hpin : pin ∈ pins)
      (hlog : e.log = d.log ++ [.sent (k.line i pin) wait (k.line i pin).text])
      (hpins : e.digitalPinsAvailable = some (pins.erase pin))
      (hattached : ∀ k' j, e.attached k' j = true ↔ d.attached k' j = true ∨ k' = k ∧ (j : ℕ) = i) :
      Books hw d e .attach

theorem Exchanged.attached {line : Line} {reply : JString} (he : Exchanged port d e line reply)
    (k : Kind) : e.attached k = d.attached k := by
  obtain ⟨-, _, _, rfl⟩ := he
  cases k <;> rfl

theorem Exchanged.pins {line : Line} {reply : JString} (he : Exchanged port d e line reply) :
    e.digitalPinsAvailable = d.digitalPinsAvailable := by
  obtain ⟨-, _, _, rfl⟩ := he
  rfl

/-- A line that attaches nothing. -/
theorem Exchanged.idle {line : Line} {reply : JString} {l : Label} (he : Exchanged port d e line reply)
    (hline : ∀ wait, attachmentOf (.sent line wait reply) = none) {f : Device P} (hlog : f.log = e.log)
    (hpins : f.digitalPinsAvailable = e.digitalPinsAvailable)
    (hattached : ∀ k, f.attached k = e.attached k) :
    Books hw d f l := by
  obtain ⟨wait, hlog'⟩ := he.log
  exact .idle (hlog.trans hlog') (by simp [attachments, hline]) (by simp) (hpins.trans he.pins)
    fun k => (hattached k).trans (he.attached k)

theorem Change.books {l : Label} (h : Change hw port l d e) : Books hw d e l := by
  have hentry : ∀ {f : Device P} {x : Entry}, f.log = d.log ++ [x] → attachmentOf x = none →
      x ≠ .opened → f.digitalPinsAvailable = d.digitalPinsAvailable →
      (∀ k, f.attached k = d.attached k) → Books hw d f l :=
    fun hlog hx hopened hpins hattached =>
      .idle hlog (by simp [attachments, hx]) (by simpa using hopened.symm) hpins hattached
  have hnothing : ∀ {f : Device P}, f.log = d.log → f.digitalPinsAvailable = d.digitalPinsAvailable →
      (∀ k, f.attached k = d.attached k) → Books hw d f l := fun hlog hpins hattached =>
    .idle (hlog.trans (List.append_nil _).symm) rfl (by simp) hpins hattached
  cases h with
  | note => exact hentry rfl rfl (by simp) rfl fun k => by cases k <;> rfl
  | slept => exact hentry rfl rfl (by simp) rfl fun k => by cases k <;> rfl
  | send hplain _ _ _ _ he =>
    exact he.idle (fun w => attachmentOf_plain hplain w _) rfl rfl fun _ => rfl
  | refused _ _ _ hreply he => exact he.idle (fun w => by simp [hreply]) rfl rfl fun _ => rfl
  | attach hfree hpins hpin he =>
    obtain ⟨wait, hlog⟩ := he.log
    refine .taken hfree hpins hpin ((attachedTo_log ..).trans hlog) ?_ fun k' j => ?_
    · rw [attachedTo_digitalPinsAvailable, he.pins, hpins, Option.map_some]
    · rw [attachedTo_attached, he.attached]
  | drive _ _ _ _ hplain _ _ he =>
    exact he.idle (fun w => attachmentOf_plain hplain w _) rfl rfl fun k => by cases k <;> rfl
  | clash _ _ _ _ hplain _ he =>
    exact he.idle (fun w => attachmentOf_plain hplain w _) rfl rfl fun k => by cases k <;> rfl
  | overridden _ hplain _ _ he =>
    exact he.idle (fun w => attachmentOf_plain hplain w _) rfl rfl fun _ => rfl
  | mixer _ _ _ he => exact he.idle (fun w => rfl) rfl rfl fun _ => rfl
  | opened _ => exact .opened rfl rfl fun k => by cases k <;> rfl
  | closed => exact hentry rfl rfl (by simp) rfl fun k => by cases k <;> rfl
  | _ => exact hnothing rfl rfl fun k => by cases k <;> rfl

/-! ### Pins and devices after a run -/

/-- The object agrees with its log. -/
structure Booked (hw : Hardware) (d : Device P) : Prop where
  flags : ∀ k i, d.attached k i = true ↔ ∃ pin, ⟨k, i, pin⟩ ∈ attachments d.log
  once : ((attachments d.log).map fun a => (a.kind, a.number)).Nodup
  known : ∀ a ∈ attachments d.log,
    (0 ≤ a.number ∧ a.number < a.kind.count) ∧ a.pin ∈ hw.digitalPins
  free : ∀ pins, d.digitalPinsAvailable = some pins → pins = hw.digitalPins.diff (takenPins d.log)
  distinct : (takenPins d.log).Nodup
  board : takenPins d.log ⊆ hw.digitalPins

theorem Booked.idle {es : List Entry} (hd : Booked hw d) (hlog : e.log = d.log ++ es)
    (hes : attachments es = []) (hopened : Entry.opened ∉ es)
    (hpins : e.digitalPinsAvailable = d.digitalPinsAvailable)
    (hattached : ∀ k, e.attached k = d.attached k) : Booked hw e := by
  have hsame : attachments e.log = attachments d.log := by
    rw [hlog, attachments_append, hes, List.append_nil]
  have htaken : takenPins e.log = takenPins d.log := by
    rw [takenPins, hlog, session_append hopened, attachments_append, hes, List.append_nil]
    rfl
  exact ⟨fun k i => by rw [hattached, hsame, hd.flags], by rw [hsame]; exact hd.once,
    by rw [hsame]; exact hd.known, by rw [hpins, htaken]; exact hd.free,
    by rw [htaken]; exact hd.distinct,
    by rw [htaken]; exact hd.board⟩

theorem Booked.step {l : Label} (hd : Booked hw d) (h : Books hw d e l) : Booked hw e := by
  cases h with
  | idle hlog hes hopened hpins hattached => exact hd.idle hlog hes hopened hpins hattached
  | opened hlog hpins hattached =>
    have hsame : attachments e.log = attachments d.log := by
      rw [hlog, attachments_append]
      exact List.append_nil _
    have htaken : takenPins e.log = [] := by rw [takenPins, hlog, session_opened]; rfl
    refine ⟨fun k i => by rw [hattached, hsame, hd.flags], by rw [hsame]; exact hd.once,
      by rw [hsame]; exact hd.known, fun pins h => ?_, by rw [htaken]; exact List.nodup_nil,
      by rw [htaken]; exact List.nil_subset _⟩
    rw [hpins] at h
    cases h
    rw [htaken, List.diff_nil]
  | @taken k i pin pins wait hfree hold hpin hlog hpins hattached =>
    have hnew : attachments e.log = attachments d.log ++ [⟨k, i, pin⟩] := by
      rw [hlog, attachments_append]
      simp [attachments]
    have htaken : takenPins e.log = takenPins d.log ++ [pin] := by
      rw [takenPins, hlog, session_append (by simp), attachments_append, List.map_append, takenPins]
      simp [attachments]
    have hdiff := hd.free pins hold
    have hmem : pin ∈ hw.digitalPins ∧ pin ∉ takenPins d.log := by
      rw [hdiff] at hpin
      exact (List.Nodup.mem_sdiff_iff hw.digital_nodup).1 hpin
    -- the device was free, so that its number is new
    have hkey : ∀ a ∈ attachments d.log, (a.kind, a.number) ≠ (k, (i : ℤ)) := by
      rintro ⟨k', n, p⟩ ha heq
      simp only [Prod.mk.injEq] at heq
      obtain ⟨rfl, rfl⟩ := heq
      rw [(hd.flags _ i).2 ⟨p, ha⟩] at hfree
      cases hfree
    refine ⟨fun k' j => ?_, ?_, ?_, fun pins' h => ?_, ?_, ?_⟩
    · rw [hattached, hd.flags, hnew]
      simp only [List.mem_append, List.mem_singleton, exists_or, Attachment.mk.injEq]
      refine or_congr_right ⟨fun ⟨hk, hj⟩ => ⟨pin, hk, by rw [hj], rfl⟩, fun ⟨_, hk, hj, _⟩ => ?_⟩
      exact ⟨hk, by omega⟩
    · rw [hnew, List.map_append, List.nodup_append]
      refine ⟨hd.once, List.nodup_singleton _, fun a ha b hb => ?_⟩
      obtain ⟨a', ha', rfl⟩ := List.mem_map.1 ha
      rw [List.mem_singleton.1 hb]
      exact hkey a' ha'
    · rw [hnew]
      intro a ha
      rcases List.mem_append.1 ha with ha | ha
      · exact hd.known a ha
      · rw [List.mem_singleton.1 ha]
        exact ⟨⟨Int.natCast_nonneg _, Int.ofNat_lt.2 i.isLt⟩, hmem.1⟩
    · rw [hpins] at h
      cases h
      rw [htaken, hdiff, List.diff_append]
      rw [List.diff_cons, List.diff_nil]
    · rw [htaken, List.nodup_append]
      exact ⟨hd.distinct, List.nodup_singleton _, fun a ha b hb => by
        rw [List.mem_singleton.1 hb]
        rintro rfl
        exact hmem.2 ha⟩
    · rw [htaken]
      exact List.append_subset.2 ⟨hd.board, by simpa using hmem.1⟩

theorem booked {cond : Call → Device P → Prop} {p : P} {calls : List Call}
    (h : Runs hw port cond calls (new p) d) : Booked hw d :=
  h.keeps (L := fun _ => True) (fun _ _ _ _ _ _ => trivial) (fun _ _ _ _ hstep hd => hd.step hstep.books)
    ⟨rfl, rfl, rfl⟩
    ⟨fun k i => by cases k <;> simp [new, attached, attachments], List.nodup_nil, by simp [new, attachments],
      fun _ h => (by cases h), List.nodup_nil, List.nil_subset _⟩

/-- **No device is attached twice.**  In any run, also over several connections, the devices
that have been attached are all different, and the flags are theirs. -/
theorem attached_once {cond : Call → Device P → Prop} {p : P} {calls : List Call}
    (h : Runs hw port cond calls (new p) d) :
    ((attachments d.log).map fun a => (a.kind, a.number)).Nodup ∧
      ∀ k i, d.attached k i = true ↔ ∃ pin, ⟨k, i, pin⟩ ∈ attachments d.log :=
  ⟨(booked h).once, (booked h).flags⟩

/-- A motor is attached, and cannot be attached again. -/
def oneMotor : Device JString :=
  played arduinoUno echo [.connect, .attachMotor 0 5, .attachMotor 0 6] (new [])

theorem runs_oneMotor : Runs arduinoUno echo (fun _ _ => True)
    [.connect, .attachMotor 0 5, .attachMotor 0 6] (new []) oneMotor :=
  runs_played (fun _ _ _ => trivial) (by decide +kernel)

theorem attached_once_played :
    ((attachments oneMotor.log).map fun a => (a.kind, a.number)).Nodup ∧
      ∀ k i, oneMotor.attached k i = true ↔ ∃ pin, ⟨k, i, pin⟩ ∈ attachments oneMotor.log :=
  attached_once runs_oneMotor

/-- All devices. -/
def devices : List (Kind × ℤ) :=
  [(.motor, 0), (.motor, 1), (.motor, 2), (.motor, 3), (.servo, 0), (.servo, 1), (.servo, 2)]

theorem mem_devices {k : Kind} {n : ℤ} (h : 0 ≤ n ∧ n < k.count) : (k, n) ∈ devices := by
  cases k with
  | motor =>
    have : n = 0 ∨ n = 1 ∨ n = 2 ∨ n = 3 := by change 0 ≤ n ∧ n < (4 : ℕ) at h; omega
    rcases this with rfl | rfl | rfl | rfl <;> decide
  | servo =>
    have : n = 0 ∨ n = 1 ∨ n = 2 := by change 0 ≤ n ∧ n < (3 : ℕ) at h; omega
    rcases this with rfl | rfl | rfl <;> decide

/-- At most seven devices have been attached. -/
theorem Booked.length_le (h : Booked hw d) : (attachments d.log).length ≤ 7 := by
  have hsub : ((attachments d.log).map fun a => (a.kind, a.number)) ⊆ devices := by
    intro key hkey
    obtain ⟨a, ha, rfl⟩ := List.mem_map.1 hkey
    exact mem_devices (h.known a ha).1
  have := (List.Nodup.subperm h.once hsub).length_le
  rwa [List.length_map] at this

theorem Booked.length_takenPins (h : Booked hw d) : (takenPins d.log).length ≤ 7 := by
  rw [takenPins, List.length_map]
  exact (((session_sublist d.log).filterMap attachmentOf).length_le).trans h.length_le

/-- Taking entries out of a list makes it shorter by at most as many. -/
theorem length_le_length_diff {α : Type} [DecidableEq α] (l t : List α) :
    l.length - t.length ≤ (l.diff t).length := by
  induction t generalizing l with
  | nil => rw [List.diff_nil, List.length_nil, Nat.sub_zero]
  | cons a t ih =>
    rw [List.diff_cons, List.length_cons]
    have := ih (l.erase a)
    have := List.le_length_erase (l := l) (a := a)
    omega

/-- **The free pins are those that have not been taken.**  In any run the free pins are the pins
of the board without the ones taken since the connection was opened, which are different pins
of the board; all but seven pins stay free. -/
theorem free_pins {cond : Call → Device P → Prop} {p : P} {calls : List Call} {pins : List ℤ}
    (h : Runs hw port cond calls (new p) d) (hpins : d.digitalPinsAvailable = some pins) :
    (takenPins d.log).Nodup ∧ takenPins d.log ⊆ hw.digitalPins ∧
      pins = hw.digitalPins.diff (takenPins d.log) ∧ hw.digitalPins.length - 7 ≤ pins.length := by
  have hd := booked h
  refine ⟨hd.distinct, hd.board, hd.free pins hpins, ?_⟩
  have := length_le_length_diff hw.digitalPins (takenPins d.log)
  rw [← hd.free pins hpins] at this
  have := hd.length_takenPins
  omega

theorem free_pins_played :
    (takenPins oneMotor.log).Nodup ∧ takenPins oneMotor.log ⊆ arduinoUno.digitalPins ∧
      [4, 6, 7, 8, 9, 10, 11, 12, 13] = arduinoUno.digitalPins.diff (takenPins oneMotor.log) ∧
      arduinoUno.digitalPins.length - 7 ≤ 9 :=
  free_pins runs_oneMotor (by decide +kernel)

/-! ### Connecting again -/

/-- What a refresh changes: the cache has an entry for each pin then. -/
theorem wp_refresh {available : Device P → Option (List ℤ)} {store : List ℤ → Device P → Device P}
    {line : Line} {values : ℕ → JString → List ℤ × Option ApiError} {method : String} {pins : List ℤ}
    (hpins : available d = some pins) (hlen : ∀ n reply, (values n reply).1.length = n)
    (hstore : ∀ c c' p l b, store c { store c' d with port := p, log := l, attemptTryAgain := b } =
      { store c d with port := p, log := l, attemptTryAgain := b }) :
    wp (refresh port turns available store line values method)
      (fun _ e => ∃ p l b cache, cache.length = pins.length ∧
        e = { store cache d with port := p, log := l, attemptTryAgain := b })
      (fun s _ => s = .blocks) d := by
  unfold refresh
  rw [wp_bind, wp_get, hpins, wp_bind, nonNull, wp_lift_ok, wp_bind, wp_modify, wp_bind, wp_get]
  refine wp_guarded (fun c hc f hf => ?_)
    (fun c _ _ => ⟨_, _, _, _, List.length_replicate .., rfl⟩) fun _ => ?_
  · rw [List.mem_singleton.1 hc] at hf
    cases hf
  · rw [wp_bind]
    refine wp_mono (wp_ask_frame _) (fun reply e he => ?_) fun _ _ he => he
    obtain ⟨p, l, rfl⟩ := he
    rw [wp_bind, wp_modify, hstore]
    cases (values pins.length reply).2 <;> exact ⟨_, _, _, _, hlen _ _, rfl⟩

/-- What `refreshAnalogPins` changes. -/
theorem wp_refreshAnalogPins {pins : List ℤ} (hpins : d.analogPinsAvailable = some pins) :
    wp (refreshAnalogPins port turns)
      (fun _ e => ∃ p l b cache, cache.length = pins.length ∧
        e = { d with analogPinCache := some cache, port := p, log := l, attemptTryAgain := b })
      (fun s _ => s = .blocks) d :=
  wp_refresh hpins RXTXRobot.length_analogValues fun _ _ _ _ _ => rfl

theorem wp_connect (hc : d.connected = false) :
    wp (connect hw port turns) (fun _ e => e.connected = true ∧
      e.digitalPinsAvailable = some hw.digitalPins ∧ e.digitalPinCache = d.digitalPinCache ∧
      ∀ k, e.attached k = d.attached k) (fun s _ => s = .blocks) d := by
  unfold connect
  rw [wp_bind, wp_get]
  refine wp_ite (fun h => absurd (h.symm.trans hc) (by simp)) fun _ => ?_
  simp only [wp_bind, wp_sleep, wp_modify]
  refine wp_mono (wp_refreshAnalogPins rfl) (fun _ e he => ?_) fun _ _ he => he
  obtain ⟨p, l, b, c, -, rfl⟩ := he
  exact ⟨rfl, rfl, rfl, fun k => by cases k <;> rfl⟩

/-- The method that attaches a device. -/
def Kind.attachCall : Kind → ℤ → ℤ → Call
  | .motor => .attachMotor
  | .servo => .attachServo

/-- A device that is not attached yet is put on a free pin: its line is sent, and if that comes
back, the device is attached. -/
theorem wp_attach {k : Kind} {i : Fin k.count} {pin : ℤ} {pins : List ℤ} {method : String} {wait : ℕ}
    (hc : d.connected = true) (hfree : d.attached k i = false)
    (hpins : d.digitalPinsAvailable = some pins) (hpin : pin ∈ pins) :
    wp (attach port turns k method wait i pin)
      (fun _ e => ∃ wait reply rest, e.log = d.log ++ .sent (k.line i pin) wait reply :: rest ∧
        (reply = (k.line i pin).text →
          ∀ k' j, e.attached k' j = true ↔ d.attached k' j = true ∨ k' = k ∧ (j : ℕ) = i))
      (fun s _ => s = .blocks) d := by
  have hi := index_eq_ok.2 (rfl : (i : ℤ) = i)
  unfold attach ask
  rw [wp_bind, wp_get]
  refine wp_guarded_pass ?_ ?_
  · simp only [forall_check, notConnected_bad, hi, hpins, nonNull, Except.map, hfree]
    have hrange : outside 0 (k.count - 1) i = false := outside_eq_false.2 ⟨by omega, by omega⟩
    exact ⟨hc, by rw [hrange], trivial, by simpa using hpin, by simp⟩
  rw [wp_bind, wp_bind, wp_setAttemptTryAgain, wp_bind]
  refine wp_sendRaw hc (fun reply e errors he _ => ?_) fun _ _ _ _ => rfl
  obtain ⟨-, wait, _, rfl⟩ := he
  rw [wp_bind, wp_setAttemptTryAgain, wp_pure]
  refine wp_ite (fun hne => ?_) fun heq => ?_
  · refine ⟨wait, reply, errors ++ [.error ("Invalid response from the arduino: " ++ shown reply)
      (some method)], ?_, fun h => absurd h hne⟩
    show d.log ++ [.sent (k.line i pin) wait reply] ++ errors ++ [_] = _
    simp
  · rw [wp_bind, hi, wp_lift_ok, wp_modify]
    refine ⟨wait, reply, errors, ?_, fun _ k' j => ?_⟩
    · rw [attachedTo_log]
      exact List.append_assoc ..
    · rw [attachedTo_attached]
      cases k' <;> rfl

theorem wp_attachCall {k : Kind} {i : Fin k.count} {pin : ℤ} {pins : List ℤ} (hc : d.connected = true)
    (hfree : d.attached k i = false) (hpins : d.digitalPinsAvailable = some pins) (hpin : pin ∈ pins) :
    wp ((k.attachCall i pin).run hw port turns)
      (fun _ e => ∃ wait reply rest, e.log = d.log ++ .sent (k.line i pin) wait reply :: rest ∧
        (reply = (k.line i pin).text →
          ∀ k' j, e.attached k' j = true ↔ d.attached k' j = true ∨ k' = k ∧ (j : ℕ) = i))
      (fun s _ => s = .blocks) d := by
  cases k with
  | motor => exact wp_attach hc hfree hpins hpin
  | servo => exact wp_attach hc hfree hpins hpin

/-- **Connecting again frees pins that are in use.**  A device that has been attached in an
earlier connection stays attached, and its pin is free again.  Another device can be put on it:
the line is sent, and if it comes back, both devices are attached. -/
theorem reconnect_frees {cond : Call → Device P → Prop} {p : P} {calls : List Call} {k : Kind}
    {i : Fin k.count} (h : Runs hw port cond calls (new p) d) (hc : d.connected = false)
    (hi : d.attached k i = true) (hconnect : Call.connect.Ends hw port d e) :
    e.attached k i = true ∧ ∃ pin pins, ⟨k, i, pin⟩ ∈ attachments e.log ∧
      e.digitalPinsAvailable = some pins ∧ pin ∈ pins ∧
      ∀ (k' : Kind) (i' : Fin k'.count) (f : Device P), e.attached k' i' = false →
        (k'.attachCall i' pin).Ends hw port e f →
        ∃ wait reply rest, f.log = e.log ++ .sent (k'.line i' pin) wait reply :: rest ∧
          (reply = (k'.line i' pin).text → f.attached k' i' = true ∧ f.attached k i = true) := by
  obtain ⟨hopen, hpins, -, hattached⟩ := hconnect.of_wp fun turns => wp_connect hc
  have hrun : Runs hw port (fun _ _ => True) (calls ++ [.connect]) (new p) e :=
    (h.mono fun _ _ _ => trivial).concat trivial hconnect
  have he := booked hrun
  have hflag : e.attached k i = true := by rw [hattached, hi]
  obtain ⟨pin, hpin⟩ := (he.flags k i).1 hflag
  have hboard : pin ∈ hw.digitalPins := (he.known _ hpin).2
  refine ⟨hflag, pin, hw.digitalPins, hpin, hpins, hboard, fun k' i' f hfree hattach => ?_⟩
  obtain ⟨wait, reply, rest, hlog, hflags⟩ :=
    hattach.of_wp fun turns => wp_attachCall hopen hfree hpins hboard
  refine ⟨wait, reply, rest, hlog, fun hreply => ?_⟩
  exact ⟨(hflags hreply k' i').2 (.inr ⟨rfl, rfl⟩), (hflags hreply k i).2 (.inl hflag)⟩

/-- Closed after a motor has been attached. -/
def closedMotor : Device JString := played arduinoUno echo [.connect, .attachMotor 0 5, .close] (new [])

/-- Connected again. -/
def motorAgain : Device JString := played arduinoUno echo [.connect] closedMotor

/-- A servo is put on the pin of the motor. -/
theorem reconnect_frees_played :
    attachments (played arduinoUno echo [.attachServo 1 5] motorAgain).log =
        [⟨.motor, 0, 5⟩, ⟨.servo, 1, 5⟩] ∧
      motorAgain.attached .motor (0 : Fin 4) = true ∧
      ∃ pin pins, ⟨.motor, 0, pin⟩ ∈ attachments motorAgain.log ∧
        motorAgain.digitalPinsAvailable = some pins ∧ pin ∈ pins ∧
        ∀ (k' : Kind) (i' : Fin k'.count) (f : Device JString), motorAgain.attached k' i' = false →
          (k'.attachCall i' pin).Ends arduinoUno echo motorAgain f →
          ∃ wait reply rest, f.log = motorAgain.log ++ .sent (k'.line i' pin) wait reply :: rest ∧
            (reply = (k'.line i' pin).text →
              f.attached k' i' = true ∧ f.attached .motor (0 : Fin 4) = true) := by
  have hrun : Runs arduinoUno echo (fun _ _ => True) [.connect, .attachMotor 0 5, .close] (new [])
      closedMotor := runs_played (fun _ _ _ => trivial) (by decide +kernel)
  have hconnect : Call.connect.Ends arduinoUno echo closedMotor motorAgain :=
    ends_played (by decide +kernel)
  refine ⟨by decide +kernel, ?_⟩
  exact reconnect_frees (k := .motor) (i := (0 : Fin 4)) hrun (by decide +kernel) (by decide +kernel)
    hconnect

end Device
end ExeRobot
