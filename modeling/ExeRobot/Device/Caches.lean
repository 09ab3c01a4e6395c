/-
# Cached pins

`getAnalogPin` and `getDigitalPin` read a cache that is filled for all free pins at once,
and look a pin up by its place among the free pins.  The analog pins never change, so an
analog pin always gets its own entry (`getAnalogPin_own`).  The digital pins do: when a
device is attached its pin is taken out and the entries stay.  A later reading is the
entry at the new place of the pin, and this is its own entry exactly when no pin before
it has been taken since (`getDigitalPin_entry`).  After `close()` and `connect()` all
pins are back and the cache may be too short for them (`getDigitalPin_throws`).
-/

import ExeRobot.Device.Pins

namespace ExeRobot
namespace Device

open Persistent Labelled

variable {P : Type} {hw : Hardware} {port : Port P} {turns : ℕ} {d e : Device P}

/-! ### Places in a list and in a part of it -/

/-- The place of an entry in a part of a list is at most its place in the list, and the same
exactly when everything before it is still there. -/
theorem idxOf_sublist {α : Type} [DecidableEq α] {l l' : List α} (h : l'.Sublist l) (hl : l.Nodup)
    {x : α} (hx : x ∈ l') :
    l'.idxOf x ≤ l.idxOf x ∧ (l'.idxOf x = l.idxOf x ↔ ∀ y ∈ l.take (l.idxOf x), y ∈ l') := by
  induction h with
  | slnil => cases hx
  | @cons l' l a h ih =>
    obtain ⟨ha, hl⟩ := List.nodup_cons.1 hl
    have hxa : a ≠ x := by
      rintro rfl
      exact ha (h.subset hx)
    have hle := (ih hl hx).1
    rw [List.idxOf_cons_ne _ hxa]
    refine ⟨by omega, fun heq => by omega, fun hall => ?_⟩
    exact absurd (h.subset (hall a (List.mem_cons_self ..))) ha
  | @cons_cons l' l a h ih =>
    obtain ⟨ha, hl⟩ := List.nodup_cons.1 hl
    by_cases hxa : a = x
    · rw [hxa, List.idxOf_cons_self, List.idxOf_cons_self]
      simp
    · have hx : x ∈ l' := (List.mem_cons.1 hx).resolve_left (Ne.symm hxa)
      obtain ⟨hle, hiff⟩ := ih hl hx
      rw [List.idxOf_cons_ne _ hxa, List.idxOf_cons_ne _ hxa, List.take_succ_cons]
      refine ⟨by omega, ?_⟩
      rw [Nat.succ_inj, hiff, List.forall_mem_cons]
      refine ⟨fun hall => ⟨List.mem_cons_self .., fun y hy => List.mem_cons_of_mem _ (hall y hy)⟩,
        fun hall y hy => (List.mem_cons.1 (hall.2 y hy)).resolve_left ?_⟩
      rintro rfl
      exact ha (List.mem_of_mem_take hy)

/-! ### The entry of a pin -/

theorem pinEntry_ok {pins cache : List ℤ} {x v : ℤ} {noun method : String} (hx : x ∈ pins)
    (hv : cache[pins.idxOf x]? = some v) :
    pinEntry (some pins) (some cache) x noun method d = .ok (some v) d := by
  unfold pinEntry
  show (if x ∈ pins then lift (entry cache (pins.idxOf x)) >>= fun v => pure (some v) else _ :
    Act P (Option ℤ)) d = _
  rw [if_pos hx, entry, hv]
  rfl

theorem pinEntry_error {pins cache : List ℤ} {x : ℤ} {noun method : String} (hx : x ∈ pins)
    (hv : cache.length ≤ pins.idxOf x) :
    pinEntry (some pins) (some cache) x noun method d = .error .indexOutOfBounds d := by
  unfold pinEntry
  show (if x ∈ pins then lift (entry cache (pins.idxOf x)) >>= fun v => pure (some v) else _ :
    Act P (Option ℤ)) d = _
  rw [if_pos hx, entry, List.getElem?_eq_none hv]
  rfl

/-- With a cache, `getAnalogPin` sends nothing. -/
theorem getAnalogPin_cached {pins cache : List ℤ} {x : ℤ} (hpins : d.analogPinsAvailable = some pins)
    (hcache : d.analogPinCache = some cache) :
    getAnalogPin port turns x d = pinEntry (some pins) (some cache) x "Analog" "getAnalogPin" d := by
  unfold getAnalogPin
  rw [run_bind_get, hcache, if_neg (by simp)]
  show pinEntry d.analogPinsAvailable d.analogPinCache x _ _ d = _
  rw [hpins, hcache]

/-- With a cache, `getDigitalPin` sends nothing. -/
theorem getDigitalPin_cached {pins cache : List ℤ} {x : ℤ} (hpins : d.digitalPinsAvailable = some pins)
    (hcache : d.digitalPinCache = some cache) :
    getDigitalPin port turns x d = pinEntry (some pins) (some cache) x "Digital" "getDigitalPin" d := by
  unfold getDigitalPin
  rw [run_bind_get, hcache, if_neg (by simp)]
  show pinEntry d.digitalPinsAvailable d.digitalPinCache x _ _ d = _
  rw [hpins, hcache]

/-! ### Analog pins -/

/-- The analog pins are those of the board, and the cache has an entry for each. -/
structure Aligned (hw : Hardware) (d : Device P) : Prop where
  pins : ∀ pins, d.analogPinsAvailable = some pins → pins = hw.analogPins
  cache : ∀ cache, d.analogPinCache = some cache →
    d.analogPinsAvailable = some hw.analogPins ∧ cache.length = hw.analogPins.length

theorem Change.aligned {l : Label} (h : Change hw port l d e) (hd : Aligned hw d) : Aligned hw e := by
  have hexchanged : ∀ {e : Device P} {line : Line} {reply : JString}, Exchanged port d e line reply →
      Aligned hw e := by
    rintro e line reply ⟨-, _, _, rfl⟩
    exact ⟨hd.pins, hd.cache⟩
  cases h with
  | send _ _ _ _ _ he => exact hexchanged he
  | refused _ _ _ _ he => exact hexchanged he
  | attach _ _ _ he =>
    obtain ⟨hpins, hcache⟩ := hexchanged he
    refine ⟨by rwa [attachedTo_analogPinsAvailable], ?_⟩
    rwa [attachedTo_analogPinCache, attachedTo_analogPinsAvailable]
  | drive _ _ _ _ _ _ _ he => exact ⟨(hexchanged he).pins, (hexchanged he).cache⟩
  | clash _ _ _ _ _ _ he => exact ⟨(hexchanged he).pins, (hexchanged he).cache⟩
  | overridden _ _ _ _ he => exact hexchanged he
  | mixer _ _ _ he => exact hexchanged he
  | analog hpins hlen =>
    refine ⟨hd.pins, fun cache hcache => ?_⟩
    cases hcache
    rw [hlen, hpins, hd.pins _ hpins]
    exact ⟨rfl, rfl⟩
  | opened _ =>
    exact ⟨fun pins hpins => by cases hpins; rfl, fun cache hcache => ⟨rfl, (hd.cache cache hcache).2⟩⟩
  | _ => exact ⟨hd.pins, hd.cache⟩

theorem aligned {cond : Call → Device P → Prop} {p : P} {calls : List Call}
    (h : Runs hw port cond calls (new p) d) : Aligned hw d := by
  have hnew : Aligned hw (new p) := ⟨fun _ h => (by cases h), fun _ h => (by cases h)⟩
  exact h.keeps (L := fun _ => True) (fun _ _ _ _ _ _ => trivial) (fun _ _ _ _ hstep => hstep.aligned)
    ⟨rfl, rfl, rfl⟩ hnew

/-- **An analog pin gets its own entry.**  In any run that has filled the cache, also over several
connections and while there is none, every analog pin of the board reads the entry at its place,
and nothing is sent or thrown. -/
theorem getAnalogPin_own {cond : Call → Device P → Prop} {p : P} {calls : List Call} {cache : List ℤ}
    {x : ℤ} (h : Runs hw port cond calls (new p) d) (hcache : d.analogPinCache = some cache)
    (hx : x ∈ hw.analogPins) :
    ∃ v, cache[hw.analogPins.idxOf x]? = some v ∧ getAnalogPin port turns x d = .ok (some v) d := by
  obtain ⟨hpins, hlen⟩ := (aligned h).cache cache hcache
  have hlt : hw.analogPins.idxOf x < cache.length := by
    rw [hlen]
    exact List.idxOf_lt_length_iff.2 hx
  refine ⟨cache[hw.analogPins.idxOf x], List.getElem?_eq_getElem hlt, ?_⟩
  rw [getAnalogPin_cached hpins hcache]
  exact pinEntry_ok hx (List.getElem?_eq_getElem hlt)

/-- The values of the six analog pins. -/
def sixValues : JString := jstr ['a', ' ', '7', ' ', '1', '5', ' ', '0', ' ', '4', '0', ' ', '2', ' ', '9']

/-- Connected to a board with these values. -/
def sampled : Device JString := played arduinoUno (answering sixValues) [.connect] (new [])

/-- The pin 3 is the fourth. -/
theorem getAnalogPin_own_played :
    sampled.analogPinCache = some [7, 15, 0, 40, 2, 9] ∧
      getAnalogPin (answering sixValues) 0 3 sampled = .ok (some 40) sampled := by
  have hcache : sampled.analogPinCache = some [7, 15, 0, 40, 2, 9] := by decide +kernel
  have hrun : Runs arduinoUno (answering sixValues) (fun _ _ => True) [.connect] (new []) sampled :=
    runs_played (fun _ _ _ => trivial) (by decide +kernel)
  have hpin : (3 : ℤ) ∈ arduinoUno.analogPins := by decide
  obtain ⟨v, hv, hread⟩ := getAnalogPin_own hrun hcache hpin
  cases hv
  exact ⟨hcache, hread⟩

/-! ### Digital pins -/

/-- What `refreshDigitalPins` changes. -/
theorem wp_refreshDigitalPins {pins : List ℤ} (hpins : d.digitalPinsAvailable = some pins) :
    wp (refreshDigitalPins port turns)
      (fun _ e => ∃ p l b cache, cache.length = pins.length ∧
        e = { d with digitalPinCache := some cache, port := p, log := l, attemptTryAgain := b })
      (fun s _ => s = .blocks) d :=
  wp_refresh hpins RXTXRobot.length_digitalValues fun _ _ _ _ _ => rfl

/-- The cache is still the one that was filled for the pins `pins`, and pins have only been
taken since. -/
def Filled (pins cache : List ℤ) (d : Device P) : Prop :=
  d.digitalPinCache = some cache ∧ ∃ now, d.digitalPinsAvailable = some now ∧ now.Sublist pins

theorem Change.filled {l : Label} {pins cache : List ℤ} (hopened : l ≠ .opened)
    (hdigital : l ≠ .digital) (h : Change hw port l d e) (hd : Filled pins cache d) : Filled pins cache e := by
  have hexchanged : ∀ {e : Device P} {line : Line} {reply : JString}, Exchanged port d e line reply →
      Filled pins cache e := by
    rintro e line reply ⟨-, _, _, rfl⟩
    exact hd
  cases h with
  | send _ _ _ _ _ he => exact hexchanged he
  | refused _ _ _ _ he => exact hexchanged he
  | @attach _ _ k i pin _ _ _ _ he =>
    obtain ⟨hcache, now, hnow, hsub⟩ := hexchanged he
    refine ⟨by rwa [attachedTo_digitalPinCache], now.erase pin, ?_, List.erase_sublist.trans hsub⟩
    rw [attachedTo_digitalPinsAvailable, hnow, Option.map_some]
  | drive _ _ _ _ _ _ _ he => exact ⟨(hexchanged he).1, (hexchanged he).2⟩
  | clash _ _ _ _ _ _ he => exact ⟨(hexchanged he).1, (hexchanged he).2⟩
  | overridden _ _ _ _ he => exact hexchanged he
  | mixer _ _ _ he => exact hexchanged he
  | opened _ => exact absurd rfl hopened
  | digital _ _ => exact absurd rfl hdigital
  | _ => exact hd

/-- A call that neither opens the connection nor fills the cache of the digital pins. -/
def Call.keepsCache (call : Call) : Prop := call ≠ .connect ∧ call ≠ .refreshDigitalPins

/-- After `refreshDigitalPins` in `d` and calls that keep the cache. -/
theorem filled {d' : Device P} {cond : Call → Device P → Prop} {p : P} {calls calls' : List Call}
    {pins : List ℤ} (h : Runs hw port cond calls (new p) d) (hpins : d.digitalPinsAvailable = some pins)
    (hrefresh : Call.refreshDigitalPins.Ends hw port d d')
    (hrun : Runs hw port (fun call _ => call.keepsCache) calls' d' e) :
    ∃ cache, cache.length = pins.length ∧ d'.digitalPinCache = some cache ∧ Filled pins cache e := by
  obtain ⟨q, l, b, cache, hlen, rfl⟩ := hrefresh.of_wp fun turns => wp_refreshDigitalPins hpins
  refine ⟨cache, hlen, rfl, ?_⟩
  refine hrun.keeps (L := fun l => l ≠ .opened ∧ l ≠ .digital) (I := Filled pins cache) ?_
    (fun l d e hl hstep => hstep.filled hl.1 hl.2) (hrefresh.quiet (h.quiet ⟨rfl, rfl, rfl⟩))
    ⟨rfl, pins, hpins, List.Sublist.refl _⟩
  rintro call d l ⟨hconnect, hnot⟩ ⟨hcache, -⟩ hmay
  refine ⟨?_, ?_⟩
  · rintro rfl
    exact hconnect hmay
  · rintro rfl
    rcases hmay with hcall | ⟨hnone, -⟩
    · exact hnot hcall
    · rw [hcache] at hnone
      cases hnone

/-- **A digital pin may get the entry of another pin.**  Once the cache has been filled, and until
it is filled again or the connection is opened again, a free pin reads the entry at its place among
the pins that are still free.  This is its own entry exactly when no pin before it has been taken. -/
theorem getDigitalPin_entry {d' : Device P} {cond : Call → Device P → Prop} {p : P}
    {calls calls' : List Call} {pins now : List ℤ} {x : ℤ} (h : Runs hw port cond calls (new p) d)
    (hpins : d.digitalPinsAvailable = some pins) (hrefresh : Call.refreshDigitalPins.Ends hw port d d')
    (hrun : Runs hw port (fun call _ => call.keepsCache) calls' d' e)
    (hnow : e.digitalPinsAvailable = some now) (hx : x ∈ now) :
    ∃ cache v, d'.digitalPinCache = some cache ∧ cache.length = pins.length ∧
      cache[now.idxOf x]? = some v ∧ getDigitalPin port turns x e = .ok (some v) e ∧
      (now.idxOf x = pins.idxOf x ↔ ∀ y ∈ pins.take (pins.idxOf x), y ∈ now) := by
  obtain ⟨cache, hlen, hcache, hstill, now', hnow', hsub⟩ := filled h hpins hrefresh hrun
  rw [hnow] at hnow'
  cases hnow'
  have hnodup : pins.Nodup := by
    rw [(booked h).free pins hpins]
    exact hw.digital_nodup.diff
  obtain ⟨hle, hiff⟩ := idxOf_sublist hsub hnodup hx
  have hlt : now.idxOf x < cache.length := by
    have := List.idxOf_lt_length_iff.2 (hsub.subset hx)
    omega
  refine ⟨cache, cache[now.idxOf x], hcache, hlen, List.getElem?_eq_getElem hlt, ?_, hiff⟩
  rw [getDigitalPin_cached hnow hstill]
  exact pinEntry_ok hx (List.getElem?_eq_getElem hlt)

/-- The cache is filled with a motor attached. -/
def refreshed : Device JString := played arduinoUno echo [.refreshDigitalPins] oneMotor

theorem refreshed_ends : Call.refreshDigitalPins.Ends arduinoUno echo oneMotor refreshed :=
  ends_played (by decide +kernel)

theorem oneMotor_pins : oneMotor.digitalPinsAvailable = some [4, 6, 7, 8, 9, 10, 11, 12, 13] := by
  decide +kernel

/-- A servo takes a pin after that. -/
def servoTaken : Device JString := played arduinoUno echo [.attachServo 0 8] refreshed

theorem getDigitalPin_entry_played :
    ∃ cache v, refreshed.digitalPinCache = some cache ∧ cache.length = 9 ∧
    cache[[4, 6, 7, 9, 10, 11, 12, 13].idxOf 9]? = some v ∧
    getDigitalPin echo 0 9 servoTaken = .ok (some v) servoTaken ∧
    ([4, 6, 7, 9, 10, 11, 12, 13].idxOf 9 = [4, 6, 7, 8, 9, 10, 11, 12, 13].idxOf 9 ↔
      ∀ y ∈ [4, 6, 7, 8, 9, 10, 11, 12, 13].take ([4, 6, 7, 8, 9, 10, 11, 12, 13].idxOf 9),
        y ∈ ([4, 6, 7, 9, 10, 11, 12, 13] : List ℤ)) := by
  have hrun : Runs arduinoUno echo (fun call _ => call.keepsCache) [.attachServo 0 8] refreshed
      servoTaken :=
    runs_played (by simp [Call.keepsCache]) (by decide +kernel)
  have hnow : servoTaken.digitalPinsAvailable = some [4, 6, 7, 9, 10, 11, 12, 13] := by decide +kernel
  exact getDigitalPin_entry runs_oneMotor oneMotor_pins refreshed_ends hrun hnow
    (show (9 : ℤ) ∈ [4, 6, 7, 9, 10, 11, 12, 13] by decide)

/-- **After connecting again the cache may be too short.**  The cache is not filled anew, and all
pins are free again: a pin reads the entry at its place among all pins of the board, and the
method throws for the pins beyond the number of pins that were free when the cache was filled. -/
theorem getDigitalPin_throws {d' d'' : Device P} {cond : Call → Device P → Prop} {p : P}
    {calls calls' : List Call} {pins : List ℤ} {x : ℤ} (h : Runs hw port cond calls (new p) d)
    (hpins : d.digitalPinsAvailable = some pins) (hrefresh : Call.refreshDigitalPins.Ends hw port d d')
    (hrun : Runs hw port (fun call _ => call.keepsCache) calls' d' d'')
    (hclosed : d''.connected = false) (hconnect : Call.connect.Ends hw port d'' e) (hx : x ∈ hw.digitalPins) :
    ∃ cache, d'.digitalPinCache = some cache ∧ cache.length = pins.length ∧
      (pins.length ≤ hw.digitalPins.idxOf x →
        getDigitalPin port turns x e = .error .indexOutOfBounds e) ∧
      ∀ v, cache[hw.digitalPins.idxOf x]? = some v → getDigitalPin port turns x e = .ok (some v) e := by
  obtain ⟨cache, hlen, hcache, hstill, -⟩ := filled h hpins hrefresh hrun
  obtain ⟨-, hall, hsame, -⟩ := hconnect.of_wp fun turns => wp_connect hclosed
  rw [hstill] at hsame
  refine ⟨cache, hcache, hlen, fun hle => ?_, fun v hv => ?_⟩
  · rw [getDigitalPin_cached hall hsame]
    exact pinEntry_error hx (hlen.le.trans hle)
  · rw [getDigitalPin_cached hall hsame]
    exact pinEntry_ok hx hv

/-- Closed after the cache has been filled with a motor attached. -/
def closedAfter : Device JString := played arduinoUno echo [.close] refreshed

/-- Connected again. -/
def reconnected : Device JString := played arduinoUno echo [.connect] closedAfter

theorem getDigitalPin_throws_played :
    ∃ cache, refreshed.digitalPinCache = some cache ∧ cache.length = 9 ∧
    (9 ≤ arduinoUno.digitalPins.idxOf 13 →
      getDigitalPin echo 0 13 reconnected = .error .indexOutOfBounds reconnected) ∧
    ∀ v, cache[arduinoUno.digitalPins.idxOf 13]? = some v →
      getDigitalPin echo 0 13 reconnected = .ok (some v) reconnected := by
  have hrun : Runs arduinoUno echo (fun call _ => call.keepsCache) [.close] refreshed closedAfter :=
    runs_played (by simp [Call.keepsCache]) (by decide +kernel)
  have hconnect : Call.connect.Ends arduinoUno echo closedAfter reconnected :=
    ends_played (by decide +kernel)
  exact getDigitalPin_throws runs_oneMotor oneMotor_pins refreshed_ends hrun (by decide +kernel)
    hconnect
    (show 13 ∈ arduinoUno.digitalPins by decide)

end Device
end ExeRobot
