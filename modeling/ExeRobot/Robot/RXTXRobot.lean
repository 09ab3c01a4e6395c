/-
# The robot API: `RXTXRobot`

The methods of `RXTXRobot.java` that an `EXERobot` calls, and those they call, on
the state an `ArduinoUno` object keeps.  What is at the other end of the serial
port is a `Link`: a state, what a write of a line followed by a read answers, and
what the passing of time does.  The bodies of the methods do not depend on it.

Every method that expects an answer sets `attemptTryAgain` around its `sendRaw`,
cuts the reply at white space, checks the number of fields, and parses them; a
failure is reported by `error` and shows in the result as `-1`, as `'0'`, or as
the `-1` entries the pin caches are filled with before they are refreshed.  A
refresh that fails halfway keeps the entries it has stored (`storeFields`).

`setOverrideValidation` and `setResetOnClose` are called nowhere, so these two
settings have the values the constructor gives them, and `moveEncodedMotor` is
`false` in `sendRaw`, which reads once.
-/

import ExeRobot.Library.Stateful
import ExeRobot.Robot.Command

namespace ExeRobot

/-- The other end of the serial port.  `sendRaw` is given `attemptTryAgain`, the
line and the wait, and returns what the read got; `text` is its text, trimmed. -/
structure Link (L ρ : Type) where
  text : ρ → JString
  sendRaw : Bool → Command → ℕ → L → ρ × L
  sleep : ℕ → L → L

/-- The object, the port it is connected to, and the log of the run. -/
structure Robot (L ρ : Type) where
  link : L
  /-- `sPort`, `cPort`, `in` and `out` are set. -/
  connected : Bool
  analogPinCache : Option (List ℤ)
  digitalPinCache : Option (List ℤ)
  analogPinsAvailable : List ℤ
  digitalPinsAvailable : List ℤ
  motorsRunning : Fin 4 → Bool
  motorsAttached : Fin 4 → Bool
  servosAttached : Fin 3 → Bool
  attemptTryAgain : Bool
  log : List (Event ρ)

/-- Computations of the API. -/
abbrev Api (L ρ : Type) := StateT (Robot L ρ) (Except Fault)

namespace RXTXRobot

variable {L ρ : Type}

/-- `new ArduinoUno()`. -/
def new (link : L) : Robot L ρ where
  link := link
  connected := false
  analogPinCache := none
  digitalPinCache := none
  analogPinsAvailable := []
  digitalPinsAvailable := []
  motorsRunning := fun _ => false
  motorsAttached := fun _ => false
  servosAttached := fun _ => false
  attemptTryAgain := false
  log := []

def getOverrideValidation : Bool := false

def getResetOnClose : Bool := true

def onlyAllowTwoMotors : Bool := true

/-- `ArduinoUno.getInitialFreeDigitalPins()`. -/
def initialFreeDigitalPins : List ℤ := [4, 5, 6, 7, 8, 9, 10, 11, 12, 13]

/-- `ArduinoUno.getInitialFreeAnalogPins()`. -/
def initialFreeAnalogPins : List ℤ := [0, 1, 2, 3, 4, 5]

/-- An object whose port is open and whose pins are free. -/
def connectedTo (link : L) : Robot L ρ :=
  { new link with
    connected := true
    digitalPinsAvailable := initialFreeDigitalPins
    analogPinsAvailable := initialFreeAnalogPins }

/-- Adding to the log. -/
def record (e : Event ρ) : Api L ρ Unit := modify fun s => { s with log := s.log ++ [e] }

/-- `error(...)`. -/
def error (e : ApiError) : Api L ρ Unit := record (.error e)

def isConnected : Api L ρ Bool := do return (← get).connected

def setAttemptTryAgain (b : Bool) : Api L ρ Unit := modify fun s => { s with attemptTryAgain := b }

variable (k : Link L ρ)

/-- `sleep(ms)`. -/
def sleep (ms : ℕ) : Api L ρ Unit :=
  modify fun s => { s with link := k.sleep ms s.link, log := s.log ++ [.slept ms] }

/-- `sendRaw(cmd, wait)`: the text of the reply. -/
def sendRaw (cmd : Command) (wait : ℕ) : Api L ρ JString := do
  if !(← isConnected) then
    error .notConnected
    return []
  let s ← get
  let answer := k.sendRaw s.attemptTryAgain cmd wait s.link
  modify fun s => { s with link := answer.2 }
  record (.sent cmd wait answer.1)
  return k.text answer.1

theorem isConnected_run (s : Robot L ρ) : isConnected s = .ok (s.connected, s) := rfl

/-- What `sendRaw` does over an open connection. -/
theorem sendRaw_of_connected {s : Robot L ρ} (h : s.connected = true) (cmd : Command) (wait : ℕ) :
    sendRaw k cmd wait s = .ok (k.text (k.sendRaw s.attemptTryAgain cmd wait s.link).1,
      { s with
        link := (k.sendRaw s.attemptTryAgain cmd wait s.link).2
        log := s.log ++ [.sent cmd wait (k.sendRaw s.attemptTryAgain cmd wait s.link).1] }) := by
  unfold sendRaw
  rw [Stateful.run_bind_ok (isConnected_run s), if_neg (by simp [h])]
  rfl

theorem sendRaw_of_not_connected {s : Robot L ρ} (h : s.connected = false) (cmd : Command)
    (wait : ℕ) :
    sendRaw k cmd wait s = .ok ([], { s with log := s.log ++ [.error .notConnected] }) := by
  unfold sendRaw
  rw [Stateful.run_bind_ok (isConnected_run s), if_pos (by simp [h])]
  rfl

/-! ### Pins -/

/-- The storing loop of a refresh: each field parsed into the next entry, up to
the first exception. -/
def storeFields : List JString → List ℤ → List ℤ × Option ApiError
  | [], cache => (cache, none)
  | f :: fs, cache =>
      match parseInt f with
      | none => (cache, some .invalidDatatype)
      | some v =>
          match cache with
          | [] => ([], some .generic)
          | _ :: cs => (v :: (storeFields fs cs).1, (storeFields fs cs).2)

/-- The cache of `size` entries after a refresh whose reply is `reply`, with the
error it reports.  `used` are the fields the storing loop goes through. -/
def readPins (used : List JString → List JString) (size : ℕ) (reply : JString) :
    List ℤ × Option ApiError :=
  let blank := List.replicate size (-1)
  let fields := split reply
  if fields.length ≤ 1 then (blank, some .noResponse)
  else if fields.length - 1 < size then (blank, some .incorrectLength)
  else storeFields (used fields.tail) blank

/-- What a refresh of the analog pins stores: as many fields as there are entries. -/
def analogValues (size : ℕ) (reply : JString) : List ℤ × Option ApiError :=
  readPins (List.take size) size reply

/-- What a refresh of the digital pins stores: all fields. -/
def digitalValues (size : ℕ) (reply : JString) : List ℤ × Option ApiError := readPins id size reply

theorem length_storeFields (fs : List JString) (cache : List ℤ) :
    (storeFields fs cache).1.length = cache.length := by
  induction fs generalizing cache with
  | nil => rfl
  | cons f fs ih =>
    unfold storeFields
    cases parseInt f with
    | none => rfl
    | some v =>
      cases cache with
      | nil => rfl
      | cons c cache => simp [ih]

/-- A refresh leaves an entry for every free pin. -/
theorem length_readPins (used : List JString → List JString) (size : ℕ) (reply : JString) :
    (readPins used size reply).1.length = size := by
  unfold readPins
  dsimp only
  split_ifs <;> simp [length_storeFields]

theorem length_analogValues (size : ℕ) (reply : JString) : (analogValues size reply).1.length = size :=
  length_readPins _ size reply

theorem length_digitalValues (size : ℕ) (reply : JString) :
    (digitalValues size reply).1.length = size :=
  length_readPins _ size reply

/-- The value the storing loop of a refresh gets to for the entry `i`: all fields up to
this one are numbers. -/
def storedField : List JString → ℕ → Option ℤ
  | [], _ => none
  | f :: _, 0 => parseInt f
  | f :: fs, i + 1 => (parseInt f).bind fun _ => storedField fs i

/-- The value of a pin in the reply to a refresh, `none` when the refresh does not get to it. -/
def pinReading (used : List JString → List JString) (pins : List ℤ) (pin : ℤ) (reply : JString) : Option ℤ :=
  if (split reply).length ≤ pins.length then none
  else storedField (used (split reply).tail) (pins.idxOf pin)

/-- The value of an analog pin in the reply to a refresh. -/
def analogReading (pin : ℤ) (reply : JString) : Option ℤ :=
  pinReading (List.take initialFreeAnalogPins.length) initialFreeAnalogPins pin reply

/-- The value of a digital pin in the reply to a refresh. -/
def digitalReading (pin : ℤ) (reply : JString) : Option ℤ :=
  pinReading id initialFreeDigitalPins pin reply

/-- An entry of the cache after the storing loop: the field, or the `-1` it was filled with. -/
theorem storeFields_entry (fs : List JString) {n i : ℕ} (hi : i < n) :
    (storeFields fs (List.replicate n (-1))).1[i]? = some ((storedField fs i).getD (-1)) := by
  induction fs generalizing n i with
  | nil => simp [storeFields, storedField, hi]
  | cons f fs ih =>
    obtain ⟨n, rfl⟩ : ∃ m, n = m + 1 := ⟨n - 1, by omega⟩
    rw [List.replicate_succ]
    unfold storeFields
    cases hf : parseInt f with
    | none => cases i <;> simp [storedField, hf, ← List.replicate_succ, hi]
    | some v =>
      cases i with
      | zero => simp [storedField, hf]
      | succ i => simpa [storedField, hf] using ih (by omega)

/-- The entry of a pin after a refresh is its value in the reply, or `-1`. -/
theorem readPins_entry (used : List JString → List JString) {pins : List ℤ} {pin : ℤ}
    (hpin : pin ∈ pins)
    (reply : JString) :
    (readPins used pins.length reply).1[pins.idxOf pin]? =
      some ((pinReading used pins pin reply).getD (-1)) := by
  have hi : pins.idxOf pin < pins.length := List.idxOf_lt_length_iff.2 hpin
  unfold readPins pinReading
  dsimp only
  by_cases hshort : (split reply).length ≤ pins.length
  · rw [if_pos hshort]
    split_ifs
    · simp [hi]
    · simp [hi]
    · omega
  · rw [if_neg hshort, if_neg (by omega), if_neg (by omega)]
    exact storeFields_entry _ hi

/-- The error of a refresh, if there is one. -/
def report : Option ApiError → Api L ρ Unit
  | none => pure ()
  | some e => error e

/-- `refreshAnalogPins()`. -/
def refreshAnalogPins : Api L ρ Unit := do
  let size := (← get).analogPinsAvailable.length
  modify fun s => { s with analogPinCache := some (List.replicate size (-1)) }
  if !(← isConnected) then
    error .notConnected
  else
    setAttemptTryAgain true
    let reply ← sendRaw k .readAnalog 100
    setAttemptTryAgain false
    modify fun s => { s with analogPinCache := some (analogValues size reply).1 }
    report (analogValues size reply).2

/-- `refreshDigitalPins()`. -/
def refreshDigitalPins : Api L ρ Unit := do
  let size := (← get).digitalPinsAvailable.length
  modify fun s => { s with digitalPinCache := some (List.replicate size (-1)) }
  if !(← isConnected) then
    error .notConnected
  else
    setAttemptTryAgain true
    let reply ← sendRaw k .readDigital 100
    setAttemptTryAgain false
    modify fun s => { s with digitalPinCache := some (digitalValues size reply).1 }
    report (digitalValues size reply).2

/-- The entry of a cache for the pin `x`, and the value read from it; the pin has
to be among the free ones, or the caller dereferences `null`. -/
def pinValue (available : List ℤ) (cache : List ℤ) (x : ℤ) : Api L ρ ℤ := do
  if x ∈ available then
    let v ← liftM (getAt cache (available.idxOf x : ℤ))
    record (.pinRead x v)
    return v
  else
    error .pinNotFree
    liftM (Except.error Fault.nullPointer : Except Fault ℤ)

/-- Reading a free pin from a cache that has its entry. -/
theorem pinValue_run {available cache : List ℤ} {x : ℤ} (hx : x ∈ available)
    (hcache : available.idxOf x < cache.length) (s : Robot L ρ) :
    pinValue available cache x s = .ok (cache[available.idxOf x],
      { s with log := s.log ++ [.pinRead x cache[available.idxOf x]] }) := by
  unfold pinValue
  rw [if_pos hx, Stateful.run_bind_lift, getAt_natCast hcache]
  rfl

/-- `getAnalogPin(x).getValue()`. -/
def getAnalogPin (x : ℤ) : Api L ρ ℤ := do
  if (← get).analogPinCache = none then refreshAnalogPins k
  let s ← get
  pinValue s.analogPinsAvailable (s.analogPinCache.getD []) x

/-- `getDigitalPin(x).getValue()`. -/
def getDigitalPin (x : ℤ) : Api L ρ ℤ := do
  if (← get).digitalPinCache = none then refreshDigitalPins k
  let s ← get
  pinValue s.digitalPinsAvailable (s.digitalPinCache.getD []) x

/-- Reporting after a command has been logged. -/
theorem report_run (e : Option ApiError) (s : Robot L ρ) :
    report e s = .ok ((), { s with log := s.log ++ e.toList.map Event.error }) := by
  cases e with
  | none => simp [report]
  | some e => rfl

/-- What the refresh of the analog pins does over an open connection. -/
theorem refreshAnalogPins_of_connected {s : Robot L ρ} (h : s.connected = true) :
    refreshAnalogPins k s = .ok ((),
      let answer := k.sendRaw true .readAnalog 100 s.link
      let values := analogValues s.analogPinsAvailable.length (k.text answer.1)
      { s with
        link := answer.2
        attemptTryAgain := false
        analogPinCache := some values.1
        log := s.log ++ .sent .readAnalog 100 answer.1 :: values.2.toList.map Event.error }) := by
  unfold refreshAnalogPins setAttemptTryAgain
  rw [Stateful.run_bind_get, Stateful.run_bind_modify, Stateful.run_bind_ok (isConnected_run _),
    if_neg (by simp [h]), Stateful.run_bind_modify,
    Stateful.run_bind_ok (sendRaw_of_connected k (by exact h) _ _), Stateful.run_bind_modify,
    Stateful.run_bind_modify, report_run]
  simp only [List.append_assoc, List.cons_append, List.nil_append]

/-- What the refresh of the digital pins does over an open connection. -/
theorem refreshDigitalPins_of_connected {s : Robot L ρ} (h : s.connected = true) :
    refreshDigitalPins k s = .ok ((),
      let answer := k.sendRaw true .readDigital 100 s.link
      let values := digitalValues s.digitalPinsAvailable.length (k.text answer.1)
      { s with
        link := answer.2
        attemptTryAgain := false
        digitalPinCache := some values.1
        log := s.log ++ .sent .readDigital 100 answer.1 :: values.2.toList.map Event.error }) := by
  unfold refreshDigitalPins setAttemptTryAgain
  rw [Stateful.run_bind_get, Stateful.run_bind_modify, Stateful.run_bind_ok (isConnected_run _),
    if_neg (by simp [h]), Stateful.run_bind_modify,
    Stateful.run_bind_ok (sendRaw_of_connected k (by exact h) _ _), Stateful.run_bind_modify,
    Stateful.run_bind_modify, report_run]
  simp only [List.append_assoc, List.cons_append, List.nil_append]

theorem refreshAnalogPins_of_not_connected {s : Robot L ρ} (h : s.connected = false) :
    refreshAnalogPins k s = .ok ((), { s with
      analogPinCache := some (List.replicate s.analogPinsAvailable.length (-1))
      log := s.log ++ [.error .notConnected] }) := by
  unfold refreshAnalogPins
  rw [Stateful.run_bind_get, Stateful.run_bind_modify, Stateful.run_bind_ok (isConnected_run _),
    if_pos (by simp [h])]
  rfl

theorem refreshDigitalPins_of_not_connected {s : Robot L ρ} (h : s.connected = false) :
    refreshDigitalPins k s = .ok ((), { s with
      digitalPinCache := some (List.replicate s.digitalPinsAvailable.length (-1))
      log := s.log ++ [.error .notConnected] }) := by
  unfold refreshDigitalPins
  rw [Stateful.run_bind_get, Stateful.run_bind_modify, Stateful.run_bind_ok (isConnected_run _),
    if_pos (by simp [h])]
  rfl

/-- A refresh leaves a filled cache. -/
theorem refreshDigitalPins_cache {s t : Robot L ρ} {a : Unit}
    (h : refreshDigitalPins k s = .ok (a, t)) : ∃ cache, t.digitalPinCache = some cache := by
  cases hc : s.connected with
  | true =>
    rw [refreshDigitalPins_of_connected k hc] at h
    cases h
    exact ⟨_, rfl⟩
  | false =>
    rw [refreshDigitalPins_of_not_connected k hc] at h
    cases h
    exact ⟨_, rfl⟩

theorem refreshAnalogPins_cache {s t : Robot L ρ} {a : Unit}
    (h : refreshAnalogPins k s = .ok (a, t)) : ∃ cache, t.analogPinCache = some cache := by
  cases hc : s.connected with
  | true =>
    rw [refreshAnalogPins_of_connected k hc] at h
    cases h
    exact ⟨_, rfl⟩
  | false =>
    rw [refreshAnalogPins_of_not_connected k hc] at h
    cases h
    exact ⟨_, rfl⟩

/-- Reading an analog pin from a cache that has been filled. -/
theorem getAnalogPin_run {s : Robot L ρ} {cache : List ℤ} (h : s.analogPinCache = some cache)
    (x : ℤ) : getAnalogPin k x s = pinValue s.analogPinsAvailable cache x s := by
  unfold getAnalogPin
  rw [Stateful.run_bind_get]
  show (if s.analogPinCache = none then _ else _ : Api L ρ ℤ) s = _
  rw [if_neg (by simp [h])]
  show pinValue s.analogPinsAvailable (s.analogPinCache.getD []) x s = _
  rw [h, Option.getD_some]

/-- Reading a digital pin from a cache that has been filled. -/
theorem getDigitalPin_run {s : Robot L ρ} {cache : List ℤ} (h : s.digitalPinCache = some cache)
    (x : ℤ) : getDigitalPin k x s = pinValue s.digitalPinsAvailable cache x s := by
  unfold getDigitalPin
  rw [Stateful.run_bind_get]
  show (if s.digitalPinCache = none then _ else _ : Api L ρ ℤ) s = _
  rw [if_neg (by simp [h])]
  show pinValue s.digitalPinsAvailable (s.digitalPinCache.getD []) x s = _
  rw [h, Option.getD_some]

/-- An open connection to a board whose pins are free. -/
structure Online (s : Robot L ρ) : Prop where
  connected : s.connected = true
  analogPins : s.analogPinsAvailable = initialFreeAnalogPins
  digitalPins : s.digitalPinsAvailable = initialFreeDigitalPins

theorem online_connectedTo (link : L) : Online (connectedTo link : Robot L ρ) := ⟨rfl, rfl, rfl⟩

/-- Reading an analog pin whose value is in the cache. -/
theorem getAnalogPin_cached {pin v : ℤ} (hpin : pin ∈ initialFreeAnalogPins) {s : Robot L ρ}
    (hs : Online s) {cache : List ℤ} (hcache : s.analogPinCache = some cache)
    (hv : cache[initialFreeAnalogPins.idxOf pin]? = some v) :
    getAnalogPin k pin s = .ok (v, { s with log := s.log ++ [.pinRead pin v] }) := by
  obtain ⟨hlt, rfl⟩ := List.getElem?_eq_some_iff.1 hv
  rw [getAnalogPin_run k hcache, ← pinValue_run hpin hlt s]
  exact congrArg (fun available => pinValue available cache pin s) hs.analogPins

/-- Reading a digital pin whose value is in the cache. -/
theorem getDigitalPin_cached {pin v : ℤ} (hpin : pin ∈ initialFreeDigitalPins) {s : Robot L ρ}
    (hs : Online s) {cache : List ℤ} (hcache : s.digitalPinCache = some cache)
    (hv : cache[initialFreeDigitalPins.idxOf pin]? = some v) :
    getDigitalPin k pin s = .ok (v, { s with log := s.log ++ [.pinRead pin v] }) := by
  obtain ⟨hlt, rfl⟩ := List.getElem?_eq_some_iff.1 hv
  rw [getDigitalPin_run k hcache, ← pinValue_run hpin hlt s]
  exact congrArg (fun available => pinValue available cache pin s) hs.digitalPins

/-! ### Sensors -/

/-- The last of the `n` fields a response should have, read by `read`. -/
def lastField {α : Type} (n : ℕ) (read : JString → Option α) (response : JString) :
    Except ApiError α :=
  let arr := split response
  if arr.length ≠ n then .error .incorrectLength
  else match read (arr.getD (n - 1) []) with
    | some v => .ok v
    | none => .error .invalidDatatype

/-- What the three sensor methods do once their checks have passed; `failed` is
their result on an incorrect response. -/
def query {α : Type} (cmd : Command) (wait : ℕ) (decode : JString → Except ApiError α) (failed : α) :
    Api L ρ α := do
  setAttemptTryAgain true
  let response ← sendRaw k cmd wait
  setAttemptTryAgain false
  match decode response with
  | .ok v => return v
  | .error e =>
    error e
    return failed

/-- The error of a response, if there is one. -/
def failure {α : Type} : Except ApiError α → Option ApiError
  | .ok _ => none
  | .error e => some e

/-- What a sensor method does over an open connection. -/
theorem query_of_connected {α : Type} {s : Robot L ρ} (h : s.connected = true) (cmd : Command)
    (wait : ℕ) (decode : JString → Except ApiError α) (failed : α) :
    query k cmd wait decode failed s =
      let answer := k.sendRaw true cmd wait s.link
      let value := decode (k.text answer.1)
      .ok (value.toOption.getD failed, { s with
        link := answer.2
        attemptTryAgain := false
        log := s.log ++ .sent cmd wait answer.1 :: (failure value).toList.map Event.error }) := by
  unfold query setAttemptTryAgain
  rw [Stateful.run_bind_modify, Stateful.run_bind_ok (sendRaw_of_connected k (by exact h) _ _),
    Stateful.run_bind_modify]
  cases hv : decode (k.text (k.sendRaw true cmd wait s.link).1) with
  | ok v => simp [hv, failure, Except.toOption]
  | error e =>
    simp only [hv, failure, Except.toOption, Option.getD_none, Option.toList_some, List.map_cons,
      List.map_nil]
    show Except.ok _ = _
    simp

/-- `Integer.parseInt(arr[2])` of a response of three fields. -/
def pingValue : JString → Except ApiError ℤ := lastField 3 parseInt

/-- `Integer.parseInt(arr[1])` of a response of two fields. -/
def conductivityValue : JString → Except ApiError ℤ := lastField 2 parseInt

/-- `arr[1].charAt(0)` of a response of two fields. -/
def irValue : JString → Except ApiError JChar := lastField 2 List.head?

/-- `getPing(pin)`. -/
def getPing (pin : ℤ) : Api L ρ ℤ := do
  if !(← isConnected) then
    error .notConnected
    return -1
  if pin ∉ (← get).digitalPinsAvailable then
    error .pinNotFree
    return -1
  query k (.ping pin) 200 pingValue (-1)

/-- `getConductivity()`. -/
def getConductivity : Api L ρ ℤ := do
  if !(← isConnected) then
    error .notConnected
    return -1
  query k .conductivity 3000 conductivityValue (-1)

/-- `getIRChar()`. -/
def getIRChar : Api L ρ JChar := do
  if !(← isConnected) then
    error .notConnected
    return jc '0'
  query k .irChar 700 irValue (jc '0')

/-- Reading the IR sensor over an open connection. -/
theorem getIRChar_of_connected {s : Robot L ρ} (h : s.connected = true) :
    getIRChar k s = query k .irChar 700 irValue (jc '0') s := by
  unfold getIRChar
  rw [Stateful.run_bind_ok (isConnected_run s), if_neg (by simp [h])]

/-! ### Servos and motors -/

/-- A method that sends one command when a check of its arguments passes. -/
def command (valid : Bool) (e : ApiError) (cmd : Command) : Api L ρ Unit := do
  if !(← isConnected) then
    error .notConnected
  else if !getOverrideValidation && !valid then
    error e
  else
    let _ ← sendRaw k cmd 100

/-- What such a method does over an open connection when the check passes. -/
theorem command_of_connected {s : Robot L ρ} (h : s.connected = true) (e : ApiError) (cmd : Command) :
    command k true e cmd s = .ok ((), { s with
      link := (k.sendRaw s.attemptTryAgain cmd 100 s.link).2
      log := s.log ++ [.sent cmd 100 (k.sendRaw s.attemptTryAgain cmd 100 s.link).1] }) := by
  unfold command
  rw [Stateful.run_bind_ok (isConnected_run s), if_neg (by simp [h]), if_neg (by simp),
    Stateful.run_bind_ok (sendRaw_of_connected k h cmd 100)]
  rfl

/-- `runPCAServo(channel, position)`. -/
def runPCAServo (channel position : ℤ) : Api L ρ Unit :=
  command k (0 ≤ position && position ≤ 180) .invalidPosition (.servo channel position)

/-- `runPCATimedServo(channel, position, duration)`. -/
def runPCATimedServo (channel position duration : ℤ) : Api L ρ Unit :=
  command k (0 ≤ position && position ≤ 180) .invalidPosition (.timedServo channel position duration)

/-- The line `runTwoPCAMotor` sends. -/
def twoPCAMotorLine (channel1 speed1 channel2 speed2 time : ℤ) : Command :=
  if time ≠ 0 then .twoMotorTimed channel1 speed1 channel2 speed2 time
  else .twoMotor channel1 speed1 channel2 speed2

/-- `runTwoPCAMotor(channel1, speed1, channel2, speed2, time)`. -/
def runTwoPCAMotor (channel1 speed1 channel2 speed2 time : ℤ) : Api L ρ Unit :=
  command k (0 ≤ time && time ≤ 60000) .invalidTime
    (twoPCAMotorLine channel1 speed1 channel2 speed2 time)

/-- `moveServo(servo, position)`. -/
def moveServo (servo : Fin 3) (position : ℤ) : Api L ρ Unit := do
  if !(← isConnected) then
    error .notConnected
  else if !(← get).servosAttached servo then
    error .notAttached
  else if !getOverrideValidation && (position < 0 || position > 180) then
    error .invalidPosition
  else
    let _ ← sendRaw k (.attachedServo servo position) 100

/-- `checkRunningMotors()`. -/
def checkRunningMotors : Api L ρ Bool := do
  if getOverrideValidation then return true
  let s ← get
  if (List.finRange 4).countP s.motorsRunning > 2 then
    error .tooManyMotors
    return false
  return true

def setMotorRunning (motor : Fin 4) (b : Bool) : Api L ρ Unit :=
  modify fun s => { s with motorsRunning := Function.update s.motorsRunning motor b }

/-- `runMotor(motor, speed, time)`. -/
def runMotor (motor : Fin 4) (speed time : ℤ) : Api L ρ Unit := do
  if !(← isConnected) then
    error .notConnected
    return
  if !getOverrideValidation && (speed < -500 || speed > 500) then
    error .invalidSpeed
    return
  if !getOverrideValidation && onlyAllowTwoMotors then
    let prev := (← get).motorsRunning motor
    setMotorRunning motor (speed != 0)
    if !(← checkRunningMotors) then
      setMotorRunning motor prev
      return
  if !getOverrideValidation && (time < 0 || time > 30000) then
    error .invalidTime
    return
  if !(← get).motorsAttached motor then
    error .notAttached
    return
  let response ← sendRaw k (.attachedMotor motor speed time) 100
  if !response.isEmpty then sleep k time.toNat
  if time ≠ 0 then setMotorRunning motor false

/-! ### The connection -/

/-- `connect()`, with the port found; a port that cannot be opened ends the program. -/
def connect : Api L ρ Unit := do
  if ← isConnected then
    error .alreadyConnected
  else
    sleep k 500
    modify fun s => { s with connected := true }
    sleep k 2500
    modify fun s => { s with digitalPinsAvailable := initialFreeDigitalPins }
    modify fun s => { s with analogPinsAvailable := initialFreeAnalogPins }
    refreshAnalogPins k

/-- A new object once its port is open. -/
def opened (link : L) : Robot L ρ :=
  { (new link : Robot L ρ) with
    link := k.sleep 2500 (k.sleep 500 link)
    connected := true
    digitalPinsAvailable := initialFreeDigitalPins
    analogPinsAvailable := initialFreeAnalogPins
    log := [.slept 500, .slept 2500] }

/-- A new object connects, and refreshes its analog pins. -/
theorem connect_new (link : L) : connect k (new link) = refreshAnalogPins k (opened k link) := by
  unfold connect sleep
  rw [Stateful.run_bind_ok (isConnected_run _), if_neg (by simp [new]), Stateful.run_bind_modify,
    Stateful.run_bind_modify, Stateful.run_bind_modify, Stateful.run_bind_modify,
    Stateful.run_bind_modify]
  rfl

/-- `close()`. -/
def close : Api L ρ Unit := do
  sleep k 300
  if getResetOnClose then
    (List.finRange 3).forM fun i => do
      if (← get).servosAttached i then moveServo k i 90
    (List.finRange 4).forM fun i => do
      if (← get).motorsAttached i then runMotor k i 0 0
  modify fun s => { s with connected := false }

end RXTXRobot
end ExeRobot
