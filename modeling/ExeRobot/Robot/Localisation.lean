/-
# Localisation: from a scan to two angles

`getLocation` scans 47 directions five degrees apart, looks up the rows of the
three pylons of its quadrant, and hands the two angles between them to the
position solver.  On the table of a scan the row of a pylon is the first row that
shows it, and `-1` when no row does (`IRArrayDensity.seenAt`), so the whole path is
one equation: `getLocation_eq`.

Two things are read off it.  A scan that shows each pylon of the quadrant in one
row gives the angles between these rows when the three symbols differ; the
constants of the north-west and the south-west pylon are both `'Z'`, so quadrants
2 and 3 get one angle `0` (`setsBearings_iff`).  And a pylon that no row shows
counts as seen in row `-1`: the solver is run on an angle from there, and only its
range check can make the failure show (`reportsMissing_iff`).

The board of `scanner` answers the readings of a scan by a given function; every
scan comes about that way (`scanner_scan`).
-/

import ExeRobot.Nav.NewtonRaphson
import ExeRobot.Robot.EXERobot

namespace ExeRobot
namespace EXERobot

open Stateful RXTXRobot IRArrayDensity

variable {L ρ : Type} {k : Link L ρ}

/-! ### The scan -/

theorem getIRArray_length {s t : Robot L ρ} {row : List JChar} (h : getIRArray k s = .ok (row, t)) :
    row.length = 3 := by
  obtain ⟨_, _, -, h⟩ := bind_eq_ok.1 h
  obtain ⟨_, _, -, h⟩ := bind_eq_ok.1 h
  exact mapM_length h

theorem sweepStep_length {index : ℕ} {s t : Robot L ρ} {row : List JChar}
    (h : sweepStep k index s = .ok (row, t)) : row.length = 3 := by
  obtain ⟨_, _, -, h⟩ := bind_eq_ok.1 h
  obtain ⟨_, _, -, h⟩ := bind_eq_ok.1 h
  obtain ⟨_, _, -, h⟩ := bind_eq_ok.1 h
  exact getIRArray_length h

/-- A scan has a row for each direction, of three readings. -/
theorem generateIRArrayMatrix_shape {s t : Robot L ρ} {matrix : List (List JChar)}
    (h : generateIRArrayMatrix k s = .ok (matrix, t)) :
    matrix.length = ANGLE_COUNT ∧ ∀ row ∈ matrix, row.length = 3 := by
  obtain ⟨_, _, -, h⟩ := bind_eq_ok.1 h
  exact ⟨(mapM_length h).trans List.length_range, mapM_forall (fun _ _ _ _ => sweepStep_length) h⟩

/-! ### The angles -/

/-- The angle between two beacons of a scan. -/
def angleBetween (matrix : List (List JChar)) (beaconOne beaconTwo : JChar) : ℤ :=
  |seenAt matrix beaconTwo - seenAt matrix beaconOne| * 5

/-- The two angles of a quadrant. -/
def angles (matrix : List (List JChar)) (quadrant : ℤ) : ℤ × ℤ :=
  let (beaconOne, beaconTwo, beaconThree) := pylons quadrant
  (angleBetween matrix beaconOne beaconTwo, angleBetween matrix beaconTwo beaconThree)

/-- What the solver makes of two angles: its solution, or the location of a failure. -/
def Navigation.answer (nav : Navigation) (a : ℤ × ℤ) : ℚ × ℚ :=
  if nav.newton_raphson a.1 a.2 = .success then nav.getSolution a.1 a.2 else (-1, -1)

/-- A solver that succeeds on every pair of angles in the range, with the origin. -/
def eager : Navigation where
  newton_raphson a b :=
    if (45 ≤ a ∧ a ≤ 150) ∧ 45 ≤ b ∧ b ≤ 150 then .success else .range
  getSolution _ _ := (0, 0)

/-- **What `getLocation` does with a scan.** -/
theorem getLocation_eq (nav : Navigation) (quadrant : ℤ) {s s' : Robot L ρ}
    {matrix : List (List JChar)} (hscan : generateIRArrayMatrix k s = .ok (matrix, s')) :
    getLocation k nav quadrant s = .ok (nav.answer (angles matrix quadrant),
      { s' with log := s'.log ++ [.setAngles (angles matrix quadrant).1 (angles matrix quadrant).2] }) := by
  have hrows : ∀ row ∈ matrix, row ≠ [] := fun row hrow h => by
    have := (generateIRArrayMatrix_shape hscan).2 row hrow
    rw [h] at this
    cases this
  obtain ⟨obj, hnew, htable⟩ := new_tableOf hrows
  unfold getLocation
  rw [run_bind_ok hscan, run_bind_lift, hnew]
  show ((liftM (obj.indexBetween (pylons quadrant).1 (pylons quadrant).2.1) : Api L ρ ℤ) >>= _) s' = _
  rw [run_bind_lift, htable.indexBetween_eq]
  show ((liftM (obj.indexBetween (pylons quadrant).2.1 (pylons quadrant).2.2) : Api L ρ ℤ) >>= _) s' = _
  rw [run_bind_lift, htable.indexBetween_eq]
  unfold record
  show (modify _ >>= _ : Api L ρ (ℚ × ℚ)) s' = _
  rw [run_bind_modify]
  unfold Navigation.answer angles angleBetween
  dsimp only
  cases nav.newton_raphson _ _ <;> rfl

/-! ### Scans that can occur -/

/-- The scan whose row `r` shows `symbol r` in all readings. -/
def scanShowing (symbol : ℕ → JChar) : List (List JChar) :=
  (List.range ANGLE_COUNT).map fun r => List.replicate 3 (symbol r)

/-- A board whose IR sensor reads `symbol r` three times, for `r = 0, 1, ...`. -/
def scanner (symbol : ℕ → JChar) : Link ℕ JString where
  text := id
  sendRaw := fun _ cmd _ n =>
    if cmd = .irChar then ([jc 'i', jc ' ', symbol (n / 3)], n + 1) else ([], n)
  sleep := fun _ n => n

/-- A board whose IR sensor reads `shows 0`, `shows 1`, ... in turn. -/
def irBoard (shows : ℕ → JChar) : Link ℕ JString where
  text := id
  sendRaw := fun _ cmd _ n =>
    if cmd = .irChar then ([jc 'i', jc ' ', shows n], n + 1) else ([], n)
  sleep := fun _ n => n

theorem scanner_eq (symbol : ℕ → JChar) : scanner symbol = irBoard fun n => symbol (n / 3) := rfl

/-- From every state over an open connection in which `n` readings have been
taken, `x` returns `a` and leaves `m` readings taken. -/
def Reads {α : Type} (x : Api ℕ JString α) (n m : ℕ) (a : α) : Prop :=
  ∀ s : Robot ℕ JString, s.connected = true → s.link = n →
    ∃ t, x s = .ok (a, t) ∧ t.connected = true ∧ t.link = m

namespace Reads

variable {α β : Type} {n m p : ℕ} {a : α}

theorem pure (a : α) : Reads (Pure.pure a) n n a := fun s hs hn => ⟨s, rfl, hs, hn⟩

theorem bind {x : Api ℕ JString α} {f : α → Api ℕ JString β} {b : β} (hx : Reads x n m a)
    (hf : Reads (f a) m p b) : Reads (x >>= f) n p b := by
  intro s hs hn
  obtain ⟨s', hrun, hs', hm⟩ := hx s hs hn
  obtain ⟨t, hrest, ht⟩ := hf s' hs' hm
  exact ⟨t, (run_bind_ok hrun).trans hrest, ht⟩

/-- A loop whose turns take `w` readings each. -/
theorem mapM {ι : Type} {f : ι → Api ℕ JString α} {w : ℕ} {g : ℕ → α}
    (h : ∀ i n, Reads (f i) n (n + w) (g n)) (l : List ι) (n : ℕ) :
    Reads (l.mapM f) n (n + w * l.length) ((List.range l.length).map fun j => g (n + w * j)) := by
  induction l generalizing n with
  | nil => exact pure _
  | cons i l ih =>
    have hrest : Reads (l.mapM f) (n + w) (n + w * (i :: l).length)
        ((List.range l.length).map fun j => g (n + w * (j + 1))) := by
      have := ih (n + w)
      rwa [show n + w + w * l.length = n + w * (i :: l).length by rw [List.length_cons]; ring,
        show (fun j => g (n + w + w * j)) = fun j => g (n + w * (j + 1)) by funext j; congr 1; ring] at this
    rw [List.mapM_cons, List.length_cons, List.range_succ_eq_map, List.map_cons, List.map_map]
    exact bind (h i n) (bind hrest (pure _))

variable {shows : ℕ → JChar}

theorem sleep (ms n : ℕ) : Reads (RXTXRobot.sleep (irBoard shows) ms) n n () :=
  fun _ hs hn => ⟨_, rfl, hs, hn⟩

theorem refreshDigitalPins (n : ℕ) : Reads (RXTXRobot.refreshDigitalPins (irBoard shows)) n n () :=
  fun _ hs hn => ⟨_, refreshDigitalPins_of_connected _ hs, hs, hn⟩

theorem command (valid : Bool) (e : ApiError) {cmd : Command} (h : cmd ≠ .irChar) (n : ℕ) :
    Reads (RXTXRobot.command (irBoard shows) valid e cmd) n n () := by
  intro s hs hn
  cases valid with
  | false =>
    unfold RXTXRobot.command
    rw [run_bind_ok (isConnected_run s), if_neg (by simp [hs])]
    exact ⟨_, rfl, hs, hn⟩
  | true =>
    refine ⟨_, command_of_connected _ hs e cmd, hs, ?_⟩
    simpa [irBoard, h] using hn

theorem runPCAServo (channel position : ℤ) (n : ℕ) :
    Reads (RXTXRobot.runPCAServo (irBoard shows) channel position) n n () :=
  command _ _ Command.noConfusion n

theorem runPCATimedServo (channel position duration : ℤ) (n : ℕ) :
    Reads (RXTXRobot.runPCATimedServo (irBoard shows) channel position duration) n n () :=
  command _ _ Command.noConfusion n

theorem irValue_reply {c : JChar} (h : isSpace c = false) : irValue [jc 'i', jc ' ', c] = .ok c := by
  have hi : isSpace (jc 'i') = false := by decide
  have hb : isSpace (jc ' ') = true := by decide
  have hsplit : split [jc 'i', jc ' ', c] = [[jc 'i'], [c]] := by
    simp [split, fields, hi, hb, h, List.rdropWhile]
  simp [irValue, lastField, hsplit]

theorem getIRChar (h : ∀ n, isSpace (shows n) = false) (n : ℕ) :
    Reads (RXTXRobot.getIRChar (irBoard shows)) n (n + 1) (shows n) := by
  intro s hs hn
  have hdecode : irValue ((irBoard shows).text ((irBoard shows).sendRaw true .irChar 700 s.link).1) =
      .ok (shows n) := by
    rw [hn]
    exact irValue_reply (h _)
  have hrun := (getIRChar_of_connected (irBoard shows) hs).trans (query_of_connected _ hs _ _ _ _)
  simp only [hdecode] at hrun
  refine ⟨_, hrun, hs, ?_⟩
  simp [irBoard, hn]

theorem getIRArray (h : ∀ n, isSpace (shows n) = false) (n : ℕ) :
    Reads (EXERobot.getIRArray (irBoard shows)) n (n + 3)
      [shows n, shows (n + 1), shows (n + 2)] := by
  refine bind (sleep _ _) (bind (refreshDigitalPins _) ?_)
  refine mapM (w := 1) (g := shows) (fun _ n => ?_) (List.range 3) n
  exact bind (refreshDigitalPins _) (bind (getIRChar h n) (bind (sleep _ _) (pure _)))

theorem sweepStep (h : ∀ n, isSpace (shows n) = false) (index n : ℕ) :
    Reads (EXERobot.sweepStep (irBoard shows) index) n (n + 3)
      [shows n, shows (n + 1), shows (n + 2)] := by
  refine bind (runPCAServo _ _ _) (bind (sleep _ _) (bind (refreshDigitalPins _) ?_))
  exact getIRArray h n

end Reads

/-- **Every scan can occur** whose rows show a symbol each that is not white space. -/
theorem scanner_scan {symbol : ℕ → JChar} (h : ∀ r, isSpace (symbol r) = false) (s : Robot ℕ JString)
    (hs : s.connected = true) (hstart : s.link = 0) :
    ∃ t, generateIRArrayMatrix (scanner symbol) s = .ok (scanShowing symbol, t) := by
  have hrow : ∀ r : ℕ, [symbol ((0 + 3 * r) / 3), symbol ((0 + 3 * r + 1) / 3),
      symbol ((0 + 3 * r + 2) / 3)] = List.replicate 3 (symbol r) := fun r => by
    rw [show (0 + 3 * r) / 3 = r by omega, show (0 + 3 * r + 1) / 3 = r by omega,
      show (0 + 3 * r + 2) / 3 = r by omega]
    rfl
  have hrows := Reads.mapM (Reads.sweepStep fun n => h (n / 3)) (List.range ANGLE_COUNT) 0
  simp only [hrow, List.length_range] at hrows
  rw [scanner_eq]
  have hscan : Reads (generateIRArrayMatrix (irBoard fun n => symbol (n / 3))) 0 _
      (scanShowing symbol) :=
    Reads.bind (Reads.bind (Reads.runPCAServo SERVO_MEASUREMENTS_1 _ 0)
      (Reads.runPCATimedServo _ _ _ 0)) hrows
  obtain ⟨t, hrun, -⟩ := hscan s hs hstart
  exact ⟨t, hrun⟩

/-! ### Bearings -/

theorem seenAt_scanShowing {symbol : ℕ → JChar} {beacon : JChar} {p : ℕ} (hp : p < ANGLE_COUNT)
    (h : ∀ r, symbol r = beacon ↔ r = p) : seenAt (scanShowing symbol) beacon = p := by
  refine seenAt_eq fun r => ?_
  rcases lt_or_ge r ANGLE_COUNT with hr | hr
  · simp [shown, scanShowing, hr, List.replicate_succ, h]
  · simp [shown, scanShowing, hr, (hp.trans_le hr).ne']

/-- The three pylons of the quadrant in the rows `p₁`, `p₂` and `p₃`, and nothing elsewhere. -/
def pylonIn (quadrant : ℤ) (p₁ p₂ p₃ r : ℕ) : JChar :=
  let (beaconOne, beaconTwo, beaconThree) := pylons quadrant
  if r = p₁ then beaconOne else if r = p₂ then beaconTwo else if r = p₃ then beaconThree else jc '0'

theorem pylonIn_not_space (quadrant : ℤ) (p₁ p₂ p₃ r : ℕ) :
    isSpace (pylonIn quadrant p₁ p₂ p₃ r) = false := by
  have hpylons : isSpace (pylons quadrant).1 = false ∧ isSpace (pylons quadrant).2.1 = false ∧
      isSpace (pylons quadrant).2.2 = false := by
    unfold pylons
    split_ifs <;> decide
  obtain ⟨hone, htwo, hthree⟩ := hpylons
  unfold pylonIn
  split_ifs
  · exact hone
  · exact htwo
  · exact hthree
  · exact (by decide : isSpace (jc '0') = false)

/-- The pylons of quadrants 1 and 4 have symbols of their own. -/
theorem pylons_distinct {quadrant : ℤ} (h : quadrant = 1 ∨ quadrant = 4) :
    let (beaconOne, beaconTwo, beaconThree) := pylons quadrant
    beaconOne ≠ beaconTwo ∧ beaconTwo ≠ beaconThree ∧ beaconOne ≠ beaconThree ∧
      beaconOne ≠ jc '0' ∧ beaconTwo ≠ jc '0' ∧ beaconThree ≠ jc '0' := by
  rcases h with rfl | rfl <;> decide

section

variable {quadrant : ℤ} {p₁ p₂ p₃ : ℕ}

/-- Distinct symbols are each found in their row. -/
theorem angles_of_distinct (h : quadrant = 1 ∨ quadrant = 4) (h₁ : p₁ < ANGLE_COUNT)
    (h₂ : p₂ < ANGLE_COUNT) (h₃ : p₃ < ANGLE_COUNT) (h₁₂ : p₁ ≠ p₂) (h₁₃ : p₁ ≠ p₃) (h₂₃ : p₂ ≠ p₃) :
    angles (scanShowing (pylonIn quadrant p₁ p₂ p₃)) quadrant =
      (5 * |(p₂ : ℤ) - p₁|, 5 * |(p₃ : ℤ) - p₂|) := by
  have hd := pylons_distinct h
  have hs₁ : seenAt (scanShowing (pylonIn quadrant p₁ p₂ p₃)) (pylons quadrant).1 = p₁ :=
    seenAt_scanShowing h₁ fun r => by unfold pylonIn; grind
  have hs₂ : seenAt (scanShowing (pylonIn quadrant p₁ p₂ p₃)) (pylons quadrant).2.1 = p₂ :=
    seenAt_scanShowing h₂ fun r => by unfold pylonIn; grind
  have hs₃ : seenAt (scanShowing (pylonIn quadrant p₁ p₂ p₃)) (pylons quadrant).2.2 = p₃ :=
    seenAt_scanShowing h₃ fun r => by unfold pylonIn; grind
  show (angleBetween _ (pylons quadrant).1 (pylons quadrant).2.1,
    angleBetween _ (pylons quadrant).2.1 (pylons quadrant).2.2) = _
  rw [angleBetween, angleBetween, hs₁, hs₂, hs₃, mul_comm, mul_comm _ (5 : ℤ)]

/-- The north-west and the south-west pylon are told apart by no scan. -/
theorem angles_of_equal (h : quadrant = 2 ∨ quadrant = 3) (matrix : List (List JChar)) :
    (angles matrix quadrant).1 = 0 ∨ (angles matrix quadrant).2 = 0 := by
  rcases h with rfl | rfl
  · refine .inr ?_
    show angleBetween matrix (jc 'Z') (jc 'Z') = 0
    simp [angleBetween]
  · refine .inl ?_
    show angleBetween matrix (jc 'Z') (jc 'Z') = 0
    simp [angleBetween]

/-- The call hands the solver these two angles, after the scan that ends in `s'`. -/
def SetsAngles (k : Link L ρ) (nav : Navigation) (quadrant : ℤ) (s s' : Robot L ρ) (a b : ℤ) : Prop :=
  ∃ r t, getLocation k nav quadrant s = .ok (r, t) ∧ t.log = s'.log ++ [.setAngles a b]

theorem setsAngles_iff {nav : Navigation} {s s' : Robot L ρ} {matrix : List (List JChar)}
    (hscan : generateIRArrayMatrix k s = .ok (matrix, s')) (a b : ℤ) :
    SetsAngles k nav quadrant s s' a b ↔ angles matrix quadrant = (a, b) := by
  unfold SetsAngles
  rw [getLocation_eq nav quadrant hscan]
  simp [Prod.ext_iff]

/-- **The solver gets the angles between the rows of the pylons exactly in quadrants
1 and 4.**  Each pylon fills one row of the scan, with the symbol the code gives it. -/
theorem setsBearings_iff (nav : Navigation) (hq : 1 ≤ quadrant ∧ quadrant ≤ 4) (h₁ : p₁ < ANGLE_COUNT)
    (h₂ : p₂ < ANGLE_COUNT) (h₃ : p₃ < ANGLE_COUNT) (h₁₂ : p₁ ≠ p₂) (h₁₃ : p₁ ≠ p₃) (h₂₃ : p₂ ≠ p₃)
    {s s' : Robot L ρ}
    (hscan : generateIRArrayMatrix k s = .ok (scanShowing (pylonIn quadrant p₁ p₂ p₃), s')) :
    SetsAngles k nav quadrant s s' (5 * |(p₂ : ℤ) - p₁|) (5 * |(p₃ : ℤ) - p₂|) ↔
      quadrant = 1 ∨ quadrant = 4 := by
  rw [setsAngles_iff hscan]
  constructor
  · intro h
    by_contra hother
    have hpos : 5 * |(p₂ : ℤ) - p₁| ≠ 0 ∧ 5 * |(p₃ : ℤ) - p₂| ≠ 0 := by
      constructor
      · simpa [sub_eq_zero] using h₁₂.symm
      · simpa [sub_eq_zero] using h₂₃.symm
    rcases angles_of_equal (by omega : quadrant = 2 ∨ quadrant = 3)
      (scanShowing (pylonIn quadrant p₁ p₂ p₃)) with hzero | hzero
    · exact hpos.1 (by rw [h] at hzero; exact hzero)
    · exact hpos.2 (by rw [h] at hzero; exact hzero)
  · exact fun h => angles_of_distinct h h₁ h₂ h₃ h₁₂ h₁₃ h₂₃

end

/-- Quadrant 1, the pylons in rows 3, 12 and 30. -/
theorem setsBearings_iff_one : ∃ s' : Robot ℕ JString,
    generateIRArrayMatrix (scanner (pylonIn 1 3 12 30)) (connectedTo 0) =
        .ok (scanShowing (pylonIn 1 3 12 30), s') ∧
      (SetsAngles (scanner (pylonIn 1 3 12 30)) eager 1 (connectedTo 0) s'
          (5 * |((12 : ℕ) : ℤ) - (3 : ℕ)|) (5 * |((30 : ℕ) : ℤ) - (12 : ℕ)|) ↔
        (1 : ℤ) = 1 ∨ (1 : ℤ) = 4) := by
  obtain ⟨s', hscan⟩ := scanner_scan (pylonIn_not_space 1 3 12 30) (connectedTo 0) rfl rfl
  exact ⟨s', hscan, setsBearings_iff eager (by decide) (by decide) (by decide) (by decide)
    (by decide) (by decide) (by decide) hscan⟩

/-- Quadrant 2, the pylons in rows 10, 20 and 30: the solver is given the angles 50
and 0, not 50 and 50. -/
theorem not_setsBearings_two : ∃ s' : Robot ℕ JString,
    generateIRArrayMatrix (scanner (pylonIn 2 10 20 30)) (connectedTo 0) =
        .ok (scanShowing (pylonIn 2 10 20 30), s') ∧
      SetsAngles (scanner (pylonIn 2 10 20 30)) eager 2 (connectedTo 0) s' 50 0 ∧
      ¬ SetsAngles (scanner (pylonIn 2 10 20 30)) eager 2 (connectedTo 0) s'
        (5 * |((20 : ℕ) : ℤ) - (10 : ℕ)|) (5 * |((30 : ℕ) : ℤ) - (20 : ℕ)|) := by
  obtain ⟨s', hscan⟩ := scanner_scan (pylonIn_not_space 2 10 20 30) (connectedTo 0) rfl rfl
  have hangles : angles (scanShowing (pylonIn 2 10 20 30)) 2 = (50, 0) := by decide
  refine ⟨s', hscan, (setsAngles_iff hscan _ _).2 hangles, fun h => ?_⟩
  have := hangles.symm.trans ((setsAngles_iff hscan _ _).1 h)
  simp at this

/-! ### Missing pylons -/

/-- The solver succeeds only on angles in the range `Nav` accepts. -/
def Admissible (nav : Navigation) : Prop :=
  ∀ a b : ℤ, nav.newton_raphson a b = .success → ((Nav.init : Nav ℚ).setAngles a b).AnglesInRange

/-- `beacon` is one of the pylons of the quadrant. -/
def IsPylon (quadrant : ℤ) (beacon : JChar) : Prop :=
  beacon = (pylons quadrant).1 ∨ beacon = (pylons quadrant).2.1 ∨ beacon = (pylons quadrant).2.2

/-- `beacon` is the beacon of a row of the scan. -/
def Seen (matrix : List (List JChar)) (beacon : JChar) : Prop :=
  ∃ obj, (IRArrayDensity.new matrix).run' 0 = .ok obj ∧ ∃ j, obj.Holds beacon j

theorem seen_iff {matrix : List (List JChar)} (hrows : ∀ row ∈ matrix, row ≠ []) (beacon : JChar) :
    Seen matrix beacon ↔ ∃ j, shown matrix j = some beacon := by
  obtain ⟨obj, hnew, htable⟩ := new_tableOf hrows
  constructor
  · rintro ⟨obj', hnew', j, hj⟩
    obtain rfl : obj = obj' := Except.ok.inj (hnew.symm.trans hnew')
    exact ⟨j, (htable.holds_iff beacon j).1 hj⟩
  · rintro ⟨j, hj⟩
    exact ⟨obj, hnew, j, (htable.holds_iff beacon j).2 hj⟩

/-- Every pylon of the quadrant is seen. -/
def AllSeen (matrix : List (List JChar)) (quadrant : ℤ) : Prop :=
  ∀ beacon, IsPylon quadrant beacon → Seen matrix beacon

/-- The call reports a failure, with whatever solver. -/
def ReportsFailure (k : Link L ρ) (quadrant : ℤ) (s : Robot L ρ) : Prop :=
  ∀ nav, Admissible nav → ∃ t, getLocation k nav quadrant s = .ok ((-1, -1), t)

/-- The angles the solver is given come from pylons that are seen. -/
def GivesSeenAngles (k : Link L ρ) (quadrant : ℤ) (s s' : Robot L ρ) (matrix : List (List JChar)) : Prop :=
  ∀ nav, Admissible nav → ∀ a b, SetsAngles k nav quadrant s s' a b → AllSeen matrix quadrant

/-- What a call should do whose scan misses a pylon: report a failure, and give the
solver no angle that comes from it. -/
def ReportsMissing (k : Link L ρ) (quadrant : ℤ) (s s' : Robot L ρ) (matrix : List (List JChar)) : Prop :=
  ¬ AllSeen matrix quadrant →
    ReportsFailure k quadrant s ∧ GivesSeenAngles k quadrant s s' matrix

theorem anglesInRange_iff (a b : ℤ) : ((Nav.init : Nav ℚ).setAngles a b).AnglesInRange ↔
    (45 ≤ a ∧ a ≤ 150) ∧ 45 ≤ b ∧ b ≤ 150 := by
  have one : ∀ d : ℤ, ((d : ℚ) * (1745329251994329 / 10 ^ 17) ≥ 7853 / 10000 ∧
      (d : ℚ) * (1745329251994329 / 10 ^ 17) ≤ 2618 / 1000) ↔ 45 ≤ d ∧ d ≤ 150 := by
    intro d
    constructor
    · rintro ⟨h, h'⟩
      refine ⟨?_, ?_⟩
      · by_contra hlt
        have : (d : ℚ) ≤ 44 := by exact_mod_cast (by omega : d ≤ 44)
        linarith
      · by_contra hgt
        have : (151 : ℚ) ≤ d := by exact_mod_cast (by omega : 151 ≤ d)
        linarith
    · rintro ⟨h, h'⟩
      have : (45 : ℚ) ≤ d := by exact_mod_cast h
      have : (d : ℚ) ≤ 150 := by exact_mod_cast h'
      constructor <;> linarith
  exact and_congr (one a) (one b)

theorem eager_admissible : Admissible eager := by
  intro a b h
  rw [anglesInRange_iff]
  by_contra hout
  simp [eager, hout] at h

/-- **When the failure shows**: exactly when the range check of the solver refuses
the angles, whatever the scan. -/
theorem reportsFailure_iff {quadrant : ℤ} {s s' : Robot L ρ} {matrix : List (List JChar)}
    (hscan : generateIRArrayMatrix k s = .ok (matrix, s')) :
    ReportsFailure k quadrant s ↔ ¬ ((Nav.init : Nav ℚ).setAngles (angles matrix quadrant).1
      (angles matrix quadrant).2).AnglesInRange := by
  constructor
  · intro h hin
    obtain ⟨t, ht⟩ := h eager eager_admissible
    rw [getLocation_eq eager quadrant hscan] at ht
    rw [anglesInRange_iff] at hin
    simp [Navigation.answer, eager, hin] at ht
  · intro h nav hnav
    obtain ⟨t, ht⟩ : ∃ t, getLocation k nav quadrant s = .ok (nav.answer (angles matrix quadrant), t) :=
      ⟨_, getLocation_eq nav quadrant hscan⟩
    refine ⟨t, ht.trans ?_⟩
    rw [Navigation.answer, if_neg fun hsuccess => h (hnav _ _ hsuccess)]

/-- The solver is given two angles in any case. -/
theorem givesSeenAngles_iff {quadrant : ℤ} {s s' : Robot L ρ} {matrix : List (List JChar)}
    (hscan : generateIRArrayMatrix k s = .ok (matrix, s')) :
    GivesSeenAngles k quadrant s s' matrix ↔ AllSeen matrix quadrant :=
  ⟨fun h => h eager eager_admissible _ _ ((setsAngles_iff hscan _ _).2 rfl), fun h _ _ _ _ _ => h⟩

/-- **A missing pylon is never handled.**  What should happen then happens only when
no pylon is missing; when one is, the call reports the failure exactly if the range
check refuses one of the two angles, which are computed as if it had been seen in
the row before the first. -/
theorem reportsMissing_iff {quadrant : ℤ} {s s' : Robot L ρ} {matrix : List (List JChar)}
    (hscan : generateIRArrayMatrix k s = .ok (matrix, s')) :
    (ReportsMissing k quadrant s s' matrix ↔ AllSeen matrix quadrant) ∧
      (ReportsFailure k quadrant s ↔ ¬ ((Nav.init : Nav ℚ).setAngles (angles matrix quadrant).1
        (angles matrix quadrant).2).AnglesInRange) := by
  refine ⟨⟨fun h => ?_, fun h hmissing => absurd h hmissing⟩, reportsFailure_iff hscan⟩
  by_contra hmissing
  exact hmissing ((givesSeenAngles_iff hscan).1 (h hmissing).2)

/-- Quadrant 1, no pylon in view. -/
theorem reportsMissing_iff_blank : ∃ s' : Robot ℕ JString,
    generateIRArrayMatrix (scanner fun _ => jc '0') (connectedTo 0) =
        .ok (scanShowing fun _ => jc '0', s') ∧
      (ReportsMissing (scanner fun _ => jc '0') 1 (connectedTo 0) s' (scanShowing fun _ => jc '0') ↔
        AllSeen (scanShowing fun _ => jc '0') 1) ∧
      (ReportsFailure (scanner fun _ => jc '0') 1 (connectedTo 0) ↔
        ¬ ((Nav.init : Nav ℚ).setAngles (angles (scanShowing fun _ => jc '0') 1).1
          (angles (scanShowing fun _ => jc '0') 1).2).AnglesInRange) := by
  have hblank : ∀ r : ℕ, isSpace ((fun _ => jc '0') r) = false := fun _ => rfl
  obtain ⟨s', hscan⟩ := scanner_scan hblank (connectedTo 0) rfl rfl
  exact ⟨s', hscan, reportsMissing_iff hscan⟩

/-- Quadrant 1, its first pylon out of view, the others in rows 8 and 18: the solver
is given the angles 45 and 50, the first from the row `-1`, and succeeds. -/
theorem not_reportsMissing_first : ∃ s' : Robot ℕ JString,
    generateIRArrayMatrix (scanner (pylonIn 1 ANGLE_COUNT 8 18)) (connectedTo 0) =
        .ok (scanShowing (pylonIn 1 ANGLE_COUNT 8 18), s') ∧
      ¬ Seen (scanShowing (pylonIn 1 ANGLE_COUNT 8 18)) PYLON_SOUTHEAST ∧
      SetsAngles (scanner (pylonIn 1 ANGLE_COUNT 8 18)) eager 1 (connectedTo 0) s' 45 50 ∧
      (∃ t, getLocation (scanner (pylonIn 1 ANGLE_COUNT 8 18)) eager 1 (connectedTo 0) = .ok ((0, 0), t)) ∧
      ¬ ReportsMissing (scanner (pylonIn 1 ANGLE_COUNT 8 18)) 1 (connectedTo 0) s'
        (scanShowing (pylonIn 1 ANGLE_COUNT 8 18)) := by
  obtain ⟨s', hscan⟩ := scanner_scan (pylonIn_not_space 1 ANGLE_COUNT 8 18) (connectedTo 0) rfl rfl
  have hangles : angles (scanShowing (pylonIn 1 ANGLE_COUNT 8 18)) 1 = (45, 50) := by decide
  have hunseen : ¬ Seen (scanShowing (pylonIn 1 ANGLE_COUNT 8 18)) PYLON_SOUTHEAST := by
    rw [seen_iff (by decide)]
    rintro ⟨j, hj⟩
    have hrows : ∀ j < ANGLE_COUNT,
        shown (scanShowing (pylonIn 1 ANGLE_COUNT 8 18)) j ≠ some PYLON_SOUTHEAST := by decide
    exact hrows j (lt_of_shown hj) hj
  have hset : SetsAngles (scanner (pylonIn 1 ANGLE_COUNT 8 18)) eager 1 (connectedTo 0) s' 45 50 :=
    (setsAngles_iff hscan _ _).2 hangles
  have hloc := getLocation_eq eager 1 hscan
  rw [hangles] at hloc
  refine ⟨s', hscan, hunseen, hset, ⟨_, hloc⟩, fun h => ?_⟩
  have hmissing : ¬ AllSeen (scanShowing (pylonIn 1 ANGLE_COUNT 8 18)) 1 :=
    fun hall => hunseen (hall _ (.inl rfl))
  exact hmissing ((h hmissing).2 eager eager_admissible 45 50 hset)

end EXERobot
end ExeRobot
