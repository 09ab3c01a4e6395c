/-
# The vote of `readIRChar`

`readIRChar` reads the IR sensor several times, since a reading may miss the pylon
and come back as `'0'`, and returns one character for all of them.  It counts the
readings that are `'0'` and those that are not, and remembers one character: the
last that is not `'0'`.

Whether `'0'` is returned depends on the counts alone and is decided as it should be
(`dominantChar_of_dropouts`).  Which other character is returned depends on the last
of them alone (`dominantChar_of_seen`), so the vote is right exactly when no other
character was read more often than the last one (`readIRCharOf_right_iff`); with two
pylons in view it follows the order of the readings.
-/

import ExeRobot.Robot.Returns

namespace ExeRobot
namespace EXERobot

open Stateful RXTXRobot

/-! ### What the vote should return -/

/-- The right outcome of a vote: `'0'` if at least half of the readings are `'0'`,
otherwise one of the characters read most often among the others. -/
def VoteRight (chars : List JChar) (result : JChar) : Prop :=
  if chars.length ≤ 2 * chars.count (jc '0') then result = jc '0'
  else result ≠ jc '0' ∧ result ∈ chars ∧ ∀ c ≠ jc '0', chars.count c ≤ chars.count result

/-- The last reading that is not `'0'`. -/
def lastSeen (chars : List JChar) : Option JChar := (chars.filter fun c => c ≠ jc '0').getLast?

/-- At least half of the readings are `'0'`, or none of the other characters was read
more often than the last of them. -/
def VoteSafe (chars : List JChar) : Prop :=
  chars.length ≤ 2 * chars.count (jc '0') ∨
    ∀ last ∈ lastSeen chars, ∀ c ≠ jc '0', chars.count c ≤ chars.count last

/-! ### What it does return -/

variable {chars : List JChar}

/-- The character the loop remembers. -/
theorem foldl_found (chars : List JChar) (start : JChar) :
    chars.foldl (fun found c => if c ≠ jc '0' then c else found) start =
      (lastSeen chars).getD start := by
  induction chars generalizing start with
  | nil => rfl
  | cons c chars ih =>
    rw [List.foldl_cons, ih]
    unfold lastSeen
    by_cases hc : c = jc '0'
    · simp [hc]
    · rw [List.filter_cons_of_pos (by simpa using hc), if_pos hc, List.getLast?_cons, Option.getD_some]

/-- The two counters. -/
theorem charOc_gt_zOccur_iff (chars : List JChar) :
    (chars.countP fun c => c ≠ jc '0') > (chars.countP fun c => c = jc '0') ↔
      ¬ chars.length ≤ 2 * chars.count (jc '0') := by
  have htotal := List.length_eq_countP_add_countP (fun c => decide (c = jc '0')) (l := chars)
  have hzero : chars.count (jc '0') = chars.countP fun c => c = jc '0' := by
    unfold List.count
    congr 1
  have hseen : (chars.countP fun c => c ≠ jc '0') =
      chars.countP fun c => ¬ decide (c = jc '0') = true := by
    simp
  omega

/-- Enough readings are `'0'`. -/
theorem dominantChar_of_dropouts (h : chars.length ≤ 2 * chars.count (jc '0')) :
    dominantChar chars = jc '0' := by
  unfold dominantChar
  exact if_neg fun hgt => (charOc_gt_zOccur_iff chars).1 hgt h

/-- Too few are: the last character counts. -/
theorem dominantChar_of_seen (h : ¬ chars.length ≤ 2 * chars.count (jc '0')) :
    lastSeen chars = some (dominantChar chars) := by
  have hgt := (charOc_gt_zOccur_iff chars).2 h
  have hresult : dominantChar chars = (lastSeen chars).getD (jc '0') := by
    unfold dominantChar
    dsimp only
    rw [if_pos hgt, foldl_found]
  have hpos : 0 < (chars.filter fun c => c ≠ jc '0').length := by
    rw [← List.countP_eq_length_filter]
    omega
  obtain ⟨last, hlast⟩ : ∃ last, lastSeen chars = some last :=
    Option.isSome_iff_exists.1 (List.getLast?_isSome.2 (List.ne_nil_of_length_pos hpos))
  rw [hresult, hlast, Option.getD_some]

/-- **The vote is right exactly when it is safe.** -/
theorem dominantChar_right_iff (chars : List JChar) :
    VoteRight chars (dominantChar chars) ↔ VoteSafe chars := by
  unfold VoteRight VoteSafe
  by_cases h : chars.length ≤ 2 * chars.count (jc '0')
  · rw [if_pos h, dominantChar_of_dropouts h]
    exact iff_of_true rfl (.inl h)
  · have hlast := dominantChar_of_seen h
    have hmem : dominantChar chars ∈ chars.filter fun c => c ≠ jc '0' := List.mem_of_getLast? hlast
    rw [List.mem_filter, decide_eq_true_iff] at hmem
    rw [if_neg h, or_iff_right h, hlast]
    constructor
    · rintro ⟨-, -, hmost⟩ last hmem' c hc
      obtain rfl := Option.mem_some_iff.1 hmem'
      exact hmost c hc
    · intro hmost
      exact ⟨hmem.2, hmem.1, hmost _ rfl⟩

/-! ### Over the link -/

variable {L ρ : Type} (k : Link L ρ)

/-- One turn of the reading loop of `readIRChar`: the character `getIRChar` returned. -/
def irReading : Api L ρ JChar := do
  let currentReceived ← getIRChar k
  refreshDigitalPins k
  sleep k 10
  return currentReceived

/-- The characters the successive calls of `getIRChar` return. -/
def irReadings (readingCount : ℕ) : Api L ρ (List JChar) := do
  refreshDigitalPins k
  (List.range readingCount).mapM fun _ => irReading k

/-- `readIRChar` votes on the readings. -/
theorem readIRCharOf_eq (readingCount : ℕ) :
    readIRCharOf k readingCount = do return dominantChar (← irReadings k readingCount) := by
  unfold readIRCharOf irReadings
  rw [bind_assoc]
  rfl

/-- The readings of a call: there are as many as there should be. -/
theorem irReadings_returns (readingCount : ℕ) (s : Robot L ρ) :
    ∃ chars t, irReadings k readingCount s = .ok (chars, t) ∧ chars.length = readingCount := by
  have hends : Ends (fun _ : Robot L ρ => True) (irReadings k readingCount) := by
    refine Stateful.Ends.bind (ExeRobot.Ends.refreshDigitalPins stable_true k) fun _ =>
      Stateful.Ends.mapM (fun _ => ?_) _
    refine Stateful.Ends.bind (ExeRobot.Ends.getIRChar stable_true k) fun c => ?_
    refine Stateful.Ends.bind (ExeRobot.Ends.refreshDigitalPins stable_true k) fun _ => ?_
    exact Stateful.Ends.bind (ExeRobot.Ends.sleep stable_true k 10) fun _ => Stateful.Ends.pure c
  obtain ⟨chars, t, hrun, -⟩ := hends (s := s) trivial
  obtain ⟨_, s', -, hloop⟩ := bind_eq_ok.1 hrun
  exact ⟨chars, t, hrun, (mapM_length hloop).trans List.length_range⟩

/-- **`readIRChar` is right exactly when the vote is safe**: whatever the readings are
and however many of them it takes, it returns, and its result is the right outcome
exactly when at least half of the readings are `'0'` or the last other character is
one of the most frequent. -/
theorem readIRCharOf_right_iff (readingCount : ℕ) (s : Robot L ρ) :
    ∃ chars result t, irReadings k readingCount s = .ok (chars, t) ∧ chars.length = readingCount ∧
      readIRCharOf k readingCount s = .ok (result, t) ∧ (VoteRight chars result ↔ VoteSafe chars) := by
  obtain ⟨chars, t, hrun, hlen⟩ := irReadings_returns k readingCount s
  refine ⟨chars, dominantChar chars, t, hrun, hlen, ?_, dominantChar_right_iff chars⟩
  rw [readIRCharOf_eq, run_bind_ok hrun]
  rfl

/-! ### Every sequence of readings can occur -/

/-- A board whose successive IR readings are those of `chars`. -/
def reader (chars : List JChar) : Link ℕ JString where
  text := id
  sendRaw := fun _ cmd _ n =>
    if cmd = .irChar then ([jc 'i', jc ' ', chars.getD n (jc '0')], n + 1) else ([], n)
  sleep := fun _ n => n

theorem reader_eq (chars : List JChar) : reader chars = irBoard fun n => chars.getD n (jc '0') := rfl

theorem irReading_reader (h : ∀ c ∈ chars, isSpace c = false) (n : ℕ) :
    Reads (irReading (reader chars)) n (n + 1) (chars.getD n (jc '0')) := by
  have hspace : ∀ n, isSpace (chars.getD n (jc '0')) = false := fun n => by
    rw [List.getD_eq_getElem?_getD]
    cases hn : chars[n]? with
    | none => decide
    | some c => exact h c (List.mem_of_getElem? hn)
  rw [reader_eq]
  refine Reads.bind (Reads.getIRChar hspace n) ?_
  refine Reads.bind (Reads.refreshDigitalPins _) ?_
  exact Reads.bind (Reads.sleep _ _) (Reads.pure _)

/-- Any characters but white space can be the readings of a call. -/
theorem irReadings_reader (chars : List JChar) (h : ∀ c ∈ chars, isSpace c = false) :
    ∃ t, irReadings (reader chars) chars.length (connectedTo 0) = .ok (chars, t) := by
  have hloop := Reads.mapM (fun _ : ℕ => irReading_reader h) (List.range chars.length) 0
  have hchars : ((List.range (List.range chars.length).length).map fun j =>
      chars.getD (0 + 1 * j) (jc '0')) = chars := by
    refine List.ext_getElem (by simp) fun j hj hj' => ?_
    simp [List.getD_eq_getElem?_getD, hj']
  rw [hchars] at hloop
  have hall : Reads (irReadings (reader chars) chars.length) 0 _ chars :=
    Reads.bind (Reads.refreshDigitalPins 0) hloop
  obtain ⟨t, hrun, -⟩ := hall (connectedTo 0) rfl rfl
  exact ⟨t, hrun⟩

/-- Three readings of one pylon and, at the end, one of another: the vote goes to the
other.  With the last two readings exchanged it goes to the first. -/
theorem not_voteRight_lastSeen :
    (∃ t, irReadings (reader [jc 'K', jc 'K', jc 'K', jc 'G']) 4 (connectedTo 0) =
        .ok ([jc 'K', jc 'K', jc 'K', jc 'G'], t) ∧
      readIRChar (reader [jc 'K', jc 'K', jc 'K', jc 'G']) (connectedTo 0) = .ok (jc 'G', t)) ∧
    ¬ VoteRight [jc 'K', jc 'K', jc 'K', jc 'G'] (jc 'G') ∧
    ∃ t, readIRChar (reader [jc 'K', jc 'K', jc 'G', jc 'K']) (connectedTo 0) = .ok (jc 'K', t) := by
  have hread : ∀ {chars : List JChar} {t},
      irReadings (reader chars) 4 (connectedTo 0) = .ok (chars, t) →
      readIRChar (reader chars) (connectedTo 0) = .ok (dominantChar chars, t) := fun h => by
    rw [readIRChar, readIRCharOf_eq, run_bind_ok h]
    rfl
  have hK : isSpace (jc 'K') = false := by decide
  have hG : isSpace (jc 'G') = false := by decide
  obtain ⟨t, hlast⟩ := irReadings_reader [jc 'K', jc 'K', jc 'K', jc 'G'] (by simp [hK, hG])
  obtain ⟨t', hbefore⟩ := irReadings_reader [jc 'K', jc 'K', jc 'G', jc 'K'] (by simp [hK, hG])
  refine ⟨⟨t, hlast, hread hlast⟩, fun h => ?_, ⟨t', hread hbefore⟩⟩
  obtain ⟨-, -, hmost⟩ : jc 'G' ≠ jc '0' ∧ jc 'G' ∈ [jc 'K', jc 'K', jc 'K', jc 'G'] ∧
      ∀ c ≠ jc '0', [jc 'K', jc 'K', jc 'K', jc 'G'].count c ≤
        [jc 'K', jc 'K', jc 'K', jc 'G'].count (jc 'G') := h
  exact absurd (hmost (jc 'K') (by decide)) (by decide)

end EXERobot
end ExeRobot
