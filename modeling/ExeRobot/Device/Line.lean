/-
# The command lines of the API

Every method of `RXTXRobot` drives the Arduino by sending one line of text: a letter,
for two of them a second letter, and the arguments in decimal, with one blank between
two parts and a line end.  A `Line` is such a line with its parts still apart, and
`Line.text` is the string a method hands to `sendRaw`.  Two pairs of methods send the
same line: `getConductivity` and `readCompass`, and `getGyroscope` and
`getGPSCoordinates`.

A line can be read back from its text the way the API itself reads a reply, by
`split("\\s+")` and `Integer.parseInt` (`Line.parse`).  The text has no line end in
it, so the octets written to the port say which lines were written, and a part of
them which were written first (`parseWith_of_prefix`).
-/

import ExeRobot.Java.Decimal
import ExeRobot.Library.Terminated
import ExeRobot.Robot.SerialLink

namespace ExeRobot

/-- A line sent by a method of the API. -/
inductive Line where
  | readAnalog
  | readDigital
  | temperature
  | ping (pin : ℤ)
  /-- `getConductivity` and `readCompass`. -/
  | conductivity
  | irChar
  /-- `getGyroscope` and `getGPSCoordinates`. -/
  | gyroscope
  | attachMotor (motor pin : ℤ)
  | attachServo (servo pin : ℤ)
  | moveServo (servo position : ℤ)
  | moveAllServos (pos1 pos2 pos3 : ℤ)
  /-- `runMotor`, `runMixer` and `stopMixer`. -/
  | runMotor (motor speed time : ℤ)
  | runTwoMotors (motor1 speed1 motor2 speed2 time : ℤ)
  | runFourMotors (motor1 speed1 motor2 speed2 motor3 speed3 motor4 speed4 time : ℤ)
  | runEncodedMotor (motor speed ticks : ℤ)
  | runTwoEncodedMotors (motor1 speed1 tick1 motor2 speed2 tick2 : ℤ)
  | encodedMotorPosition (motor : ℤ)
  | resetEncodedMotorPosition (motor : ℤ)
  | motorRampUpTime (millis : ℤ)
  | pcaServo (channel position : ℤ)
  | pcaTimedServo (channel position duration : ℤ)
  | pcaContServo (channel speed : ℤ)
  | pcaTimedContServo (channel speed duration : ℤ)
  | pcaMotor (channel speed : ℤ)
  | pcaTimedMotor (channel speed time : ℤ)
  | twoPCAMotor (channel1 speed1 channel2 speed2 : ℤ)
  | twoPCATimedMotor (channel1 speed1 channel2 speed2 time : ℤ)
  | pcaEncoder (channel speed pin ticks : ℤ)
  | twoPCAEncoder (channel1 speed1 pin1 ticks1 channel2 speed2 pin2 ticks2 : ℤ)
  | pcaEncodedMotorTicks (channel : ℤ)
  | channelPCAStop (channel : ℤ)
  | allPCAStop
  deriving DecidableEq, Repr

namespace Line

/-- The first letter of a line. -/
def letter : Line → Char
  | readAnalog | readDigital | temperature => 'r'
  | ping _ => 'q'
  | conductivity => 'c'
  | irChar => 'i'
  | gyroscope => 'g'
  | attachMotor _ _ | attachServo _ _ => 'a'
  | moveServo _ _ => 'v'
  | moveAllServos _ _ _ => 'V'
  | runMotor _ _ _ => 'd'
  | runTwoMotors _ _ _ _ _ => 'D'
  | runFourMotors _ _ _ _ _ _ _ _ _ => 'F'
  | runEncodedMotor _ _ _ => 'e'
  | runTwoEncodedMotors _ _ _ _ _ _ => 'E'
  | encodedMotorPosition _ => 'p'
  | resetEncodedMotorPosition _ => 'z'
  | motorRampUpTime _ => 'm'
  | pcaServo _ _ => 's'
  | pcaTimedServo _ _ _ => 't'
  | pcaContServo _ _ => 'S'
  | pcaTimedContServo _ _ _ => 'T'
  | pcaMotor _ _ => 'w'
  | pcaTimedMotor _ _ _ => 'u'
  | twoPCAMotor _ _ _ _ => 'W'
  | twoPCATimedMotor _ _ _ _ _ => 'U'
  | pcaEncoder _ _ _ _ => 'y'
  | twoPCAEncoder _ _ _ _ _ _ _ _ => 'Y'
  | pcaEncodedMotorTicks _ => '?'
  | channelPCAStop _ => 'X'
  | allPCAStop => '*'

/-- The second letter of a line, where it has one. -/
def sub : Line → Option Char
  | readAnalog => some 'a'
  | readDigital => some 'd'
  | temperature => some 't'
  | attachMotor _ _ => some 'm'
  | attachServo _ _ => some 's'
  | _ => none

/-- The arguments of a line. -/
def args : Line → List ℤ
  | readAnalog | readDigital | temperature | conductivity | irChar | gyroscope | allPCAStop => []
  | ping a | encodedMotorPosition a | resetEncodedMotorPosition a | motorRampUpTime a
  | pcaEncodedMotorTicks a | channelPCAStop a => [a]
  | attachMotor a b | attachServo a b | moveServo a b | pcaServo a b | pcaContServo a b
  | pcaMotor a b => [a, b]
  | moveAllServos a b c | runMotor a b c | runEncodedMotor a b c | pcaTimedServo a b c
  | pcaTimedContServo a b c | pcaTimedMotor a b c => [a, b, c]
  | twoPCAMotor a b c d | pcaEncoder a b c d => [a, b, c, d]
  | runTwoMotors a b c d e | twoPCATimedMotor a b c d e => [a, b, c, d, e]
  | runTwoEncodedMotors a b c d e f => [a, b, c, d, e, f]
  | twoPCAEncoder a b c d e f g h => [a, b, c, d, e, f, g, h]
  | runFourMotors a b c d e f g h i => [a, b, c, d, e, f, g, h, i]

/-- The words of a line after its first letter. -/
def rest (l : Line) : List JString := l.sub.toList.map (fun c => [jc c]) ++ l.args.map intText

/-- The string handed to `sendRaw`. -/
def text (l : Line) : JString := line [jc l.letter] l.rest

/-! ### Reading a line back -/

/-- The line with these parts. -/
def ofParts : Char → Option Char → List ℤ → Option Line
  | 'r', some 'a', [] => some readAnalog
  | 'r', some 'd', [] => some readDigital
  | 'r', some 't', [] => some temperature
  | 'q', none, [a] => some (ping a)
  | 'c', none, [] => some conductivity
  | 'i', none, [] => some irChar
  | 'g', none, [] => some gyroscope
  | 'a', some 'm', [a, b] => some (attachMotor a b)
  | 'a', some 's', [a, b] => some (attachServo a b)
  | 'v', none, [a, b] => some (moveServo a b)
  | 'V', none, [a, b, c] => some (moveAllServos a b c)
  | 'd', none, [a, b, c] => some (runMotor a b c)
  | 'D', none, [a, b, c, d, e] => some (runTwoMotors a b c d e)
  | 'F', none, [a, b, c, d, e, f, g, h, i] => some (runFourMotors a b c d e f g h i)
  | 'e', none, [a, b, c] => some (runEncodedMotor a b c)
  | 'E', none, [a, b, c, d, e, f] => some (runTwoEncodedMotors a b c d e f)
  | 'p', none, [a] => some (encodedMotorPosition a)
  | 'z', none, [a] => some (resetEncodedMotorPosition a)
  | 'm', none, [a] => some (motorRampUpTime a)
  | 's', none, [a, b] => some (pcaServo a b)
  | 't', none, [a, b, c] => some (pcaTimedServo a b c)
  | 'S', none, [a, b] => some (pcaContServo a b)
  | 'T', none, [a, b, c] => some (pcaTimedContServo a b c)
  | 'w', none, [a, b] => some (pcaMotor a b)
  | 'u', none, [a, b, c] => some (pcaTimedMotor a b c)
  | 'W', none, [a, b, c, d] => some (twoPCAMotor a b c d)
  | 'U', none, [a, b, c, d, e] => some (twoPCATimedMotor a b c d e)
  | 'y', none, [a, b, c, d] => some (pcaEncoder a b c d)
  | 'Y', none, [a, b, c, d, e, f, g, h] => some (twoPCAEncoder a b c d e f g h)
  | '?', none, [a] => some (pcaEncodedMotorTicks a)
  | 'X', none, [a] => some (channelPCAStop a)
  | '*', none, [] => some allPCAStop
  | _, _, _ => none

theorem ofParts_parts (l : Line) : ofParts l.letter l.sub l.args = some l := by
  cases l <;> rfl

/-- The character of a word of one letter. -/
def charOf : JString → Option Char
  | [c] => some (Char.ofNat c.toNat)
  | _ => none

/-- The lines that have a second letter. -/
def hasSub (c : Char) : Bool := c = 'r' || c = 'a'

/-- The line of which `w` is the first word and `us` are the others; `num` reads numbers. -/
def ofWords (num : JString → Option ℤ) (w : JString) (us : List JString) : Option Line := do
  let c ← charOf w
  if hasSub c then
    let u ← us.head?
    let d ← charOf u
    let vs ← us.tail.mapM num
    ofParts c (some d) vs
  else
    let vs ← us.mapM num
    ofParts c none vs

/-- Reading a line. -/
def parseWith (num : JString → Option ℤ) (s : JString) : Option Line :=
  match split s with
  | [] => none
  | w :: us => ofWords num w us

/-- Reading a line whose arguments are `int`s. -/
def parse : JString → Option Line := parseWith parseInt

/-- The arguments are `int`s. -/
def IsInt (l : Line) : Prop := ∀ v ∈ l.args, -2 ^ 31 ≤ v ∧ v < 2 ^ 31

instance (l : Line) : Decidable l.IsInt := by unfold IsInt; infer_instance

theorem charOf_letter (l : Line) : charOf [jc l.letter] = some l.letter := by
  cases l <;> rfl

theorem charOf_sub (l : Line) : ∀ c ∈ l.sub, charOf [jc c] = some c := by
  cases l <;> simp [sub] <;> rfl

theorem hasSub_letter (l : Line) : hasSub l.letter = l.sub.isSome := by
  cases l <;> rfl

/-- The letters of a line are visible characters. -/
theorem visible_letter (l : Line) : isSpace (jc l.letter) = false ∧ ¬ jc l.letter ≤ 32 := by
  cases l <;> simp only [letter] <;> decide

theorem visible_sub (l : Line) : ∀ c ∈ l.sub, isSpace (jc c) = false ∧ ¬ jc c ≤ 32 := by
  cases l <;> simp [sub] <;> decide

/-- The words of a line are words of visible characters. -/
theorem rest_visible (l : Line) {u : JString} (hu : u ∈ l.rest) :
    u ≠ [] ∧ ∀ c ∈ u, isSpace c = false ∧ ¬ c ≤ 32 := by
  rcases List.mem_append.1 hu with hu | hu
  · obtain ⟨c, hc, rfl⟩ := List.mem_map.1 hu
    have := visible_sub l c (Option.mem_toList.1 hc)
    exact ⟨by simp, fun d hd => List.mem_singleton.1 hd ▸ this⟩
  · obtain ⟨v, -, rfl⟩ := List.mem_map.1 hu
    exact ⟨intText_ne_nil v, fun c hc => visible_of_mem_intText hc⟩

theorem isWord_rest (l : Line) : ∀ u ∈ l.rest, IsWord u := fun _ hu =>
  ⟨(rest_visible l hu).1, fun c hc => ((rest_visible l hu).2 c hc).1⟩

/-- The text of a line is cut into its words. -/
theorem split_text (l : Line) : split l.text = [jc l.letter] :: l.rest := by
  refine split_line ⟨by simp, fun c hc => ?_⟩ (isWord_rest l)
  rw [List.mem_singleton.1 hc]
  exact (visible_letter l).1

theorem mapM_intText {num : JString → Option ℤ} {vs : List ℤ} (h : ∀ v ∈ vs, num (intText v) = some v) :
    (vs.map intText).mapM num = some vs := by
  induction vs with
  | nil => rfl
  | cons v vs ih =>
    rw [List.map_cons, List.mapM_cons, h v (List.mem_cons_self ..),
      ih fun u hu => h u (List.mem_cons_of_mem _ hu)]
    rfl

theorem parseWith_text {num : JString → Option ℤ} {l : Line}
    (h : ∀ v ∈ l.args, num (intText v) = some v) : parseWith num l.text = some l := by
  have hparts := ofParts_parts l
  unfold parseWith
  rw [split_text]
  show ofWords num [jc l.letter] l.rest = _
  unfold ofWords rest
  rw [charOf_letter, Option.bind_eq_bind, Option.bind_some, hasSub_letter]
  cases hsub : l.sub with
  | none =>
    rw [hsub] at hparts
    simp only [Option.isSome_none, Bool.false_eq_true, if_false, Option.toList_none, List.map_nil,
      List.nil_append]
    rw [mapM_intText h]
    exact hparts
  | some c =>
    rw [hsub] at hparts
    simp only [Option.isSome_some, if_true, Option.toList_some, List.map_cons, List.map_nil,
      List.singleton_append, List.head?_cons, List.tail_cons, Option.bind_eq_bind, Option.bind_some]
    rw [charOf_sub l c hsub, mapM_intText h]
    exact hparts

/-- **A line is read back from its text.** -/
theorem parse_text {l : Line} (h : l.IsInt) : parse l.text = some l :=
  parseWith_text fun v hv => parseInt_intText (h v hv)

theorem parse_text_runMotor : parse (runMotor 2 (-100) 30000).text = some (runMotor 2 (-100) 30000) :=
  parse_text (by decide)

/-- Different lines have different texts, whatever the arguments. -/
theorem text_injective : Function.Injective text := by
  intro l l' h
  have hl : parseWith parseSigned l.text = some l := parseWith_text fun v _ => parseSigned_intText v
  have hl' : parseWith parseSigned l'.text = some l' := parseWith_text fun v _ => parseSigned_intText v
  rw [h, hl'] at hl
  exact (Option.some.inj hl).symm

/-! ### The stream of lines -/

/-- A line of words has visible characters and blanks between them. -/
theorem visible_of_mem_text {l : Line} {c : JChar} (h : c ∈ l.text) : c = jc ' ' ∨ ¬ c ≤ 32 := by
  rcases List.mem_append.1 h with h | h
  · rw [List.mem_singleton.1 h]
    exact .inr (visible_letter l).2
  · obtain ⟨u, hu, hc⟩ := List.mem_flatMap.1 h
    rcases List.mem_cons.1 hc with rfl | hc
    · exact .inl rfl
    · exact .inr ((rest_visible l hu).2 c hc).2

/-- The last word of a line ends with a visible character. -/
theorem getLast_line (w : JString) (us : List JString) (hw : w ≠ [] ∧ ∀ c ∈ w, ¬ c ≤ 32)
    (hus : ∀ u ∈ us, u ≠ [] ∧ ∀ c ∈ u, ¬ c ≤ 32) :
    ∃ s c, line w us = s ++ [c] ∧ ¬ c ≤ 32 := by
  induction us generalizing w with
  | nil =>
    refine ⟨w.dropLast, w.getLast hw.1, ?_, hw.2 _ (List.getLast_mem hw.1)⟩
    rw [List.dropLast_append_getLast hw.1, line, List.flatMap_nil, List.append_nil]
  | cons u us ih =>
    obtain ⟨s, c, hs, hc⟩ := ih u (hus u (List.mem_cons_self ..))
      fun v hv => hus v (List.mem_cons_of_mem _ hv)
    exact ⟨w ++ jc ' ' :: s, c, by rw [line_cons, hs]; simp, hc⟩

/-- `trim()` of a line with its carriage return is the line, and of the line alone too. -/
theorem trim_text (l : Line) {s : JString} (hs : ∀ c ∈ s, c ≤ 32) : trim (l.text ++ s) = l.text := by
  obtain ⟨t, c, ht, hc⟩ := getLast_line [jc l.letter] l.rest
    ⟨by simp, fun d hd => List.mem_singleton.1 hd ▸ (visible_letter l).2⟩
    fun u hu => ⟨(rest_visible l hu).1, fun d hd => ((rest_visible l hu).2 d hd).2⟩
  have htail : (l.text ++ s).rdropWhile (· ≤ 32) = l.text.rdropWhile (· ≤ 32) := by
    induction s using List.reverseRecOn with
    | nil => rw [List.append_nil]
    | append_singleton s a ih =>
      rw [← List.append_assoc, List.rdropWhile_concat_pos _ _ _ (by simpa using hs a (by simp))]
      exact ih fun b hb => hs b (by simp [hb])
  have hhead : (l.text ++ s).dropWhile (· ≤ 32) = l.text ++ s := by
    show (jc l.letter :: _).dropWhile _ = _
    rw [List.dropWhile_cons_of_neg (by simpa using (visible_letter l).2)]
    rfl
  have htext : l.text = t ++ [c] := ht
  rw [trim, hhead, htail, htext, List.rdropWhile_concat_neg _ _ _ (by simpa using hc)]

/-- What `out.write` writes for a line: the text and a line end. -/
def octets (l : Line) : JString := l.text ++ [jc '\r', jc '\n']

/-- The octets of lines written one after the other. -/
def stream (ls : List Line) : JString := ls.flatMap octets

theorem stream_eq (ls : List Line) :
    stream ls = Terminated.join (jc '\n') (ls.map fun l => l.text ++ [jc '\r']) := by
  unfold stream Terminated.join
  rw [List.flatMap_map]
  exact List.flatMap_congr fun l _ => by simp [octets]

theorem newline_notMem (ls : List Line) :
    ∀ w ∈ ls.map fun l => l.text ++ [jc '\r'], jc '\n' ∉ w := by
  intro w hw hmem
  obtain ⟨l, -, rfl⟩ := List.mem_map.1 hw
  rcases List.mem_append.1 hmem with h | h
  · rcases visible_of_mem_text h with h | h
    · exact absurd h (by decide)
    · exact h (by decide)
  · exact absurd h (by decide)

/-- A reader of the octets: the lines that were written, in order. -/
theorem parseWith_stream {num : JString → Option ℤ} {ls : List Line}
    (h : ∀ l ∈ ls, ∀ v ∈ l.args, num (intText v) = some v) :
    (Terminated.words (jc '\n') [] (stream ls)).map (fun w => parseWith num (trim w)) =
      ls.map some := by
  rw [stream_eq, Terminated.words_join (newline_notMem ls), List.map_map]
  refine List.map_congr_left fun l hl => ?_
  show parseWith num (trim (l.text ++ [jc '\r'])) = some l
  rw [trim_text l fun c hc => List.mem_singleton.1 hc ▸ (by decide : jc '\r' ≤ 32),
    parseWith_text (h l hl)]

/-- A reader at any moment: the complete lines among the octets that have arrived are the
first lines that were written. -/
theorem parseWith_of_prefix {num : JString → Option ℤ} {ls : List Line}
    (h : ∀ l ∈ ls, ∀ v ∈ l.args, num (intText v) = some v) {p : JString} (hp : p <+: stream ls) :
    (Terminated.words (jc '\n') [] p).map (fun w => parseWith num (trim w)) <+: ls.map some :=
  parseWith_stream h ▸ (Terminated.words_prefix hp []).map _

end Line
end ExeRobot
