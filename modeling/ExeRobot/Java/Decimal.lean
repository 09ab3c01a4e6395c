/-
# Java text: numbers in a string, words in a line

`"" + n` writes an `int` in decimal, with a sign when it is negative and without
leading zeros (`intText`).  `parseInt` reads it back (`parseInt_intText`), and the
sign and the digits say which number it was for every integer, in the range of `int`
or not (`parseSigned_intText`).

A line made of words with one blank between two is cut into these words again by
`split("\\s+")` (`split_line`).
-/

import ExeRobot.Java.Text

namespace ExeRobot

/-- The decimal digits of a number. -/
def natText (n : ℕ) : JString := (Nat.toDigits 10 n).map jc

/-- `"" + v`. -/
def intText (v : ℤ) : JString := if v < 0 then jc '-' :: natText v.natAbs else natText v.natAbs

/-! ### Digits -/

/-- The characters of a number are `0` to `9`. -/
theorem exists_digitChar {n : ℕ} {c : Char} (h : c ∈ Nat.toDigits 10 n) :
    ∃ d < 10, c = Nat.digitChar d := by
  induction n using Nat.strong_induction_on with
  | _ n ih =>
    rw [Nat.toDigits_eq_if (by omega)] at h
    split at h
    · exact ⟨n, ‹_›, List.mem_singleton.1 h⟩
    · rcases List.mem_append.1 h with h | h
      · exact ih (n / 10) (by omega) h
      · exact ⟨n % 10, Nat.mod_lt _ (by omega), List.mem_singleton.1 h⟩

/-- What the characters `0` to `9` are to the readers of text. -/
theorem digitChar_facts : ∀ d < 10, digit (jc (Nat.digitChar d)) = some d ∧
    isSpace (jc (Nat.digitChar d)) = false ∧ jc (Nat.digitChar d) ≠ jc '-' ∧
    jc (Nat.digitChar d) ≠ jc '+' ∧ ¬ jc (Nat.digitChar d) ≤ 32 := by
  decide

/-- The code units of a number are digits. -/
theorem exists_digit_of_mem_natText {n : ℕ} {c : JChar} (h : c ∈ natText n) :
    ∃ d < 10, c = jc (Nat.digitChar d) := by
  obtain ⟨x, hx, rfl⟩ := List.mem_map.1 h
  obtain ⟨d, hd, rfl⟩ := exists_digitChar hx
  exact ⟨d, hd, rfl⟩

theorem natText_ne_nil (n : ℕ) : natText n ≠ [] := by
  simp [natText, Nat.toDigits_ne_nil]

theorem intText_ne_nil (v : ℤ) : intText v ≠ [] := by
  unfold intText
  split
  · simp
  · exact natText_ne_nil _

/-- A number is a word: visible characters only. -/
theorem visible_of_mem_intText {v : ℤ} {c : JChar} (h : c ∈ intText v) :
    isSpace c = false ∧ ¬ c ≤ 32 := by
  have hnat : ∀ n, c ∈ natText n → isSpace c = false ∧ ¬ c ≤ 32 := by
    intro n hc
    obtain ⟨d, hd, rfl⟩ := exists_digit_of_mem_natText hc
    exact ⟨(digitChar_facts d hd).2.1, (digitChar_facts d hd).2.2.2.2⟩
  unfold intText at h
  split at h
  · rcases List.mem_cons.1 h with rfl | h
    · decide
    · exact hnat _ h
  · exact hnat _ h

/-! ### Reading a number back -/

theorem parseDigits_append (v : ℕ) (s t : JString) :
    parseDigits v (s ++ t) = (parseDigits v s).bind fun w => parseDigits w t := by
  induction s generalizing v with
  | nil => rfl
  | cons c s ih =>
    rw [List.cons_append, parseDigits, parseDigits]
    cases digit c with
    | none => rfl
    | some d => exact ih _

theorem parseDigits_natText (n : ℕ) : parseDigits 0 (natText n) = some n := by
  induction n using Nat.strong_induction_on with
  | _ n ih =>
    unfold natText
    rw [Nat.toDigits_eq_if (by omega)]
    split
    · simp [parseDigits, (digitChar_facts n ‹_›).1]
    · have hd : n % 10 < 10 := Nat.mod_lt _ (by omega)
      have hrest : parseDigits 0 ((Nat.toDigits 10 (n / 10)).map jc) = some (n / 10) :=
        ih (n / 10) (by omega)
      rw [List.map_append, parseDigits_append, hrest]
      simp only [List.map_cons, List.map_nil, Option.bind_some, parseDigits,
        (digitChar_facts _ hd).1]
      congr 1
      omega

theorem parseNat_natText (n : ℕ) : parseNat (natText n) = some n := by
  obtain ⟨c, s, hs⟩ := List.exists_cons_of_ne_nil (natText_ne_nil n)
  rw [hs]
  show parseDigits 0 (c :: s) = some n
  rw [← hs]
  exact parseDigits_natText n

/-- The sign and the digits of a number say which it is. -/
theorem parseSigned_intText (v : ℤ) : parseSigned (intText v) = some v := by
  unfold intText
  split
  · rw [parseSigned, if_pos rfl, parseNat_natText]
    show some (-(v.natAbs : ℤ)) = some v
    congr 1
    omega
  · obtain ⟨c, s, hs⟩ := List.exists_cons_of_ne_nil (natText_ne_nil v.natAbs)
    obtain ⟨d, hd, hc⟩ := exists_digit_of_mem_natText (n := v.natAbs) (c := c) (by rw [hs]; simp)
    obtain ⟨-, -, hminus, hplus, -⟩ := digitChar_facts d hd
    rw [hs, parseSigned, if_neg (hc ▸ hminus), if_neg (hc ▸ hplus), ← hs, parseNat_natText]
    show some (v.natAbs : ℤ) = some v
    congr 1
    omega

/-- `Integer.parseInt("" + v)` for an `int`. -/
theorem parseInt_intText {v : ℤ} (h : -2 ^ 31 ≤ v ∧ v < 2 ^ 31) : parseInt (intText v) = some v := by
  unfold parseInt
  rw [parseSigned_intText, Option.filter_some, if_pos (by simpa using h)]

/-! ### Words -/

/-- A string with at least one code unit and no white space. -/
def IsWord (w : JString) : Prop := w ≠ [] ∧ ∀ c ∈ w, isSpace c = false

/-- `w + " " + u1 + " " + u2 ...`. -/
def line (w : JString) (us : List JString) : JString := w ++ us.flatMap fun u => jc ' ' :: u

theorem line_cons (w u : JString) (us : List JString) :
    line w (u :: us) = w ++ jc ' ' :: line u us := by
  simp [line]

/-- A word is read into the current field. -/
theorem fields_append (cur : JString) {w : JString} (hw : ∀ c ∈ w, isSpace c = false) (s : JString) :
    fields cur false (w ++ s) = fields (cur ++ w) false s := by
  induction w generalizing cur with
  | nil => rw [List.nil_append, List.append_nil]
  | cons c w ih =>
    rw [List.cons_append, fields, if_neg (by simp [hw c (List.mem_cons_self ..)]),
      ih _ fun b hb => hw b (List.mem_cons_of_mem _ hb), List.append_assoc, List.singleton_append]

theorem fields_line {w : JString} {us : List JString} (hw : IsWord w) (hus : ∀ u ∈ us, IsWord u)
    (gap : Bool) : fields [] gap (line w us) = w :: us := by
  induction us generalizing w gap with
  | nil =>
    obtain ⟨c, w, rfl⟩ := List.exists_cons_of_ne_nil hw.1
    have hc : isSpace c = false := hw.2 c (List.mem_cons_self ..)
    rw [line, List.flatMap_nil, List.append_nil, fields, if_neg (by simp [hc]), List.nil_append]
    have := fields_append [c] (fun b hb => hw.2 b (List.mem_cons_of_mem _ hb)) []
    rwa [List.append_nil] at this
  | cons u us ih =>
    obtain ⟨c, w, rfl⟩ := List.exists_cons_of_ne_nil hw.1
    have hc : isSpace c = false := hw.2 c (List.mem_cons_self ..)
    rw [line_cons, List.cons_append, fields, if_neg (by simp [hc]), List.nil_append,
      fields_append [c] fun b hb => hw.2 b (List.mem_cons_of_mem _ hb), fields,
      if_pos (by decide), if_neg (by simp), List.singleton_append,
      ih (hus u (List.mem_cons_self ..)) (fun v hv => hus v (List.mem_cons_of_mem _ hv))]

/-- **A line of words is cut into its words.** -/
theorem split_line {w : JString} {us : List JString} (hw : IsWord w) (hus : ∀ u ∈ us, IsWord u) :
    split (line w us) = w :: us := by
  cases us with
  | nil =>
    rw [line, List.flatMap_nil, List.append_nil]
    exact split_of_no_space hw.2
  | cons u us =>
    have hblank : (line w (u :: us)).any isSpace = true := by
      rw [line_cons]
      simp [show isSpace (jc ' ') = true by decide]
    have hlast : (w :: u :: us).getLast (by simp) ≠ [] := by
      have hmem : (w :: u :: us).getLast (by simp) ∈ u :: us := by
        rw [List.getLast_cons (by simp)]
        exact List.getLast_mem _
      exact (hus _ hmem).1
    rw [split, if_pos hblank, fields_line hw hus]
    exact List.rdropWhile_eq_self_iff.2 fun _ => by simpa using hlast

end ExeRobot
