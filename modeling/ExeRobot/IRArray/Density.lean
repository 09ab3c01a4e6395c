/-
# The beacons of a scan: `IRArrayDensity(char[][])`

`IRArrayDensity.java`, lines 7-39.  For every row of the scan the constructor
collects the distinct characters of the row, counts each of them, takes the one
with the highest count, and appends the character and its count to `beacons`
and `density`.

The collecting loop tests `charactersPresent.contains(new Character(c))`, which
compares values.  The counting loop tests
`new Character(c) == charactersPresent.get(i)`, which compares the identities of
two boxed objects, one of them made on the spot.  No object is ever equal to a
new one (`countOf_eq`), so every count is `0`, the maximum is taken at the first
character, and the constructor keeps the first character of each row with
density `0` (`new_eq`).
-/

import ExeRobot.Java.Lang
import ExeRobot.Library.Stateful

namespace ExeRobot

/-- The two parallel lists an `IRArrayDensity` object holds. -/
structure IRArrayDensity where
  beacons : List Character
  density : List ℤ
  deriving DecidableEq, Repr

namespace IRArrayDensity

open Stateful

/-- The first inner loop: the distinct characters of a row, in the order of their
first occurrences. -/
def charactersPresent : List JChar → List Character → Alloc (List Character)
  | [], present => pure present
  | c :: row, present => do
      let probe ← Character.new c
      if present.any probe.equals then charactersPresent row present
      else
        let added ← Character.new c
        charactersPresent row (present ++ [added])

/-- The second inner loop for one collected character: `densityValues[characterIndex]`. -/
def countOf (b : Character) : List JChar → ℤ → Alloc ℤ
  | [], d => pure d
  | c :: row, d => do
      let fresh ← Character.new c
      countOf b row (if fresh.same b then d + 1 else d)

/-- One turn of the third inner loop: keep `highest` unless a later value is larger. -/
def highestStep (values : List ℤ) (highest index : ℕ) : Except Fault ℕ := do
  let v ← getAt values (index : ℤ)
  let h ← getAt values (highest : ℤ)
  pure (if v > h then index else highest)

/-- `highestDensity`: the index of the largest value, the first of equals. -/
def highestDensity (values : List ℤ) : Except Fault ℕ :=
  (List.range values.length).foldlM (highestStep values) 0

/-- The body of the loop over the rows. -/
def addRow (obj : IRArrayDensity) (row : List JChar) : Alloc IRArrayDensity := do
  let present ← charactersPresent row []
  let values ← present.mapM fun b => countOf b row 0
  let highest ← highestDensity values
  let beacon ← getAt present (highest : ℤ)
  let d ← getAt values (highest : ℤ)
  pure ⟨obj.beacons ++ [beacon], obj.density ++ [d]⟩

/-- `new IRArrayDensity(matrix)`. -/
def new (matrix : List (List JChar)) : Alloc IRArrayDensity :=
  matrix.foldlM addRow ⟨[], []⟩

/-- **The count of a collected character is never incremented:** the character
exists already when the counting loop makes the objects it compares it with. -/
theorem countOf_eq (b : Character) (row : List JChar) (d : ℤ) (next : ℕ) (h : b.ref < next) :
    countOf b row d next = .ok (d, next + row.length) := by
  induction row generalizing next with
  | nil => rfl
  | cons c row ih =>
    rw [countOf, run_bind_ok (Character.new_eq c next), Character.same_of_lt h c, if_neg (by simp),
      ih (next + 1) (by omega), List.length_cons,
      show next + 1 + row.length = next + (row.length + 1) by omega]

/-- A character collected already adds nothing to the list. -/
theorem charactersPresent_of_present {c : JChar} {present : List Character} {next : ℕ}
    (h : present.any (Character.equals ⟨next, c⟩) = true) (row : List JChar) :
    charactersPresent (c :: row) present next = charactersPresent row present (next + 1) := by
  rw [charactersPresent, run_bind_ok (Character.new_eq c next), if_pos h]

/-- A new character is appended. -/
theorem charactersPresent_of_absent {c : JChar} {present : List Character} {next : ℕ}
    (h : present.any (Character.equals ⟨next, c⟩) = false) (row : List JChar) :
    charactersPresent (c :: row) present next =
      charactersPresent row (present ++ [⟨next + 1, c⟩]) (next + 2) := by
  rw [charactersPresent, run_bind_ok (Character.new_eq c next), if_neg (by simp [h]),
    run_bind_ok (Character.new_eq c (next + 1))]

/-- What the collecting loop leaves: it only appends to the list, and every
object in it is older than the next one. -/
theorem charactersPresent_spec (row : List JChar) (present : List Character) (next : ℕ)
    (h : ∀ b ∈ present, b.ref < next) :
    ∃ more next', charactersPresent row present next = .ok (present ++ more, next') ∧
      ∀ b ∈ present ++ more, b.ref < next' := by
  induction row generalizing present next with
  | nil => exact ⟨[], next, by simp [charactersPresent], by simpa using h⟩
  | cons c row ih =>
    cases hc : present.any (Character.equals ⟨next, c⟩) with
    | true =>
      obtain ⟨more, next', hrun, hlt⟩ := ih present (next + 1) fun b hb => by
        have := h b hb; omega
      exact ⟨more, next', by rw [charactersPresent_of_present hc, hrun], hlt⟩
    | false =>
      obtain ⟨more, next', hrun, hlt⟩ := ih (present ++ [⟨next + 1, c⟩]) (next + 2) fun b hb => by
        rcases List.mem_append.1 hb with hb | hb
        · have := h b hb; omega
        · rw [List.mem_singleton.1 hb]; simp
      rw [List.append_assoc] at hrun hlt
      exact ⟨⟨next + 1, c⟩ :: more, next', by rw [charactersPresent_of_absent hc, hrun]; rfl, hlt⟩

/-- The first character collected from a row is its first character. -/
theorem charactersPresent_cons (c : JChar) (row : List JChar) (next : ℕ) :
    ∃ more next', charactersPresent (c :: row) [] next = .ok (⟨next + 1, c⟩ :: more, next') ∧
      ∀ b ∈ (⟨next + 1, c⟩ :: more : List Character), b.ref < next' := by
  obtain ⟨more, next', hrun, hlt⟩ := charactersPresent_spec row [⟨next + 1, c⟩] (next + 2) (by simp)
  exact ⟨more, next', by rw [charactersPresent_of_absent rfl, List.nil_append, hrun]; rfl, hlt⟩

/-- All the counts of a row are `0`. -/
theorem mapM_countOf (present : List Character) (row : List JChar) (next : ℕ)
    (h : ∀ b ∈ present, b.ref < next) :
    ∃ next', (present.mapM fun b => countOf b row 0) next =
      .ok (List.replicate present.length 0, next') := by
  induction present generalizing next with
  | nil => exact ⟨next, rfl⟩
  | cons b present ih =>
    have hb := countOf_eq b row 0 next (h b (List.mem_cons_self ..))
    obtain ⟨next', hrest⟩ := ih (next + row.length) fun b' hb' => by
      have := h b' (List.mem_cons_of_mem _ hb'); omega
    refine ⟨next', ?_⟩
    rw [List.mapM_cons, run_bind_ok hb, run_bind_ok hrest]
    rfl

/-- Among equal values the first is taken. -/
theorem highestDensity_replicate (n : ℕ) (d : ℤ) : highestDensity (List.replicate n d) = .ok 0 := by
  have hstep : ∀ is : List ℕ, (∀ i ∈ is, i < n) →
      is.foldlM (highestStep (List.replicate n d)) 0 = .ok 0 := by
    intro is
    induction is with
    | nil => intro _; rfl
    | cons i is ih =>
      intro h
      have hi : i < n := h i (List.mem_cons_self ..)
      have h0 : getAt (List.replicate n d) ((0 : ℕ) : ℤ) = .ok d := by
        rw [getAt_natCast (by simp; omega)]; simp
      have hd : getAt (List.replicate n d) (i : ℤ) = .ok d := by
        rw [getAt_natCast (by simpa using hi)]; simp
      rw [List.foldlM_cons]
      simp only [highestStep, h0, hd, bind, Except.bind, pure, Except.pure, gt_iff_lt, lt_irrefl,
        if_false]
      exact ih fun j hj => h j (List.mem_cons_of_mem _ hj)
  exact hstep _ fun i hi => by simpa using List.mem_range.1 hi

/-- A non-empty row adds its first character, with density `0`. -/
theorem addRow_cons (obj : IRArrayDensity) (c : JChar) (row : List JChar) (next : ℕ) :
    ∃ b next', addRow obj (c :: row) next = .ok (⟨obj.beacons ++ [b], obj.density ++ [0]⟩, next') ∧
      b.charValue = c := by
  obtain ⟨more, next₁, hpresent, hlt⟩ := charactersPresent_cons c row next
  obtain ⟨next₂, hvalues⟩ := mapM_countOf _ (c :: row) next₁ hlt
  refine ⟨⟨next + 1, c⟩, next₂, ?_, rfl⟩
  rw [addRow, run_bind_ok hpresent, run_bind_ok hvalues, run_bind_lift, highestDensity_replicate]
  rfl

/-- **What the constructor computes.**  For rows that are not empty it returns
the first character of every row, each with density `0`. -/
theorem new_eq (matrix : List (List JChar)) (next : ℕ) (h : ∀ row ∈ matrix, row ≠ []) :
    ∃ obj next', new matrix next = .ok (obj, next') ∧
      obj.beacons.map Character.charValue = matrix.filterMap List.head? ∧
      obj.density = List.replicate matrix.length 0 := by
  suffices ∀ (start : IRArrayDensity) (next : ℕ),
      ∃ obj next', matrix.foldlM addRow start next = .ok (obj, next') ∧
        obj.beacons.map Character.charValue =
          start.beacons.map Character.charValue ++ matrix.filterMap List.head? ∧
        obj.density = start.density ++ List.replicate matrix.length 0 by
    simpa [new] using this ⟨[], []⟩ next
  induction matrix with
  | nil => exact fun start next => ⟨start, next, rfl, by simp, by simp⟩
  | cons row matrix ih =>
    intro start next
    obtain ⟨c, row, rfl⟩ := List.exists_cons_of_ne_nil (h _ (List.mem_cons_self ..))
    obtain ⟨b, next₁, hrow, rfl⟩ := addRow_cons start c row next
    obtain ⟨obj, next', hrun, hb, hd⟩ :=
      ih (fun r hr => h r (List.mem_cons_of_mem _ hr)) ⟨start.beacons ++ [b], start.density ++ [0]⟩ next₁
    refine ⟨obj, next', ?_, ?_, ?_⟩
    · rw [List.foldlM_cons, run_bind_ok hrow, hrun]
    · simpa using hb
    · simpa [List.replicate_succ] using hd

/-- `beacon` and `density` describe the row: the density is the number of
occurrences of the beacon, no character occurs more often, and of those that
occur as often the beacon is the one seen first. -/
structure Dominant (row : List JChar) (beacon : JChar) (density : ℤ) : Prop where
  count : density = row.count beacon
  most : ∀ c, row.count c ≤ row.count beacon
  first : ∀ c ∈ row, row.count c = row.count beacon → row.idxOf beacon ≤ row.idxOf c

/-- The object describes the matrix: one beacon and one density per row, each
pair describing its row. -/
structure Describes (obj : IRArrayDensity) (matrix : List (List JChar)) : Prop where
  beacons_length : obj.beacons.length = matrix.length
  density_length : obj.density.length = matrix.length
  dominant : ∀ (r : ℕ) row b d, matrix[r]? = some row → obj.beacons[r]? = some b →
    obj.density[r]? = some d → Dominant row b.charValue d

/-- **The constructor describes the empty matrix and no other.**  A row has a
first character, which occurs in it, so the density `0` recorded for it is
wrong. -/
theorem new_describes_iff (matrix : List (List JChar)) (next : ℕ) (h : ∀ row ∈ matrix, row ≠ []) :
    (∃ obj next', new matrix next = .ok (obj, next') ∧ obj.Describes matrix) ↔ matrix = [] := by
  constructor
  · rintro ⟨obj, next', hrun, hdesc⟩
    cases matrix with
    | nil => rfl
    | cons row matrix =>
      obtain ⟨obj', next'', hrun', hb, hd⟩ := new_eq (row :: matrix) next h
      obtain ⟨rfl, rfl⟩ : obj = obj' ∧ next' = next'' := by simpa [hrun] using hrun'
      obtain ⟨c, row, rfl⟩ := List.exists_cons_of_ne_nil (h row (List.mem_cons_self ..))
      obtain ⟨b, beacons, hbs⟩ : ∃ b beacons, obj.beacons = b :: beacons :=
        List.exists_cons_of_ne_nil fun he => by simp [he] at hb
      have hc : b.charValue = c := by
        rw [hbs] at hb; simpa using (List.cons.inj hb).1
      have hdom := hdesc.dominant 0 (c :: row) b 0 rfl (by rw [hbs]; rfl) (by rw [hd]; rfl)
      have := hdom.count
      rw [hc, List.count_cons_self] at this
      omega
  · rintro rfl
    exact ⟨⟨[], []⟩, next, rfl, rfl, rfl, by simp⟩

/-- `new_describes_iff` at a scan of one row with two readings, the second of
which saw a pylon. -/
theorem new_describes_iff_oneRow :
    (∃ obj next', new [[jc '0', jc 'K']] 0 = .ok (obj, next') ∧ obj.Describes [[jc '0', jc 'K']]) ↔
      [[jc '0', jc 'K']] = [] :=
  new_describes_iff [[jc '0', jc 'K']] 0 (by simp)

/-- The row `K`, read once: the beacon is `K`, which occurs once, and the
density recorded for it is `0`. -/
theorem not_describes_K :
    (∀ row ∈ [[jc 'K']], row ≠ []) ∧
      ¬ ∃ obj next', new [[jc 'K']] 0 = .ok (obj, next') ∧ obj.Describes [[jc 'K']] := by
  refine ⟨by simp, ?_⟩
  rintro ⟨obj, next', hrun, hdesc⟩
  obtain ⟨rfl, rfl⟩ : (⟨[⟨1, jc 'K'⟩], [0]⟩ : IRArrayDensity) = obj ∧ 3 = next' := by
    simpa using (show new [[jc 'K']] 0 = .ok (⟨[⟨1, jc 'K'⟩], [0]⟩, 3) from rfl).symm.trans hrun
  have := (hdesc.dominant 0 [jc 'K'] ⟨1, jc 'K'⟩ 0 rfl rfl rfl).count
  simp at this

end IRArrayDensity

end ExeRobot
