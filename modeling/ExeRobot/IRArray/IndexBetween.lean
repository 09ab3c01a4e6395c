/-
# The distance between two beacons of a scan: `indexBetween`

`IRArrayDensity.java`, lines 57-81.  For each of the two characters a scan of the
rows looks for the row whose beacon it is, with the highest density: `-1` until
the first such row, replaced by a later one only when its density is larger.  The
result is the absolute difference of the two indices.

The scan finds the first of the rows of highest density among those the character
is the beacon of (`IsBest`), or leaves `-1` when there is none (`bestIndex_spec`).
The marker `-1` then enters the difference like an index.  For two beacons that
both occur the result is the distance between the least of their peaks
(`indexBetween_eq_peaks`).

On the table of a scan, where all densities are equal, both scans find the first
row that shows the character (`TableOf.indexBetween_eq`).
-/

import ExeRobot.IRArray.Density

namespace ExeRobot
namespace IRArrayDensity

/-- The body of the two loops. -/
def bestStep (obj : IRArrayDensity) (beacon : JChar) (best : ℤ) (index : ℕ) : Except Fault ℤ := do
  let here ← getAt obj.beacons index
  if best = -1 ∧ here.charValue = beacon then return index
  if here.charValue = beacon then
    let d ← getAt obj.density index
    let d' ← getAt obj.density best
    if d > d' then return index
  return best

/-- `beaconOneIndex`, `beaconTwoIndex`: the index of the beacon with the highest density. -/
def bestIndex (obj : IRArrayDensity) (beacon : JChar) : Except Fault ℤ :=
  (List.range obj.beacons.length).foldlM (bestStep obj beacon) (-1)

/-- `indexBetween(beaconOne, beaconTwo)`. -/
def indexBetween (obj : IRArrayDensity) (beaconOne beaconTwo : JChar) : Except Fault ℤ := do
  let beaconOneIndex ← bestIndex obj beaconOne
  let beaconTwoIndex ← bestIndex obj beaconTwo
  return |beaconTwoIndex - beaconOneIndex|

/-- The row `j` has the beacon `beacon`. -/
def Holds (obj : IRArrayDensity) (beacon : JChar) (j : ℕ) : Prop :=
  (obj.beacons[j]?).map Character.charValue = some beacon

instance (obj : IRArrayDensity) (beacon : JChar) (j : ℕ) : Decidable (obj.Holds beacon j) :=
  inferInstanceAs (Decidable (_ = _))

/-- The density of the row `j`. -/
def weight (obj : IRArrayDensity) (j : ℕ) : ℤ := obj.density.getD j 0

/-- Of the rows below `n` that have the beacon, `k` is the first with the highest density. -/
structure IsBest (obj : IRArrayDensity) (beacon : JChar) (n k : ℕ) : Prop where
  lt : k < n
  holds : obj.Holds beacon k
  most : ∀ j < n, obj.Holds beacon j → obj.weight j ≤ obj.weight k
  first : ∀ j < k, obj.Holds beacon j → obj.weight j < obj.weight k

/-- The scan before row `n`: no row so far has the beacon, or the best of them is found. -/
def Scanned (obj : IRArrayDensity) (beacon : JChar) (n : ℕ) (best : ℤ) : Prop :=
  (best = -1 ∧ ∀ j < n, ¬ obj.Holds beacon j) ∨ ∃ k : ℕ, best = k ∧ obj.IsBest beacon n k

variable {obj : IRArrayDensity} {beacon : JChar} {n : ℕ}

theorem getAt_beacons (hn : n < obj.beacons.length) (beacon : JChar) :
    ∃ here, getAt obj.beacons (n : ℤ) = .ok here ∧ (here.charValue = beacon ↔ obj.Holds beacon n) :=
  ⟨obj.beacons[n], getAt_natCast hn, by simp [Holds, List.getElem?_eq_getElem hn]⟩

theorem getAt_density (hn : n < obj.density.length) :
    getAt obj.density (n : ℤ) = .ok (obj.weight n) := by
  rw [getAt_natCast hn]
  simp [weight, List.getElem?_eq_getElem hn]

/-- A row without the beacon is passed over. -/
theorem bestStep_of_not_holds (hn : n < obj.beacons.length) (h : ¬ obj.Holds beacon n) (best : ℤ) :
    bestStep obj beacon best n = .ok best := by
  obtain ⟨here, hhere, hiff⟩ := getAt_beacons hn beacon
  unfold bestStep
  rw [hhere]
  simp [bind, Except.bind, pure, Except.pure, mt hiff.1 h]

/-- The first row with the beacon is taken. -/
theorem bestStep_first (hn : n < obj.beacons.length) (h : obj.Holds beacon n) :
    bestStep obj beacon (-1) n = .ok n := by
  obtain ⟨here, hhere, hiff⟩ := getAt_beacons hn beacon
  unfold bestStep
  rw [hhere]
  simp [bind, Except.bind, pure, Except.pure, hiff.2 h]

/-- A later row with the beacon is taken when its density is larger. -/
theorem bestStep_next (hlen : obj.beacons.length = obj.density.length) (hn : n < obj.beacons.length)
    (h : obj.Holds beacon n) {k : ℕ} (hk : k < n) :
    bestStep obj beacon k n = .ok (if obj.weight n > obj.weight k then (n : ℤ) else k) := by
  obtain ⟨here, hhere, hiff⟩ := getAt_beacons hn beacon
  unfold bestStep
  rw [hhere, getAt_density (n := n) (by omega), getAt_density (n := k) (by omega)]
  by_cases hgt : obj.weight n > obj.weight k
  · simp [bind, Except.bind, pure, Except.pure, hiff.2 h, hgt]
  · simp [bind, Except.bind, pure, Except.pure, hiff.2 h, hgt]

/-- **One turn of the scan.** -/
theorem Scanned.step (hlen : obj.beacons.length = obj.density.length) (hn : n < obj.beacons.length)
    {best : ℤ} (h : obj.Scanned beacon n best) :
    ∃ best', bestStep obj beacon best n = .ok best' ∧ obj.Scanned beacon (n + 1) best' := by
  have hlast : ∀ j < n + 1, j < n ∨ j = n := fun j hj => Nat.lt_succ_iff_lt_or_eq.1 hj
  by_cases hn' : obj.Holds beacon n
  · rcases h with ⟨rfl, hnone⟩ | ⟨k, rfl, hk⟩
    · refine ⟨n, bestStep_first hn hn', .inr ⟨n, rfl, by omega, hn', fun j hj hj' => ?_,
        fun j hj hj' => ?_⟩⟩
      · rcases hlast j hj with hlt | rfl
        · exact absurd hj' (hnone j hlt)
        · exact le_rfl
      · exact absurd hj' (hnone j hj)
    · refine ⟨_, bestStep_next hlen hn hn' hk.lt, .inr ?_⟩
      by_cases hgt : obj.weight n > obj.weight k
      · rw [if_pos hgt]
        refine ⟨n, rfl, by omega, hn', fun j hj hj' => ?_,
          fun j hj hj' => (hk.most j hj hj').trans_lt hgt⟩
        rcases hlast j hj with hlt | rfl
        · exact (hk.most j hlt hj').trans hgt.le
        · exact le_rfl
      · rw [if_neg hgt]
        refine ⟨k, rfl, by have := hk.lt; omega, hk.holds, fun j hj hj' => ?_, hk.first⟩
        rcases hlast j hj with hlt | rfl
        · exact hk.most j hlt hj'
        · exact not_lt.1 hgt
  · refine ⟨best, bestStep_of_not_holds hn hn' best, ?_⟩
    rcases h with ⟨rfl, hnone⟩ | ⟨k, rfl, hk⟩
    · refine .inl ⟨rfl, fun j hj => ?_⟩
      rcases hlast j hj with hlt | rfl
      · exact hnone j hlt
      · exact hn'
    · refine .inr ⟨k, rfl, by have := hk.lt; omega, hk.holds, fun j hj hj' => ?_, hk.first⟩
      rcases hlast j hj with hlt | rfl
      · exact hk.most j hlt hj'
      · exact absurd hj' hn'

/-- **What the scan finds.**  It never leaves the lists. -/
theorem bestIndex_spec (hlen : obj.beacons.length = obj.density.length) (beacon : JChar) :
    ∃ best, bestIndex obj beacon = .ok best ∧ obj.Scanned beacon obj.beacons.length best := by
  suffices ∀ n ≤ obj.beacons.length, ∃ best,
      (List.range n).foldlM (bestStep obj beacon) (-1) = .ok best ∧ obj.Scanned beacon n best from
    this _ le_rfl
  intro n
  induction n with
  | zero => exact fun _ => ⟨-1, rfl, .inl ⟨rfl, fun j hj => absurd hj (Nat.not_lt_zero j)⟩⟩
  | succ n ih =>
    intro hn
    obtain ⟨best, hrun, hbest⟩ := ih (by omega)
    obtain ⟨best', hstep, hbest'⟩ := hbest.step hlen hn
    refine ⟨best', ?_, hbest'⟩
    rw [List.range_succ, List.foldlM_append, hrun]
    show (List.foldlM (bestStep obj beacon) best [n]) = _
    rw [List.foldlM_cons, hstep]
    rfl

/-- The scan leaves one index. -/
theorem Scanned.unique {best best' : ℤ} (h : obj.Scanned beacon n best)
    (h' : obj.Scanned beacon n best') : best = best' := by
  rcases h with ⟨rfl, hnone⟩ | ⟨k, rfl, hk⟩ <;> rcases h' with ⟨rfl, hnone'⟩ | ⟨k', rfl, hk'⟩
  · rfl
  · exact absurd hk'.holds (hnone k' hk'.lt)
  · exact absurd hk.holds (hnone' k hk.lt)
  · rcases lt_trichotomy k k' with hlt | rfl | hlt
    · exact absurd (hk'.first k hlt hk.holds) (hk.most k' hk'.lt hk'.holds).not_gt
    · rfl
    · exact absurd (hk.first k' hlt hk'.holds) (hk'.most k hk.lt hk.holds).not_gt

/-! ### The peaks of a beacon -/

/-- The rows with the beacon `beacon` whose density is the highest of all rows with it. -/
def peaks (obj : IRArrayDensity) (beacon : JChar) : Set ℕ :=
  {k | ∃ d, obj.Holds beacon k ∧ obj.density[k]? = some d ∧
    ∀ j d', obj.Holds beacon j → obj.density[j]? = some d' → d' ≤ d}

/-- A row with a beacon is a row. -/
theorem Holds.lt {k : ℕ} (h : obj.Holds beacon k) : k < obj.beacons.length := by
  by_contra hk
  rw [Holds, List.getElem?_eq_none (not_lt.1 hk)] at h
  cases h

/-- A beacon that occurs is that of some row. -/
theorem exists_holds (h : beacon ∈ obj.beacons.map Character.charValue) :
    ∃ k, obj.Holds beacon k := by
  obtain ⟨k, hk⟩ := List.getElem?_of_mem h
  refine ⟨k, ?_⟩
  rw [Holds, ← List.getElem?_map, hk]

/-- The density a row of both lists has. -/
theorem getElem?_density (hlen : obj.beacons.length = obj.density.length)
    {k : ℕ} (hk : obj.Holds beacon k) : obj.density[k]? = some (obj.weight k) := by
  have hk' : k < obj.density.length := hlen ▸ hk.lt
  rw [weight, List.getD_eq_getElem?_getD, List.getElem?_eq_getElem hk', Option.getD_some]

/-- The best of all rows is the least of the peaks. -/
theorem IsBest.isLeast_peaks (hlen : obj.beacons.length = obj.density.length) {k : ℕ}
    (h : obj.IsBest beacon obj.beacons.length k) : IsLeast (obj.peaks beacon) k := by
  refine ⟨⟨obj.weight k, h.holds, getElem?_density hlen h.holds, fun j d' hj hd' => ?_⟩, ?_⟩
  · rw [getElem?_density hlen hj] at hd'
    exact Option.some.inj hd' ▸ h.most j hj.lt hj
  · rintro j ⟨d, hj, hd, hmost⟩
    by_contra hlt
    have hbelow := h.first j (not_le.1 hlt) hj
    have habove := hmost k _ h.holds (getElem?_density hlen h.holds)
    rw [getElem?_density hlen hj] at hd
    have := Option.some.inj hd
    omega

/-- The scan for a beacon that occurs ends at the least of its peaks. -/
theorem bestIndex_isLeast (hlen : obj.beacons.length = obj.density.length)
    (h : beacon ∈ obj.beacons.map Character.charValue) :
    ∃ k : ℕ, bestIndex obj beacon = .ok (k : ℤ) ∧ IsLeast (obj.peaks beacon) k := by
  obtain ⟨best, hrun, hscan⟩ := bestIndex_spec hlen beacon
  rcases hscan with ⟨-, hnone⟩ | ⟨k, rfl, hk⟩
  · obtain ⟨k, hk⟩ := exists_holds h
    exact absurd hk (hnone k hk.lt)
  · exact ⟨k, hrun, hk.isLeast_peaks hlen⟩

/-- **The distance between two beacons.**  On lists of equal length, for two beacons
that occur, no list is left and the result is the distance between the first rows
at which the two have their highest density. -/
theorem indexBetween_eq_peaks (obj : IRArrayDensity) (beaconOne beaconTwo : JChar)
    (hlen : obj.beacons.length = obj.density.length)
    (h₁ : beaconOne ∈ obj.beacons.map Character.charValue)
    (h₂ : beaconTwo ∈ obj.beacons.map Character.charValue) :
    ∃ p₁ p₂ : ℕ, IsLeast (obj.peaks beaconOne) p₁ ∧ IsLeast (obj.peaks beaconTwo) p₂ ∧
      indexBetween obj beaconOne beaconTwo = .ok |(p₂ : ℤ) - p₁| := by
  obtain ⟨p₁, hrun₁, hp₁⟩ := bestIndex_isLeast hlen h₁
  obtain ⟨p₂, hrun₂, hp₂⟩ := bestIndex_isLeast hlen h₂
  refine ⟨p₁, p₂, hp₁, hp₂, ?_⟩
  unfold indexBetween
  rw [hrun₁, hrun₂]
  rfl

/-- Four rows with two peaks of equal density: the first of them counts. -/
def fourRows : IRArrayDensity :=
  ⟨[⟨0, jc 'M'⟩, ⟨1, jc 'X'⟩, ⟨2, jc 'M'⟩, ⟨3, jc 'M'⟩], [1, 0, 2, 2]⟩

theorem indexBetween_eq_peaks_fourRows :
    ∃ p₁ p₂ : ℕ, IsLeast (fourRows.peaks (jc 'M')) p₁ ∧ IsLeast (fourRows.peaks (jc 'X')) p₂ ∧
      indexBetween fourRows (jc 'M') (jc 'X') = .ok |(p₂ : ℤ) - p₁| :=
  indexBetween_eq_peaks fourRows (jc 'M') (jc 'X') (by decide) (by decide) (by decide)

example : indexBetween fourRows (jc 'M') (jc 'X') = .ok 1 := by decide

/-! ### The table of a scan -/

/-- The first reading of the row `j`. -/
def shown (matrix : List (List JChar)) (j : ℕ) : Option JChar := matrix[j]?.bind List.head?

/-- The first row whose first reading is `beacon`, `-1` when there is none. -/
def seenAt (matrix : List (List JChar)) (beacon : JChar) : ℤ :=
  match matrix.findIdx? fun row => row.head? = some beacon with
  | some i => i
  | none => -1

theorem lt_of_shown {matrix : List (List JChar)} {j : ℕ} (h : shown matrix j = some beacon) :
    j < matrix.length := by
  by_contra hj
  rw [shown, List.getElem?_eq_none (not_lt.1 hj)] at h
  cases h

/-- `seenAt` finds the first row that shows the beacon, if one does. -/
theorem seenAt_spec (matrix : List (List JChar)) (beacon : JChar) :
    (seenAt matrix beacon = -1 ∧ ∀ j, shown matrix j ≠ some beacon) ∨
      ∃ k : ℕ, seenAt matrix beacon = k ∧ shown matrix k = some beacon ∧
        ∀ j < k, shown matrix j ≠ some beacon := by
  unfold seenAt
  cases hfind : matrix.findIdx? fun row => row.head? = some beacon with
  | none =>
    refine .inl ⟨rfl, fun j hj => ?_⟩
    have hrow := List.findIdx?_eq_none_iff.1 hfind _ (List.getElem_mem (lt_of_shown hj))
    rw [shown, List.getElem?_eq_getElem (lt_of_shown hj)] at hj
    exact absurd hj (of_decide_eq_false hrow)
  | some k =>
    obtain ⟨hk, hrow, hfirst⟩ := List.findIdx?_eq_some_iff_getElem.1 hfind
    refine .inr ⟨k, rfl, ?_, fun j hj hj' => ?_⟩
    · rw [shown, List.getElem?_eq_getElem hk]
      exact of_decide_eq_true hrow
    · rw [shown, List.getElem?_eq_getElem (hj.trans hk)] at hj'
      exact hfirst j hj (decide_eq_true hj')

/-- The one row that shows the beacon. -/
theorem seenAt_eq {matrix : List (List JChar)} {k : ℕ}
    (h : ∀ j, shown matrix j = some beacon ↔ j = k) : seenAt matrix beacon = k := by
  rcases seenAt_spec matrix beacon with ⟨-, hnone⟩ | ⟨k', hk', hshown, -⟩
  · exact absurd ((h k).2 rfl) (hnone k)
  · rw [hk', (h k').1 hshown]

/-- What the constructor leaves: the first reading of every row, with density `0`. -/
structure TableOf (obj : IRArrayDensity) (matrix : List (List JChar)) : Prop where
  rows : ∀ row ∈ matrix, row ≠ []
  beacons : obj.beacons.map Character.charValue = matrix.filterMap List.head?
  density : obj.density = List.replicate matrix.length 0

/-- The constructor on rows that are not empty. -/
theorem new_tableOf {matrix : List (List JChar)} (h : ∀ row ∈ matrix, row ≠ []) :
    ∃ obj, (new matrix).run' 0 = .ok obj ∧ obj.TableOf matrix := by
  obtain ⟨obj, next, hrun, hb, hd⟩ := new_eq matrix 0 h
  refine ⟨obj, ?_, h, hb, hd⟩
  show (fun r : IRArrayDensity × ℕ => r.1) <$> new matrix 0 = _
  rw [hrun]
  rfl

theorem getElem?_filterMap_head {matrix : List (List JChar)} (h : ∀ row ∈ matrix, row ≠ []) (j : ℕ) :
    (matrix.filterMap List.head?)[j]? = shown matrix j := by
  induction matrix generalizing j with
  | nil => rfl
  | cons row matrix ih =>
    obtain ⟨c, row, rfl⟩ := List.exists_cons_of_ne_nil (h _ (List.mem_cons_self ..))
    cases j with
    | zero => rfl
    | succ j => exact ih (fun r hr => h r (List.mem_cons_of_mem _ hr)) j

namespace TableOf

variable {matrix : List (List JChar)}

theorem holds_iff (h : obj.TableOf matrix) (beacon : JChar) (j : ℕ) :
    obj.Holds beacon j ↔ shown matrix j = some beacon := by
  unfold Holds
  rw [← List.getElem?_map, h.beacons, getElem?_filterMap_head h.rows]

theorem length_beacons (h : obj.TableOf matrix) : obj.beacons.length = matrix.length := by
  rw [← List.length_map Character.charValue, h.beacons, List.filterMap_length_eq_length]
  intro row hrow
  simpa [List.isSome_head?] using h.rows row hrow

theorem length_density (h : obj.TableOf matrix) : obj.density.length = matrix.length := by
  rw [h.density, List.length_replicate]

theorem weight_eq (h : obj.TableOf matrix) (j : ℕ) : obj.weight j = 0 := by
  rw [weight, h.density, List.getD_eq_getElem?_getD, List.getElem?_replicate]
  split <;> rfl

/-- **The scan finds the first row that shows the beacon**, all densities being equal. -/
theorem bestIndex_eq (h : obj.TableOf matrix) (beacon : JChar) :
    bestIndex obj beacon = .ok (seenAt matrix beacon) := by
  obtain ⟨best, hrun, hbest⟩ := bestIndex_spec (h.length_beacons.trans h.length_density.symm) beacon
  suffices obj.Scanned beacon obj.beacons.length (seenAt matrix beacon) by
    rw [hrun, hbest.unique this]
  rcases seenAt_spec matrix beacon with ⟨hk, hnone⟩ | ⟨k, hk, hshown, hfirst⟩
  · exact .inl ⟨hk, fun j _ => mt (h.holds_iff beacon j).1 (hnone j)⟩
  · refine .inr ⟨k, hk, ?_, (h.holds_iff beacon k).2 hshown, fun j _ _ => ?_, fun j hj hj' => ?_⟩
    · rw [h.length_beacons]
      exact lt_of_shown hshown
    · rw [h.weight_eq, h.weight_eq]
    · exact absurd ((h.holds_iff beacon j).1 hj') (hfirst j hj)

/-- The angle steps between two beacons. -/
theorem indexBetween_eq (h : obj.TableOf matrix) (beaconOne beaconTwo : JChar) :
    indexBetween obj beaconOne beaconTwo =
      .ok |seenAt matrix beaconTwo - seenAt matrix beaconOne| := by
  unfold indexBetween
  rw [h.bestIndex_eq, h.bestIndex_eq]
  rfl

end TableOf

end IRArrayDensity
end ExeRobot
