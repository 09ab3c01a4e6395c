/-
# The code of `gaussJordan` is a property of the matrix

Nothing a run of `gaussJordan` tests depends on the right-hand side or on what the
output arrays held.  Nor does it depend on the field the numbers live in: with the
entries of the matrix mapped by an embedding of ordered fields, the run takes the
same exits.  `eliminate_agree` is the argument with two runs: rows, multipliers
and scale factors of the second run are the images of those of the first
(`Image`), and so are the outcomes of all comparisons.

It follows that the code is `1` for a singular matrix at every tolerance, and `0`
for an invertible one at every tolerance up to some positive one, whatever the
right-hand side (`gaussJordan_decides_singularity`); that a matrix is accepted, or
not, once and for all right-hand sides (`Accepts.solves`); and that a run over the
rationals tells how the run over the reals ends (`Accepts.map`).
-/

import ExeRobot.Nav.GaussJordanCorrect

namespace ExeRobot
namespace Nav

open Loop LinearSystem Matrix

variable {K L : Type} [Field K] [LinearOrder K] [Field L] [LinearOrder L] {n : ℕ}

/-- The parts of the arrays the tests of a run look at, in two runs: the entries
are mapped by `φ`, the rows listed in the same order. -/
def Image (φ : K →+* L) (s : Arrays K n) (s' : Arrays L n) : Prop :=
  s'.aD = s.aD.map φ ∧ s'.aI = s.aI

section
variable {φ : K →+* L} (hφ : StrictMono φ)
include hφ

theorem abs_map (x : K) : |φ x| = φ |x| := by
  rw [abs, abs, hφ.monotone.map_sup, map_neg]

theorem ite_map (x y : K) : (if φ x > φ y then φ x else φ y) = φ (if x > y then x else y) := by
  by_cases h : x > y
  · rw [if_pos h, if_pos (hφ h)]
  · rw [if_neg h, if_neg (mt hφ.lt_iff_lt.1 h)]

theorem rowMax_map (r : Fin n → K) (i : Fin n) : rowMax (fun j => φ (r j)) i = φ (rowMax r i) := by
  unfold rowMax
  rw [abs_map hφ]
  refine List.foldl_hom φ fun v j => ?_
  rw [abs_map hφ, ite_map hφ]

omit hφ in
theorem divide_agree {ρ ρ' : Type} {x y : K} {x' y' : L} (hx : x' = φ x) (hy : y' = φ y) :
    Agree (fun q q' => q' = φ q) (divide x y : Except (Exit ρ) K)
      (divide x' y' : Except (Exit ρ') L) := by
  subst hx hy
  unfold divide
  by_cases h : y = 0
  · rw [if_pos h, if_pos (by rw [h, map_zero])]
    trivial
  · rw [if_neg h, if_neg (mt (map_eq_zero φ).1 h)]
    exact (map_div₀ φ x y).symm

omit [Field K] [LinearOrder K] [Field L] [LinearOrder L] hφ in
theorem row_agree {ρ ρ' : Type} {s : Arrays K n} {s' : Arrays L n} (h : s'.aI = s.aI) (i : Fin n) :
    Agree (fun r r' => r' = r) (row s i : Except (Exit ρ) (Fin n))
      (row s' i : Except (Exit ρ') (Fin n)) := by
  unfold row
  simp only [h]
  split
  · rfl
  · trivial

theorem scaleStep_agree (t : K) {st : Arrays K n × (Fin n → K)} {st' : Arrays L n × (Fin n → L)}
    {i : Fin n} {rest : List (Fin n)} (haD : st'.1.aD = st.1.aD.map φ) (hv : st'.2 = φ ∘ st.2)
    (haI : ∀ j, j ∉ i :: rest → st'.1.aI j = st.1.aI j) :
    Agree (fun r r' => r'.1.aD = r.1.aD.map φ ∧ r'.2 = φ ∘ r.2 ∧
        ∀ j, j ∉ rest → r'.1.aI j = r.1.aI j)
      (scaleStep t st i) (scaleStep (φ t) st' i) := by
  have hmax : rowMax (st'.1.aD i) i = φ (rowMax (st.1.aD i) i) := by
    rw [haD]
    exact rowMax_map hφ (st.1.aD i) i
  unfold scaleStep
  simp only [Function.update_self, hmax, hφ.lt_iff_lt]
  by_cases hlt : rowMax (st.1.aD i) i < t
  · rw [if_pos hlt, if_pos hlt]
    trivial
  · rw [if_neg hlt, if_neg hlt]
    refine ⟨haD, ?_, fun j hj => ?_⟩
    · rw [hv, Function.comp_update]
    · by_cases hji : j = i
      · subst hji
        simp
      · simp only [Function.update_of_ne hji]
        exact haI j (by simp [hji, hj])

theorem ratio_agree {s : Arrays K n} {s' : Arrays L n} (h : Image φ s s') {scale : Fin n → K}
    {scale' : Fin n → L} (hscale : scale' = φ ∘ scale) (k i : Fin n) :
    Agree (fun d d' => d' = φ d) (ratio s scale k i) (ratio s' scale' k i) := by
  unfold ratio
  refine agree_bind (row_agree h.2 i) fun r r' hr => ?_
  subst hr
  refine divide_agree ?_ (by rw [hscale]; rfl)
  rw [h.1, map_apply, abs_map hφ]

theorem pivotSearch_agree {s : Arrays K n} {s' : Arrays L n} (h : Image φ s s') {scale : Fin n → K}
    {scale' : Fin n → L} (hscale : scale' = φ ∘ scale) (k : Fin n) :
    Agree (fun b b' => b'.1 = b.1 ∧ b'.2 = φ b.2) (pivotSearch s scale k)
      (pivotSearch s' scale' k) := by
  unfold pivotSearch
  refine agree_bind (ratio_agree hφ h hscale k k) fun d d' hd => ?_
  refine agree_foldlM (fun _ (b : Fin n × K) (b' : Fin n × L) => b'.1 = b.1 ∧ b'.2 = φ b.2) ⟨rfl, hd⟩
    fun i _ b b' hb => ?_
  unfold pivotStep
  refine agree_bind (ratio_agree hφ h hscale k i) fun d d' hd => ?_
  show _ ∧ _
  rw [hd, hb.2]
  by_cases hgt : d > b.2
  · rw [if_pos hgt, if_pos (hφ hgt)]
    exact ⟨rfl, rfl⟩
  · rw [if_neg hgt, if_neg (mt hφ.lt_iff_lt.1 hgt)]
    exact hb

omit [LinearOrder K] [LinearOrder L] hφ in
theorem subtractRow_map (aD : Matrix (Fin n) (Fin n) K) (d1 : K) (r p k : Fin n) :
    subtractRow (aD.map φ) (φ d1) r p k = (subtractRow aD d1 r p k).map φ := by
  unfold subtractRow
  refine List.foldl_hom (fun A : Matrix (Fin n) (Fin n) K => A.map φ) fun A j => ?_
  ext r' j'
  simp only [map_apply, updateRow_apply]
  by_cases hr : r' = r
  · rw [if_pos hr, if_pos hr]
    by_cases hj : j' = j
    · subst hj
      simp
    · rw [Function.update_of_ne hj, Function.update_of_ne hj, map_apply]
  · rw [if_neg hr, if_neg hr]

omit hφ in
theorem eliminateStep_agree {s : Arrays K n} {s' : Arrays L n} (h : Image φ s s') (k i : Fin n) :
    Agree (Image φ) (eliminateStep k s i) (eliminateStep k s' i) := by
  unfold eliminateStep
  refine agree_bind (row_agree h.2 i) fun r r' hr => ?_
  subst hr
  refine agree_bind (row_agree h.2 k) fun p p' hp => ?_
  subst hp
  refine agree_bind (divide_agree (by rw [h.1]; rfl) (by rw [h.1]; rfl)) fun d d' hd => ?_
  refine And.intro ?_ h.2
  show subtractRow s'.aD d' _ _ k = _
  rw [hd, h.1, subtractRow_map]

theorem columnStep_agree (t : K) {scale : Fin n → K} {scale' : Fin n → L} (hscale : scale' = φ ∘ scale)
    {s : Arrays K n} {s' : Arrays L n} (h : Image φ s s') (k : Fin n) :
    Agree (Image φ) (columnStep t scale s k) (columnStep (φ t) scale' s' k) := by
  unfold columnStep
  refine agree_bind (pivotSearch_agree hφ h hscale k) fun best best' hbest => ?_
  rw [hbest.2]
  by_cases hlt : best.2 < t
  · rw [if_pos hlt, if_pos (hφ hlt)]
    trivial
  · rw [if_neg hlt, if_neg (mt hφ.lt_iff_lt.1 hlt)]
    refine agree_foldlM (fun _ => Image φ) ⟨h.1, ?_⟩ fun i _ s s' h => eliminateStep_agree h k i
    show exchange s'.aI k best'.1 = exchange s.aI k best.1
    rw [h.2, hbest.1]

theorem backStep_agree (t : K) {s : Arrays K n} {s' : Arrays L n} (h : Image φ s s') (i : Fin n) :
    Agree (Image φ) (backStep t s i) (backStep (φ t) s' i) := by
  unfold backStep
  refine agree_bind (row_agree h.2 i) fun r r' hr => ?_
  subst hr
  have hpivot : s'.aD r' i = φ (s.aD r' i) := by rw [h.1]; rfl
  rw [hpivot, abs_map hφ]
  by_cases hlt : |s.aD r' i| < t
  · rw [if_pos hlt, if_pos (hφ hlt)]
    trivial
  rw [if_neg hlt, if_neg (mt hφ.lt_iff_lt.1 hlt)]
  refine agree_bind (R := fun _ _ => True) ?_ fun d d' _ => ?_
  · refine agree_foldlM (fun _ _ _ => True) trivial fun j _ d d' _ => ?_
    unfold backTerm
    exact agree_bind (row_agree h.2 j) fun _ _ _ => trivial
  · unfold divide
    by_cases h0 : s.aD r' i = 0
    · rw [if_pos h0, if_pos (by rw [h0, map_zero])]
      trivial
    · rw [if_neg h0, if_neg (mt (map_eq_zero φ).1 h0)]
      exact And.intro h.1 h.2

/-- **Two runs on a matrix and its image take the same exit.** -/
theorem eliminate_agree (t : K) (A : Matrix (Fin n) (Fin n) K) (b a2 : Fin n → K) (b' a2' : Fin n → L)
    (aI aI' : Fin n → ℤ) :
    Agree (Image φ) (eliminate t ⟨A, b, a2, aI⟩) (eliminate (φ t) ⟨A.map φ, b', a2', aI'⟩) := by
  unfold eliminate
  refine agree_bind (agree_foldlM
    (fun rest (st : Arrays K n × (Fin n → K)) (st' : Arrays L n × (Fin n → L)) =>
      st'.1.aD = st.1.aD.map φ ∧ st'.2 = φ ∘ st.2 ∧ ∀ j, j ∉ rest → st'.1.aI j = st.1.aI j)
    ⟨rfl, by funext; simp, fun j hj => absurd (List.mem_finRange j) hj⟩
    fun i rest st st' h => scaleStep_agree hφ t h.1 h.2.1 h.2.2) ?_
  rintro ⟨s, scale⟩ ⟨s', scale'⟩ ⟨haD, hscale, haI⟩
  have himage : Image φ s s' := ⟨haD, funext fun j => haI j List.not_mem_nil⟩
  refine agree_bind (agree_foldlM (fun _ => Image φ) himage
    fun k _ s s' h => columnStep_agree hφ t hscale h k) fun s s' h => ?_
  exact agree_foldlM (fun _ => Image φ) h fun i _ s s' h => backStep_agree hφ t h i

end

/-- `gaussJordan` returns `0` for the matrix `A`. -/
def Accepts (pD : K) (A : Matrix (Fin n) (Fin n) K) : Prop :=
  ∃ b a2 aI s, gaussJordan pD ⟨A, b, a2, aI⟩ = .ok (0, s)

theorem accepts_of_code {pD : K} {A : Matrix (Fin n) (Fin n) K} {b a2 : Fin n → K} {aI : Fin n → ℤ}
    (h : (gaussJordan pD ⟨A, b, a2, aI⟩).map Prod.fst = .ok 0) : Accepts pD A := by
  cases hrun : gaussJordan pD ⟨A, b, a2, aI⟩ with
  | error t => rw [hrun] at h; cases h
  | ok r =>
    obtain ⟨code, s⟩ := r
    rw [hrun] at h
    obtain rfl : code = 0 := Except.ok.inj h
    exact ⟨b, a2, aI, s, hrun⟩

theorem gaussJordan_eq_zero_iff {pD : K} {s s' : Arrays K n} :
    gaussJordan pD s = .ok (0, s') ↔ eliminate pD s = .ok s' := by
  unfold gaussJordan
  cases eliminate pD s with
  | error e => cases e <;> simp
  | ok s => simp

/-- A matrix accepted with one right-hand side is accepted, and so is its image in
a larger field, with every other. -/
theorem Accepts.image {φ : K →+* L} (hφ : StrictMono φ) {pD : K} {A : Matrix (Fin n) (Fin n) K}
    (h : Accepts pD A) (b a2 : Fin n → L) (aI : Fin n → ℤ) :
    ∃ s, gaussJordan (φ pD) ⟨A.map φ, b, a2, aI⟩ = .ok (0, s) := by
  obtain ⟨b₀, a2₀, aI₀, s₀, h₀⟩ := h
  have hagree := eliminate_agree hφ pD A b₀ a2₀ b a2 aI₀ aI
  rw [gaussJordan_eq_zero_iff.1 h₀] at hagree
  cases hrun : eliminate (φ pD) ⟨A.map φ, b, a2, aI⟩ with
  | error e => rw [hrun] at hagree; exact hagree.elim
  | ok s => exact ⟨s, gaussJordan_eq_zero_iff.2 hrun⟩

theorem Accepts.map {φ : K →+* L} (hφ : StrictMono φ) {pD : K} {A : Matrix (Fin n) (Fin n) K}
    (h : Accepts pD A) : Accepts (φ pD) (A.map φ) :=
  ⟨0, 0, 0, h.image hφ 0 0 0⟩

section
variable [IsStrictOrderedRing K]

/-- **Acceptance is a property of the matrix.**  An accepted matrix is invertible,
and the call returns `0` and a solution for every right-hand side. -/
theorem Accepts.solves {pD : K} {A : Matrix (Fin n) (Fin n) K} (h : Accepts pD A) (hpD : 0 < pD)
    (b a2 : Fin n → K) (aI : Fin n → ℤ) :
    ∃ s, gaussJordan pD ⟨A, b, a2, aI⟩ = .ok (0, s) ∧ HoldsSolution A b s ∧ A.det ≠ 0 := by
  obtain ⟨s, hrun⟩ : ∃ s, gaussJordan pD ⟨A, b, a2, aI⟩ = .ok (0, s) :=
    h.image (φ := RingHom.id K) strictMono_id b a2 aI
  rcases gaussJordan_spec A b a2 aI hpD with hs | ⟨s', hs⟩
  · exact hs
  · simp [hrun] at hs

/-- The runs with an invertible matrix and a small tolerance return `0`, whatever
the right-hand side is. -/
theorem gaussJordan_of_det_ne_zero {A : Matrix (Fin n) (Fin n) K} (hA : A.det ≠ 0) :
    ∃ pD0, 0 < pD0 ∧ ∀ pD, 0 < pD → pD ≤ pD0 → ∀ b a2 aI,
      ∃ s, gaussJordan pD ⟨A, b, a2, aI⟩ = .ok (0, s) := by
  rcases eliminate_tolerant A 0 0 0 with ⟨hsing, -⟩ | ⟨s, -, -, q, hq, hsmall⟩
  · exact absurd hA hsing
  refine ⟨q, hq, fun pD hpD hle b a2 aI => ?_⟩
  have haccepts : Accepts pD A :=
    ⟨0, 0, 0, s, gaussJordan_eq_zero_iff.2 (hsmall pD hpD hle)⟩
  obtain ⟨s', hrun, -⟩ := haccepts.solves hpD b a2 aI
  exact ⟨s', hrun⟩

/-- **The code of `gaussJordan` decides singularity.**  A singular matrix gives
`1` at every tolerance; an invertible one gives `0` at every tolerance up to some
positive one, which depends on the matrix alone. -/
theorem gaussJordan_decides_singularity (A : Matrix (Fin n) (Fin n) K) :
    (A.det = 0 → ∀ pD, 0 < pD → ∀ b a2 aI, ∃ s, gaussJordan pD ⟨A, b, a2, aI⟩ = .ok (1, s)) ∧
      (A.det ≠ 0 → ∃ pD0, 0 < pD0 ∧ ∀ pD, 0 < pD → pD ≤ pD0 → ∀ b a2 aI,
        ∃ s, gaussJordan pD ⟨A, b, a2, aI⟩ = .ok (0, s)) := by
  refine ⟨fun hA pD hpD b a2 aI => ?_, gaussJordan_of_det_ne_zero⟩
  rcases gaussJordan_spec A b a2 aI hpD with ⟨s, -, -, hdet⟩ | hone
  · exact absurd hA hdet
  · exact hone

end

/-- `gaussJordan_decides_singularity` at a matrix of the rationals whose first
pivot is in the second row. -/
theorem gaussJordan_decides_singularity_exchange :
    (Matrix.det !![(0 : ℚ), 2; 1, 1] = 0 → ∀ pD, 0 < pD → ∀ b a2 aI,
        ∃ s, gaussJordan pD ⟨!![(0 : ℚ), 2; 1, 1], b, a2, aI⟩ = .ok (1, s)) ∧
      (Matrix.det !![(0 : ℚ), 2; 1, 1] ≠ 0 → ∃ pD0, 0 < pD0 ∧ ∀ pD, 0 < pD → pD ≤ pD0 →
        ∀ b a2 aI, ∃ s, gaussJordan pD ⟨!![(0 : ℚ), 2; 1, 1], b, a2, aI⟩ = .ok (0, s)) :=
  gaussJordan_decides_singularity !![0, 2; 1, 1]

end Nav
end ExeRobot
