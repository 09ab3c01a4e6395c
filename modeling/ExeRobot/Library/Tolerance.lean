/-
# Computations with a tolerance

A numerical routine compares computed quantities with a tolerance `t > 0` and
gives up when one of them is below it.  Apart from these tests its run does not
depend on `t`: run with different tolerances, it walks the same path, and the
tolerance only decides how far it gets.  A family `f t` of runs is `Tolerant`
when either it gives up at every tolerance, which a condition `N` excludes, or
there is one result `a` that every run ending normally ends in, and all runs with
a small enough tolerance do.

The rules build this from the parts of a routine: a test (`tolerant_guard`), a
sequence (`tolerant_bind`), a step without a test (`tolerant_ok`), and the two
loops of `ExeRobot.Library.Loop`.
-/

import ExeRobot.Library.Loop
import Mathlib.Algebra.Order.Ring.Defs

namespace Loop

universe u

variable {K : Type*} [Zero K] [LinearOrder K] {ε : Type*} {N : Prop} {E : ε → Prop}

/-- `f t` gives up at every tolerance, and `N` fails; or the runs that end
normally end in one result, which satisfies `P`, and small tolerances reach it.
A run gives up with an exit in `E`. -/
def Tolerant {α : Type*} (N : Prop) (P : α → Prop) (E : ε → Prop) (f : K → Except ε α) : Prop :=
  (¬ N ∧ ∀ t, 0 < t → ∃ e, f t = .error e ∧ E e) ∨
    ∃ a, P a ∧ (∀ t, 0 < t → f t = .ok a ∨ ∃ e, f t = .error e ∧ E e) ∧
      ∃ q, 0 < q ∧ ∀ t, 0 < t → t ≤ q → f t = .ok a

/-- A computation that does not look at the tolerance. -/
theorem tolerant_ok {α : Type*} {P : α → Prop} {f : K → Except ε α} {a : α} (hf : ∀ t, f t = .ok a)
    (h : P a) {q : K} (hq : 0 < q) : Tolerant N P E f :=
  .inr ⟨a, h, fun t _ => .inl (hf t), q, hq, fun t _ _ => hf t⟩

theorem Tolerant.mono {α : Type*} {P Q : α → Prop} {f : K → Except ε α} (hf : Tolerant N P E f)
    (h : ∀ a, P a → Q a) : Tolerant N Q E f :=
  hf.imp_right fun ⟨a, ha, hall⟩ => ⟨a, h a ha, hall⟩

/-- The rule of a test `if (x < t) return`. -/
theorem tolerant_guard {α : Type*} {P : α → Prop} {g : K → Except ε α} {x : K} {e : ε} (he : E e)
    (hN : N → 0 < x) (hg : 0 < x → Tolerant N P E g) :
    Tolerant N P E fun t => if x < t then .error e else g t := by
  rcases le_or_gt x 0 with hx | hx
  · exact .inl ⟨fun h => (hN h).not_ge hx, fun t ht => ⟨e, if_pos (hx.trans_lt ht), he⟩⟩
  · rcases hg hx with ⟨hn, hexit⟩ | ⟨a, ha, hall, q, hq, hsmall⟩
    · refine .inl ⟨hn, fun t ht => ?_⟩
      by_cases hxt : x < t
      · exact ⟨e, if_pos hxt, he⟩
      · simpa only [if_neg hxt] using hexit t ht
    · refine .inr ⟨a, ha, fun t ht => ?_, min x q, lt_min hx hq, fun t ht htq => ?_⟩
      · by_cases hxt : x < t
        · exact .inr ⟨e, if_pos hxt, he⟩
        · simpa only [if_neg hxt] using hall t ht
      · exact (if_neg (not_lt.2 (htq.trans (min_le_left x q)))).trans
          (hsmall t ht (htq.trans (min_le_right x q)))

/-- The rule of sequencing. -/
theorem tolerant_bind {α β : Type u} {P : α → Prop} {Q : β → Prop} {f : K → Except ε α}
    {g : K → α → Except ε β} (hf : Tolerant N P E f)
    (hg : ∀ a, P a → Tolerant N Q E fun t => g t a) :
    Tolerant N Q E fun t => f t >>= g t := by
  have hok : ∀ {t a}, f t = .ok a → (f t >>= g t) = g t a := fun h => by rw [h]; rfl
  have herr : ∀ {t e}, f t = .error e → (f t >>= g t) = .error e := fun h => by rw [h]; rfl
  rcases hf with ⟨hn, hexit⟩ | ⟨a, ha, hall, q, hq, hsmall⟩
  · refine .inl ⟨hn, fun t ht => ?_⟩
    obtain ⟨e, hfe, he⟩ := hexit t ht
    exact ⟨e, herr hfe, he⟩
  · rcases hg a ha with ⟨hn, hexit⟩ | ⟨b, hb, hall', q', hq', hsmall'⟩
    · refine .inl ⟨hn, fun t ht => ?_⟩
      rcases hall t ht with hfa | ⟨e, hfe, he⟩
      · simpa only [hok hfa] using hexit t ht
      · exact ⟨e, herr hfe, he⟩
    · refine .inr ⟨b, hb, fun t ht => ?_, min q q', lt_min hq hq', fun t ht htq => ?_⟩
      · rcases hall t ht with hfa | ⟨e, hfe, he⟩
        · simpa only [hok hfa] using hall' t ht
        · exact .inr ⟨e, herr hfe, he⟩
      · exact (hok (hsmall t ht (htq.trans (min_le_left q q')))).trans
          (hsmall' t ht (htq.trans (min_le_right q q')))

variable {σ : Type u} {n : ℕ} {f : K → σ → Fin n → Except ε σ}

/-- The invariant rule of an upward loop. -/
theorem tolerant_indices {hi : ℕ} (hn : hi ≤ n) {q : K} (hq : 0 < q) (I : ℕ → σ → Prop) {lo : ℕ}
    (hlo : lo ≤ hi) {s : σ} (h : I lo s)
    (hstep : ∀ (i : Fin n) s, lo ≤ i → i < hi → I i s →
      Tolerant N (I (i + 1)) E fun t => f t s i) :
    Tolerant N (I hi) E fun t => (indices n lo hi).foldlM (f t) s := by
  refine indices_rec (motive := fun k l => lo ≤ k → ∀ s, I k s →
      Tolerant N (I hi) E fun t => l.foldlM (f t) s) hn
    (fun _ s hs => tolerant_ok (fun _ => rfl) hs hq) (fun i hi ih hlo s hs => ?_) hlo le_rfl s h
  simp only [List.foldlM_cons]
  exact tolerant_bind (hstep i s hlo hi hs) fun s' hs' => ih (by omega) s' hs'

/-- The invariant rule of the downward loop over all positions. -/
theorem tolerant_reverse {q : K} (hq : 0 < q) (I : ℕ → σ → Prop) {s : σ} (h : I n s)
    (hstep : ∀ (i : Fin n) s, I (i + 1) s → Tolerant N (I i) E fun t => f t s i) :
    Tolerant N (I 0) E fun t => (List.finRange n).reverse.foldlM (f t) s := by
  refine reverse_rec (motive := fun k l => ∀ s, I k s →
      Tolerant N (I 0) E fun t => l.foldlM (f t) s)
    (fun s hs => tolerant_ok (fun _ => rfl) hs hq) (fun i l ih s hs => ?_) s h
  simp only [List.foldlM_cons]
  exact tolerant_bind (hstep i s hs) fun s' hs' => ih s' hs'

end Loop
