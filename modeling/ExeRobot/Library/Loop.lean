/-
# Counting loops

A loop `for (i = lo; i < hi; ++i)` over the positions of an array of length `n`
is a fold over the list `indices n lo hi`, a `foldlM` in `Except ε` where the
body may leave the loop.  `indices_rec` is the induction along such a loop, and
the rules derived from it conclude an invariant `I hi` after the loop from `I lo`
before it and one turn: `foldl_indices` for a body that only computes,
`foldlM_indices` for one that may fail but never does.

`forBreak` is the other counting loop, whose counter the body does not use and
which a test after the body can leave early: `forBreak_stop` when the first turn
leaves it, `forBreak_all` and `forBreak_inv` when no turn does; `forBreak_error` says
how it can fail, and `forBreak_related` compares two of them.

`Agree R x y` says of two runs that they end the same way, in results related by
`R` when they end normally: `agree_bind` and `agree_foldlM` are the rules of a
two-run argument.
-/

import Mathlib.Algebra.BigOperators.Fin
import Mathlib.Data.List.FinRange

namespace Loop

universe u

variable {ε ε' : Type*} {σ : Type u}

/-- The positions `lo, lo + 1, …, hi - 1` of an array of length `n`. -/
def indices (n lo hi : ℕ) : List (Fin n) := ((List.finRange n).take hi).drop lo

theorem indices_of_le {n lo hi : ℕ} (h : hi ≤ lo) : indices n lo hi = [] :=
  List.drop_eq_nil_of_le (by simp [h])

theorem indices_cons {n lo hi : ℕ} (h : lo < hi) (hn : hi ≤ n) :
    indices n lo hi = ⟨lo, h.trans_le hn⟩ :: indices n (lo + 1) hi := by
  have hlen : lo < ((List.finRange n).take hi).length := by simp; omega
  rw [indices, List.drop_eq_getElem_cons hlen]
  simp [indices]

theorem finRange_eq_indices (n : ℕ) : List.finRange n = indices n 0 n := by
  simp [indices, List.take_of_length_le]

/-- Induction along an upward loop, from its end. -/
theorem indices_rec {n hi : ℕ} (hn : hi ≤ n) {motive : ℕ → List (Fin n) → Prop}
    (nil : motive hi [])
    (cons : ∀ i : Fin n, i < hi → motive (i + 1) (indices n (i + 1) hi) →
      motive i (i :: indices n (i + 1) hi)) {lo : ℕ} (hlo : lo ≤ hi) :
    motive lo (indices n lo hi) := by
  induction hd : hi - lo generalizing lo with
  | zero =>
    obtain rfl : lo = hi := by omega
    rw [indices_of_le le_rfl]
    exact nil
  | succ d ih =>
    rw [indices_cons (by omega) hn]
    exact cons ⟨lo, by omega⟩ (by simp; omega) (ih (by simp; omega) (by simp; omega))

/-- Induction along the downward loop over all positions, from its end. -/
theorem reverse_rec {n : ℕ} {motive : ℕ → List (Fin n) → Prop} (nil : motive 0 [])
    (cons : ∀ (i : Fin n) l, motive i l → motive (i + 1) (i :: l)) :
    motive n (List.finRange n).reverse := by
  suffices ∀ k ≤ n, motive k ((List.finRange n).take k).reverse by
    have hall := this n le_rfl
    rwa [List.take_of_length_le (by simp)] at hall
  intro k
  induction k with
  | zero => intro _; exact nil
  | succ k ih =>
    intro hk
    rw [List.take_succ_eq_append_getElem (by simp; omega)]
    simpa using cons ⟨k, hk⟩ _ (ih (by omega))

/-- The invariant rule of an upward loop that only computes. -/
theorem foldl_indices {n hi : ℕ} (hn : hi ≤ n) {f : σ → Fin n → σ} (I : ℕ → σ → Prop)
    {lo : ℕ} (hlo : lo ≤ hi) {s : σ} (h : I lo s)
    (hstep : ∀ (i : Fin n) s, lo ≤ i → i < hi → I i s → I (i + 1) (f s i)) :
    I hi ((indices n lo hi).foldl f s) := by
  refine indices_rec (motive := fun k l => lo ≤ k → ∀ s, I k s → I hi (l.foldl f s)) hn
    (fun _ s hs => hs) (fun i hi ih hlo s hs => ?_) hlo le_rfl s h
  exact ih (by omega) _ (hstep i s hlo hi hs)

/-- The invariant rule of an upward loop whose body may fail but does not. -/
theorem foldlM_indices {n hi : ℕ} (hn : hi ≤ n) {f : σ → Fin n → Except ε σ} (I : ℕ → σ → Prop)
    {lo : ℕ} (hlo : lo ≤ hi) {s : σ} (h : I lo s)
    (hstep : ∀ (i : Fin n) s, lo ≤ i → i < hi → I i s → ∃ s', f s i = .ok s' ∧ I (i + 1) s') :
    ∃ s', (indices n lo hi).foldlM f s = .ok s' ∧ I hi s' := by
  refine indices_rec
    (motive := fun k l => lo ≤ k → ∀ s, I k s → ∃ s', l.foldlM f s = .ok s' ∧ I hi s') hn
    (fun _ s hs => ⟨s, rfl, hs⟩) (fun i hi ih hlo s hs => ?_) hlo le_rfl s h
  obtain ⟨s', hs', hI⟩ := hstep i s hlo hi hs
  rw [List.foldlM_cons, hs']
  exact ih (by omega) s' hI

/-- A loop of at most `n` turns, left after a turn that ends in `stop`. -/
def forBreak (f : σ → Except ε σ) (stop : σ → Bool) : ℕ → σ → Except ε σ
  | 0, s => .ok s
  | n + 1, s => f s >>= fun s => if stop s then .ok s else forBreak f stop n s

section
variable {f : σ → Except ε σ} {stop : σ → Bool}

theorem forBreak_succ {n : ℕ} {s s' : σ} (h : f s = .ok s') :
    forBreak f stop (n + 1) s = if stop s' then .ok s' else forBreak f stop n s' := by
  rw [forBreak, h]
  rfl

theorem forBreak_stop {n : ℕ} {s s' : σ} (h : f s = .ok s') (hstop : stop s' = true) :
    forBreak f stop (n + 1) s = .ok s' := by
  rw [forBreak_succ h, if_pos hstop]

/-- A loop fails in a way in which one of its turns fails. -/
theorem forBreak_error {P : ε → Prop} (hstep : ∀ s e, f s = .error e → P e) {n : ℕ} {s : σ} {e : ε}
    (h : forBreak f stop n s = .error e) : P e := by
  induction n generalizing s with
  | zero => cases h
  | succ n ih =>
    cases hs : f s with
    | error e' =>
      rw [forBreak, hs] at h
      cases h
      exact hstep s _ hs
    | ok s' =>
      rw [forBreak_succ hs] at h
      split at h
      · cases h
      · exact ih h

/-- A loop whose turns all succeed and never leave it makes all its turns. -/
theorem forBreak_all (I : ℕ → σ → Prop) {n : ℕ} {c : ℕ} {s : σ} (h : I c s)
    (hstep : ∀ k s, k < c + n → I k s → ∃ s', f s = .ok s' ∧ stop s' = false ∧ I (k + 1) s') :
    ∃ s', forBreak f stop n s = .ok s' ∧ I (c + n) s' := by
  induction n generalizing c s with
  | zero => exact ⟨s, rfl, h⟩
  | succ n ih =>
    obtain ⟨s', hs', hstop, hI⟩ := hstep c s (by omega) h
    rw [forBreak_succ hs', if_neg (by simp [hstop]), show c + (n + 1) = c + 1 + n by omega]
    exact ih hI fun k s hk => hstep k s (by omega)

/-- A loop that no turn leaves, when it ends normally, has made all its turns. -/
theorem forBreak_inv (I : ℕ → σ → Prop) {n : ℕ} {c : ℕ} {s t : σ} (h : I c s)
    (hstep : ∀ k s s', I k s → f s = .ok s' → stop s' = false ∧ I (k + 1) s')
    (hrun : forBreak f stop n s = .ok t) : I (c + n) t := by
  induction n generalizing c s with
  | zero =>
    obtain rfl := Except.ok.inj hrun
    exact h
  | succ n ih =>
    cases hs : f s with
    | error e => rw [forBreak, hs] at hrun; cases hrun
    | ok s' =>
      obtain ⟨hstop, hI⟩ := hstep c s s' h hs
      rw [forBreak_succ hs, if_neg (by simp [hstop])] at hrun
      rw [show c + (n + 1) = c + 1 + n by omega]
      exact ih hI hrun

/-- The two-run rule of a loop that can be left early: turns that keep the states
related, and are left together, end in related states. -/
theorem forBreak_related {τ : Type u} {g : τ → Except ε' τ} {stop' : τ → Bool} (R : σ → τ → Prop)
    (hstep : ∀ s t s' t', R s t → f s = .ok s' → g t = .ok t' → R s' t')
    (hstop : ∀ s t, R s t → stop s = stop' t) {n : ℕ} {s s' : σ} {t t' : τ} (h : R s t)
    (hf : forBreak f stop n s = .ok s') (hg : forBreak g stop' n t = .ok t') : R s' t' := by
  induction n generalizing s t with
  | zero =>
    obtain rfl := Except.ok.inj hf
    obtain rfl := Except.ok.inj hg
    exact h
  | succ n ih =>
    cases hs : f s with
    | error e => rw [forBreak, hs] at hf; cases hf
    | ok s₁ =>
      cases ht : g t with
      | error e => rw [forBreak, ht] at hg; cases hg
      | ok t₁ =>
        have hR := hstep s t s₁ t₁ h hs ht
        rw [forBreak_succ hs] at hf
        rw [forBreak_succ ht, ← hstop s₁ t₁ hR] at hg
        cases hleave : stop s₁ with
        | true =>
          rw [hleave, if_pos rfl] at hf hg
          obtain rfl := Except.ok.inj hf
          obtain rfl := Except.ok.inj hg
          exact hR
        | false =>
          rw [hleave, if_neg Bool.false_ne_true] at hf hg
          exact ih hR hf hg

end

/-- Two runs that end the same way, in results related by `R`. -/
def Agree {α β : Type*} (R : α → β → Prop) : Except ε α → Except ε' β → Prop
  | .ok a, .ok b => R a b
  | .error _, .error _ => True
  | _, _ => False

theorem agree_bind {α α' β β' : Type*} {R : α → α' → Prop} {S : β → β' → Prop}
    {x : Except ε α} {y : Except ε' α'} {f : α → Except ε β} {g : α' → Except ε' β'}
    (hx : Agree R x y) (hf : ∀ a b, R a b → Agree S (f a) (g b)) :
    Agree S (x.bind f) (y.bind g) := by
  cases x <;> cases y <;> first | exact hx.elim | trivial | exact hf _ _ hx

/-- The two-run rule of a loop: `R l` relates the states when the positions of
`l` are still to come. -/
theorem agree_foldlM {σ' : Type u} {ι : Type*} {f : σ → ι → Except ε σ} {g : σ' → ι → Except ε' σ'}
    (R : List ι → σ → σ' → Prop) {l : List ι} {s : σ} {t : σ'} (h : R l s t)
    (hstep : ∀ i rest s t, R (i :: rest) s t → Agree (R rest) (f s i) (g t i)) :
    Agree (R []) (l.foldlM f s) (l.foldlM g t) := by
  induction l generalizing s t with
  | nil => exact h
  | cons i l ih =>
    rw [List.foldlM_cons, List.foldlM_cons]
    exact agree_bind (hstep i l s t h) fun a b hab => ih hab

end Loop
