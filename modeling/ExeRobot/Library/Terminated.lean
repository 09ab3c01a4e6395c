/-
# Words with a terminator

A stream of words each followed by a terminator that occurs in none of them.  The
reader of such a stream collects a word up to the terminator (`words`); it gets the
words that were written (`words_join`), and from a part of the stream the first of them
(`words_prefix`).
-/

import Mathlib.Data.List.Infix

namespace Terminated

variable {α : Type*} [DecidableEq α] {t : α} {w cur s p : List α} {ws : List (List α)}

/-- The stream of the words `ws`. -/
def join (t : α) (ws : List (List α)) : List α := ws.flatMap fun w => w ++ [t]

/-- The complete words of a stream, `cur` being the part of the current one that has been read. -/
def words (t : α) (cur : List α) : List α → List (List α)
  | [] => []
  | a :: s => if a = t then cur :: words t [] s else words t (cur ++ [a]) s

omit [DecidableEq α] in
theorem join_cons (w : List α) (ws : List (List α)) : join t (w :: ws) = w ++ t :: join t ws := by
  simp [join]

/-- A word up to its terminator. -/
theorem words_word (hw : t ∉ w) (cur s : List α) :
    words t cur (w ++ t :: s) = (cur ++ w) :: words t [] s := by
  induction w generalizing cur with
  | nil => rw [List.nil_append, words, if_pos rfl, List.append_nil]
  | cons a w ih =>
    have ha : a ≠ t := fun h => hw (h ▸ List.mem_cons_self ..)
    rw [List.cons_append, words, if_neg ha, ih fun h => hw (List.mem_cons_of_mem _ h),
      List.append_assoc, List.singleton_append]

/-- The reader gets the words that were written. -/
theorem words_join (h : ∀ w ∈ ws, t ∉ w) : words t [] (join t ws) = ws := by
  induction ws with
  | nil => rfl
  | cons w ws ih =>
    rw [join_cons, words_word (h w (List.mem_cons_self ..)), List.nil_append,
      ih fun v hv => h v (List.mem_cons_of_mem _ hv)]

/-- A part of the stream is read as the first of its words. -/
theorem words_prefix (h : p <+: s) (cur : List α) : words t cur p <+: words t cur s := by
  induction p generalizing s cur with
  | nil => exact List.nil_prefix
  | cons a p ih =>
    obtain ⟨s', rfl⟩ := h
    rw [List.cons_append, words, words]
    split
    · exact List.prefix_cons_inj _ |>.2 (ih ⟨s', rfl⟩ [])
    · exact ih ⟨s', rfl⟩ _

end Terminated
