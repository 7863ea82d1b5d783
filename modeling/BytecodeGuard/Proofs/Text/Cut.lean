import Mathlib.Data.List.Basic
import Mathlib.Tactic.Common

/-!
# Cutting texts

A text that was put together can be taken apart again if it shows where its pieces end.

* `append_inj_of_head` — a piece ends at the first element of another kind.
* `eq_of_intercalate_eq` — pieces end at the separator, if they do not contain it.
-/

namespace BytecodeGuard

variable {α : Type}

/-- There is one way to cut a list before the first element that is not of some kind. -/
theorem append_inj_of_head {p : α → Bool} {x y rest rest' : List α}
    (hx : ∀ a ∈ x, p a = true) (hy : ∀ a ∈ y, p a = true)
    (hr : ∀ a ∈ rest.head?, ¬p a = true) (hr' : ∀ a ∈ rest'.head?, ¬p a = true)
    (h : x ++ rest = y ++ rest') : x = y ∧ rest = rest' := by
  have cut {x rest : List α} (hx : ∀ a ∈ x, p a = true) (hr : ∀ a ∈ rest.head?, ¬p a = true) :
      (x ++ rest).takeWhile p = x := by
    rw [List.takeWhile_append_of_pos hx]
    cases rest with
    | nil => simp
    | cons a rest => rw [List.takeWhile_cons_of_neg (hr a rfl), List.append_nil]
  obtain rfl : x = y := by rw [← cut hx hr, h, cut hy hr']
  exact ⟨rfl, List.append_cancel_left h⟩

theorem intercalate_cons_eq_flatMap (sep x : List α) (xs : List (List α)) :
    sep.intercalate (x :: xs) = x ++ xs.flatMap (sep ++ ·) := by
  induction xs generalizing x with
  | nil => simp
  | cons y ys ih => simp only [List.intercalate_cons_cons, ih, List.flatMap_cons, List.append_assoc]

/-- An element of joined parts is one of the separator or of a part. -/
theorem mem_of_mem_intercalate {a : α} {sep : List α} {xs : List (List α)}
    (h : a ∈ sep.intercalate xs) : a ∈ sep ∨ ∃ x ∈ xs, a ∈ x := by
  cases xs with
  | nil => simp at h
  | cons x xs =>
    rw [intercalate_cons_eq_flatMap, List.mem_append, List.mem_flatMap] at h
    rcases h with h | ⟨y, hy, h⟩
    · exact .inr ⟨x, List.mem_cons_self, h⟩
    · rcases List.mem_append.1 h with h | h
      · exact .inl h
      · exact .inr ⟨y, List.mem_cons_of_mem x hy, h⟩

/-- Parts that lack the first element of the separator can be told apart after they are joined. -/
theorem eq_of_intercalate_eq [DecidableEq α] {c : α} {sep : List α} {xs ys : List (List α)}
    (hx : xs ≠ []) (hy : ys ≠ []) (hxs : ∀ x ∈ xs, c ∉ x) (hys : ∀ y ∈ ys, c ∉ y)
    (h : (c :: sep).intercalate xs = (c :: sep).intercalate ys) : xs = ys := by
  -- What follows the first part is empty or starts with a separator.
  have head (zs : List (List α)) :
      ∀ a ∈ (zs.flatMap ((c :: sep) ++ ·)).head?, ¬decide (a ≠ c) = true := by
    cases zs <;> simp
  have plain {z : List α} (hz : c ∉ z) : ∀ a ∈ z, decide (a ≠ c) = true := by
    intro a ha
    exact decide_eq_true (ne_of_mem_of_not_mem ha hz)
  induction xs generalizing ys with
  | nil => exact absurd rfl hx
  | cons x xs ih =>
    obtain ⟨y, ys, rfl⟩ := List.exists_cons_of_ne_nil hy
    rw [intercalate_cons_eq_flatMap, intercalate_cons_eq_flatMap] at h
    obtain ⟨rfl, hrest⟩ := append_inj_of_head (plain (hxs x List.mem_cons_self))
      (plain (hys y List.mem_cons_self)) (head xs) (head ys) h
    congr 1
    cases xs with
    | nil =>
      cases ys with
      | nil => rfl
      | cons y' ys => simp at hrest
    | cons x' xs =>
      cases ys with
      | nil => simp at hrest
      | cons y' ys =>
        refine ih (by simp) (by simp) (fun z hz => hxs z (List.mem_cons_of_mem _ hz))
          (fun z hz => hys z (List.mem_cons_of_mem _ hz)) ?_
        rw [List.flatMap_cons, List.flatMap_cons, List.append_assoc, List.append_assoc] at hrest
        rw [intercalate_cons_eq_flatMap, intercalate_cons_eq_flatMap]
        exact List.append_cancel_left hrest

end BytecodeGuard
