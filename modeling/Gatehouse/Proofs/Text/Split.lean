import Gatehouse.Text.Split
import Mathlib.Data.List.TakeDrop
import Mathlib.Data.List.TakeWhile

/-! Where a text is cut.  A separator ends the piece before it, and the rest is cut by itself. -/

namespace Gatehouse.Text

variable {α : Type} {isSeparator : α → Bool}

theorem pieces_eq_splitOnP (xs : List α) : pieces isSeparator xs = xs.splitOnP isSeparator := by
  induction xs with
  | nil => rfl
  | cons c rest ih =>
    rw [pieces, ih, List.splitOnP_cons_eq_if_modifyHead]
    split
    · rfl
    · cases h : rest.splitOnP isSeparator with
      | nil => exact absurd h (List.splitOnP_ne_nil _ _)
      | cons piece more => rfl

theorem pieces_append_cons {front : List α} {c : α}
    (hFront : ∀ x ∈ front, isSeparator x = false) (hc : isSeparator c = true) (rest : List α) :
    pieces isSeparator (front ++ c :: rest) = front :: pieces isSeparator rest := by
  rw [pieces_eq_splitOnP, pieces_eq_splitOnP,
    List.splitOnP_append_cons_of_forall_mem hFront c hc rest]

theorem pieces_of_forall {xs : List α} (h : ∀ x ∈ xs, isSeparator x = false) :
    pieces isSeparator xs = [xs] := by
  rw [pieces_eq_splitOnP, List.splitOnP_eq_singleton h]

theorem cutAt_append_cons {front : List α} {c : α}
    (hFront : ∀ x ∈ front, isSeparator x = false) (hc : isSeparator c = true) (back : List α) :
    cutAt isSeparator (front ++ c :: back) = (front, some back) := by
  have hKept : ∀ x ∈ front, (!isSeparator x) = true := by simpa using hFront
  have hSpan : (front ++ c :: back).span (fun x => !isSeparator x) = (front, c :: back) := by
    rw [List.span_eq_takeWhile_dropWhile, List.takeWhile_append_of_pos hKept,
      List.dropWhile_append_of_pos hKept]
    simp [hc]
  rw [cutAt, hSpan]

theorem cutAt_of_forall {xs : List α} (h : ∀ x ∈ xs, isSeparator x = false) :
    cutAt isSeparator xs = (xs, none) := by
  have hKept : ∀ x ∈ xs, (!isSeparator x) = true := by simpa using h
  have hSpan : xs.span (fun x => !isSeparator x) = (xs, []) := by
    rw [List.span_eq_takeWhile_dropWhile, List.takeWhile_eq_self_iff.mpr hKept,
      List.dropWhile_eq_nil_iff.mpr hKept]
  rw [cutAt, hSpan]

end Gatehouse.Text
