import Gatehouse.Text.Replace
import Mathlib.Data.List.Infix

/-! What replacing a pair of characters does to a text.  Where less is put in than is taken out, the
text keeps its length only if there is nothing to replace, and where what is put in is part of the
pair, what comes out is a subsequence.  Making doubled characters single leaves everything else as
it was, and leaves a doubled character where there were three in a row. -/

namespace Gatehouse.Text

variable {a b : Char} {new : List Char}

/-- Nothing is moved, and nothing but the pair is taken out. -/
theorem replacePair_sublist (hNew : new.Sublist [a, b]) (cs : List Char) :
    (replacePair a b new cs).Sublist cs := by
  fun_induction replacePair a b new cs with
  | case1 x y rest hPair ih =>
    obtain ⟨rfl, rfl⟩ := hPair
    exact hNew.append ih
  | case2 x y rest hPair ih => exact ih.cons_cons x
  | case3 cs hShort => exact List.Sublist.refl cs

theorem length_replacePair_lt (hNew : new.length < 2) {cs : List Char}
    (h : hasPair a b cs = true) : (replacePair a b new cs).length < cs.length := by
  have hLe : ∀ text, (replacePair a b new text).length ≤ text.length := by
    intro text
    fun_induction replacePair a b new text with
    | case1 x y rest hPair ih =>
      simp only [List.length_append, List.length_cons]
      omega
    | case2 x y rest hPair ih => exact Nat.succ_le_succ ih
    | case3 text hShort => exact Nat.le_refl _
  fun_induction replacePair a b new cs with
  | case1 x y rest hPair ih =>
    have := hLe rest
    simp only [List.length_append, List.length_cons]
    omega
  | case2 x y rest hPair ih =>
    have hHere : (x == a && y == b) = false := by simpa using hPair
    rw [hasPair, hHere, Bool.false_or] at h
    exact Nat.succ_lt_succ (ih h)
  | case3 cs hShort =>
    rw [hasPair.eq_def] at h
    split at h
    · exact absurd rfl (hShort _ _ _)
    · cases h

/-- Only a text without the pair is left alone. -/
theorem replacePair_eq_self_iff (hNew : new.length < 2) {cs : List Char} :
    replacePair a b new cs = cs ↔ hasPair a b cs = false := by
  refine ⟨fun hSelf => Bool.eq_false_iff.mpr fun hPair => ?_, replacePair_of_not_hasPair⟩
  have hShorter := length_replacePair_lt hNew hPair
  rw [hSelf] at hShorter
  exact Nat.lt_irrefl _ hShorter

/-- What is kept of the pair, and of what replaces it, decides what is kept of the text. -/
theorem filter_replacePair {keep : Char → Bool} (hNew : new.filter keep = [a, b].filter keep)
    (cs : List Char) : (replacePair a b new cs).filter keep = cs.filter keep := by
  fun_induction replacePair a b new cs with
  | case1 x y rest hPair ih =>
    obtain ⟨rfl, rfl⟩ := hPair
    rw [List.filter_append, hNew, ih, ← List.filter_append]
    rfl
  | case2 x y rest hPair ih => rw [List.filter_cons, ih, List.filter_cons (x := x)]
  | case3 cs hShort => rfl

/-! ### Doubled characters made single -/

variable {q : Char} {word : List Char}

theorem isPrefix_replaceDoubled_iff (hWord : q ∉ word) {cs : List Char} :
    word <+: replacePair q q [q] cs ↔ word <+: cs := by
  fun_induction replacePair q q [q] cs generalizing word with
  | case1 x y rest hPair ih =>
    obtain ⟨rfl, rfl⟩ := hPair
    cases word with
    | nil => simp
    | cons c word =>
      have hNe : c ≠ y := fun hSame => hWord (hSame ▸ List.mem_cons_self)
      simp [hNe]
  | case2 x y rest hPair ih =>
    cases word with
    | nil => simp
    | cons c word =>
      rw [List.cons_prefix_cons, List.cons_prefix_cons,
        ih fun hMem => hWord (List.mem_cons_of_mem c hMem)]
  | case3 cs hShort => exact Iff.rfl

/-- A word without the character is found exactly where it was. -/
theorem isInfix_replaceDoubled_iff (hWord : q ∉ word) {cs : List Char} :
    word <:+: replacePair q q [q] cs ↔ word <:+: cs := by
  fun_induction replacePair q q [q] cs with
  | case1 x y rest hPair ih =>
    obtain ⟨rfl, rfl⟩ := hPair
    rw [List.singleton_append, List.infix_cons_iff, List.infix_cons_iff, List.infix_cons_iff, ih]
    cases word with
    | nil => simp
    | cons c word =>
      have hNe : c ≠ y := fun hSame => hWord (hSame ▸ List.mem_cons_self)
      simp [hNe]
  | case2 x y rest hPair ih =>
    have hHere : word <+: x :: replacePair q q [q] (y :: rest) ↔ word <+: x :: y :: rest := by
      have hAll : word <+: replacePair q q [q] (x :: y :: rest) ↔ word <+: x :: y :: rest :=
        isPrefix_replaceDoubled_iff hWord
      rwa [replacePair, if_neg hPair] at hAll
    rw [List.infix_cons_iff, ih, hHere, ← List.infix_cons_iff]
  | case3 cs hShort => exact Iff.rfl

theorem head?_replaceDoubled (cs : List Char) : (replacePair q q [q] cs).head? = cs.head? := by
  fun_cases replacePair q q [q] cs with
  | case1 x y rest hPair => simp [hPair]
  | case2 x y rest hPair => rfl
  | case3 cs hShort => rfl

theorem singleton_isPrefix_iff {cs : List Char} : [q] <+: cs ↔ cs.head? = some q := by
  cases cs <;> simp [eq_comm]

/-- Two in a row are left exactly where there were three. -/
theorem doubled_isInfix_replaceDoubled_iff {cs : List Char} :
    [q, q] <:+: replacePair q q [q] cs ↔ [q, q, q] <:+: cs := by
  fun_induction replacePair q q [q] cs with
  | case1 x y rest hPair ih =>
    obtain ⟨rfl, rfl⟩ := hPair
    have hNext : [y] <+: replacePair y y [y] rest ↔ [y] <+: rest := by
      rw [singleton_isPrefix_iff, head?_replaceDoubled, singleton_isPrefix_iff]
    -- Three that begin at the second of the two begin at the first one as well.
    have hSecond : [y, y] <+: rest → [y] <+: rest := (List.prefix_append [y] [y]).trans
    simp only [List.singleton_append, List.infix_cons_iff (a := y), List.cons_prefix_cons, true_and,
      ih, hNext]
    tauto
  | case2 x y rest hPair ih =>
    have hTwo : ¬[q, q] <+: x :: replacePair q q [q] (y :: rest) := by
      rw [List.cons_prefix_cons, singleton_isPrefix_iff, head?_replaceDoubled]
      rintro ⟨rfl, hy⟩
      exact hPair ⟨rfl, Option.some.inj hy⟩
    have hThree : ¬[q, q, q] <+: x :: y :: rest := by
      rw [List.cons_prefix_cons, List.cons_prefix_cons]
      rintro ⟨rfl, rfl, -⟩
      exact hPair ⟨rfl, rfl⟩
    rw [List.infix_cons_iff, or_iff_right hTwo, ih, List.infix_cons_iff (a := x),
      or_iff_right hThree]
  | case3 cs hShort =>
    have hLength : cs.length < 2 := by
      rcases cs with _ | ⟨x, _ | ⟨y, rest⟩⟩
      · decide
      · exact Nat.lt_succ_self 1
      · exact absurd rfl (hShort x y rest)
    have hLong : ∀ part, 2 ≤ part.length → ¬part <:+: cs := fun part hPart hInfix =>
      Nat.not_le_of_lt hLength (hPart.trans hInfix.length_le)
    exact iff_of_false (hLong [q, q] (Nat.le_refl 2)) (hLong [q, q, q] (Nat.le_succ 2))

end Gatehouse.Text
