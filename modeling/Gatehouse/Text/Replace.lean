/-! Replacing what is found in a text, from left to right and without overlap. -/

namespace Gatehouse.Text

/-- Replaces each occurrence of the pair `a b` by `new`, scanning from the left and going on after
the pair. -/
def replacePair (a b : Char) (new : List Char) : List Char → List Char
  | x :: y :: rest =>
    if x = a ∧ y = b then new ++ replacePair a b new rest
    else x :: replacePair a b new (y :: rest)
  | cs => cs

/-- Is there an `a` directly before a `b`? -/
def hasPair (a b : Char) : List Char → Bool
  | x :: y :: rest => (x == a && y == b) || hasPair a b (y :: rest)
  | _ => false

/-- The pair is found wherever its two characters stand next to each other. -/
theorem hasPair_eq_true_iff {a b : Char} {cs : List Char} :
    hasPair a b cs = true ↔ [a, b] <:+: cs := by
  fun_induction hasPair a b cs with
  | case1 x y rest ih =>
    have hHere : (x == a && y == b) = true ↔ [a, b] <+: x :: y :: rest := by
      rw [Bool.and_eq_true, beq_iff_eq, beq_iff_eq, List.cons_prefix_cons, List.cons_prefix_cons]
      exact ⟨fun ⟨hx, hy⟩ => ⟨hx.symm, hy.symm, List.nil_prefix⟩,
        fun ⟨hx, hy, _⟩ => ⟨hx.symm, hy.symm⟩⟩
    rw [Bool.or_eq_true, ih, hHere]
    exact List.infix_cons_iff.symm
  | case2 cs hShort =>
    refine iff_of_false nofun fun hInfix => ?_
    have hLength : 2 ≤ cs.length := hInfix.length_le
    match cs, hLength with
    | x :: y :: rest, _ => exact hShort x y rest rfl

/-- A text without the pair is left alone. -/
theorem replacePair_of_not_hasPair {a b : Char} {new : List Char} {cs : List Char}
    (h : hasPair a b cs = false) : replacePair a b new cs = cs := by
  fun_induction replacePair a b new cs with
  | case1 x y rest hxy => simp [hasPair, hxy] at h
  | case2 x y rest hxy ih =>
    simp only [hasPair, Bool.or_eq_false_iff] at h
    rw [ih h.2]
  | case3 cs hcs => rfl

end Gatehouse.Text
