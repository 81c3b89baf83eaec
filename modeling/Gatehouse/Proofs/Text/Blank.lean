import Gatehouse.Text.Blank
import Mathlib.Data.List.DropRight

/-! What trimming leaves of a text: the part of it between the blank characters at either end.
Nothing is left if and only if all of it is blank, and a text is left alone if and only if it
neither begins nor ends with a blank character. -/

namespace Gatehouse.Text

theorem trimEndChars_eq (cs : List Char) : trimEndChars cs = cs.rdropWhile isBlank := rfl

theorem trimChars_isInfix (cs : List Char) : trimChars cs <:+: cs := by
  have hStart : trimStartChars cs <:+ cs := List.dropWhile_suffix isBlank
  have hEnd : trimChars cs <+: trimStartChars cs := List.rdropWhile_prefix isBlank _
  exact hEnd.isInfix.trans hStart.isInfix

theorem trimStartChars_eq_nil_iff {cs : List Char} :
    trimStartChars cs = [] ↔ ∀ c ∈ cs, isBlank c = true :=
  List.dropWhile_eq_nil_iff

theorem trimChars_eq_nil_iff {cs : List Char} :
    trimChars cs = [] ↔ ∀ c ∈ cs, isBlank c = true := by
  rw [trimChars, trimEndChars_eq, List.rdropWhile_eq_nil_iff]
  constructor
  · intro h
    -- What is left after trimming in front does not begin with a blank character.
    by_contra hSome
    have hNe : trimStartChars cs ≠ [] := mt trimStartChars_eq_nil_iff.mp hSome
    have hHead : isBlank ((trimStartChars cs).head hNe) = false :=
      List.head_dropWhile_not isBlank hNe
    rw [h _ (List.head_mem hNe)] at hHead
    cases hHead
  · exact fun h c hc => h c ((List.dropWhile_suffix isBlank).subset hc)

theorem trim_eq_empty_iff {s : String} : trim s = "" ↔ isBlankText s = true := by
  rw [trim, isBlankText, List.all_eq_true, ← trimChars_eq_nil_iff, String.ofList_eq_empty_iff]

/-- A text that neither begins nor ends with a blank character. -/
structure IsTrimmed (cs : List Char) : Prop where
  front : ∀ c, cs.head? = some c → isBlank c = false
  back : ∀ c, cs.getLast? = some c → isBlank c = false

theorem isTrimmed_trimChars (cs : List Char) : IsTrimmed (trimChars cs) where
  front c hFirst := by
    -- Trimming at the end leaves the first character where it is.
    obtain ⟨back, hStart⟩ : trimChars cs <+: trimStartChars cs := List.rdropWhile_prefix isBlank _
    have hHead : (cs.dropWhile isBlank).head? = some c := by
      rw [← trimStartChars, ← hStart, List.head?_append, hFirst]
      rfl
    have hNot := List.head?_dropWhile_not isBlank cs
    rwa [hHead] at hNot
  back c hLast := by
    have hNot := List.head?_dropWhile_not isBlank (trimStartChars cs).reverse
    rw [trimChars, trimEndChars, List.getLast?_reverse] at hLast
    rwa [hLast] at hNot

theorem trimChars_of_isTrimmed {cs : List Char} (h : IsTrimmed cs) : trimChars cs = cs := by
  have hStart : trimStartChars cs = cs := by
    cases cs with
    | nil => rfl
    | cons c cs => exact List.dropWhile_cons_of_neg (by simp [h.front c rfl])
  have hEnd : cs.rdropWhile isBlank = cs := by
    refine List.rdropWhile_eq_self_iff.mpr fun hNe => ?_
    rw [h.back _ (List.getLast?_eq_some_getLast hNe)]
    exact Bool.false_ne_true
  rw [trimChars, hStart, trimEndChars_eq, hEnd]

theorem trimChars_eq_self_iff {cs : List Char} : trimChars cs = cs ↔ IsTrimmed cs :=
  ⟨fun h => h ▸ isTrimmed_trimChars cs, trimChars_of_isTrimmed⟩

theorem trim_trim (s : String) : trim (trim s) = trim s := by
  rw [trim, trim, String.toList_ofList, trimChars_of_isTrimmed (isTrimmed_trimChars s.toList)]

/-- Blank characters around a text are what trimming takes away. -/
theorem trimChars_surrounded {front back : List Char} (hFront : ∀ c ∈ front, isBlank c = true)
    (hBack : ∀ c ∈ back, isBlank c = true) (cs : List Char) :
    trimChars (front ++ cs ++ back) = trimChars cs := by
  have hStart : trimStartChars (front ++ cs ++ back) = trimStartChars (cs ++ back) := by
    rw [List.append_assoc]
    exact List.dropWhile_append_of_pos hFront
  have hEnd : ∀ text, trimEndChars (text ++ back) = trimEndChars text := by
    intro text
    have hReverse : ∀ c ∈ back.reverse, isBlank c = true :=
      fun c hc => hBack c (List.mem_reverse.mp hc)
    rw [trimEndChars, List.reverse_append, List.dropWhile_append_of_pos hReverse, trimEndChars]
  rw [trimChars, hStart, trimChars, trimStartChars, trimStartChars, List.dropWhile_append]
  split
  · -- Nothing is left of the text itself, so all of it is blank.
    rename_i hEmpty
    rw [List.isEmpty_iff.mp hEmpty, List.dropWhile_eq_nil_iff.mpr hBack]
  · exact hEnd _

/-- A text is what trimming leaves of it, between blank characters. -/
theorem exists_trimChars (cs : List Char) : ∃ front back : List Char,
    (∀ c ∈ front, isBlank c = true) ∧ (∀ c ∈ back, isBlank c = true) ∧
      cs = front ++ trimChars cs ++ back := by
  refine ⟨cs.takeWhile isBlank, (trimStartChars cs).rtakeWhile isBlank,
    fun c hc => List.mem_takeWhile_imp hc, fun c hc => List.mem_rtakeWhile_imp hc, ?_⟩
  rw [List.append_assoc, trimChars, trimEndChars_eq, List.rdropWhile_append_rtakeWhile]
  exact List.takeWhile_append_dropWhile.symm

/-- It makes no difference to trimming whether the characters that are to go, go before it. -/
theorem trimChars_filter_trimChars (keep : Char → Bool) (cs : List Char) :
    trimChars ((trimChars cs).filter keep) = trimChars (cs.filter keep) := by
  obtain ⟨front, back, hFront, hBack, hText⟩ := exists_trimChars cs
  have hAll : cs.filter keep =
      front.filter keep ++ (trimChars cs).filter keep ++ back.filter keep := by
    rw [← List.filter_append, ← List.filter_append, ← hText]
  rw [hAll]
  exact (trimChars_surrounded (fun c hc => hFront c (List.mem_filter.mp hc).1)
    (fun c hc => hBack c (List.mem_filter.mp hc).1) _).symm

/-- A word without blank characters does not reach into blank characters at the end. -/
theorem isInfix_of_append_blank {word text back : List Char}
    (hWord : ∀ c ∈ word, isBlank c = false) (hBack : ∀ c ∈ back, isBlank c = true)
    (h : word <:+: text ++ back) : word <:+: text := by
  have hNil : ∀ part, part ⊆ word → part ⊆ back → part = [] := by
    intro part hPart hBlank
    refine List.eq_nil_iff_forall_not_mem.mpr fun c hc => ?_
    have hBoth : isBlank c = true := hBack c (hBlank hc)
    rw [hWord c (hPart hc)] at hBoth
    cases hBoth
  rcases List.infix_append_iff.mp h with hText | hBlank | ⟨first, last, rfl, hFirst, hLast⟩
  · exact hText
  · rw [hNil word (List.Subset.refl _) hBlank.subset]
    exact List.nil_infix
  · rw [hNil last (List.subset_append_right ..) hLast.subset, List.append_nil]
    exact hFirst.isInfix

/-- A word without blank characters is in a text exactly if it is in what trimming leaves. -/
theorem isInfix_trimChars_iff {word : List Char} (hWord : ∀ c ∈ word, isBlank c = false)
    {cs : List Char} : word <:+: trimChars cs ↔ word <:+: cs := by
  refine ⟨fun h => h.trans (trimChars_isInfix cs), fun h => ?_⟩
  obtain ⟨front, back, hFront, hBack, hText⟩ := exists_trimChars cs
  rw [hText] at h
  have hRest := isInfix_of_append_blank hWord hBack h
  rw [← List.reverse_infix, List.reverse_append] at hRest
  have hReversed := isInfix_of_append_blank (fun c hc => hWord c (List.mem_reverse.mp hc))
    (fun c hc => hFront c (List.mem_reverse.mp hc)) hRest
  exact List.reverse_infix.mp hReversed

end Gatehouse.Text
