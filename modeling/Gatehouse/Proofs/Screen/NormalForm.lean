import Gatehouse.Proofs.Screen.Sanitize
import Gatehouse.Proofs.Text.Replace

/-! What cleaning reaches and what it keeps.  A text is gone over once for each kind of mark, so
that what one pass takes out may bring together the characters of a mark that was looked for before,
and of three quotes in a row two are left.  The texts that cleaning leaves alone are exactly the
trimmed ones without marks, and since every other text becomes shorter, cleaning again and again
ends in one of them.  Nothing is lost but characters of marks and what trimming takes. -/

namespace Gatehouse.Screen

open Text

instance (s : String) : Decidable (IsClean s) :=
  inferInstanceAs (Decidable (∀ mark ∈ marks, ¬mark.toList <:+: s.toList))

/-! ### One pass after the other -/

/-- The passes that take out the delimiters of comments. -/
def commentPasses : List (List Char → List Char) :=
  [replacePair '-' '-' [], replacePair '/' '*' [], replacePair '*' '/' [],
    List.filter (· != '#')]

/-- The passes that make doubled quotes single. -/
def quotePasses : List (List Char → List Char) :=
  [replacePair '\'' '\'' ['\''], replacePair '"' '"' ['"']]

/-- The text after some passes over it. -/
def goOver (passes : List (List Char → List Char)) (cs : List Char) : List Char :=
  passes.foldl (fun cs pass => pass cs) cs

theorem sanitizeChars_eq (cs : List Char) :
    sanitizeChars cs = trimChars (goOver (commentPasses ++ quotePasses) cs) := rfl

theorem toList_sanitize (s : String) : (sanitize s).toList = sanitizeChars s.toList :=
  String.toList_ofList

theorem pass_sublist : ∀ pass ∈ commentPasses ++ quotePasses, ∀ cs, (pass cs).Sublist cs := by
  have hDelimiter : ∀ a b : Char, ([] : List Char).Sublist [a, b] := fun a b => List.nil_sublist _
  have hQuote : ∀ q : Char, [q].Sublist [q, q] := fun q => List.sublist_cons_self q [q]
  simp only [commentPasses, quotePasses, List.cons_append, List.nil_append, List.forall_mem_cons]
  exact ⟨replacePair_sublist (hDelimiter ..), replacePair_sublist (hDelimiter ..),
    replacePair_sublist (hDelimiter ..), fun cs => List.filter_sublist,
    replacePair_sublist (hQuote '\''), replacePair_sublist (hQuote '"'),
    List.forall_mem_nil _⟩

section Passes

variable {passes : List (List Char → List Char)} {cs : List Char}

theorem goOver_sublist (h : ∀ pass ∈ passes, ∀ cs, (pass cs).Sublist cs) (cs : List Char) :
    (goOver passes cs).Sublist cs := by
  induction passes generalizing cs with
  | nil => exact List.Sublist.refl cs
  | cons pass more ih =>
    obtain ⟨hPass, hMore⟩ := List.forall_mem_cons.mp h
    exact (ih hMore (pass cs)).trans (hPass cs)

/-- Where the whole text is left, no pass has taken anything out. -/
theorem pass_eq_self (h : ∀ pass ∈ passes, ∀ cs, (pass cs).Sublist cs)
    (hWhole : cs.Sublist (goOver passes cs)) : ∀ pass ∈ passes, pass cs = cs := by
  induction passes with
  | nil => exact List.forall_mem_nil _
  | cons pass more ih =>
    obtain ⟨hPass, hMore⟩ := List.forall_mem_cons.mp h
    have hSame : pass cs = cs :=
      (hPass cs).antisymm (hWhole.trans (goOver_sublist hMore (pass cs)))
    refine List.forall_mem_cons.mpr ⟨hSame, ih hMore ?_⟩
    rwa [goOver, List.foldl_cons, hSame] at hWhole

theorem filter_goOver {keep : Char → Bool}
    (h : ∀ pass ∈ passes, ∀ cs, (pass cs).filter keep = cs.filter keep) (cs : List Char) :
    (goOver passes cs).filter keep = cs.filter keep := by
  induction passes generalizing cs with
  | nil => rfl
  | cons pass more ih =>
    obtain ⟨hPass, hMore⟩ := List.forall_mem_cons.mp h
    exact (ih hMore (pass cs)).trans (hPass cs)

end Passes

theorem sanitizeChars_sublist (cs : List Char) : (sanitizeChars cs).Sublist cs :=
  (trimChars_isInfix _).sublist.trans (goOver_sublist pass_sublist cs)

/-! ### What becomes of each mark -/

/-- What is left of a text when the delimiters of comments have been taken out, each kind once. -/
def uncomment (cs : List Char) : List Char := goOver commentPasses cs

theorem isInfix_sanitizeChars_iff_of_not_blank {word cs : List Char}
    (h : word.any isBlank = false) :
    word <:+: sanitizeChars cs ↔ word <:+: goOver quotePasses (uncomment cs) :=
  isInfix_trimChars_iff fun c hc => Bool.eq_false_iff.mpr (List.any_eq_false.mp h c hc)

/-- A word without quotes is found after cleaning exactly if it is there when the delimiters of
comments have gone. -/
theorem isInfix_sanitizeChars_iff {word cs : List Char} (hBlank : word.any isBlank = false)
    (hSingle : '\'' ∉ word) (hDouble : '"' ∉ word) :
    word <:+: sanitizeChars cs ↔ word <:+: uncomment cs := by
  rw [isInfix_sanitizeChars_iff_of_not_blank hBlank]
  exact (isInfix_replaceDoubled_iff hDouble).trans (isInfix_replaceDoubled_iff hSingle)

/-- Two single quotes in a row are left where there were three. -/
theorem single_quotes_isInfix_sanitizeChars_iff {cs : List Char} :
    ['\'', '\''] <:+: sanitizeChars cs ↔ ['\'', '\'', '\''] <:+: uncomment cs := by
  rw [isInfix_sanitizeChars_iff_of_not_blank (by decide)]
  exact (isInfix_replaceDoubled_iff (by decide)).trans doubled_isInfix_replaceDoubled_iff

/-- Two double quotes in a row are left where there were three. -/
theorem double_quotes_isInfix_sanitizeChars_iff {cs : List Char} :
    ['"', '"'] <:+: sanitizeChars cs ↔ ['"', '"', '"'] <:+: uncomment cs := by
  rw [isInfix_sanitizeChars_iff_of_not_blank (by decide)]
  exact doubled_isInfix_replaceDoubled_iff.trans (isInfix_replaceDoubled_iff (by decide))

/-- The marks that cleaning may leave, each with what it is left of once the delimiters of comments
have gone. -/
def remnants : List (String × String) :=
  [("--", "--"), ("/*", "/*"), ("*/", "*/"), ("''", "'''"), ("\"\"", "\"\"\"")]

theorem isInfix_sanitize_iff {s : String} : ∀ r ∈ remnants,
    (r.1.toList <:+: (sanitize s).toList ↔ r.2.toList <:+: uncomment s.toList) := by
  simp only [remnants, List.forall_mem_cons, toList_sanitize]
  refine ⟨?dashes, ?opening, ?closing, ?single, ?double, List.forall_mem_nil _⟩
  case dashes | opening | closing =>
    exact isInfix_sanitizeChars_iff (by decide) (by decide) (by decide)
  case single => exact single_quotes_isInfix_sanitizeChars_iff
  case double => exact double_quotes_isInfix_sanitizeChars_iff

theorem hash_not_mem_sanitize (s : String) : '#' ∉ (sanitize s).toList := by
  have hNone : '#' ∉ uncomment s.toList := fun hMem =>
    absurd (List.mem_filter.mp hMem).2 (by decide)
  rw [toList_sanitize, ← List.singleton_infix_iff,
    isInfix_sanitizeChars_iff (by decide) (by decide) (by decide), List.singleton_infix_iff]
  exact hNone

theorem isClean_sanitize_iff {s : String} :
    IsClean (sanitize s) ↔ ∀ r ∈ remnants, ¬r.2.toList <:+: uncomment s.toList := by
  have hMarks : ∀ mark ∈ marks, mark = "#" ∨ ∃ r ∈ remnants, r.1 = mark := by decide
  have hRemnants : ∀ r ∈ remnants, r.1 ∈ marks := by decide
  constructor
  · intro hClean r hr hFound
    exact hClean r.1 (hRemnants r hr) ((isInfix_sanitize_iff r hr).mpr hFound)
  · intro hNone mark hMark hFound
    rcases hMarks mark hMark with rfl | ⟨r, hr, rfl⟩
    · exact hash_not_mem_sanitize s ((List.singleton_infix_iff ..).mp hFound)
    · exact hNone r hr ((isInfix_sanitize_iff r hr).mp hFound)

/-! ### Cleaning again -/

theorem isTrimmed_sanitize (s : String) : IsTrimmed (sanitize s).toList := by
  rw [toList_sanitize]
  exact isTrimmed_trimChars _

theorem isClean_of_sanitize_eq_self {s : String} (h : sanitize s = s) : IsClean s := by
  have hChars : sanitizeChars s.toList = s.toList := by rw [← toList_sanitize, h]
  have hWhole : s.toList.Sublist (goOver (commentPasses ++ quotePasses) s.toList) := by
    have hTrimmed := (trimChars_isInfix (goOver (commentPasses ++ quotePasses) s.toList)).sublist
    rwa [← sanitizeChars_eq, hChars] at hTrimmed
  have hSame := pass_eq_self pass_sublist hWhole
  have hPair : ∀ a b new, new.length < 2 → replacePair a b new ∈ commentPasses ++ quotePasses →
      ¬[a, b] <:+: s.toList := by
    intro a b new hNew hPass
    rw [← hasPair_eq_true_iff, (replacePair_eq_self_iff hNew).mp (hSame _ hPass)]
    exact Bool.false_ne_true
  have hHash : ¬['#'] <:+: s.toList := by
    have hKept := List.filter_eq_self.mp (hSame (List.filter (· != '#')) (by simp [commentPasses]))
    rw [List.singleton_infix_iff]
    exact fun hFound => absurd (hKept '#' hFound) (by decide)
  simp only [IsClean, marks, List.forall_mem_cons]
  exact ⟨hPair '-' '-' [] (by decide) (by simp [commentPasses]),
    hPair '/' '*' [] (by decide) (by simp [commentPasses]),
    hPair '*' '/' [] (by decide) (by simp [commentPasses]), hHash,
    hPair '\'' '\'' ['\''] (by decide) (by simp [quotePasses]),
    hPair '"' '"' ['"'] (by decide) (by simp [quotePasses]), List.forall_mem_nil _⟩

/-- The texts that cleaning leaves alone are the trimmed ones without marks. -/
theorem sanitize_eq_self_iff {s : String} :
    sanitize s = s ↔ IsClean s ∧ IsTrimmed s.toList := by
  constructor
  · intro hSelf
    exact ⟨isClean_of_sanitize_eq_self hSelf, hSelf ▸ isTrimmed_sanitize s⟩
  · rintro ⟨hClean, hTrimmed⟩
    rw [sanitize_of_isClean hClean, trim, trimChars_of_isTrimmed hTrimmed, String.ofList_toList]

theorem length_sanitize_lt {s : String} (h : sanitize s ≠ s) : (sanitize s).length < s.length := by
  have hSublist := sanitizeChars_sublist s.toList
  rw [← toList_sanitize] at hSublist
  rw [← String.length_toList, ← String.length_toList]
  refine Nat.lt_of_le_of_ne hSublist.length_le fun hLength => h ?_
  exact String.toList_inj.mp (hSublist.eq_of_length hLength)

/-- To clean a text as often as it has characters is often enough. -/
theorem sanitize_iterate {n : Nat} {s : String} (h : s.length ≤ n) :
    sanitize (sanitize^[n] s) = sanitize^[n] s := by
  induction n generalizing s with
  | zero =>
    have hEmpty : s = "" := String.length_eq_zero_iff.mp (Nat.le_zero.mp h)
    rw [hEmpty]
    rfl
  | succ n ih =>
    rw [Function.iterate_succ_apply]
    by_cases hSelf : sanitize s = s
    · rw [hSelf, Function.iterate_fixed hSelf, hSelf]
    · exact ih (Nat.le_of_lt_succ ((length_sanitize_lt hSelf).trans_le h))

/-- A cleaned text is trimmed and has no `#`.  It has another mark exactly where what the mark is
left of stood after the delimiters of comments had been taken out, and it is left alone by cleaning
exactly if it has none.  Cleaning again and again ends in a trimmed text without marks. -/
theorem sanitize_normal_form (s : String) :
    '#' ∉ (sanitize s).toList ∧ IsTrimmed (sanitize s).toList ∧
    (∀ r ∈ remnants,
      (r.1.toList <:+: (sanitize s).toList ↔ r.2.toList <:+: uncomment s.toList)) ∧
    (IsClean (sanitize s) ↔ ∀ r ∈ remnants, ¬r.2.toList <:+: uncomment s.toList) ∧
    (sanitize (sanitize s) = sanitize s ↔ IsClean (sanitize s)) ∧
    ∀ n, s.length ≤ n → IsClean (sanitize^[n] s) ∧ IsTrimmed (sanitize^[n] s).toList ∧
      sanitize (sanitize^[n] s) = sanitize^[n] s := by
  refine ⟨hash_not_mem_sanitize s, isTrimmed_sanitize s, isInfix_sanitize_iff,
    isClean_sanitize_iff, ?_, fun n hn => ?_⟩
  · rw [sanitize_eq_self_iff, and_iff_left (isTrimmed_sanitize s)]
  · have hFixed := sanitize_iterate hn
    obtain ⟨hClean, hEnds⟩ := sanitize_eq_self_iff.mp hFixed
    exact ⟨hClean, hEnds, hFixed⟩

/-- What stood between two dashes is taken out after the pass that looks for them. -/
theorem dashes_joined_by_cleaning :
    sanitize "a-#-b" = "a--b" ∧ ¬IsClean (sanitize "a-#-b") ∧
      sanitize (sanitize "a-#-b") ≠ sanitize "a-#-b" := by
  decide

/-- Of four quotes in a row two are left, and one when they are cleaned again. -/
example : sanitize "''''" = "''" ∧ sanitize (sanitize "''''") = "'" := by decide

/-! ### What cleaning keeps -/

/-- The characters of which marks are made. -/
def isMarkChar (c : Char) : Bool := ['-', '/', '*', '#', '\'', '"'].contains c

/-- A text without the characters of marks. -/
def unmarked (s : String) : String := String.ofList (s.toList.filter (!isMarkChar ·))

theorem filter_pass : ∀ pass ∈ commentPasses ++ quotePasses, ∀ cs,
    (pass cs).filter (!isMarkChar ·) = cs.filter (!isMarkChar ·) := by
  have hHash : ∀ cs : List Char,
      (cs.filter (· != '#')).filter (!isMarkChar ·) = cs.filter (!isMarkChar ·) := by
    intro cs
    rw [List.filter_filter]
    refine List.filter_congr fun c _ => Bool.and_eq_left_iff_imp.mpr fun hKept => ?_
    rw [bne_iff_ne]
    rintro rfl
    cases hKept
  simp only [commentPasses, quotePasses, List.cons_append, List.nil_append, List.forall_mem_cons]
  exact ⟨filter_replacePair rfl, filter_replacePair rfl, filter_replacePair rfl, hHash,
    filter_replacePair rfl, filter_replacePair rfl, List.forall_mem_nil _⟩

/-- Cleaning moves nothing, and takes out nothing but characters of marks and, at the ends, blank
characters.  A text without marks is only trimmed. -/
theorem sanitize_loses_only_marks (s : String) :
    (sanitize s).toList.Sublist s.toList ∧ trim (unmarked (sanitize s)) = trim (unmarked s) ∧
      (IsClean s → sanitize s = trim s) := by
  refine ⟨?_, ?_, sanitize_of_isClean⟩
  · rw [toList_sanitize]
    exact sanitizeChars_sublist s.toList
  · have hKept : trimChars ((sanitizeChars s.toList).filter (!isMarkChar ·)) =
        trimChars (s.toList.filter (!isMarkChar ·)) := by
      rw [sanitizeChars_eq, trimChars_filter_trimChars, filter_goOver filter_pass]
    rw [trim, trim, unmarked, unmarked, String.toList_ofList, String.toList_ofList,
      toList_sanitize, hKept]

theorem plain_name_trimmed :
    IsClean " O'Hara - x/y \u3000" ∧ sanitize " O'Hara - x/y \u3000" = "O'Hara - x/y" :=
  ⟨by decide, ((sanitize_loses_only_marks _).2.2 (by decide)).trans (by decide)⟩

end Gatehouse.Screen
