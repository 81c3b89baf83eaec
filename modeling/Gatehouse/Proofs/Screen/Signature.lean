import Gatehouse.Proofs.Screen.Search
import Gatehouse.Proofs.Text.Decimal
import Gatehouse.Proofs.Text.Letter
import Gatehouse.Screen.Signature
import Mathlib.Tactic.IntervalCases

/-! What the signatures stand for, in terms of the parts of a text: a literal without letters for
itself, a keyword for a whole word in any case, and a pair of keywords for two whole words on one
line.  None of them is found in a text that consists of digits. -/

namespace Gatehouse.Screen

open Text

/-! ### Patterns -/

namespace Pattern

variable {before after : Option Char} {text : List Char} {s : String}

theorem occurs_alt_iff {p q : Pattern} : (alt p q).Occurs text ↔ p.Occurs text ∨ q.Occurs text := by
  simp only [Occurs, matches_alt_iff, and_or_left, exists_or]

/-- The characters that a character of a literal stands for. -/
def caseless (x : Char) : CharClass := if x.isAlpha then .letter x.toLower else .exactly x

theorem matches_literal_iff :
    (literal s).Matches before text after ↔
      List.Forall₂ (fun x c => (caseless x).holds c = true) s.toList text := by
  rw [literal]
  induction s.toList generalizing before text with
  | nil => simp [matches_empty_iff]
  | cons x xs ih =>
    simp only [List.map_cons, List.foldr_cons, matches_seq_iff, matches_one_iff, ih]
    constructor
    · rintro ⟨_, t, rfl, ⟨c, rfl, hHolds⟩, hRest⟩
      exact .cons hHolds hRest
    · rintro (_ | ⟨hHolds, hRest⟩)
      exact ⟨[_], _, rfl, ⟨_, rfl, hHolds⟩, hRest⟩

/-- A literal of letters matches the same letters in either case. -/
theorem matches_letters (hLetters : ∀ x ∈ s.toList, x.isAlpha = true)
    (h : text.map Char.toLower = s.toList.map Char.toLower) :
    (literal s).Matches before text after := by
  have hSame := forall₂_toLower_iff.mpr h.symm
  have hBoth := (List.forall₂_and_left s.toList text).mpr ⟨hLetters, hSame⟩
  refine matches_literal_iff.mpr (hBoth.imp ?_)
  rintro x c ⟨hLetter, hLower⟩
  simp [caseless, hLetter, CharClass.holds, foldsTo, hLower]

/-- A literal without letters matches nothing but itself. -/
theorem matches_symbols_iff (hSymbols : s.toList.any Char.isAlpha = false) :
    (literal s).Matches before text after ↔ text = s.toList := by
  have hSymbol : ∀ x ∈ s.toList, x.isAlpha = false := by simpa using hSymbols
  rw [matches_literal_iff]
  constructor
  · intro h
    have hSame : List.Forall₂ (· = ·) s.toList text := by
      have hBoth := (List.forall₂_and_left s.toList text).mpr ⟨hSymbol, h⟩
      refine hBoth.imp ?_
      rintro x c ⟨hSymbol, hHolds⟩
      simp only [caseless, hSymbol, CharClass.holds, Bool.false_eq_true, if_false] at hHolds
      exact (beq_iff_eq.mp hHolds).symm
    rw [List.forall₂_eq_eq_eq] at hSame
    exact hSame.symm
  · rintro rfl
    refine List.forall₂_same.mpr fun x hx => ?_
    simp [caseless, hSymbol x hx, CharClass.holds]

theorem occurs_symbols_iff (hSymbols : s.toList.any Char.isAlpha = false) :
    (literal s).Occurs text ↔ s.toList <:+: text := by
  simp only [Occurs, matches_symbols_iff hSymbols]
  constructor
  · rintro ⟨front, _, back, rfl, rfl⟩
    exact ⟨front, back, rfl⟩
  · rintro ⟨front, back, rfl⟩
    exact ⟨front, _, back, rfl, rfl⟩

/-- A part of a text is a keyword, in any case, and a word of its own. -/
structure IsKeyword (keyword : String) (before : Option Char) (part : List Char)
    (after : Option Char) : Prop where
  letters : part.map Char.toLower = keyword.toList
  not_before : isWord? before = false
  not_after : isWord? after = false

/-- A word of lower-case ASCII letters. -/
structure IsLowerWord (s : String) : Prop where
  nonempty : s.toList ≠ []
  letters : ∀ x ∈ s.toList, x.isAlpha = true
  lower : s.toList.map Char.toLower = s.toList

theorem matches_keyword (hWord : IsLowerWord s) (h : IsKeyword s before text after) :
    (keyword s).Matches before text after := by
  have hLetters : ∀ c ∈ text, isWord c = true := fun c hc => by
    have hMem : c.toLower ∈ s.toList := h.letters ▸ List.mem_map_of_mem hc
    exact isWord_of_isAlpha (c.isAlpha_toLower_eq_isAlpha.symm.trans (hWord.letters _ hMem))
  have hNe : text ≠ [] := by
    rintro rfl
    exact hWord.nonempty h.letters.symm
  have hFirst : isWordEdge before (text.head?.or after) = true := by
    rw [List.head?_eq_some_head hNe, Option.some_or, isWordEdge, h.not_before, isWord?,
      hLetters _ (List.head_mem hNe)]
    rfl
  have hLast : isWordEdge (text.getLast?.or before) after = true := by
    rw [List.getLast?_eq_some_getLast hNe, Option.some_or, isWordEdge, h.not_after, isWord?,
      hLetters _ (List.getLast_mem hNe)]
    rfl
  have hLiteral : (literal s).Matches before text after :=
    matches_letters hWord.letters (h.letters.trans hWord.lower.symm)
  rw [keyword, matches_seq_iff]
  refine ⟨[], text, rfl, .edge hFirst, matches_seq_iff.mpr ⟨text, [], ?_, hLiteral, ?_⟩⟩
  · rw [List.append_nil]
  · exact .edge hLast

theorem matches_gap (h : '\n' ∉ text) : gap.Matches before text after := by
  induction text generalizing before with
  | nil => exact .none
  | cons c text ih =>
    obtain ⟨hFirst, hRest⟩ := List.ne_and_not_mem_of_not_mem_cons h
    have hOne : (one (.except '\n')).Matches before [c] (text.head?.or after) :=
      .one (by simpa [CharClass.holds] using hFirst.symm)
    exact .more hOne (ih hRest)

/-- Two keywords in a text, one after the other, and what stands between them. -/
def HasKeywords (first second : String) (between text : List Char) : Prop :=
  ∃ front v w back, text = front ++ v ++ between ++ w ++ back ∧
    IsKeyword first front.getLast? v (between ++ w ++ back).head? ∧
    IsKeyword second (front ++ v ++ between).getLast? w back.head?

/-- A pair of keywords is found if no line ends between them. -/
theorem occurs_keywords {first second : String} {between : List Char}
    (hFirst : IsLowerWord first) (hSecond : IsLowerWord second)
    (h : HasKeywords first second between text) (hLine : '\n' ∉ between) :
    (keywords first second).Occurs text := by
  obtain ⟨front, v, w, back, rfl, hv, hw⟩ := h
  rw [List.head?_append] at hv
  rw [List.append_assoc, List.getLast?_append, List.getLast?_append, Option.or_assoc] at hw
  refine ⟨front, v ++ (between ++ w), back, by simp only [List.append_assoc], ?_⟩
  rw [keywords, matches_seq_iff]
  refine ⟨v, between ++ w, rfl, matches_keyword hFirst hv, matches_seq_iff.mpr ?_⟩
  exact ⟨between, w, rfl, matches_gap hLine, matches_keyword hSecond hw⟩

/-- Every text that matches has a character outside of the alphabet. -/
def isForeignTo (alphabet : List Char) : Pattern → Bool
  | empty | star _ | edge => false
  | one k => alphabet.all (!k.holds ·)
  | seq p q => p.isForeignTo alphabet || q.isForeignTo alphabet
  | alt p q => p.isForeignTo alphabet && q.isForeignTo alphabet

theorem not_matches_of_isForeignTo {p : Pattern} {alphabet : List Char}
    (h : p.isForeignTo alphabet = true) (hText : text ⊆ alphabet) :
    ¬p.Matches before text after := by
  intro hMatch
  induction hMatch with
  | empty | none | more | edge => cases h
  | one hHolds =>
    have hBarred := List.all_eq_true.mp h _ (hText List.mem_cons_self)
    rw [hHolds] at hBarred
    cases hBarred
  | seq _ _ ihFirst ihRest =>
    obtain ⟨hFirst, hRest⟩ := List.append_subset.mp hText
    rcases Bool.or_eq_true_iff.mp h with hp | hq
    · exact ihFirst hp hFirst
    · exact ihRest hq hRest
  | left _ ih => exact ih (Bool.and_eq_true_iff.mp h).1 hText
  | right _ ih => exact ih (Bool.and_eq_true_iff.mp h).2 hText

theorem not_occurs_of_isForeignTo {p : Pattern} {alphabet : List Char}
    (h : p.isForeignTo alphabet = true) (hText : text ⊆ alphabet) : ¬p.Occurs text := by
  rintro ⟨front, part, back, rfl, hMatch⟩
  have hPart : part ⊆ alphabet := fun c hc =>
    hText (List.mem_append_left _ (List.mem_append_right _ hc))
  exact not_matches_of_isForeignTo h hPart hMatch

end Pattern

/-! ### Categories -/

open Pattern

/-- The signatures of a category.  For doubled quotes they are the two pairs themselves. -/
def Category.signatures : Category → List Pattern
  | .sqlInjection => sqlSignatures
  | .scriptInjection => scriptSignatures
  | .suspiciousEscaping => [literal "''", literal "\"\""]

/-- Some part of the text matches a signature of the category. -/
def Category.Fits (c : Category) (text : List Char) : Prop := ∃ p ∈ c.signatures, p.Occurs text

/-- The place of a category in the order in which they are looked for. -/
def Category.rank : Category → Nat
  | .sqlInjection => 0
  | .scriptInjection => 1
  | .suspiciousEscaping => 2

theorem Category.forall_iff {P : Category → Prop} :
    (∀ c, P c) ↔ P .sqlInjection ∧ P .scriptInjection ∧ P .suspiciousEscaping := by
  refine ⟨fun h => ⟨h _, h _, h _⟩, fun ⟨hSql, hScript, hEscaping⟩ c => ?_⟩
  cases c with
  | sqlInjection => exact hSql
  | scriptInjection => exact hScript
  | suspiciousEscaping => exact hEscaping

theorem suspiciousEscaping_fits_iff {text : List Char} :
    Category.suspiciousEscaping.Fits text ↔ "''".toList <:+: text ∨ "\"\"".toList <:+: text := by
  simp only [Category.Fits, Category.signatures, List.mem_cons, List.not_mem_nil, or_false,
    exists_eq_or_imp, exists_eq_left]
  rw [occurs_symbols_iff (by decide), occurs_symbols_iff (by decide)]

theorem classify_eq (s : String) [∀ c : Category, Decidable (c.Fits s.toList)] :
    classify s =
      if Category.sqlInjection.Fits s.toList then some .sqlInjection
      else if Category.scriptInjection.Fits s.toList then some .scriptInjection
      else if Category.suspiciousEscaping.Fits s.toList then some .suspiciousEscaping
      else none := by
  have hSql : occurs sqlSignatures s = true ↔ Category.sqlInjection.Fits s.toList :=
    occurs_eq_true_iff
  have hScript : occurs scriptSignatures s = true ↔ Category.scriptInjection.Fits s.toList :=
    occurs_eq_true_iff
  have hEscaping : (hasPair '\'' '\'' s.toList || hasPair '"' '"' s.toList) = true ↔
      Category.suspiciousEscaping.Fits s.toList := by
    rw [Bool.or_eq_true, hasPair_eq_true_iff, hasPair_eq_true_iff, suspiciousEscaping_fits_iff]
    rfl
  simp only [classify, hSql, hScript, hEscaping]

/-- The category is the first one with a signature in the text. -/
theorem classify_eq_some_iff {s : String} {c : Category} :
    classify s = some c ↔
      c.Fits s.toList ∧ ∀ before : Category, before.rank < c.rank → ¬before.Fits s.toList := by
  classical
  rw [classify_eq, Category.forall_iff]
  cases c <;> simp only [Category.rank] <;> split_ifs <;> simp_all

theorem classify_eq_none_iff {s : String} :
    classify s = none ↔ ∀ c : Category, ¬c.Fits s.toList := by
  classical
  rw [classify_eq, Category.forall_iff]
  split_ifs <;> simp_all

/-- The pairs of keywords that make up a statement of SQL. -/
def keywordPairs : List (String × String) :=
  [("union", "select"), ("select", "from"), ("insert", "into"), ("update", "set"),
    ("delete", "from"), ("drop", "table")]

theorem isLowerWord_of_mem_keywordPairs : ∀ pair ∈ keywordPairs,
    IsLowerWord pair.1 ∧ IsLowerWord pair.2 := by
  have hWord : ∀ pair ∈ keywordPairs, ∀ s ∈ [pair.1, pair.2],
      s.toList ≠ [] ∧ s.toList.all Char.isAlpha = true ∧
        s.toList.map Char.toLower = s.toList := by decide
  intro pair hPair
  obtain ⟨hNe, hLetters, hLower⟩ := hWord pair hPair pair.1 (by simp)
  obtain ⟨hNe', hLetters', hLower'⟩ := hWord pair hPair pair.2 (by simp)
  exact ⟨⟨hNe, List.all_eq_true.mp hLetters, hLower⟩,
    ⟨hNe', List.all_eq_true.mp hLetters', hLower'⟩⟩

theorem keywords_mem_sqlSignatures : ∀ pair ∈ keywordPairs,
    keywords pair.1 pair.2 ∈ sqlSignatures := by decide

/-- A pair of keywords on one line makes a text suspicious, whatever stands around and between
them. -/
theorem classify_of_keywords {pair : String × String} (hPair : pair ∈ keywordPairs)
    {between : List Char} {s : String} (h : HasKeywords pair.1 pair.2 between s.toList)
    (hLine : '\n' ∉ between) : classify s = some .sqlInjection := by
  obtain ⟨hFirst, hSecond⟩ := isLowerWord_of_mem_keywordPairs pair hPair
  exact classify_eq_some_iff.mpr ⟨⟨_, keywords_mem_sqlSignatures pair hPair,
    occurs_keywords hFirst hSecond h hLine⟩, fun _ => nofun⟩

/-! ### Digits -/

/-- The decimal digits. -/
def digitChars : List Char := "0123456789".toList

theorem mem_digitChars {c : Char} (h : Decimal.isDigit c = true) : c ∈ digitChars := by
  obtain ⟨hLow, hHigh⟩ := Decimal.isDigit_bounds h
  rw [← Char.ofNat_toNat c]
  interval_cases c.toNat <;> decide

theorem signatures_foreign_to_digits : ∀ c : Category, ∀ p ∈ c.signatures,
    p.isForeignTo digitChars = true := by
  rw [Category.forall_iff]
  decide

/-- A text of digits is never suspicious. -/
theorem classify_of_digits {s : String} (h : ∀ c ∈ s.toList, Decimal.isDigit c = true) :
    classify s = none := by
  have hText : s.toList ⊆ digitChars := fun c hc => mem_digitChars (h c hc)
  refine classify_eq_none_iff.mpr fun c => ?_
  rintro ⟨p, hp, hOccurs⟩
  exact not_occurs_of_isForeignTo (signatures_foreign_to_digits c p hp) hText hOccurs

end Gatehouse.Screen
