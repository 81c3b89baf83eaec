import Gatehouse.Proofs.Screen.Signature
import Gatehouse.Proofs.Text.Blank
import Gatehouse.Screen.Sanitize

/-! Cleaning what has been screened.  The marks that cleaning takes out of a search term make the
term suspicious, so in a harmless one there is nothing to do but to trim it. -/

namespace Gatehouse.Screen

open Text Pattern

/-- The marks that cleaning takes out or makes single. -/
def marks : List String := ["--", "/*", "*/", "#", "''", "\"\""]

/-- None of the marks is in the text. -/
def IsClean (s : String) : Prop := ∀ mark ∈ marks, ¬mark.toList <:+: s.toList

theorem IsClean.trim {s : String} (h : IsClean s) : IsClean (Text.trim s) := by
  intro mark hMark hInfix
  rw [Text.trim, String.toList_ofList] at hInfix
  exact h mark hMark (hInfix.trans (trimChars_isInfix s.toList))

/-- The signature of the delimiters of comments. -/
def commentSignature : Pattern :=
  alt (literal "--") (alt (literal "#") (alt (literal "/*") (literal "*/")))

theorem commentSignature_mem : commentSignature ∈ sqlSignatures := by decide

theorem occurs_commentSignature_iff {text : List Char} :
    commentSignature.Occurs text ↔
      ∃ mark ∈ ["--", "#", "/*", "*/"], mark.toList <:+: text := by
  have hSymbols : ∀ mark ∈ ["--", "#", "/*", "*/"], mark.toList.any Char.isAlpha = false := by
    decide
  simp only [commentSignature, occurs_alt_iff, List.mem_cons, List.not_mem_nil, or_false,
    exists_eq_or_imp, exists_eq_left]
  rw [occurs_symbols_iff (hSymbols "--" (by simp)), occurs_symbols_iff (hSymbols "#" (by simp)),
    occurs_symbols_iff (hSymbols "/*" (by simp)), occurs_symbols_iff (hSymbols "*/" (by simp))]

/-- Nothing harmless contains a mark. -/
theorem isClean_of_classify {s : String} (h : classify s = none) : IsClean s := by
  have hNone := classify_eq_none_iff.mp h
  have hComment : ¬commentSignature.Occurs s.toList := fun hOccurs =>
    hNone .sqlInjection ⟨_, commentSignature_mem, hOccurs⟩
  rw [occurs_commentSignature_iff] at hComment
  have hQuotes := hNone .suspiciousEscaping
  rw [suspiciousEscaping_fits_iff, not_or] at hQuotes
  intro mark hMark hInfix
  simp only [marks, List.mem_cons, List.not_mem_nil, or_false] at hMark
  rcases hMark with rfl | rfl | rfl | rfl | rfl | rfl
  · exact hComment ⟨_, by simp, hInfix⟩
  · exact hComment ⟨_, by simp, hInfix⟩
  · exact hComment ⟨_, by simp, hInfix⟩
  · exact hComment ⟨_, by simp, hInfix⟩
  · exact hQuotes.1 hInfix
  · exact hQuotes.2 hInfix

/-- Cleaning only trims a text without marks. -/
theorem sanitize_of_isClean {s : String} (h : IsClean s) : sanitize s = trim s := by
  have hPair : ∀ a b new, String.ofList [a, b] ∈ marks →
      replacePair a b new s.toList = s.toList := fun a b new hMark => by
    refine replacePair_of_not_hasPair (Bool.eq_false_iff.mpr fun hPair => h _ hMark ?_)
    rw [String.toList_ofList]
    exact hasPair_eq_true_iff.mp hPair
  have hHash : s.toList.filter (· != '#') = s.toList := by
    refine List.filter_eq_self.mpr fun c hc => bne_iff_ne.mpr ?_
    rintro rfl
    obtain ⟨front, back, hText⟩ := List.append_of_mem hc
    exact h "#" (by decide) ⟨front, back, by simp [hText]⟩
  rw [sanitize, sanitizeChars, hPair '-' '-' _ (by decide), hPair '/' '*' _ (by decide),
    hPair '*' '/' _ (by decide), hHash, hPair '\'' '\'' _ (by decide), hPair '"' '"' _ (by decide),
    trim]

end Gatehouse.Screen
