import Gatehouse.Proofs.Screen.Signature

/-! What makes no difference to a verdict.  A pattern sees of its neighbours only whether they are
part of words, and of the characters themselves only which of its classes they are in.  So a match
survives where it is put between other texts, as long as no word grows at its ends, and where
letters change their case. -/

namespace Gatehouse.Screen

open Text

/-! ### Matches of related texts -/

namespace Pattern

/-- The classes of characters that a pattern tests for. -/
def classes : Pattern → List CharClass
  | empty | edge => []
  | one k => [k]
  | seq p q | alt p q => p.classes ++ q.classes
  | star p => p.classes

/-- A pattern treats related characters alike. -/
structure IsBlindTo (p : Pattern) (R : Char → Char → Prop) : Prop where
  edges : ∀ c d, R c d → isWord c = isWord d
  classes : ∀ k ∈ p.classes, ∀ c d, R c d → k.holds c = k.holds d

variable {p q : Pattern} {R : Char → Char → Prop} {s t : List Char}
  {before after before' after' : Option Char}

theorem IsBlindTo.mono (h : p.IsBlindTo R) (hClasses : q.classes ⊆ p.classes) : q.IsBlindTo R :=
  ⟨h.edges, fun k hk => h.classes k (hClasses hk)⟩

theorem isBlindTo_eq (p : Pattern) : p.IsBlindTo Eq :=
  ⟨fun _ _ h => h ▸ rfl, fun _ _ _ _ h => h ▸ rfl⟩

theorem isWord?_head?_or (hEdges : ∀ c d, R c d → isWord c = isWord d) (h : List.Forall₂ R t s)
    (hAfter : isWord? after' = isWord? after) :
    isWord? (t.head?.or after') = isWord? (s.head?.or after) := by
  cases h with
  | nil => exact hAfter
  | cons hFirst _ => exact hEdges _ _ hFirst

theorem isWord?_getLast?_or (hEdges : ∀ c d, R c d → isWord c = isWord d)
    (h : List.Forall₂ R t s) (hBefore : isWord? before' = isWord? before) :
    isWord? (t.getLast?.or before') = isWord? (s.getLast?.or before) := by
  rw [List.getLast?_eq_head?_reverse, List.getLast?_eq_head?_reverse]
  exact isWord?_head?_or hEdges (List.rel_reverse h) hBefore

/-- A text between its neighbours resembles another one: the characters are related one by one, and
the neighbours are of the same kind. -/
structure Resembles (R : Char → Char → Prop) (before' : Option Char) (t : List Char)
    (after' before : Option Char) (s : List Char) (after : Option Char) : Prop where
  text : List.Forall₂ R t s
  before : isWord? before' = isWord? before
  after : isWord? after' = isWord? after

theorem Resembles.split {s₁ s₂ : List Char}
    (h : Resembles R before' t after' before (s₁ ++ s₂) after)
    (hEdges : ∀ c d, R c d → isWord c = isWord d) :
    ∃ t₁ t₂, t = t₁ ++ t₂ ∧
      Resembles R before' t₁ (t₂.head?.or after') before s₁ (s₂.head?.or after) ∧
      Resembles R (t₁.getLast?.or before') t₂ after' (s₁.getLast?.or before) s₂ after := by
  have hFirst := List.forall₂_take_append _ _ _ h.text
  have hSecond := List.forall₂_drop_append _ _ _ h.text
  refine ⟨_, _, (List.take_append_drop s₁.length t).symm, ?_, ?_⟩
  · exact ⟨hFirst, h.before, isWord?_head?_or hEdges hSecond h.after⟩
  · exact ⟨hSecond, isWord?_getLast?_or hEdges hFirst h.before, h.after⟩

theorem Matches.related (h : p.Matches before s after) (hBlind : p.IsBlindTo R)
    (hText : Resembles R before' t after' before s after) : p.Matches before' t after' := by
  induction h generalizing t before' after' with
  | empty =>
    rw [List.forall₂_nil_right_iff.mp hText.text]
    exact .empty
  | one hHolds =>
    obtain ⟨c, _, hRelated, hRest, rfl⟩ := List.forall₂_cons_right_iff.mp hText.text
    rw [List.forall₂_nil_right_iff.mp hRest]
    exact .one ((hBlind.classes _ List.mem_cons_self _ _ hRelated).trans hHolds)
  | seq _ _ ihp ihq =>
    obtain ⟨_, _, rfl, hFirst, hSecond⟩ := hText.split hBlind.edges
    exact .seq (ihp (hBlind.mono (List.subset_append_left ..)) hFirst)
      (ihq (hBlind.mono (List.subset_append_right ..)) hSecond)
  | left _ ih => exact .left (ih (hBlind.mono (List.subset_append_left ..)) hText)
  | right _ ih => exact .right (ih (hBlind.mono (List.subset_append_right ..)) hText)
  | none =>
    rw [List.forall₂_nil_right_iff.mp hText.text]
    exact .none
  | more _ _ ihFirst ihRest =>
    obtain ⟨_, _, rfl, hFirst, hRest⟩ := hText.split hBlind.edges
    exact .more (ihFirst (hBlind.mono (List.Subset.refl _)) hFirst) (ihRest hBlind hRest)
  | edge hEdge =>
    rw [List.forall₂_nil_right_iff.mp hText.text]
    rw [isWordEdge, ← hText.before, ← hText.after] at hEdge
    exact .edge hEdge

theorem Occurs.related (h : p.Occurs s) (hBlind : p.IsBlindTo R) (hText : List.Forall₂ R t s) :
    p.Occurs t := by
  obtain ⟨front, part, back, rfl, hMatch⟩ := h
  have hWhole : Resembles R none t none none (front ++ part ++ back) none := ⟨hText, rfl, rfl⟩
  obtain ⟨_, back', rfl, hRest, -⟩ := hWhole.split hBlind.edges
  obtain ⟨front', part', rfl, -, hPart⟩ := hRest.split hBlind.edges
  simp only [Option.or_none] at hPart
  exact ⟨front', part', back', rfl, hMatch.related hBlind hPart⟩

/-- A match stays one between other texts, if these do not lengthen a word at its ends. -/
theorem Occurs.surrounded {pre post : List Char} (h : p.Occurs s)
    (hPre : isWord? pre.getLast? = false) (hPost : isWord? post.head? = false) :
    p.Occurs (pre ++ s ++ post) := by
  obtain ⟨front, part, back, rfl, hMatch⟩ := h
  refine ⟨pre ++ front, part, back ++ post, by simp only [List.append_assoc], ?_⟩
  refine hMatch.related (isBlindTo_eq p) ⟨List.forall₂_refl part, ?_, ?_⟩
  · rw [List.getLast?_append]
    cases front.getLast? with
    | none => exact hPre
    | some c => rfl
  · rw [List.head?_append]
    cases back.head? with
    | none => exact hPost
    | some c => rfl

end Pattern

/-! ### Other texts around a text -/

open Pattern

theorem Category.Fits.surrounded {c : Category} {text pre post : List Char} (h : c.Fits text)
    (hPre : isWord? pre.getLast? = false) (hPost : isWord? post.head? = false) :
    c.Fits (pre ++ text ++ post) := by
  obtain ⟨p, hp, hOccurs⟩ := h
  exact ⟨p, hp, hOccurs.surrounded hPre hPost⟩

/-- What fits a category has a verdict, and not one that comes later. -/
theorem exists_classify_of_fits {s : String} {c : Category} (h : c.Fits s.toList) :
    ∃ first : Category, classify s = some first ∧ first.rank ≤ c.rank := by
  cases hVerdict : classify s with
  | none => exact absurd h (classify_eq_none_iff.mp hVerdict c)
  | some first =>
    refine ⟨first, rfl, Nat.le_of_not_lt fun hLater => ?_⟩
    exact (classify_eq_some_iff.mp hVerdict).2 c hLater h

/-- Texts around a suspicious one leave it suspicious, if they do not lengthen a word at its ends.
The verdict can only change to one that is looked for earlier. -/
theorem classify_surrounded {s pre post : String} {c : Category} (h : classify s = some c)
    (hPre : isWord? pre.toList.getLast? = false) (hPost : isWord? post.toList.head? = false) :
    ∃ first : Category, classify (pre ++ s ++ post) = some first ∧ first.rank ≤ c.rank := by
  refine exists_classify_of_fits ?_
  rw [String.toList_append, String.toList_append]
  exact (classify_eq_some_iff.mp h).1.surrounded hPre hPost

theorem handler_suspicious_in_condition :
    classify "onx=1" = some .scriptInjection ∧
      ∃ first : Category, classify ("or " ++ "onx=1" ++ "; é") = some first ∧
        first.rank ≤ Category.scriptInjection.rank :=
  ⟨by decide, classify_surrounded (by decide) (by decide) (by decide)⟩

/-- A letter after a keyword makes another word of it. -/
example : classify "exec" = some .sqlInjection ∧ classify "execs" = none := by decide

/-! ### The case of letters -/

/-- The class has no letter in one case only. -/
def CharClass.ignoresCase : CharClass → Bool
  | .exactly x | .except x => !x.isAlpha
  | .letter _ | .word | .blank | .any => true

theorem ne_of_isAlpha {c x : Char} (hc : c.isAlpha = true) (hx : x.isAlpha = false) : c ≠ x := by
  rintro rfl
  rw [hc] at hx
  cases hx

theorem CharClass.holds_congr {k : CharClass} (hk : k.ignoresCase = true) {c d : Char}
    (h : c.toLower = d.toLower) : k.holds c = k.holds d := by
  rcases eq_or_isAlpha_of_toLower_eq h with rfl | ⟨hc, hd⟩
  · rfl
  -- Both are letters.  What is left to tell them apart are single characters that are no letters.
  have hOther : ∀ x : Char, x.isAlpha = false → (c == x) = false ∧ (d == x) = false := fun x hx =>
    ⟨beq_false_of_ne (ne_of_isAlpha hc hx), beq_false_of_ne (ne_of_isAlpha hd hx)⟩
  cases k with
  | exactly x =>
    obtain ⟨hcx, hdx⟩ := hOther x (by simpa [ignoresCase] using hk)
    rw [holds, holds, hcx, hdx]
  | except x =>
    obtain ⟨hcx, hdx⟩ := hOther x (by simpa [ignoresCase] using hk)
    rw [holds, holds, bne, bne, hcx, hdx]
  | letter x =>
    obtain ⟨hcs, hds⟩ := hOther '\u017F' (by decide)
    obtain ⟨hck, hdk⟩ := hOther '\u212A' (by decide)
    rw [holds, holds, foldsTo, foldsTo, h, hcs, hds, hck, hdk]
  | word => exact (isWord_of_isAlpha hc).trans (isWord_of_isAlpha hd).symm
  | blank => exact (isBlank_of_isAlpha hc).trans (isBlank_of_isAlpha hd).symm
  | any => rfl

theorem signatures_ignore_case : ∀ c : Category, ∀ p ∈ c.signatures, ∀ k ∈ p.classes,
    k.ignoresCase = true := by
  rw [Category.forall_iff]
  decide

theorem isBlindTo_case {c : Category} {p : Pattern} (hp : p ∈ c.signatures) :
    p.IsBlindTo fun x y => x.toLower = y.toLower where
  edges _ _ h := CharClass.holds_congr (k := .word) rfl h
  classes k hk _ _ h := CharClass.holds_congr (signatures_ignore_case c p hp k hk) h

theorem Category.Fits.of_case {c : Category} {s t : List Char} (h : c.Fits s)
    (hCase : t.map Char.toLower = s.map Char.toLower) : c.Fits t := by
  obtain ⟨p, hp, hOccurs⟩ := h
  exact ⟨p, hp, hOccurs.related (isBlindTo_case hp) (forall₂_toLower_iff.mpr hCase)⟩

theorem classify_congr {s t : String} (h : ∀ c : Category, c.Fits s.toList ↔ c.Fits t.toList) :
    classify s = classify t := by
  ext c
  simp only [classify_eq_some_iff, h]

/-- Texts that differ at most in the case of their letters have the same verdict. -/
theorem classify_caseless {s t : String} (h : sameUpToCase s t = true) :
    classify s = classify t := by
  have hCase : s.toList.map Char.toLower = t.toList.map Char.toLower :=
    String.ofList_injective (sameUpToCase_iff.mp h)
  exact classify_congr fun c => ⟨fun hFits => hFits.of_case hCase.symm,
    fun hFits => hFits.of_case hCase⟩

theorem mixed_case_select :
    sameUpToCase "UnIoN all seLEcT" "union ALL SELECT" = true ∧
      classify "UnIoN all seLEcT" = classify "union ALL SELECT" :=
  ⟨by decide, classify_caseless (by decide)⟩

end Gatehouse.Screen
