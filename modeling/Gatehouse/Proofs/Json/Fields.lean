import Gatehouse.Proofs.Except
import Gatehouse.Proofs.Json.Integers
import Gatehouse.Proofs.Json.Skip
import Gatehouse.Proofs.Json.TextList

/-! The values of fields.  Each kind of field takes the texts of its own values and no others. -/

namespace Gatehouse.Json

open Text Token Skip

def nullText : List UInt8 := Utf8.encode "null"

/-- A value as a field of some kind may be given it. -/
inductive FieldText : FieldKind → FieldValue → List UInt8 → Prop
  | text {s : String} {text : List UInt8} (h : Quoted s text) : FieldText .text (.text s) text
  | textOrNull {s : String} {text : List UInt8} (h : Quoted s text) :
      FieldText .textOrNull (.text s) text
  | word32 (n : UInt32) : FieldText .word32 (.number n) (decimal n.toNat)
  | texts {items : List String} {text : List UInt8} (h : Enclosed .list Quoted items text) :
      FieldText .textsOrNull (.texts items) text
  | noText : FieldText .textOrNull .null nullText
  | noTexts : FieldText .textsOrNull .null nullText

/-! ### Lists of texts -/

theorem items_of_tail {s : String} {items : List String} {before text tail : List UInt8}
    (hBefore : Blank before) (hText : Quoted s text) (h : Tail .list Quoted items tail) :
    ∃ inner, Items (s :: items) inner ∧ before ++ (text ++ tail) = inner ++ [0x5D] := by
  induction h generalizing s before text with
  | @close after hAfter =>
    exact ⟨_, .last ⟨before, text, after, hBefore, hText, hAfter, rfl⟩, by simp [Frame.closing]⟩
  | @next a items after blank item tail hAfter hBlank hItem hTail ih =>
    obtain ⟨inner, hInner, hEq⟩ := ih hBlank hItem
    have hFirst : Item s (before ++ (text ++ after)) :=
      ⟨before, text, after, hBefore, hText, hAfter, rfl⟩
    refine ⟨_, .more hFirst hInner, ?_⟩
    rw [hEq]
    simp

theorem tail_of_items {items : List String} {inner : List UInt8} (h : Items items inner) :
    ∃ s others before text tail, items = s :: others ∧ Blank before ∧ Quoted s text ∧
      Tail .list Quoted others tail ∧ inner ++ [0x5D] = before ++ (text ++ tail) := by
  induction h with
  | last hItem =>
    obtain ⟨before, text, after, hBefore, hText, hAfter, rfl⟩ := hItem
    exact ⟨_, [], before, text, _, rfl, hBefore, hText, .close hAfter, by simp [Frame.closing]⟩
  | more hItem _ ih =>
    obtain ⟨before, text, after, hBefore, hText, hAfter, rfl⟩ := hItem
    obtain ⟨s, others, blank, item, tail, rfl, hBlank, hNext, hTail, hEq⟩ := ih
    refine ⟨_, s :: others, before, text, _, rfl, hBefore, hText,
      .next hAfter hBlank hNext hTail, ?_⟩
    rw [← hEq]
    simp

theorem Enclosed.texts {items : List String} {text : List UInt8}
    (h : Enclosed .list Quoted items text) (rest : List UInt8) :
    Reader.texts (tokens (text ++ rest)) = .ok (items, tokens rest) := by
  have hOpen (others : List UInt8) : tokens (0x5B :: others) = .openList :: tokens others :=
    tokens_mark (by decide) others
  have hClose (others : List UInt8) : tokens (0x5D :: others) = .closeList :: tokens others :=
    tokens_mark (by decide) others
  cases h with
  | empty hInner =>
    rw [Frame.opening, Frame.closing, List.cons_append, List.append_assoc, hOpen,
      tokens_blank_append hInner, List.singleton_append, hClose]
    rfl
  | items hBefore hItem hTail =>
    obtain ⟨inner, hInner, hEq⟩ := items_of_tail hBefore hItem hTail
    have hRead := hInner.read [] rest
    obtain ⟨raw, ts, hHead⟩ := hInner.tokens_head (0x5D :: rest)
    rw [hHead] at hRead
    rw [Frame.opening, List.cons_append, hOpen, hEq, List.append_assoc, List.singleton_append,
      hHead]
    exact hRead

theorem startsWith_texts {items : List String} {bytes : List UInt8} {ts : List Token}
    (h : Reader.texts (tokens bytes) = .ok (items, ts)) :
    StartsWith (Enclosed .list Quoted items) bytes ts := by
  unfold Reader.texts at h
  split at h
  · rename_i left hTokens
    cases h
    obtain ⟨before, rest, hBefore, rfl, hRest⟩ := exists_of_tokens_mark 0x5B (by decide) hTokens
    obtain ⟨inner, after, hInner, rfl, hAfter⟩ := exists_of_tokens_mark 0x5D (by decide) hRest
    exact ⟨before, _, after, hBefore, .empty hInner, by simp [Frame.opening, Frame.closing], hAfter⟩
  · rename_i left hNotEmpty hTokens
    obtain ⟨before, rest, hBefore, rfl, hRest⟩ := exists_of_tokens_mark 0x5B (by decide) hTokens
    obtain ⟨read, inner, after, hItems, rfl, rfl, hAfter⟩ := items_of_read hRest h
    obtain ⟨s, others, blank, text, tail, rfl, hBlank, hText, hTail, hEq⟩ := tail_of_items hItems
    refine ⟨before, _, after, hBefore, .items hBlank hText hTail, ?_, hAfter⟩
    rw [← hEq]
    simp [Frame.opening]
  · cases h

/-! ### Texts and numbers -/

theorem text_eq_ok_iff {ts rest : List Token} {s : String} :
    Reader.text ts = .ok (s, rest) ↔ ∃ raw, ts = .text raw :: rest ∧ unescape? raw = some s := by
  constructor
  · intro h
    unfold Reader.text at h
    split at h
    · rename_i raw left
      split at h
      · rename_i s' hText
        cases h
        exact ⟨raw, rfl, hText⟩
      · cases h
    · cases h
  · rintro ⟨raw, rfl, hText⟩
    rw [Reader.text, hText]

theorem word32_eq_ok_iff {ts rest : List Token} {n : UInt32} :
    Reader.word32 ts = .ok (n, rest) ↔
      ∃ numeral, ts = .number numeral :: rest ∧ numeral.word64? = some n.toNat := by
  constructor
  · intro h
    unfold Reader.word32 at h
    split at h
    · rename_i numeral left
      split at h
      · rename_i value hValue
        split at h
        · rename_i hBound
          cases h
          refine ⟨numeral, rfl, ?_⟩
          rw [hValue, UInt32.toNat_ofNat_of_lt' hBound]
        · cases h
      · cases h
    · cases h
  · rintro ⟨numeral, rfl, hValue⟩
    rw [Reader.word32, hValue]
    dsimp only
    rw [if_pos n.toNat_lt, UInt32.ofNat_toNat]

/-! ### Values of fields -/

theorem tokens_null (rest : List UInt8) : tokens (nullText ++ rest) = .null :: tokens rest :=
  tokens_word (by decide) rest

theorem Quoted.read {s : String} {text : List UInt8} (h : Quoted s text) (rest : List UInt8) :
    Reader.text (Token.tokens (text ++ rest)) = .ok (s, Token.tokens rest) := by
  obtain ⟨raw, hText, hTokens⟩ := h.tokens
  exact text_eq_ok_iff.mpr ⟨raw, hTokens rest, hText⟩

theorem Enclosed.exists_first {s : List String} {text : List UInt8}
    (h : Enclosed .list Quoted s text) (rest : List UInt8) :
    ∃ ts, tokens (text ++ rest) = .openList :: ts := by
  cases h <;> exact ⟨_, tokens_mark (by decide) _⟩

theorem FieldText.read {kind : FieldKind} {v : FieldValue} {text rest : List UInt8}
    (h : FieldText kind v text) (hRest : EndsNumber rest) :
    Reader.value kind (tokens (text ++ rest)) = .ok (v, tokens rest) := by
  cases h with
  | text h | textOrNull h =>
    obtain ⟨raw, -, hTokens⟩ := h.tokens
    have hRead := h.read rest
    rw [hTokens] at hRead ⊢
    simp only [Reader.value, hRead]
    rfl
  | word32 n =>
    have hText : NumberText (plain false n.toNat) (decimal n.toNat) := numberText_plain false _
    have hValue : (plain false n.toNat).word64? = some n.toNat :=
      (word64?_eq_some_iff hText).mpr ⟨rfl, n.toNat_lt.trans (by decide)⟩
    have hRead : Reader.word32 (tokens (decimal n.toNat ++ rest)) = .ok (n, tokens rest) :=
      word32_eq_ok_iff.mpr ⟨_, tokens_number hText hRest, hValue⟩
    rw [tokens_number hText hRest] at hRead ⊢
    simp only [Reader.value, hRead]
    rfl
  | texts h =>
    obtain ⟨ts, hFirst⟩ := h.exists_first rest
    have hRead := h.texts rest
    rw [hFirst] at hRead ⊢
    simp only [Reader.value, hRead]
    rfl
  | noText | noTexts =>
    rw [tokens_null]
    rfl

theorem startsWith_text {bytes : List UInt8} {s : String} {ts : List Token}
    (h : Reader.text (tokens bytes) = .ok (s, ts)) : StartsWith (Quoted s) bytes ts := by
  obtain ⟨raw, hTokens, hText⟩ := text_eq_ok_iff.mp h
  exact startsWith_quoted hTokens hText

theorem startsWith_decimal {bytes : List UInt8} {n : UInt32} {ts : List Token}
    (h : Reader.word32 (tokens bytes) = .ok (n, ts)) :
    StartsWith (· = decimal n.toNat) bytes ts := by
  obtain ⟨numeral, hTokens, hValue⟩ := word32_eq_ok_iff.mp h
  refine (startsWith_lexeme hTokens nofun).imp fun text hLexeme => ?_
  cases hLexeme with
  | mark hMark => simp [marks] at hMark
  | word hWord => simp [words] at hWord
  | number hText => exact ((word64?_eq_some_iff hText).mp hValue).1

theorem startsWith_null {bytes : List UInt8} {ts : List Token} (h : tokens bytes = .null :: ts) :
    StartsWith (· = nullText) bytes ts := by
  refine (startsWith_lexeme h nofun).imp fun text hLexeme => ?_
  cases hLexeme with
  | mark hMark => simp [marks] at hMark
  | word hWord => simpa [words, nullText] using hWord

/-- What is read as the value of a field is the text of the value, after blanks. -/
theorem startsWith_value {kind : FieldKind} {v : FieldValue} {bytes : List UInt8}
    {ts : List Token} (h : Reader.value kind (tokens bytes) = .ok (v, ts)) :
    StartsWith (FieldText kind v) bytes ts := by
  unfold Reader.value at h
  split at h
  · obtain ⟨⟨s, left⟩, hRead, hPair⟩ := Except.map_ok_iff.mp h
    cases hPair
    exact (startsWith_text hRead).imp fun _ => .text
  · obtain ⟨⟨n, left⟩, hRead, hPair⟩ := Except.map_ok_iff.mp h
    cases hPair
    exact (startsWith_decimal hRead).imp fun _ hText => hText ▸ .word32 n
  · rename_i left hTokens
    cases h
    exact (startsWith_null hTokens).imp fun _ hText => hText ▸ .noText
  · rename_i left hTokens
    cases h
    exact (startsWith_null hTokens).imp fun _ hText => hText ▸ .noTexts
  · obtain ⟨⟨s, left⟩, hRead, hPair⟩ := Except.map_ok_iff.mp h
    cases hPair
    exact (startsWith_text hRead).imp fun _ => .textOrNull
  · obtain ⟨⟨items, left⟩, hRead, hPair⟩ := Except.map_ok_iff.mp h
    cases hPair
    exact (startsWith_texts hRead).imp fun _ => .texts

/-! ### Values of fields are well formed -/

theorem Quoted.wellFormed {s : String} {text : List UInt8} (h : Quoted s text) :
    WellFormed .value text := by
  obtain ⟨raw, hRaw, rfl⟩ := h
  exact .scalar (.text raw) (.text hRaw.scanned)

section Map

variable {α : Type} {frame : Frame} {P : α → List UInt8 → Prop} {items : List α}

theorem Tail.texts {tail : List UInt8} (h : Tail frame P items tail) :
    ∃ texts, Tail frame Eq texts tail ∧ ∀ text ∈ texts, ∃ a, P a text := by
  induction h with
  | close hAfter => exact ⟨[], .close hAfter, nofun⟩
  | @next a _ _ _ text _ hAfter hBefore hItem _ ih =>
    obtain ⟨texts, hTail, hTexts⟩ := ih
    exact ⟨text :: texts, .next hAfter hBefore rfl hTail,
      List.forall_mem_cons.mpr ⟨⟨a, hItem⟩, hTexts⟩⟩

theorem Enclosed.wellFormed {text : List UInt8} (h : Enclosed frame P items text)
    (hItems : ∀ a text, P a text → WellFormed frame.form text) : WellFormed .value text := by
  cases h with
  | empty hInner => exact .enclosed (.empty hInner) nofun
  | items hBefore hItem hTail =>
    obtain ⟨texts, hTail, hTexts⟩ := hTail.texts
    refine .enclosed (.items hBefore rfl hTail) (List.forall_mem_cons.mpr ⟨hItems _ _ hItem, ?_⟩)
    intro text hText
    obtain ⟨a, ha⟩ := hTexts text hText
    exact hItems a text ha

end Map

theorem FieldText.wellFormed {kind : FieldKind} {v : FieldValue} {text : List UInt8}
    (h : FieldText kind v text) : WellFormed .value text := by
  cases h with
  | text h | textOrNull h => exact h.wellFormed
  | word32 n => exact .scalar (.number _) (.number (numberText_plain false _))
  | texts h => exact h.wellFormed fun _ _ => Quoted.wellFormed
  | noText | noTexts => exact .scalar .null (.word (by decide))

end Gatehouse.Json
