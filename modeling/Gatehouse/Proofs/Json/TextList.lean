import Gatehouse.Json.Reader
import Gatehouse.Proofs.Json.Tokens

/-! The texts that are lists of texts: items between quotes, with commas between them and brackets
around them, and blanks wherever they do no harm.  The reader takes exactly these. -/

namespace Gatehouse.Json

open Text Token

/-- A text between quotes, with blanks around it. -/
def Item (s : String) (bytes : List UInt8) : Prop :=
  ∃ before quoted after, Blank before ∧ Quoted s quoted ∧ Blank after ∧
    bytes = before ++ (quoted ++ after)

/-- Items with commas between them. -/
inductive Items : List String → List UInt8 → Prop
  | last {s : String} {bytes : List UInt8} (h : Item s bytes) : Items [s] bytes
  | more {s : String} {items : List String} {bytes others : List UInt8} (h : Item s bytes)
      (rest : Items items others) : Items (s :: items) (bytes ++ 0x2C :: others)

/-- The octets are the text of a list of texts. -/
def TextList (items : List String) (bytes : List UInt8) : Prop :=
  ∃ before inner after, Blank before ∧ Blank after ∧
    bytes = before ++ 0x5B :: (inner ++ 0x5D :: after) ∧
    (items = [] ∧ Blank inner ∨ Items items inner)

/-! ### Every list is read -/

theorem Item.tokens {s : String} {bytes : List UInt8} (h : Item s bytes) :
    ∃ raw, unescape? raw = some s ∧
      ∀ rest, Token.tokens (bytes ++ rest) = .text raw :: Token.tokens rest := by
  obtain ⟨before, quoted, after, hBefore, hQuoted, hAfter, rfl⟩ := h
  obtain ⟨raw, hText, hTokens⟩ := hQuoted.tokens
  refine ⟨raw, hText, fun rest => ?_⟩
  rw [List.append_assoc, List.append_assoc, tokens_blank_append hBefore, hTokens,
    tokens_blank_append hAfter]

theorem Items.read {items : List String} {bytes : List UInt8} (h : Items items bytes)
    (acc : List String) (rest : List UInt8) :
    Reader.items acc (tokens (bytes ++ 0x5D :: rest)) =
      .ok (acc.reverse ++ items, tokens rest) := by
  have hClose (rest : List UInt8) : tokens (0x5D :: rest) = .closeList :: tokens rest :=
    tokens_mark (by decide) rest
  have hComma (rest : List UInt8) : tokens (0x2C :: rest) = .comma :: tokens rest :=
    tokens_mark (by decide) rest
  induction h generalizing acc with
  | last hItem =>
    obtain ⟨raw, hText, hTokens⟩ := hItem.tokens
    rw [hTokens, hClose, Reader.items, hText]
    simp
  | more hItem _ ih =>
    obtain ⟨raw, hText, hTokens⟩ := hItem.tokens
    rw [List.append_assoc, List.cons_append, hTokens, hComma, Reader.items, hText]
    simp [ih]

theorem Items.tokens_head {items : List String} {bytes : List UInt8} (h : Items items bytes)
    (rest : List UInt8) : ∃ raw ts, tokens (bytes ++ rest) = .text raw :: ts := by
  cases h with
  | last hItem =>
    obtain ⟨raw, -, hTokens⟩ := hItem.tokens
    exact ⟨raw, _, hTokens rest⟩
  | more hItem =>
    obtain ⟨raw, -, hTokens⟩ := hItem.tokens
    rw [List.append_assoc]
    exact ⟨raw, _, hTokens _⟩

theorem TextList.read {items : List String} {bytes : List UInt8} (h : TextList items bytes) :
    Reader.texts (tokens bytes) = .ok (items, []) := by
  obtain ⟨before, inner, after, hBefore, hAfter, rfl, hInner⟩ := h
  have hEnd : tokens after = [] := tokens_of_blank hAfter
  rw [tokens_blank_append hBefore, tokens_mark (t := .openList) (by decide)]
  rcases hInner with ⟨rfl, hBlank⟩ | hItems
  · rw [tokens_blank_append hBlank, tokens_mark (t := .closeList) (by decide), hEnd]
    rfl
  · have hRead := hItems.read [] after
    obtain ⟨raw, ts, hHead⟩ := hItems.tokens_head (0x5D :: after)
    rw [hHead, hEnd] at hRead
    rw [hHead]
    exact hRead

/-! ### Only lists are read -/

theorem items_of_read {acc names : List String} {ts rest : List Token} {bytes : List UInt8}
    (hTokens : tokens bytes = ts) (h : Reader.items acc ts = .ok (names, rest)) :
    ∃ items inner more, Items items inner ∧ bytes = inner ++ 0x5D :: more ∧
      names = acc.reverse ++ items ∧ tokens more = rest := by
  fun_induction Reader.items acc ts generalizing bytes with
  | case1 acc raw rest hText => cases h
  | case2 acc raw s hText ts ih =>
    obtain ⟨before, quoted, left, hBefore, hQuoted, rfl, hLeft⟩ := startsWith_quoted hTokens hText
    obtain ⟨after, others, hAfter, rfl, hOthers⟩ :=
      exists_of_tokens_mark 0x2C (by decide) hLeft
    obtain ⟨items, inner, more, hItems, rfl, rfl, hMore⟩ := ih hOthers h
    have hItem : Item s (before ++ (quoted ++ after)) :=
      ⟨before, quoted, after, hBefore, hQuoted, hAfter, rfl⟩
    exact ⟨s :: items, _, more, .more hItem hItems, by simp, by simp, hMore⟩
  | case3 acc raw s hText ts =>
    cases h
    obtain ⟨before, quoted, left, hBefore, hQuoted, rfl, hLeft⟩ := startsWith_quoted hTokens hText
    obtain ⟨after, more, hAfter, rfl, hMore⟩ :=
      exists_of_tokens_mark 0x5D (by decide) hLeft
    have hItem : Item s (before ++ (quoted ++ after)) :=
      ⟨before, quoted, after, hBefore, hQuoted, hAfter, rfl⟩
    exact ⟨[s], _, more, .last hItem, by simp, by simp, hMore⟩
  | case4 acc raw rest s hText hNotComma hNotClose => cases h
  | case5 acc ts hNotText => cases h

theorem textList_of_read {items : List String} {bytes : List UInt8}
    (h : Reader.texts (tokens bytes) = .ok (items, [])) : TextList items bytes := by
  unfold Reader.texts at h
  split at h
  · rename_i ts hTokens
    cases h
    obtain ⟨before, rest, hBefore, rfl, hRest⟩ :=
      exists_of_tokens_mark 0x5B (by decide) hTokens
    obtain ⟨inner, after, hInner, rfl, hAfter⟩ :=
      exists_of_tokens_mark 0x5D (by decide) hRest
    exact ⟨before, inner, after, hBefore, blank_of_tokens hAfter, rfl, .inl ⟨rfl, hInner⟩⟩
  · rename_i ts hNotEmpty hTokens
    obtain ⟨before, rest, hBefore, rfl, hRest⟩ :=
      exists_of_tokens_mark 0x5B (by decide) hTokens
    obtain ⟨read, inner, after, hItems, rfl, rfl, hAfter⟩ := items_of_read hRest h
    exact ⟨before, inner, after, hBefore, blank_of_tokens hAfter, rfl, .inr hItems⟩
  · cases h

/-- What is read as a list of texts is the text of that list, and nothing else is. -/
theorem texts?_eq_some_iff {text : String} {items : List String} :
    texts? text = some items ↔ TextList items (Utf8.encode text) := by
  constructor
  · intro h
    unfold texts? at h
    split at h
    · rename_i read hRead
      cases h
      exact textList_of_read hRead
    · cases h
  · intro h
    rw [texts?, h.read]

end Gatehouse.Json
