import Gatehouse.Proofs.Json.Numbers
import Gatehouse.Proofs.Json.Spelling

/-! The tokens of a text, one after another.  A token is a mark, a word, a number or a text between
quotes.  It uses up at least one octet, so the fuel of `scan` lasts, and `tokens` is a recursion
over what is left of the text. -/

namespace Gatehouse.Json.Token

open Text

/-- The tokens of a single octet. -/
def marks : List (UInt8 × Token) :=
  [(0x7B, .openRecord), (0x7D, .closeRecord), (0x5B, .openList), (0x5D, .closeList), (0x2C, .comma),
    (0x3A, .colon)]

/-- The words that are values. -/
def words : List (Token × List UInt8) :=
  [(.null, Utf8.encode "null"), (.bool true, Utf8.encode "true"),
    (.bool false, Utf8.encode "false")]

/-- A token as it is written. -/
inductive Lexeme : Token → List UInt8 → Prop
  | mark {t : Token} {b : UInt8} (h : (b, t) ∈ marks) : Lexeme t [b]
  | word {t : Token} {text : List UInt8} (h : (t, text) ∈ words) : Lexeme t text
  | number {n : Numeral} {text : List UInt8} (h : NumberText n text) : Lexeme (.number n) text
  | text {raw : List UInt8} (h : Scanned raw) : Lexeme (.text raw) (0x22 :: (raw ++ [0x22]))

/-! ### Tokens are read as they are written -/

theorem word?_eq_some_iff {word bytes rest : List UInt8} :
    word? word bytes = some rest ↔ bytes = word ++ rest := by
  induction word generalizing bytes with
  | nil => simp [word?]
  | cons w word ih =>
    cases bytes with
    | nil => simp [word?]
    | cons b bytes =>
      rw [word?, List.cons_append, List.cons.injEq]
      split
      · rename_i hFirst
        rw [ih, beq_iff_eq.mp hFirst]
        simp
      · rename_i hFirst
        have hNe : b ≠ w := fun h => hFirst (beq_iff_eq.mpr h.symm)
        simp [hNe]

theorem scanToken_lexeme {b : UInt8} {bytes rest : List UInt8} {t : Token}
    (h : scanToken b bytes = some (t, rest)) :
    ∃ text, Lexeme t text ∧ b :: bytes = text ++ rest := by
  have hWord {word : List UInt8} {t' : Token} (hIn : (t', b :: word) ∈ words)
      (h : (word? word bytes).map (t', ·) = some (t, rest)) :
      ∃ text, Lexeme t text ∧ b :: bytes = text ++ rest := by
    obtain ⟨left, hLeft, hPair⟩ := Option.map_eq_some_iff.mp h
    cases hPair
    exact ⟨_, .word hIn, by rw [word?_eq_some_iff.mp hLeft, List.cons_append]⟩
  unfold scanToken at h
  iterate 6
    split at h
    · rename_i hMark
      cases h
      rw [beq_iff_eq.mp hMark]
      exact ⟨_, .mark (by decide), rfl⟩
  split at h
  · rename_i hQuote
    obtain ⟨⟨raw, rest⟩, hScan, hPair⟩ := Option.map_eq_some_iff.mp h
    cases hPair
    obtain ⟨raw, hRaw, rfl, rfl⟩ := scanned_of_scanText hScan
    rw [beq_iff_eq.mp hQuote]
    exact ⟨_, .text hRaw, by simp⟩
  iterate 3
    split at h
    · rename_i hLetter
      rw [beq_iff_eq.mp hLetter] at hWord ⊢
      exact hWord (by decide) h
  obtain ⟨⟨n, left⟩, hNumber, hPair⟩ := Option.map_eq_some_iff.mp h
  cases hPair
  obtain ⟨text, hText, hBytes⟩ := numberText_of_scanNumber hNumber
  exact ⟨text, .number hText, hBytes⟩

theorem Lexeme.ne_nil {t : Token} {text : List UInt8} (h : Lexeme t text) : text ≠ [] := by
  cases h with
  | mark | text => exact List.cons_ne_nil _ _
  | word h =>
    simp only [words, List.mem_cons, Prod.mk.injEq, List.not_mem_nil, or_false] at h
    rcases h with ⟨-, rfl⟩ | ⟨-, rfl⟩ | ⟨-, rfl⟩ <;> decide
  | number h =>
    obtain ⟨b, rest, rfl, -⟩ := h.exists_first
    exact List.cons_ne_nil b rest

theorem scanToken_length {b : UInt8} {bytes rest : List UInt8} {t : Token}
    (h : scanToken b bytes = some (t, rest)) : rest.length ≤ bytes.length := by
  obtain ⟨text, hText, hBytes⟩ := scanToken_lexeme h
  have hLength := congrArg List.length hBytes
  have hPos := List.length_pos_iff.mpr hText.ne_nil
  rw [List.length_cons, List.length_append] at hLength
  omega

theorem scan_acc (acc : List Token) (fuel : Nat) (bytes : List UInt8) :
    scan acc fuel bytes = acc.reverse ++ scan [] fuel bytes := by
  induction fuel generalizing acc bytes with
  | zero => cases bytes <;> simp [scan]
  | succ fuel ih =>
    cases bytes with
    | nil => simp [scan]
    | cons b bytes =>
      simp only [scan]
      split
      · exact ih acc bytes
      · split
        · rename_i t rest _
          rw [ih (t :: acc), ih [t]]
          simp
        · simp

/-- Fuel that is enough is as good as any other. -/
theorem scan_fuel {fuel more : Nat} {bytes : List UInt8} (h : bytes.length ≤ fuel)
    (hMore : bytes.length ≤ more) : scan [] fuel bytes = scan [] more bytes := by
  -- Every token takes one from both fuels and at least one from the octets.
  induction fuel generalizing more bytes with
  | zero =>
    obtain rfl := List.eq_nil_of_length_eq_zero (Nat.le_zero.mp h)
    simp [scan]
  | succ fuel ih =>
    cases bytes with
    | nil => simp [scan]
    | cons b bytes =>
      cases more with
      | zero => cases hMore
      | succ more =>
        have hLess : bytes.length ≤ fuel := Nat.le_of_succ_le_succ h
        have hLessMore : bytes.length ≤ more := Nat.le_of_succ_le_succ hMore
        simp only [scan]
        split
        · exact ih hLess hLessMore
        · split
          · rename_i t rest hToken
            have hRest := scanToken_length hToken
            rw [scan_acc [t] fuel, scan_acc [t] more,
              ih (Nat.le_trans hRest hLess) (Nat.le_trans hRest hLessMore)]
          · rfl

@[simp] theorem tokens_nil : tokens [] = [] := rfl

theorem tokens_cons_of_isSpace {b : UInt8} (h : isSpace b = true) (bytes : List UInt8) :
    tokens (b :: bytes) = tokens bytes := by
  simp only [tokens, List.length_cons, scan, h, if_true]

theorem tokens_cons_of_scanToken {b : UInt8} {bytes rest : List UInt8} {t : Token}
    (hSpace : isSpace b = false) (h : scanToken b bytes = some (t, rest)) :
    tokens (b :: bytes) = t :: tokens rest := by
  have hRest := scanToken_length h
  simp only [tokens, List.length_cons, scan, hSpace, h, Bool.false_eq_true, if_false]
  rw [scan_acc, scan_fuel hRest (Nat.le_refl _)]
  rfl

theorem tokens_cons_of_none {b : UInt8} {bytes : List UInt8} (hSpace : isSpace b = false)
    (h : scanToken b bytes = none) : tokens (b :: bytes) = [.malformed] := by
  simp only [tokens, List.length_cons, scan, hSpace, h, Bool.false_eq_true, if_false]
  rfl

/-! ### Blanks -/

/-- White space, or nothing. -/
def Blank (bytes : List UInt8) : Prop := ∀ b ∈ bytes, isSpace b = true

theorem blank_nil : Blank [] := fun _ hb => nomatch hb

theorem tokens_blank_append {blanks : List UInt8} (h : Blank blanks) (bytes : List UInt8) :
    tokens (blanks ++ bytes) = tokens bytes := by
  induction blanks with
  | nil => rfl
  | cons b blanks ih =>
    rw [List.cons_append, tokens_cons_of_isSpace (h b List.mem_cons_self)]
    exact ih fun b hb => h b (List.mem_cons_of_mem _ hb)

theorem tokens_of_blank {blanks : List UInt8} (h : Blank blanks) : tokens blanks = [] := by
  have hNil := tokens_blank_append h []
  rwa [List.append_nil] at hNil

theorem blank_of_tokens {bytes : List UInt8} (h : tokens bytes = []) : Blank bytes := by
  induction bytes with
  | nil => exact blank_nil
  | cons b bytes ih =>
    cases hSpace : isSpace b with
    | true =>
      rw [tokens_cons_of_isSpace hSpace] at h
      exact List.forall_mem_cons.mpr ⟨hSpace, ih h⟩
    | false =>
      cases hToken : scanToken b bytes with
      | none =>
        rw [tokens_cons_of_none hSpace hToken] at h
        cases h
      | some found =>
        rw [tokens_cons_of_scanToken hSpace hToken] at h
        cases h

/-- After blanks the octets start with a text of some form, and the rest has these tokens. -/
def StartsWith (P : List UInt8 → Prop) (bytes : List UInt8) (ts : List Token) : Prop :=
  ∃ before text rest, Blank before ∧ P text ∧ bytes = before ++ (text ++ rest) ∧ tokens rest = ts

theorem StartsWith.imp {P Q : List UInt8 → Prop} {bytes : List UInt8} {ts : List Token}
    (h : StartsWith P bytes ts) (hImp : ∀ text, P text → Q text) : StartsWith Q bytes ts := by
  obtain ⟨before, text, rest, hBefore, hText, hBytes, hRest⟩ := h
  exact ⟨before, text, rest, hBefore, hImp text hText, hBytes, hRest⟩

theorem startsWith_lexeme {bytes : List UInt8} {t : Token} {ts : List Token}
    (h : tokens bytes = t :: ts) (hRead : t ≠ .malformed) : StartsWith (Lexeme t) bytes ts := by
  induction bytes with
  | nil => cases h
  | cons b bytes ih =>
    cases hSpace : isSpace b with
    | true =>
      rw [tokens_cons_of_isSpace hSpace] at h
      obtain ⟨blanks, text, rest, hBlank, hText, rfl, hRest⟩ := ih h
      exact ⟨b :: blanks, text, rest, List.forall_mem_cons.mpr ⟨hSpace, hBlank⟩, hText, rfl, hRest⟩
    | false =>
      cases hToken : scanToken b bytes with
      | none =>
        rw [tokens_cons_of_none hSpace hToken] at h
        cases h
        exact absurd rfl hRead
      | some found =>
        obtain ⟨t', rest⟩ := found
        rw [tokens_cons_of_scanToken hSpace hToken] at h
        cases h
        obtain ⟨text, hText, hBytes⟩ := scanToken_lexeme hToken
        exact ⟨[], text, rest, blank_nil, hText, hBytes, rfl⟩

/-! ### Marks -/

theorem eq_of_mem_marks {b b' : UInt8} {t : Token} (h : (b, t) ∈ marks) (h' : (b', t) ∈ marks) :
    b = b' := by
  have hTable : ∀ p ∈ marks, ∀ q ∈ marks, p.2 = q.2 → p.1 = q.1 := by decide
  exact hTable _ h _ h' rfl

theorem eq_singleton_of_mark {b : UInt8} {t : Token} {text : List UInt8} (hMark : (b, t) ∈ marks)
    (hText : Lexeme t text) : text = [b] := by
  cases hText with
  | mark h => rw [eq_of_mem_marks h hMark]
  | word h =>
    simp only [words, List.mem_cons, Prod.mk.injEq, List.not_mem_nil, or_false] at h
    rcases h with ⟨rfl, -⟩ | ⟨rfl, -⟩ | ⟨rfl, -⟩ <;> simp [marks] at hMark
  | number | text => simp [marks] at hMark

theorem exists_of_tokens_mark (mark : UInt8) {bytes : List UInt8} {t : Token} {ts : List Token}
    (hMark : (mark, t) ∈ marks) (h : tokens bytes = t :: ts) :
    ∃ blanks rest, Blank blanks ∧ bytes = blanks ++ mark :: rest ∧ tokens rest = ts := by
  have hRead : t ≠ .malformed := by
    rintro rfl
    simp [marks] at hMark
  obtain ⟨blanks, text, rest, hBlank, hText, rfl, rfl⟩ := startsWith_lexeme h hRead
  rw [eq_singleton_of_mark hMark hText]
  exact ⟨blanks, rest, hBlank, rfl, rfl⟩

theorem tokens_mark {mark : UInt8} {t : Token} (hMark : (mark, t) ∈ marks) (rest : List UInt8) :
    tokens (mark :: rest) = t :: tokens rest := by
  simp only [marks, List.mem_cons, Prod.mk.injEq, List.not_mem_nil, or_false] at hMark
  rcases hMark with ⟨rfl, rfl⟩ | ⟨rfl, rfl⟩ | ⟨rfl, rfl⟩ | ⟨rfl, rfl⟩ | ⟨rfl, rfl⟩ | ⟨rfl, rfl⟩ <;>
    exact tokens_cons_of_scanToken rfl rfl

/-! ### Words, numbers and texts -/

theorem scanToken_of_startsNumber {b : UInt8} (h : startsNumber b = true) (bytes : List UInt8) :
    isSpace b = false ∧
      scanToken b bytes = (scanNumber (b :: bytes)).map fun (n, rest) => (.number n, rest) := by
  have hNe {c : UInt8} (hc : startsNumber c = false) : (b == c) = false := by
    rw [beq_eq_false_iff_ne]
    rintro rfl
    rw [h] at hc
    cases hc
  constructor
  · simp [isSpace, hNe (c := 0x20) rfl, hNe (c := 0x0A) rfl, hNe (c := 0x09) rfl,
      hNe (c := 0x0D) rfl]
  · simp [scanToken, hNe (c := 0x7B) rfl, hNe (c := 0x7D) rfl, hNe (c := 0x5B) rfl,
      hNe (c := 0x5D) rfl, hNe (c := 0x2C) rfl, hNe (c := 0x3A) rfl, hNe (c := 0x22) rfl,
      hNe (c := 0x6E) rfl, hNe (c := 0x74) rfl, hNe (c := 0x66) rfl]

theorem tokens_number {n : Numeral} {text rest : List UInt8} (h : NumberText n text)
    (hRest : EndsNumber rest) : tokens (text ++ rest) = .number n :: tokens rest := by
  obtain ⟨b, digits, rfl, hFirst⟩ := h.exists_first
  obtain ⟨hSpace, hToken⟩ := scanToken_of_startsNumber hFirst (digits ++ rest)
  have hScan : scanNumber (b :: (digits ++ rest)) = some (n, rest) := scanNumber_append h hRest
  rw [List.cons_append]
  refine tokens_cons_of_scanToken hSpace ?_
  rw [hToken, hScan]
  rfl

theorem tokens_scanned {raw : List UInt8} (h : Scanned raw) (rest : List UInt8) :
    tokens (0x22 :: (raw ++ 0x22 :: rest)) = .text raw :: tokens rest :=
  tokens_cons_of_scanToken rfl (by simp [scanToken, h.scanText])

theorem tokens_word {t : Token} {text : List UInt8} (h : (t, text) ∈ words) (rest : List UInt8) :
    tokens (text ++ rest) = t :: tokens rest := by
  simp only [words, List.mem_cons, Prod.mk.injEq, List.not_mem_nil, or_false] at h
  rcases h with ⟨rfl, rfl⟩ | ⟨rfl, rfl⟩ | ⟨rfl, rfl⟩ <;>
    exact tokens_cons_of_scanToken rfl rfl

end Gatehouse.Json.Token

namespace Gatehouse.Json

open Text Token

theorem Quoted.tokens {s : String} {quoted : List UInt8} (h : Quoted s quoted) :
    ∃ raw, unescape? raw = some s ∧
      ∀ rest, Token.tokens (quoted ++ rest) = .text raw :: Token.tokens rest := by
  obtain ⟨raw, hRaw, rfl⟩ := h
  refine ⟨raw, unescape?_of_spelling hRaw, fun rest => ?_⟩
  rw [List.cons_append, List.append_assoc, List.singleton_append]
  exact tokens_scanned hRaw.scanned rest

theorem startsWith_quoted {bytes raw : List UInt8} {s : String} {ts : List Token}
    (h : Token.tokens bytes = .text raw :: ts) (hText : unescape? raw = some s) :
    StartsWith (Quoted s) bytes ts := by
  refine (startsWith_lexeme h nofun).imp fun text hLexeme => ?_
  cases hLexeme with
  | mark h => simp [marks] at h
  | word h => simp [words] at h
  | text hRaw => exact ⟨raw, hRaw.spelling_of_unescape? hText, rfl⟩

end Gatehouse.Json
