import Gatehouse.Json.Parser
import Gatehouse.Proofs.Json.Fields
import Gatehouse.Proofs.Json.Quote

/-! Values as they are written.  The text of a value is a sequence of tokens, and these are read as
the value, whatever stands in its texts and however deep it is nested. -/

namespace Gatehouse.Json

open Text Token Skip

/-! ### What is written stands after what was written before -/

mutual

theorem write_eq (out : String) : (j : Json) → write out j = out ++ j.compact
  | .null => by simp [write, compact]
  | .bool true => by simp [write, compact]
  | .bool false => by simp [write, compact]
  | .int n => by simp [write, compact]
  | .text s => by simp [write, compact]
  | .list [] => by simp [write, compact]
  | .list (item :: items) => by
    simp only [write, compact]
    rw [writeItems_eq, write_eq, writeItems_eq (write _ item), write_eq ("" ++ "[") item]
    simp only [String.append_assoc, String.empty_append]
  | .record [] => by simp [write, compact]
  | .record ((key, value) :: members) => by
    simp only [write, compact]
    rw [writeMembers_eq, write_eq, writeMembers_eq (write _ value), write_eq ("" ++ _ ++ _ ++ _)]
    simp only [String.append_assoc, String.empty_append]

theorem writeItems_eq (out : String) :
    (items : List Json) → writeItems out items = out ++ writeItems "" items
  | [] => by simp [writeItems]
  | item :: items => by
    simp only [writeItems]
    rw [writeItems_eq, write_eq, writeItems_eq (write _ item), write_eq ("" ++ ",")]
    simp only [String.append_assoc, String.empty_append]

theorem writeMembers_eq (out : String) :
    (members : List (String × Json)) → writeMembers out members = out ++ writeMembers "" members
  | [] => by simp [writeMembers]
  | (key, value) :: members => by
    simp only [writeMembers]
    rw [writeMembers_eq, write_eq, writeMembers_eq (write _ value), write_eq ("" ++ _ ++ _ ++ _)]
    simp only [String.append_assoc, String.empty_append]

end

theorem compact_list_cons (item : Json) (items : List Json) :
    (list (item :: items)).compact = "[" ++ (item.compact ++ (writeItems "" items ++ "]")) := by
  rw [compact, write, writeItems_eq, write_eq]
  simp only [String.append_assoc, String.empty_append]

theorem compact_record_cons (key : String) (value : Json) (members : List (String × Json)) :
    (record ((key, value) :: members)).compact =
      "\x7b" ++ (quote key ++ (":" ++ (value.compact ++ (writeMembers "" members ++ "\x7d")))) := by
  rw [compact, write, writeMembers_eq, write_eq]
  simp only [String.append_assoc, String.empty_append]

theorem writeItems_cons (item : Json) (items : List Json) :
    writeItems "" (item :: items) = "," ++ (item.compact ++ writeItems "" items) := by
  rw [writeItems, writeItems_eq, write_eq]
  simp only [String.append_assoc, String.empty_append]

theorem writeMembers_cons (key : String) (value : Json) (members : List (String × Json)) :
    writeMembers "" ((key, value) :: members) =
      "," ++ (quote key ++ (":" ++ (value.compact ++ writeMembers "" members))) := by
  rw [writeMembers, writeMembers_eq, write_eq]
  simp only [String.append_assoc, String.empty_append]

/-! ### The tokens of a value -/

mutual

def toTokens : Json → List Token
  | .null => [.null]
  | .bool b => [.bool b]
  | .int n => [.number (numeral n)]
  | .text s => [.text (escaped s)]
  | .list [] => [.openList, .closeList]
  | .list (item :: items) => .openList :: (toTokens item ++ itemTokens items)
  | .record [] => [.openRecord, .closeRecord]
  | .record ((key, value) :: members) =>
    .openRecord :: .text (escaped key) :: .colon :: (toTokens value ++ memberTokens members)

/-- The tokens after the first item of a list. -/
def itemTokens : List Json → List Token
  | [] => [.closeList]
  | item :: items => .comma :: (toTokens item ++ itemTokens items)

/-- The tokens after the first member of a record. -/
def memberTokens : List (String × Json) → List Token
  | [] => [.closeRecord]
  | (key, value) :: members =>
    .comma :: .text (escaped key) :: .colon :: (toTokens value ++ memberTokens members)

end

theorem tokens_quote (s : String) (rest : List UInt8) :
    tokens (Utf8.encode (quote s) ++ rest) = .text (escaped s) :: tokens rest := by
  rw [encode_quote, List.cons_append, List.append_assoc]
  exact tokens_scanned (spelling_escaped s.toList).scanned rest

theorem unescape?_escaped (s : String) : unescape? (escaped s) = some s :=
  unescape?_of_spelling (spelling_escaped s.toList)

theorem endsNumber_items (items : List Json) (rest : List UInt8) :
    EndsNumber (Utf8.encode (writeItems "" items ++ "]") ++ rest) := by
  cases items with
  | nil => exact endsNumber_blank_mark blank_nil Frame.list.closing_mem rest
  | cons item items =>
    rw [writeItems_cons, String.append_assoc, Utf8.encode_append, List.append_assoc]
    exact endsNumber_blank_mark (t := .comma) blank_nil (by decide) _

theorem endsNumber_members (members : List (String × Json)) (rest : List UInt8) :
    EndsNumber (Utf8.encode (writeMembers "" members ++ "\x7d") ++ rest) := by
  cases members with
  | nil => exact endsNumber_blank_mark blank_nil Frame.record.closing_mem rest
  | cons member members =>
    rw [writeMembers_cons, String.append_assoc, Utf8.encode_append, List.append_assoc]
    exact endsNumber_blank_mark (t := .comma) blank_nil (by decide) _

theorem tokens_sign {sign : String} {b : UInt8} {t : Token} (hSign : Utf8.encode sign = [b])
    (hMark : (b, t) ∈ marks) (text : String) (rest : List UInt8) :
    tokens (Utf8.encode (sign ++ text) ++ rest) = t :: tokens (Utf8.encode text ++ rest) := by
  rw [Utf8.encode_append, hSign, List.append_assoc, List.singleton_append, tokens_mark hMark]

theorem tokens_comma (text : String) (rest : List UInt8) :
    tokens (Utf8.encode ("," ++ text) ++ rest) = .comma :: tokens (Utf8.encode text ++ rest) :=
  tokens_sign (b := 0x2C) (by decide) (by decide) text rest

theorem tokens_colon (text : String) (rest : List UInt8) :
    tokens (Utf8.encode (":" ++ text) ++ rest) = .colon :: tokens (Utf8.encode text ++ rest) :=
  tokens_sign (b := 0x3A) (by decide) (by decide) text rest

theorem tokens_closeList (rest : List UInt8) :
    tokens (Utf8.encode "]" ++ rest) = .closeList :: tokens rest :=
  tokens_mark Frame.list.closing_mem rest

theorem tokens_closeRecord (rest : List UInt8) :
    tokens (Utf8.encode "\x7d" ++ rest) = .closeRecord :: tokens rest :=
  tokens_mark Frame.record.closing_mem rest

mutual

/-- The text of a value is read as its tokens. -/
theorem tokens_compact (rest : List UInt8) (hRest : EndsNumber rest) :
    (j : Json) → tokens (Utf8.encode j.compact ++ rest) = j.toTokens ++ tokens rest
  | .null => tokens_word (by decide) rest
  | .bool true => tokens_word (by decide) rest
  | .bool false => tokens_word (by decide) rest
  | .int n => by
    rw [compact, write, String.empty_append, toTokens]
    exact tokens_number (numberText_numeral n) hRest
  | .text s => by
    rw [compact, write, String.empty_append, toTokens]
    exact tokens_quote s rest
  | .list [] => by
    have hText : (Json.list []).compact = "[" ++ "]" := by decide
    rw [hText, tokens_sign (by decide) Frame.list.opening_mem, tokens_closeList, toTokens]
    rfl
  | .list (item :: items) => by
    rw [compact_list_cons, tokens_sign (by decide) Frame.list.opening_mem, Utf8.encode_append,
      List.append_assoc, tokens_compact _ (endsNumber_items items rest) item,
      tokens_items rest items, toTokens]
    simp [Frame.openToken]
  | .record [] => by
    have hText : (Json.record []).compact = "\x7b" ++ "\x7d" := by decide
    rw [hText, tokens_sign (by decide) Frame.record.opening_mem, tokens_closeRecord, toTokens]
    rfl
  | .record ((key, value) :: members) => by
    rw [compact_record_cons, tokens_sign (by decide) Frame.record.opening_mem, Utf8.encode_append,
      List.append_assoc, tokens_quote, tokens_colon, Utf8.encode_append, List.append_assoc,
      tokens_compact _ (endsNumber_members members rest) value, tokens_members rest members,
      toTokens]
    simp [Frame.openToken]

theorem tokens_items (rest : List UInt8) :
    (items : List Json) → tokens (Utf8.encode (writeItems "" items ++ "]") ++ rest) =
      itemTokens items ++ tokens rest
  | [] => by
    rw [writeItems, itemTokens, String.empty_append, tokens_closeList]
    rfl
  | item :: items => by
    rw [writeItems_cons, String.append_assoc, tokens_comma,
      String.append_assoc, Utf8.encode_append, List.append_assoc,
      tokens_compact _ (endsNumber_items items rest) item, tokens_items rest items, itemTokens]
    simp

theorem tokens_members (rest : List UInt8) :
    (members : List (String × Json)) →
      tokens (Utf8.encode (writeMembers "" members ++ "\x7d") ++ rest) =
        memberTokens members ++ tokens rest
  | [] => by
    rw [writeMembers, memberTokens, String.empty_append, tokens_closeRecord]
    rfl
  | (key, value) :: members => by
    rw [writeMembers_cons, String.append_assoc, tokens_comma,
      String.append_assoc, Utf8.encode_append, List.append_assoc, tokens_quote,
      String.append_assoc, tokens_colon,
      String.append_assoc, Utf8.encode_append, List.append_assoc,
      tokens_compact _ (endsNumber_members members rest) value, tokens_members rest members,
      memberTokens]
    simp

end

/-! ### Tokens are read as their value -/

theorem exists_first_token (j : Json) : ∃ t ts, j.toTokens = t :: ts ∧ t ≠ .closeList := by
  cases j with
  | null | bool | int | text => simp [toTokens]
  | list items => cases items <;> simp [toTokens]
  | record members => cases members <;> simp [toTokens]

mutual

theorem value_toTokens (rest : List Token) :
    (j : Json) → (fuel : Nat) → 2 * j.toTokens.length ≤ fuel →
      Parser.value fuel (j.toTokens ++ rest) = some (j, rest)
  | .null, fuel + 1, _ => by rw [toTokens]; rfl
  | .bool _, fuel + 1, _ => by rw [toTokens]; rfl
  | .int n, fuel + 1, _ => by
    simp [toTokens, Parser.value, integer?_numeral]
  | .text s, fuel + 1, _ => by
    simp [toTokens, Parser.value, unescape?_escaped]
  | .list [], fuel + 1, _ => by rw [toTokens]; rfl
  | .list (item :: items), fuel + 1, hFuel => by
    rw [toTokens] at hFuel ⊢
    obtain ⟨t, ts, hFirst, hNotClose⟩ := item.exists_first_token
    have hItems := items_toTokens rest [] item items fuel (by simp at hFuel ⊢; omega)
    rw [List.cons_append, List.append_assoc]
    rw [hFirst] at hItems ⊢
    simpa [Parser.value, hNotClose] using hItems
  | .record [], fuel + 1, _ => by rw [toTokens]; rfl
  | .record ((key, value) :: members), fuel + 1, hFuel => by
    rw [toTokens] at hFuel ⊢
    have hMembers := members_toTokens rest [] key value members fuel (by simp at hFuel ⊢; omega)
    simpa [Parser.value] using hMembers
  | j, 0, hFuel => by
    obtain ⟨t, ts, hFirst, -⟩ := j.exists_first_token
    rw [hFirst] at hFuel
    cases hFuel

theorem items_toTokens (rest : List Token) (acc : List Json) (item : Json) :
    (items : List Json) → (fuel : Nat) →
      2 * (item.toTokens.length + (itemTokens items).length) + 1 ≤ fuel →
      Parser.items fuel acc (item.toTokens ++ (itemTokens items ++ rest)) =
        some (.list (acc.reverse ++ item :: items), rest)
  | [], fuel + 1, hFuel => by
    have hItem := value_toTokens (.closeList :: rest) item fuel (by omega)
    simp [itemTokens, Parser.items, hItem]
  | next :: items, fuel + 1, hFuel => by
    rw [itemTokens] at hFuel ⊢
    simp only [List.length_cons, List.length_append] at hFuel
    have hItem := value_toTokens (.comma :: (next.toTokens ++ (itemTokens items ++ rest))) item fuel
      (by omega)
    have hItems := items_toTokens rest (item :: acc) next items fuel (by omega)
    simp [Parser.items, hItem, hItems]

theorem members_toTokens (rest : List Token) (acc : List (String × Json)) (key : String)
    (value : Json) :
    (members : List (String × Json)) → (fuel : Nat) →
      2 * (value.toTokens.length + (memberTokens members).length) + 1 ≤ fuel →
      Parser.members fuel acc
          (.text (escaped key) :: .colon :: (value.toTokens ++ (memberTokens members ++ rest))) =
        some (.record (acc.reverse ++ (key, value) :: members), rest)
  | [], fuel + 1, hFuel => by
    have hValue := value_toTokens (.closeRecord :: rest) value fuel (by omega)
    simp [memberTokens, Parser.members, hValue, unescape?_escaped]
  | (next, other) :: members, fuel + 1, hFuel => by
    rw [memberTokens] at hFuel ⊢
    simp only [List.length_cons, List.length_append] at hFuel
    have hValue := value_toTokens (.comma :: .text (escaped next) :: .colon ::
      (other.toTokens ++ (memberTokens members ++ rest))) value fuel (by omega)
    have hMembers := members_toTokens rest ((key, value) :: acc) next other members fuel (by omega)
    simp [Parser.members, hValue, hMembers, unescape?_escaped]

end

/-- The text of a value reads back as the value. -/
theorem parse?_compact (j : Json) : parse? (Utf8.encode j.compact) = some j := by
  have hTokens : tokens (Utf8.encode j.compact) = j.toTokens := by
    simpa using tokens_compact [] nofun j
  have hValue : Parser.value (2 * j.toTokens.length + 1) j.toTokens = some (j, []) := by
    simpa using value_toTokens [] j (2 * j.toTokens.length + 1) (Nat.le_succ _)
  rw [parse?, hTokens, hValue]

theorem compact_inj {j j' : Json} : j.compact = j'.compact ↔ j = j' := by
  refine ⟨fun h => ?_, congrArg compact⟩
  have hBoth : some j = some j' := by rw [← parse?_compact j, h, parse?_compact]
  exact Option.some.inj hBoth

end Gatehouse.Json
