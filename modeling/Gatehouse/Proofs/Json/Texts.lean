import Gatehouse.Proofs.Json.Quote
import Gatehouse.Proofs.Json.TextList

/-! Lists of texts as they are written.  The text of a list reads back as the list, whatever
characters are in it. -/

namespace Gatehouse.Json

open Text Token

theorem encode_writeItems (out : String) (items : List String) :
    Utf8.encode (writeItems out (items.map .text)) =
      Utf8.encode out ++ items.flatMap fun s => 0x2C :: Utf8.encode (quote s) := by
  induction items generalizing out with
  | nil => simp [writeItems]
  | cons s items ih =>
    have hComma : Utf8.encode "," = [0x2C] := by decide
    simp only [List.map_cons, writeItems, write]
    rw [ih, Utf8.encode_append, Utf8.encode_append, hComma, List.flatMap_cons, List.append_assoc,
      List.append_assoc, List.singleton_append, List.cons_append]

theorem item_quote (s : String) : Item s (Utf8.encode (quote s)) := by
  refine ⟨[], Utf8.encode (quote s), [], blank_nil, quoted_quote s, blank_nil, ?_⟩
  rw [List.append_nil, List.nil_append]

theorem items_quoted (s : String) (items : List String) :
    Items (s :: items)
      (Utf8.encode (quote s) ++ items.flatMap fun s => 0x2C :: Utf8.encode (quote s)) := by
  induction items generalizing s with
  | nil =>
    rw [List.flatMap_nil, List.append_nil]
    exact .last (item_quote s)
  | cons next items ih =>
    rw [List.flatMap_cons, List.cons_append]
    exact .more (item_quote s) (ih next)

theorem textList_compact (items : List String) :
    TextList items (Utf8.encode (texts items).compact) := by
  cases items with
  | nil => exact ⟨[], [], [], blank_nil, blank_nil, by decide, .inl ⟨rfl, blank_nil⟩⟩
  | cons s items =>
    refine ⟨[], _, [], blank_nil, blank_nil, ?_, .inr (items_quoted s items)⟩
    have hOpening : Utf8.encode ("" ++ "[") = [0x5B] := by decide
    have hClosing : Utf8.encode "]" = [0x5D] := by decide
    simp only [texts, List.map_cons, compact, write]
    rw [Utf8.encode_append, encode_writeItems, Utf8.encode_append, hOpening, hClosing,
      List.append_assoc, List.append_assoc, List.singleton_append, List.nil_append,
      List.append_assoc]

theorem texts?_compact (items : List String) : texts? (texts items).compact = some items :=
  texts?_eq_some_iff.mpr (textList_compact items)

end Gatehouse.Json
