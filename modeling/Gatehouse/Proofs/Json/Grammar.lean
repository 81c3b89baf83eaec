import Gatehouse.Json.Skip
import Gatehouse.Proofs.Json.Tokens

/-! The grammar of JSON texts.  A value is a word, a number, a text between quotes, or what stands
between brackets or braces; the members of a record are keys with values.  Escapes must be well
formed, but need not stand for Unicode. -/

namespace Gatehouse.Json

open Text Token Skip

/-- What stands between the commas of a list or a record. -/
inductive Form where
  | value
  | member

namespace Skip.Frame

def opening : Frame → UInt8
  | .list => 0x5B
  | .record => 0x7B

def closing : Frame → UInt8
  | .list => 0x5D
  | .record => 0x7D

def form : Frame → Form
  | .list => .value
  | .record => .member

end Skip.Frame

/-- What follows an item: the end of the frame, or a comma and the next item. -/
inductive Tail {α : Type} (frame : Frame) (P : α → List UInt8 → Prop) : List α → List UInt8 → Prop
  | close {after : List UInt8} (hAfter : Blank after) : Tail frame P [] (after ++ [frame.closing])
  | next {a : α} {items : List α} {after before text tail : List UInt8} (hAfter : Blank after)
      (hBefore : Blank before) (hItem : P a text) (rest : Tail frame P items tail) :
      Tail frame P (a :: items) (after ++ 0x2C :: (before ++ (text ++ tail)))

/-- Items in a frame, with commas between them and blanks wherever they do no harm. -/
inductive Enclosed {α : Type} (frame : Frame) (P : α → List UInt8 → Prop) :
    List α → List UInt8 → Prop
  | empty {inner : List UInt8} (hInner : Blank inner) :
      Enclosed frame P [] (frame.opening :: (inner ++ [frame.closing]))
  | items {a : α} {items : List α} {before text tail : List UInt8} (hBefore : Blank before)
      (hItem : P a text) (rest : Tail frame P items tail) :
      Enclosed frame P (a :: items) (frame.opening :: (before ++ (text ++ tail)))

/-- The tokens that are values. -/
inductive IsScalar : Token → Prop
  | null : IsScalar .null
  | bool (b : Bool) : IsScalar (.bool b)
  | number (n : Numeral) : IsScalar (.number n)
  | text (raw : List UInt8) : IsScalar (.text raw)

/-- A well-formed value, or a well-formed member of a record. -/
inductive WellFormed : Form → List UInt8 → Prop
  | scalar {t : Token} {text : List UInt8} (hScalar : IsScalar t) (hText : Lexeme t text) :
      WellFormed .value text
  | enclosed {frame : Frame} {items : List (List UInt8)} {text : List UInt8}
      (hText : Enclosed frame Eq items text) (hItems : ∀ item ∈ items, WellFormed frame.form item) :
      WellFormed .value text
  | member {raw before after value : List UInt8} (hKey : Scanned raw) (hBefore : Blank before)
      (hAfter : Blank after) (hValue : WellFormed .value value) :
      WellFormed .member (0x22 :: (raw ++ 0x22 :: (before ++ 0x3A :: (after ++ value))))

/-! ### How values begin and end -/

namespace Skip

namespace Frame

def openToken : Frame → Token
  | .list => .openList
  | .record => .openRecord

def closeToken : Frame → Token
  | .list => .closeList
  | .record => .closeRecord

/-- What may come right after a frame has been opened. -/
def first : Frame → Expect
  | .list => .firstItem
  | .record => .firstKey

theorem opening_mem (frame : Frame) : (frame.opening, frame.openToken) ∈ marks := by
  cases frame <;> decide

theorem closing_mem (frame : Frame) : (frame.closing, frame.closeToken) ∈ marks := by
  cases frame <;> decide

end Frame

end Skip

theorem endsNumber_blank_mark {blanks : List UInt8} {b : UInt8} {t : Token} (hBlank : Blank blanks)
    (hMark : (b, t) ∈ marks) (rest : List UInt8) : EndsNumber (blanks ++ b :: rest) := by
  intro d hd
  cases blanks with
  | nil =>
    cases hd
    have hTable : ∀ p ∈ marks,
        Numeral.isDigit p.1 = false ∧ p.1 ≠ 0x2E ∧ p.1 ≠ 0x65 ∧ p.1 ≠ 0x45 := by
      decide
    exact hTable _ hMark
  | cons blank blanks =>
    cases hd
    have hSpace := hBlank d List.mem_cons_self
    simp only [isSpace, Bool.or_eq_true, beq_iff_eq] at hSpace
    rcases hSpace with ((rfl | rfl) | rfl) | rfl <;> decide

theorem Tail.endsNumber {α : Type} {frame : Frame} {P : α → List UInt8 → Prop} {items : List α}
    {tail : List UInt8} (h : Tail frame P items tail) (rest : List UInt8) :
    EndsNumber (tail ++ rest) := by
  cases h with
  | close hAfter =>
    rw [List.append_assoc]
    exact endsNumber_blank_mark hAfter frame.closing_mem rest
  | next hAfter =>
    rw [List.append_assoc]
    exact endsNumber_blank_mark hAfter (t := .comma) (by decide) _

theorem tokens_scalar {t : Token} {text rest : List UInt8} (hScalar : IsScalar t)
    (hText : Lexeme t text) (hRest : EndsNumber rest) :
    tokens (text ++ rest) = t :: tokens rest := by
  cases hText with
  | mark h =>
    cases hScalar <;> simp [marks] at h
  | word h => exact tokens_word h rest
  | number h => exact tokens_number h hRest
  | text h =>
    rw [List.cons_append, List.append_assoc]
    exact tokens_scanned h rest

/-- A well-formed item does not begin with a closing bracket. -/
theorem WellFormed.exists_first {form : Form} {text : List UInt8} (h : WellFormed form text)
    {rest : List UInt8} (hRest : EndsNumber rest) :
    ∃ t ts, tokens (text ++ rest) = t :: ts ∧ ∀ frame : Frame, t ≠ frame.closeToken := by
  cases h with
  | scalar hScalar hText =>
    refine ⟨_, _, tokens_scalar hScalar hText hRest, fun frame => ?_⟩
    cases hScalar <;> cases frame <;> nofun
  | @enclosed frame items text hText hItems =>
    have hOpen (others : List UInt8) : ∃ t ts,
        tokens (frame.opening :: others) = t :: ts ∧ ∀ frame : Frame, t ≠ frame.closeToken := by
      refine ⟨_, _, tokens_mark frame.opening_mem others, fun other => ?_⟩
      cases frame <;> cases other <;> nofun
    cases hText <;> exact hOpen _
  | member hKey hBefore hAfter hValue =>
    rw [List.cons_append, List.append_assoc]
    refine ⟨_, _, tokens_scanned hKey _, fun frame => ?_⟩
    cases frame <;> nofun

end Gatehouse.Json
