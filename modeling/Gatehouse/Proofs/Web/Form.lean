import Gatehouse.Proofs.Text.Split
import Gatehouse.Proofs.Text.Utf8
import Gatehouse.Web.Form

/-! Every spelling of a query decodes to the pairs that it spells.  An octet may stand for itself or
be escaped, in either case of the digits; a space may be a plus sign; and any number of ampersands
may stand between the pairs. -/

namespace Gatehouse.Web

open Text

namespace Percent

variable {acc rest : List UInt8}

theorem decodeFrom_escape {high low : Nat} {h l : UInt8} (hHigh : hexValue? h.toNat = some high)
    (hLow : hexValue? l.toNat = some low) :
    decodeFrom acc 0 (0x25 :: h :: l :: rest) =
      decodeFrom (UInt8.ofNat (16 * high + low) :: acc) 0 rest := by
  simp only [decodeFrom, escape?, hHigh, hLow, beq_self_eq_true, if_true]

theorem decodeFrom_self {b : UInt8} (h : b = 0x25 → escape? rest = none) :
    decodeFrom acc 0 (b :: rest) = decodeFrom (b :: acc) 0 rest := by
  have hNone : (if b == 0x25 then escape? rest else none) = none := by
    split
    · rename_i hPercent
      exact h (beq_iff_eq.mp hPercent)
    · rfl
  rw [decodeFrom, hNone]

/-- Without a percent sign there is nothing to decode. -/
theorem decode_of_not_mem {bytes : List UInt8} (h : 0x25 ∉ bytes) : decode bytes = bytes := by
  suffices hFrom : ∀ acc, decodeFrom acc 0 bytes = acc.reverse ++ bytes from hFrom []
  induction bytes with
  | nil => exact fun acc => (List.append_nil _).symm
  | cons b bytes ih =>
    intro acc
    obtain ⟨hFirst, hRest⟩ := List.ne_and_not_mem_of_not_mem_cons h
    rw [decodeFrom_self fun hSign => absurd hSign.symm hFirst, ih hRest, List.reverse_cons,
      List.append_assoc, List.singleton_append]

end Percent

namespace Form

/-- The octet that an octet of a field stands for before the escapes are read. -/
def unplus (b : UInt8) : UInt8 := if b == 0x2B then 0x20 else b

theorem unplus_of_ne {b : UInt8} (h : b ≠ 0x2B) : unplus b = b :=
  if_neg fun hPlus => h (beq_iff_eq.mp hPlus)

theorem ne_plus_of_hexValue? {d : UInt8} {n : Nat} (h : hexValue? d.toNat = some n) : d ≠ 0x2B := by
  rintro rfl
  cases h

/-- No two digits of an escape come next. -/
def BeginsNoEscape (written : List UInt8) : Prop :=
  ∀ h l rest, written = h :: l :: rest → hexValue? h.toNat = none ∨ hexValue? l.toNat = none

theorem escape?_of_beginsNoEscape {written : List UInt8} (hNone : BeginsNoEscape written) :
    Percent.escape? (written.map unplus) = none := by
  have hDigit : ∀ d : UInt8, hexValue? d.toNat = none → hexValue? (unplus d).toNat = none := by
    intro d hd
    by_cases hPlus : d = 0x2B
    · subst hPlus
      rfl
    · rwa [unplus_of_ne hPlus]
  match written, hNone with
  | [], _ => rfl
  | [_], _ => rfl
  | h :: l :: rest, hNone =>
    rw [List.map_cons, List.map_cons, Percent.escape?]
    rcases hNone h l rest rfl with hh | hl
    · rw [hDigit h hh]
    · rw [hDigit l hl]
      cases hexValue? (unplus h).toNat <;> rfl

/-- Ways to write octets in one field.  What is reserved must be escaped; a percent sign may stand
for itself where it begins no escape. -/
inductive Field (reserved : List UInt8) : (octets written : List UInt8) → Prop
  | nil : Field reserved [] []
  | self {b : UInt8} {octets written : List UInt8} (hFree : b ∉ reserved) (hPlus : b ≠ 0x2B)
      (hPercent : b = 0x25 → BeginsNoEscape written) (more : Field reserved octets written) :
      Field reserved (b :: octets) (b :: written)
  | escape {b h l : UInt8} {high low : Nat} {octets written : List UInt8}
      (hHigh : hexValue? h.toNat = some high) (hLow : hexValue? l.toNat = some low)
      (hByte : b.toNat = 16 * high + low) (more : Field reserved octets written) :
      Field reserved (b :: octets) (0x25 :: h :: l :: written)
  | space {octets written : List UInt8} (more : Field reserved octets written) :
      Field reserved (0x20 :: octets) (0x2B :: written)

variable {reserved octets written : List UInt8}

/-- The octet may stand for itself wherever it stands. -/
def isPlain (reserved : List UInt8) (b : UInt8) : Bool := !(0x25 :: 0x2B :: reserved).contains b

/-- What needs no escape may be written as it is. -/
theorem Field.of_plain (h : octets.all (isPlain reserved) = true) :
    Field reserved octets octets := by
  induction octets with
  | nil => exact .nil
  | cons b octets ih =>
    obtain ⟨hFirst, hRest⟩ := Bool.and_eq_true_iff.mp h
    obtain ⟨hPercent, hPlus, hFree⟩ : b ≠ 0x25 ∧ b ≠ 0x2B ∧ b ∉ reserved := by
      simpa [isPlain] using hFirst
    exact .self hFree hPlus (fun hSign => absurd hSign hPercent) (ih hRest)

theorem decodeFrom_of_field (h : Field reserved octets written) (acc : List UInt8) :
    Percent.decodeFrom acc 0 (written.map unplus) = acc.reverse ++ octets := by
  induction h generalizing acc with
  | nil => exact (List.append_nil _).symm
  | self hFree hPlus hPercent more ih =>
    have hEscape := fun hSign => escape?_of_beginsNoEscape (hPercent hSign)
    rw [List.map_cons, unplus_of_ne hPlus, Percent.decodeFrom_self hEscape, ih]
    simp
  | escape hHigh hLow hByte more ih =>
    rw [List.map_cons, List.map_cons, List.map_cons, unplus_of_ne (by decide),
      unplus_of_ne (ne_plus_of_hexValue? hHigh), unplus_of_ne (ne_plus_of_hexValue? hLow),
      Percent.decodeFrom_escape hHigh hLow, ← hByte, UInt8.ofNat_toNat, ih]
    simp
  | space more ih =>
    have hSpace : unplus 0x2B = 0x20 := rfl
    rw [List.map_cons, hSpace, Percent.decodeFrom_self fun hSign => absurd hSign (by decide), ih]
    simp

theorem decodeField_of_field {s : String} (h : Field reserved (Utf8.encode s) written) :
    decodeField written = s := by
  have hOctets := decodeFrom_of_field h []
  rw [List.reverse_nil, List.nil_append] at hOctets
  exact (congrArg Utf8.decodeLossy hOctets).trans (Utf8.decodeLossy_encode s)

/-- What is reserved does not stand in the field, unless it is part of an escape. -/
theorem not_mem_of_field {c : UInt8} (h : Field reserved octets written) (hReserved : c ∈ reserved)
    (hSign : c ≠ 0x25 ∧ c ≠ 0x2B ∧ hexValue? c.toNat = none) : c ∉ written := by
  obtain ⟨hPercent, hPlus, hDigit⟩ := hSign
  have hNotDigit : ∀ (d : UInt8) n, hexValue? d.toNat = some n → c ≠ d := by
    rintro d n hd rfl
    rw [hDigit] at hd
    cases hd
  induction h with
  | nil => exact List.not_mem_nil
  | self hFree _ _ more ih =>
    exact List.not_mem_cons_of_ne_of_not_mem (fun hSame => hFree (hSame ▸ hReserved)) ih
  | escape hHigh hLow _ more ih =>
    exact List.not_mem_cons_of_ne_of_not_mem hPercent
      (List.not_mem_cons_of_ne_of_not_mem (hNotDigit _ _ hHigh)
        (List.not_mem_cons_of_ne_of_not_mem (hNotDigit _ _ hLow) ih))
  | space more ih => exact List.not_mem_cons_of_ne_of_not_mem hPlus ih

/-- What ends a key, and with it an ampersand. -/
def keyReserved : List UInt8 := [0x26, 0x3D]

/-- What ends a value. -/
def valueReserved : List UInt8 := [0x26]

/-- Ways to write a pair.  An empty value may be left out with its equals sign, unless nothing
would be left. -/
inductive Pair : String × String → List UInt8 → Prop
  | full {key value : String} {front back : List UInt8}
      (hKey : Field keyReserved (Utf8.encode key) front)
      (hValue : Field valueReserved (Utf8.encode value) back) :
      Pair (key, value) (front ++ 0x3D :: back)
  | bare {key : String} {written : List UInt8} (hKey : Field keyReserved (Utf8.encode key) written)
      (hNe : written ≠ []) : Pair (key, "") written

theorem Pair.ne_nil {p : String × String} (h : Pair p written) : written ≠ [] := by
  cases h with
  | full => simp
  | bare _ hNe => exact hNe

theorem Pair.ampersand_not_mem {p : String × String} (h : Pair p written) : 0x26 ∉ written := by
  have hSign : (0x26 : UInt8) ≠ 0x25 ∧ (0x26 : UInt8) ≠ 0x2B ∧
      hexValue? (0x26 : UInt8).toNat = none := by decide
  cases h with
  | full hKey hValue =>
    rw [List.mem_append, List.mem_cons, not_or, not_or]
    exact ⟨not_mem_of_field hKey (by decide) hSign, by decide,
      not_mem_of_field hValue (by decide) hSign⟩
  | bare hKey => exact not_mem_of_field hKey (by decide) hSign

theorem decodePair_of_pair {p : String × String} (h : Pair p written) : decodePair written = p := by
  have hNoEquals : ∀ {key front}, Field keyReserved (Utf8.encode key) front →
      ∀ x ∈ front, (x == 0x3D) = false := by
    intro key front hKey x hx
    have hAbsent : 0x3D ∉ front := not_mem_of_field hKey (by decide) (by decide)
    exact beq_false_of_ne fun hSame => hAbsent (hSame ▸ hx)
  cases h with
  | full hKey hValue =>
    rw [decodePair, cutAt_append_cons (hNoEquals hKey) rfl]
    exact Prod.ext (decodeField_of_field hKey) (decodeField_of_field hValue)
  | bare hKey =>
    rw [decodePair, cutAt_of_forall (hNoEquals hKey)]
    exact Prod.ext (decodeField_of_field hKey) rfl

/-- Ways to write pairs: with at least one ampersand between one pair and the next, and any number
of them in front and at the end. -/
inductive Query : List (String × String) → List UInt8 → Prop
  | nil : Query [] []
  | last {p : String × String} {written : List UInt8} (h : Pair p written) : Query [p] written
  | ampersand {pairs : List (String × String)} {written : List UInt8} (more : Query pairs written) :
      Query pairs (0x26 :: written)
  | pair {p : String × String} {pairs : List (String × String)} {first rest : List UInt8}
      (h : Pair p first) (more : Query pairs rest) : Query (p :: pairs) (first ++ 0x26 :: rest)

/-- Whatever way the pairs are written in, they are what is read. -/
theorem decode_of_query {pairs : List (String × String)} (h : Query pairs written) :
    decode written = pairs := by
  have hNoAmpersand : ∀ {p first}, Pair p first → ∀ x ∈ first, (x == 0x26) = false :=
    fun hPair x hx => beq_false_of_ne fun hSame => hPair.ampersand_not_mem (hSame ▸ hx)
  induction h with
  | nil => rfl
  | last hPair =>
    rw [decode, pieces_of_forall (hNoAmpersand hPair), List.filter_cons_of_pos]
    · exact congrArg (· :: []) (decodePair_of_pair hPair)
    · simpa using hPair.ne_nil
  | ampersand more ih => exact ih
  | pair hPair more ih =>
    rw [decode, pieces_append_cons (hNoAmpersand hPair) rfl, List.filter_cons_of_pos]
    · rw [List.map_cons, decodePair_of_pair hPair]
      exact congrArg _ ih
    · simpa using hPair.ne_nil

/-! ### Everything can be written -/

theorem exists_digit {n : Nat} (h : n < 16) : ∃ d : UInt8, hexValue? d.toNat = some n := by
  refine ⟨UInt8.ofNat (if n < 10 then 48 + n else 55 + n), ?_⟩
  interval_cases n <;> rfl

theorem exists_field (reserved octets : List UInt8) : ∃ written, Field reserved octets written := by
  induction octets with
  | nil => exact ⟨[], .nil⟩
  | cons b octets ih =>
    obtain ⟨written, hWritten⟩ := ih
    have hByte : b.toNat < 256 := b.toNat_lt
    obtain ⟨h, hHigh⟩ := exists_digit (n := b.toNat / 16) (by omega)
    obtain ⟨l, hLow⟩ := exists_digit (n := b.toNat % 16) (by omega)
    exact ⟨_, .escape hHigh hLow (Nat.div_add_mod _ _).symm hWritten⟩

theorem exists_query (pairs : List (String × String)) : ∃ written, Query pairs written := by
  induction pairs with
  | nil => exact ⟨[], .nil⟩
  | cons p pairs ih =>
    obtain ⟨rest, hRest⟩ := ih
    obtain ⟨front, hKey⟩ := exists_field keyReserved (Utf8.encode p.1)
    obtain ⟨back, hValue⟩ := exists_field valueReserved (Utf8.encode p.2)
    exact ⟨_, .pair (.full hKey hValue) hRest⟩

end Form

end Gatehouse.Web
