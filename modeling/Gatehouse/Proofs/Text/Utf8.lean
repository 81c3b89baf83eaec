import Gatehouse.Text.Utf8
import Mathlib.Tactic.IntervalCases

/-! Exactly what is written in UTF-8 reads, and reads back.  The first octet of a character says how
many octets follow and bounds the next one; every other octet carries six bits. -/

namespace Gatehouse.Text.Utf8

theorem first_one {n : Nat} (h : n < 0x80) :
    step .start (UInt8.ofNat n) = .done (Char.ofNat n) := by
  have hByte : (UInt8.ofNat n).toNat = n := UInt8.toNat_ofNat_of_lt' (h.trans (by decide))
  have hLow : UInt8.ofNat n < 0x80 := by
    rw [UInt8.lt_iff_toNat_lt, hByte]
    exact h
  rw [step, first, if_pos hLow, hByte]

theorem first_two {m : Nat} (hLow : 2 ≤ m) (hHigh : m < 32) :
    step .start (UInt8.ofNat (m + 0xC0)) = .more (.within m 0 0x80 0xBF) := by
  interval_cases m <;> rfl

theorem first_three {m : Nat} (h : m < 16) :
    step .start (UInt8.ofNat (m + 0xE0)) =
      .more (.within m 1 (if m = 0 then 0xA0 else 0x80) (if m = 13 then 0x9F else 0xBF)) := by
  interval_cases m <;> rfl

theorem first_four {m : Nat} (h : m < 5) :
    step .start (UInt8.ofNat (m + 0xF0)) =
      .more (.within m 2 (if m = 0 then 0x90 else 0x80) (if m = 4 then 0x8F else 0xBF)) := by
  interval_cases m <;> rfl

theorem within_bounds {m : Nat} {low high : UInt8} (hLow : low.toNat ≤ m + 0x80)
    (hHigh : m + 0x80 ≤ high.toNat) :
    (UInt8.ofNat (m + 0x80)).toNat = m + 0x80 ∧
      (low ≤ UInt8.ofNat (m + 0x80) && UInt8.ofNat (m + 0x80) ≤ high) = true := by
  have hByte : (UInt8.ofNat (m + 0x80)).toNat = m + 0x80 :=
    UInt8.toNat_ofNat_of_lt' (hHigh.trans_lt high.toNat_lt)
  refine ⟨hByte, ?_⟩
  simp only [Bool.and_eq_true, decide_eq_true_eq, UInt8.le_iff_toNat_le, hByte]
  exact ⟨hLow, hHigh⟩

theorem step_more {bits more m : Nat} {low high : UInt8} (hLow : low.toNat ≤ m + 0x80)
    (hHigh : m + 0x80 ≤ high.toNat) :
    step (.within bits (more + 1) low high) (UInt8.ofNat (m + 0x80)) =
      .more (.within (64 * bits + m) more 0x80 0xBF) := by
  obtain ⟨hByte, hBounds⟩ := within_bounds hLow hHigh
  simp only [step, hBounds, if_true, hByte, Nat.add_sub_cancel]

theorem step_last {bits m : Nat} (h : m < 64) :
    step (.within bits 0 0x80 0xBF) (UInt8.ofNat (m + 0x80)) =
      .done (Char.ofNat (64 * bits + m)) := by
  have hLow : (0x80 : UInt8).toNat ≤ m + 0x80 := Nat.le_add_left ..
  have hHigh : m + 0x80 ≤ (0xBF : UInt8).toNat := Nat.add_le_add_right (Nat.le_of_lt_succ h) _
  obtain ⟨hByte, hBounds⟩ := within_bounds hLow hHigh
  simp only [step, hBounds, if_true, hByte, Nat.add_sub_cancel]

theorem decodeFrom_of_done {acc : List Char} {s : State} {b : UInt8} {c : Char}
    (h : step s b = .done c) (rest : List UInt8) :
    decodeFrom acc s (b :: rest) = decodeFrom (c :: acc) .start rest := by
  cases s <;> simp only [decodeFrom, h]

theorem decodeFrom_of_more {acc : List Char} {s next : State} {b : UInt8}
    (h : step s b = .more next) (rest : List UInt8) :
    decodeFrom acc s (b :: rest) = decodeFrom acc next rest := by
  cases s <;> simp only [decodeFrom, h]

theorem toNat_bounds (c : Char) : c.toNat < 0xD800 ∨ 0xDFFF < c.toNat ∧ c.toNat < 0x110000 := by
  have h := c.valid
  simpa [UInt32.isValidChar, Nat.isValidChar] using h

theorem decodeFrom_encodeChar (acc : List Char) (c : Char) (rest : List UInt8) :
    decodeFrom acc .start (String.utf8EncodeChar c ++ rest) =
      decodeFrom (c :: acc) .start rest := by
  have hBounds := toNat_bounds c
  have hChar : Char.ofNat c.toNat = c := Char.ofNat_toNat c
  have hValue : c.val.toNat = c.toNat := rfl
  simp only [String.utf8EncodeChar, hValue]
  generalize c.toNat = n at hBounds hChar
  have hSix : n % 64 < 64 := Nat.mod_lt _ (by decide)
  by_cases hOne : n ≤ 0x7f
  · have hFirst : step .start (UInt8.ofNat n) = .done (Char.ofNat n) := first_one (by omega)
    rw [if_pos hOne, List.singleton_append, decodeFrom_of_done hFirst, hChar]
  rw [if_neg hOne]
  by_cases hTwo : n ≤ 0x7ff
  · have hLead : n / 64 % 32 = n / 64 := Nat.mod_eq_of_lt (by omega)
    have hBits : 64 * (n / 64) + n % 64 = n := by omega
    rw [if_pos hTwo, hLead, List.cons_append, List.singleton_append,
      decodeFrom_of_more (first_two (m := n / 64) (by omega) (by omega)),
      decodeFrom_of_done (step_last hSix), hBits, hChar]
  rw [if_neg hTwo]
  by_cases hThree : n ≤ 0xffff
  · have hLead : n / 4096 % 16 = n / 4096 := Nat.mod_eq_of_lt (by omega)
    have hBits : 64 * (64 * (n / 4096) + n / 64 % 64) + n % 64 = n := by omega
    have hLow : (if n / 4096 = 0 then 0xA0 else 0x80 : UInt8).toNat ≤ n / 64 % 64 + 0x80 := by
      split
      · simp
        omega
      · simp
    have hHigh : n / 64 % 64 + 0x80 ≤ (if n / 4096 = 13 then 0x9F else 0xBF : UInt8).toNat := by
      split <;> simp <;> omega
    rw [if_pos hThree, hLead, List.cons_append, List.cons_append, List.singleton_append,
      decodeFrom_of_more (first_three (m := n / 4096) (by omega)),
      decodeFrom_of_more (step_more hLow hHigh),
      decodeFrom_of_done (step_last hSix), hBits, hChar]
  · have hLead : n / 262144 % 8 = n / 262144 := Nat.mod_eq_of_lt (by omega)
    have hBits : 64 * (64 * (64 * (n / 262144) + n / 4096 % 64) + n / 64 % 64) + n % 64 = n := by
      omega
    have hLow : (if n / 262144 = 0 then 0x90 else 0x80 : UInt8).toNat ≤ n / 4096 % 64 + 0x80 := by
      split
      · simp
        omega
      · simp
    have hLowAfter : (0x80 : UInt8).toNat ≤ n / 64 % 64 + 0x80 := Nat.le_add_left ..
    have hHighAfter : n / 64 % 64 + 0x80 ≤ (0xBF : UInt8).toNat := by
      simp
      omega
    have hHigh : n / 4096 % 64 + 0x80 ≤ (if n / 262144 = 4 then 0x8F else 0xBF : UInt8).toNat := by
      split <;> simp <;> omega
    rw [if_neg hThree, hLead, List.cons_append, List.cons_append, List.cons_append,
      List.singleton_append, decodeFrom_of_more (first_four (m := n / 262144) (by omega)),
      decodeFrom_of_more (step_more hLow hHigh),
      decodeFrom_of_more (step_more hLowAfter hHighAfter),
      decodeFrom_of_done (step_last hSix), hBits, hChar]

theorem encodeChar_of_lt {c : Char} (h : c.toNat < 0x80) :
    String.utf8EncodeChar c = [UInt8.ofNat c.toNat] := by
  have hOne : c.val.toNat ≤ 0x7f := Nat.le_of_lt_succ h
  simp only [String.utf8EncodeChar, if_pos hOne]
  rfl

/-- No octet of a character beyond ASCII is one of an ASCII character. -/
theorem le_of_mem_encodeChar {c : Char} {b : UInt8} (h : 0x80 ≤ c.toNat)
    (hb : b ∈ String.utf8EncodeChar c) : 0x80 ≤ b.toNat := by
  have hOne : ¬c.val.toNat ≤ 0x7f := Nat.not_le_of_gt h
  simp only [String.utf8EncodeChar, if_neg hOne] at hb
  split at hb
  · simp only [List.mem_cons, List.not_mem_nil, or_false] at hb
    rcases hb with rfl | rfl <;> rw [UInt8.toNat_ofNat'] <;> omega
  · split at hb
    · simp only [List.mem_cons, List.not_mem_nil, or_false] at hb
      rcases hb with rfl | rfl | rfl <;> rw [UInt8.toNat_ofNat'] <;> omega
    · simp only [List.mem_cons, List.not_mem_nil, or_false] at hb
      rcases hb with rfl | rfl | rfl | rfl <;> rw [UInt8.toNat_ofNat'] <;> omega

theorem decodeFrom_encode (acc cs : List Char) (rest : List UInt8) :
    decodeFrom acc .start (cs.flatMap String.utf8EncodeChar ++ rest) =
      decodeFrom (cs.reverse ++ acc) .start rest := by
  induction cs generalizing acc with
  | nil => rfl
  | cons c cs ih =>
    rw [List.flatMap_cons, List.append_assoc, decodeFrom_encodeChar, ih, List.reverse_cons,
      List.append_assoc, List.singleton_append]

theorem decode?_encode (s : String) : decode? (encode s) = some s := by
  have h := decodeFrom_encode [] s.toList []
  rw [List.append_nil, List.append_nil] at h
  rw [decode?, encode, h, decodeFrom, List.reverse_reverse, Option.map_some, String.ofList_toList]

theorem encode_eq_nil_iff {s : String} : encode s = [] ↔ s = "" := by
  constructor
  · intro h
    have hDecode := decode?_encode s
    rw [h] at hDecode
    exact (Option.some.inj hDecode).symm
  · rintro rfl
    rfl

/-- A well-formed sequence reads the same with or without replacements. -/
theorem decodeLossyFrom_of_decodeFrom {acc cs : List Char} {s : State} {bytes : List UInt8}
    (h : decodeFrom acc s bytes = some cs) : decodeLossyFrom acc s bytes = cs := by
  induction bytes generalizing acc s with
  | nil =>
    cases s with
    | start => exact Option.some.inj h
    | within => cases h
  | cons b rest ih =>
    cases hStep : step s b with
    | done c =>
      rw [decodeFrom_of_done hStep] at h
      cases s <;> simp only [decodeLossyFrom, hStep, ih h]
    | more next =>
      rw [decodeFrom_of_more hStep] at h
      cases s <;> simp only [decodeLossyFrom, hStep, ih h]
    | bad => cases s <;> simp only [decodeFrom, hStep, reduceCtorEq] at h

theorem decodeLossy_encode (s : String) : decodeLossy (encode s) = s := by
  obtain ⟨cs, hRead, hText⟩ := Option.map_eq_some_iff.mp (decode?_encode s)
  rw [decodeLossy, decodeLossyFrom_of_decodeFrom hRead, hText]

@[simp] theorem encode_append (s t : String) : encode (s ++ t) = encode s ++ encode t := by
  simp [encode]

/-! ### What reads was written -/

theorem toNat_ofNat {n : Nat} (h : n < 0xD800 ∨ 0xDFFF < n ∧ n < 0x110000) :
    (Char.ofNat n).val.toNat = n := by
  have hValid : n.isValidChar := h
  rw [Char.ofNat, dif_pos hValid]
  rfl

theorem octet_eq {b : UInt8} {n : Nat} (h : b.toNat = n) : UInt8.ofNat n = b := by
  rw [← h]
  exact UInt8.ofNat_toNat

theorem encodeChar_one {b : UInt8} (h : b.toNat < 0x80) :
    String.utf8EncodeChar (Char.ofNat b.toNat) = [b] := by
  simp only [String.utf8EncodeChar, toNat_ofNat (n := b.toNat) (by omega)]
  rw [if_pos (by omega), octet_eq rfl]

theorem encodeChar_two {n : Nat} {b x : UInt8} (hLow : 0x80 ≤ n) (hHigh : n < 0x800)
    (hb : b.toNat = n / 64 + 0xC0) (hx : x.toNat = n % 64 + 0x80) :
    String.utf8EncodeChar (Char.ofNat n) = [b, x] := by
  have hLead : n / 64 % 32 = n / 64 := Nat.mod_eq_of_lt (by omega)
  simp only [String.utf8EncodeChar, toNat_ofNat (n := n) (by omega)]
  rw [if_neg (by omega), if_pos (by omega), hLead, octet_eq hb, octet_eq hx]

theorem encodeChar_three {n : Nat} {b x y : UInt8} (hLow : 0x800 ≤ n)
    (hHigh : n < 0xD800 ∨ 0xDFFF < n ∧ n < 0x10000) (hb : b.toNat = n / 4096 + 0xE0)
    (hx : x.toNat = n / 64 % 64 + 0x80) (hy : y.toNat = n % 64 + 0x80) :
    String.utf8EncodeChar (Char.ofNat n) = [b, x, y] := by
  have hLead : n / 4096 % 16 = n / 4096 := Nat.mod_eq_of_lt (by omega)
  simp only [String.utf8EncodeChar, toNat_ofNat (n := n) (by omega)]
  rw [if_neg (by omega), if_neg (by omega), if_pos (by omega), hLead, octet_eq hb, octet_eq hx,
    octet_eq hy]

theorem encodeChar_four {n : Nat} {b x y z : UInt8} (hLow : 0x10000 ≤ n)
    (hHigh : n < 0x110000) (hb : b.toNat = n / 262144 + 0xF0)
    (hx : x.toNat = n / 4096 % 64 + 0x80) (hy : y.toNat = n / 64 % 64 + 0x80)
    (hz : z.toNat = n % 64 + 0x80) :
    String.utf8EncodeChar (Char.ofNat n) = [b, x, y, z] := by
  have hLead : n / 262144 % 8 = n / 262144 := Nat.mod_eq_of_lt (by omega)
  simp only [String.utf8EncodeChar, toNat_ofNat (n := n) (by omega)]
  rw [if_neg (by omega), if_neg (by omega), if_neg (by omega), hLead, octet_eq hb, octet_eq hx,
    octet_eq hy, octet_eq hz]

/-- Inside a character, the next octet is within the bounds. -/
theorem exists_octet_of_within {acc cs : List Char} {bits more : Nat} {low high : UInt8}
    {bytes : List UInt8} (h : decodeFrom acc (.within bits more low high) bytes = some cs) :
    ∃ b rest, bytes = b :: rest ∧ low.toNat ≤ b.toNat ∧ b.toNat ≤ high.toNat ∧
      match more with
      | 0 => decodeFrom (Char.ofNat (64 * bits + (b.toNat - 0x80)) :: acc) .start rest = some cs
      | more + 1 =>
        decodeFrom acc (.within (64 * bits + (b.toNat - 0x80)) more 0x80 0xBF) rest = some cs := by
  cases bytes with
  | nil => cases h
  | cons b rest =>
    simp only [decodeFrom, step] at h
    by_cases hBounds : (low ≤ b && b ≤ high) = true
    · rw [if_pos hBounds] at h
      simp only [Bool.and_eq_true, decide_eq_true_eq, UInt8.le_iff_toNat_le] at hBounds
      refine ⟨b, rest, rfl, hBounds.1, hBounds.2, ?_⟩
      cases more <;> exact h
    · rw [if_neg hBounds] at h
      cases h

variable {acc cs : List Char} {b : UInt8} {rest : List UInt8}

/-- The octets after the first one complete a character of two octets. -/
theorem exists_char_of_two {m : Nat} (hFirst : b.toNat = m + 0xC0) (hLow : 2 ≤ m) (hHigh : m < 32)
    (h : decodeFrom acc (.within m 0 0x80 0xBF) rest = some cs) :
    ∃ c more, b :: rest = String.utf8EncodeChar c ++ more ∧
      decodeFrom (c :: acc) .start more = some cs := by
  obtain ⟨x, more, rfl, hLowNext, hHighNext, hDone⟩ := exists_octet_of_within h
  simp only [UInt8.reduceToNat] at hLowNext hHighNext
  refine ⟨_, more, ?_, hDone⟩
  rw [encodeChar_two (b := b) (x := x) (by omega) (by omega) (by omega) (by omega)]
  rfl

theorem exists_char_of_three {m : Nat} {low high : UInt8} (hFirst : b.toNat = m + 0xE0)
    (hHigh : m < 16) (hLowest : 0x80 ≤ low.toNat) (hHighest : high.toNat ≤ 0xBF)
    (hShort : m = 0 → 0xA0 ≤ low.toNat) (hSurrogate : m = 13 → high.toNat ≤ 0x9F)
    (h : decodeFrom acc (.within m 1 low high) rest = some cs) :
    ∃ c more, b :: rest = String.utf8EncodeChar c ++ more ∧
      decodeFrom (c :: acc) .start more = some cs := by
  obtain ⟨x, afterFirst, rfl, hLowNext, hHighNext, hMore⟩ := exists_octet_of_within h
  obtain ⟨y, more, rfl, hLowThen, hHighThen, hDone⟩ := exists_octet_of_within hMore
  simp only [UInt8.reduceToNat] at hLowThen hHighThen
  refine ⟨_, more, ?_, hDone⟩
  rw [encodeChar_three (b := b) (x := x) (y := y) (by omega) (by omega) (by omega)
    (by omega) (by omega)]
  rfl

theorem exists_char_of_four {m : Nat} {low high : UInt8} (hFirst : b.toNat = m + 0xF0)
    (hHigh : m < 5) (hLowest : 0x80 ≤ low.toNat) (hHighest : high.toNat ≤ 0xBF)
    (hShort : m = 0 → 0x90 ≤ low.toNat) (hEnd : m = 4 → high.toNat ≤ 0x8F)
    (h : decodeFrom acc (.within m 2 low high) rest = some cs) :
    ∃ c more, b :: rest = String.utf8EncodeChar c ++ more ∧
      decodeFrom (c :: acc) .start more = some cs := by
  obtain ⟨x, afterFirst, rfl, hLowNext, hHighNext, hMore⟩ := exists_octet_of_within h
  obtain ⟨y, afterNext, rfl, hLowThen, hHighThen, hMoreNext⟩ := exists_octet_of_within hMore
  obtain ⟨z, more, rfl, hLowEnd, hHighEnd, hDone⟩ := exists_octet_of_within hMoreNext
  simp only [UInt8.reduceToNat] at hLowThen hHighThen hLowEnd hHighEnd
  refine ⟨_, more, ?_, hDone⟩
  rw [encodeChar_four (b := b) (x := x) (y := y) (z := z) (by omega) (by omega)
    (by omega) (by omega) (by omega) (by omega)]
  rfl

/-- The reader takes whole characters. -/
theorem exists_char_of_decodeFrom (h : decodeFrom acc .start (b :: rest) = some cs) :
    ∃ c more, b :: rest = String.utf8EncodeChar c ++ more ∧
      decodeFrom (c :: acc) .start more = some cs := by
  simp only [decodeFrom, step, first, UInt8.lt_iff_toNat_lt, beq_iff_eq, UInt8.reduceToNat] at h
  by_cases h80 : b.toNat < 0x80
  · rw [if_pos h80] at h
    refine ⟨_, rest, ?_, h⟩
    rw [encodeChar_one h80]
    rfl
  rw [if_neg h80] at h
  by_cases hC2 : b.toNat < 0xC2
  · rw [if_pos hC2] at h
    cases h
  rw [if_neg hC2] at h
  by_cases hE0 : b.toNat < 0xE0
  · rw [if_pos hE0] at h
    exact exists_char_of_two (by omega) (by omega) (by omega) h
  rw [if_neg hE0] at h
  by_cases hIsE0 : b = 0xE0
  · subst hIsE0
    exact exists_char_of_three rfl (by decide) (by decide) (by decide) (by decide) (by decide) h
  rw [if_neg hIsE0] at h
  by_cases hIsED : b = 0xED
  · subst hIsED
    exact exists_char_of_three rfl (by decide) (by decide) (by decide) (by decide) (by decide) h
  rw [if_neg hIsED] at h
  have hNotE0 : b.toNat ≠ 0xE0 := fun hSame => hIsE0 (UInt8.toNat_inj.mp hSame)
  have hNotED : b.toNat ≠ 0xED := fun hSame => hIsED (UInt8.toNat_inj.mp hSame)
  by_cases hF0 : b.toNat < 0xF0
  · rw [if_pos hF0] at h
    exact exists_char_of_three (by omega) (by omega) (by decide) (by decide) (by omega) (by omega) h
  rw [if_neg hF0] at h
  by_cases hIsF0 : b = 0xF0
  · subst hIsF0
    exact exists_char_of_four rfl (by decide) (by decide) (by decide) (by decide) (by decide) h
  rw [if_neg hIsF0] at h
  have hNotF0 : b.toNat ≠ 0xF0 := fun hSame => hIsF0 (UInt8.toNat_inj.mp hSame)
  by_cases hF4 : b.toNat < 0xF4
  · rw [if_pos hF4] at h
    exact exists_char_of_four (by omega) (by omega) (by decide) (by decide) (by omega) (by omega) h
  rw [if_neg hF4] at h
  by_cases hIsF4 : b = 0xF4
  · subst hIsF4
    exact exists_char_of_four rfl (by decide) (by decide) (by decide) (by decide) (by decide) h
  rw [if_neg hIsF4] at h
  cases h

theorem eq_encode_of_decodeFrom {bytes : List UInt8}
    (h : decodeFrom acc .start bytes = some cs) :
    ∃ read, bytes = read.flatMap String.utf8EncodeChar ∧ cs = acc.reverse ++ read := by
  induction hLength : bytes.length using Nat.strong_induction_on generalizing acc bytes with
  | _ length ih =>
    cases bytes with
    | nil =>
      cases h
      exact ⟨[], rfl, (List.append_nil _).symm⟩
    | cons b rest =>
      obtain ⟨c, more, hChar, hMore⟩ := exists_char_of_decodeFrom h
      have hPos : 0 < (String.utf8EncodeChar c).length := String.length_utf8EncodeChar c ▸ c.utf8Size_pos
      have hShorter : more.length < length := by
        rw [← hLength, hChar, List.length_append]
        omega
      obtain ⟨read, rfl, rfl⟩ := ih more.length hShorter hMore rfl
      exact ⟨c :: read, hChar, by simp⟩

theorem decode?_eq_some_iff {bytes : List UInt8} {s : String} :
    decode? bytes = some s ↔ bytes = encode s := by
  constructor
  · intro h
    obtain ⟨cs, hRead, rfl⟩ := Option.map_eq_some_iff.mp h
    obtain ⟨read, rfl, rfl⟩ := eq_encode_of_decodeFrom hRead
    simp [encode]
  · rintro rfl
    exact decode?_encode s

end Gatehouse.Text.Utf8
