import Gatehouse.Crypto.Base64Url
import Mathlib.Tactic.IntervalCases

/-! Base64 read back.  Octets are written as groups of six bits, one character of the alphabet for
each, and read as the same octets, whether none, one or two of them are left at the end. -/

namespace Gatehouse.Crypto.Base64Url

/-- The characters that octets are written in: letters, digits, hyphen and underscore of ASCII. -/
def InAlphabet (c : Char) : Prop := c.isAlphanum ∨ c = '-' ∨ c = '_'

theorem digit_inAlphabet {n : Nat} (h : n < 64) : InAlphabet (digit n) := by
  unfold InAlphabet
  interval_cases n <;> decide

theorem value?_digit {n : Nat} (h : n < 64) : value? (digit n) = some n := by
  interval_cases n <;> rfl

/-- The groups of six bits that octets are cut into; zeros fill the last one up. -/
def sextets : List UInt8 → List Nat
  | [] => []
  | [a] => [a.toNat / 4, a.toNat % 4 * 16]
  | [a, b] =>
    let n := 256 * a.toNat + b.toNat
    [n / 1024, n / 16 % 64, n % 16 * 4]
  | a :: b :: c :: rest =>
    let n := 65536 * a.toNat + 256 * b.toNat + c.toNat
    n / 262144 :: n / 4096 % 64 :: n / 64 % 64 :: n % 64 :: sextets rest

theorem encodeFrom_eq (acc : List Char) (bytes : List UInt8) :
    encodeFrom acc bytes = acc.reverse ++ (sextets bytes).map digit := by
  fun_induction encodeFrom acc bytes with
  | case1 acc => simp [sextets]
  | case2 acc a n => simp [sextets, n]
  | case3 acc a b n => simp [sextets, n]
  | case4 acc a b c rest n ih =>
    rw [ih]
    simp [sextets, n]

theorem toList_encode (bytes : List UInt8) : (encode bytes).toList = (sextets bytes).map digit := by
  rw [encode, String.toList_ofList, encodeFrom_eq, List.reverse_nil, List.nil_append]

theorem lt_of_mem_sextets {bytes : List UInt8} {n : Nat} (h : n ∈ sextets bytes) : n < 64 := by
  fun_induction sextets bytes with
  | case1 => cases h
  | case2 a =>
    have := a.toNat_lt
    simp only [List.mem_cons, List.not_mem_nil, or_false] at h
    omega
  | case3 a b m =>
    have := a.toNat_lt
    have := b.toNat_lt
    simp only [List.mem_cons, List.not_mem_nil, or_false] at h
    omega
  | case4 a b c rest m ih =>
    have := a.toNat_lt
    have := b.toNat_lt
    have := c.toNat_lt
    simp only [List.mem_cons] at h
    rcases h with h | h | h | h | h
    on_goal 5 => exact ih h
    all_goals omega

/-- What is written stands in the alphabet; no padding is in it. -/
theorem encode_inAlphabet (bytes : List UInt8) : ∀ c ∈ (encode bytes).toList, InAlphabet c := by
  intro c hc
  rw [toList_encode] at hc
  obtain ⟨n, hn, rfl⟩ := List.mem_map.mp hc
  exact digit_inAlphabet (lt_of_mem_sextets hn)

theorem ofNat_eq {b : UInt8} {n : Nat} (h : n % 256 = b.toNat) : UInt8.ofNat n = b :=
  UInt8.toNat_inj.mp (by rw [UInt8.toNat_ofNat', h])

section Groups

variable {acc : List UInt8} {w x y z : Char} {i j k l : Nat} {a b c : UInt8}

theorem decodeFrom_two (hw : value? w = some i) (hx : value? x = some j)
    (h : 64 * i + j = 16 * a.toNat) : decodeFrom acc [w, x] = some (acc.reverse ++ [a]) := by
  have hZero : (64 * i + j) % 16 = 0 := by omega
  have hOctet : UInt8.ofNat ((64 * i + j) / 16) = a :=
    ofNat_eq (by have := a.toNat_lt; omega)
  simp only [decodeFrom, hw, hx, Option.bind_eq_bind, Option.bind_some, hZero, hOctet,
    beq_self_eq_true, if_true, List.reverse_cons]
  rfl

theorem decodeFrom_three (hw : value? w = some i) (hx : value? x = some j) (hy : value? y = some k)
    (h : 4096 * i + 64 * j + k = 4 * (256 * a.toNat + b.toNat)) :
    decodeFrom acc [w, x, y] = some (acc.reverse ++ [a, b]) := by
  have := a.toNat_lt
  have := b.toNat_lt
  have hZero : (4096 * i + 64 * j + k) % 4 = 0 := by omega
  have hFirst : UInt8.ofNat ((4096 * i + 64 * j + k) / 1024) = a := ofNat_eq (by omega)
  have hSecond : UInt8.ofNat ((4096 * i + 64 * j + k) / 4) = b := ofNat_eq (by omega)
  simp only [decodeFrom, hw, hx, hy, Option.bind_eq_bind, Option.bind_some, hZero, hFirst, hSecond,
    beq_self_eq_true, if_true, List.reverse_cons, List.append_assoc]
  rfl

theorem decodeFrom_four (hw : value? w = some i) (hx : value? x = some j) (hy : value? y = some k)
    (hz : value? z = some l) (rest : List Char)
    (h : 262144 * i + 4096 * j + 64 * k + l = 65536 * a.toNat + 256 * b.toNat + c.toNat) :
    decodeFrom acc (w :: x :: y :: z :: rest) = decodeFrom (c :: b :: a :: acc) rest := by
  have := a.toNat_lt
  have := b.toNat_lt
  have := c.toNat_lt
  have hFirst : UInt8.ofNat ((262144 * i + 4096 * j + 64 * k + l) / 65536) = a :=
    ofNat_eq (by omega)
  have hSecond : UInt8.ofNat ((262144 * i + 4096 * j + 64 * k + l) / 256) = b :=
    ofNat_eq (by omega)
  have hThird : UInt8.ofNat (262144 * i + 4096 * j + 64 * k + l) = c := ofNat_eq (by omega)
  simp only [decodeFrom, hw, hx, hy, hz, hFirst, hSecond, hThird]

end Groups

theorem decodeFrom_sextets (acc bytes : List UInt8) :
    decodeFrom acc ((sextets bytes).map digit) = some (acc.reverse ++ bytes) := by
  have hValue {n : Nat} (hn : n ∈ sextets bytes) : value? (digit n) = some n :=
    value?_digit (lt_of_mem_sextets hn)
  fun_induction sextets bytes generalizing acc with
  | case1 => simp [decodeFrom]
  | case2 a => exact decodeFrom_two (hValue (by simp)) (hValue (by simp)) (by omega)
  | case3 a b n =>
    exact decodeFrom_three (hValue (by simp)) (hValue (by simp)) (hValue (by simp)) (by omega)
  | case4 a b c rest n ih =>
    simp only [List.mem_cons] at hValue
    have hGroup : decodeFrom acc (digit (n / 262144) :: digit (n / 4096 % 64) ::
        digit (n / 64 % 64) :: digit (n % 64) :: (sextets rest).map digit) =
          decodeFrom (c :: b :: a :: acc) ((sextets rest).map digit) :=
      decodeFrom_four (hValue (by simp)) (hValue (by simp)) (hValue (by simp)) (hValue (by simp)) _
        (by omega)
    rw [List.map_cons, List.map_cons, List.map_cons, List.map_cons, hGroup,
      ih _ fun hn => hValue (by simp [hn])]
    simp

theorem decode?_encode (bytes : List UInt8) : decode? (encode bytes).toList = some bytes := by
  rw [decode?, toList_encode, decodeFrom_sextets, List.reverse_nil, List.nil_append]

end Gatehouse.Crypto.Base64Url
