import Gatehouse.Proofs.Text.Utf8
import Gatehouse.Web.Header
import Mathlib.Data.List.Basic

/-! The values that headers have for a name.  Headers with other names add none, and leave the
first value alone. -/

namespace Gatehouse.Web

open Text

theorem readable?_eq_some_empty_iff {value : List UInt8} :
    readable? value = some "" ↔ value = [] := by
  constructor
  · intro h
    rw [readable?] at h
    split at h
    · simpa using h
    · cases h
  · rintro rfl
    rfl

/-- A text of visible ASCII characters and spaces is read as it is. -/
theorem readable?_encode {s : String} (h : ∀ c ∈ s.toList, 0x20 ≤ c.toNat ∧ c.toNat < 0x7F) :
    readable? (Utf8.encode s) = some s := by
  have hOctet : ∀ c ∈ s.toList, (UInt8.ofNat c.toNat).toNat = c.toNat := fun c hc =>
    UInt8.toNat_ofNat_of_lt' ((h c hc).2.trans (by decide))
  have hEncode : Utf8.encode s = s.toList.map fun c => UInt8.ofNat c.toNat := by
    rw [Utf8.encode, List.map_eq_flatMap]
    exact List.flatMap_congr fun c hc => Utf8.encodeChar_of_lt ((h c hc).2.trans (by decide))
  have hAll : ((s.toList.map fun c => UInt8.ofNat c.toNat).all
      fun b => (0x20 ≤ b && b < 0x7F) || b == 0x09) = true := by
    rw [List.all_map, List.all_eq_true]
    intro c hc
    obtain ⟨hLow, hHigh⟩ := h c hc
    simp [UInt8.le_iff_toNat_le, UInt8.lt_iff_toNat_lt, hOctet c hc, hLow, hHigh]
  have hChar : ∀ c ∈ s.toList, Char.ofNat (UInt8.ofNat c.toNat).toNat = c := fun c hc => by
    rw [hOctet c hc, Char.ofNat_toNat]
  have hChars : (s.toList.map fun c => UInt8.ofNat c.toNat).map (fun b => Char.ofNat b.toNat) =
      s.toList := by
    rw [List.map_map]
    exact (List.map_congr_left hChar).trans (List.map_id' _)
  rw [readable?, hEncode, if_pos hAll, hChars, String.ofList_toList]

namespace Headers

/-- The values of all headers with a name, in order. -/
def valuesOf (headers : Headers) (name : String) : List (List UInt8) :=
  (headers.filter fun h => sameUpToCase h.1 name).map Prod.snd

/-- The first header with the name has the text as its value. -/
def HasText (headers : Headers) (name text : String) : Prop :=
  (headers.first? name).bind readable? = some text

/-- The headers have no other names than these. -/
def Named (names : List String) (headers : Headers) : Prop := ∀ h ∈ headers, h.1 ∈ names

variable {headers : Headers} {name : String}

@[simp] theorem valuesOf_nil (name : String) : valuesOf [] name = [] := rfl

@[simp] theorem valuesOf_append (headers more : Headers) (name : String) :
    valuesOf (headers ++ more) name = headers.valuesOf name ++ more.valuesOf name := by
  simp [valuesOf]

theorem valuesOf_cons_same {other : String} (hName : sameUpToCase other name = true)
    (value : List UInt8) (headers : Headers) :
    valuesOf ((other, value) :: headers) name = value :: headers.valuesOf name := by
  simp [valuesOf, hName]

theorem valuesOf_cons_other {other : String} (hName : sameUpToCase other name = false)
    (value : List UInt8) (headers : Headers) :
    valuesOf ((other, value) :: headers) name = headers.valuesOf name := by
  simp [valuesOf, hName]

theorem named_singleton (name : String) (value : List UInt8) : Named [name] [(name, value)] :=
  fun _ hMem => List.mem_singleton.mp hMem ▸ List.mem_cons_self

theorem named_append {names : List String} {headers more : Headers} :
    Named names (headers ++ more) ↔ Named names headers ∧ Named names more :=
  List.forall_mem_append

theorem Named.mono {names names' : List String} (h : Named names headers)
    (hNames : ∀ other ∈ names, other ∈ names') : Named names' headers :=
  fun header hMem => hNames _ (h header hMem)

instance (names : List String) (headers : Headers) : Decidable (Named names headers) :=
  List.decidableBAll _ _

theorem Named.valuesOf_eq_nil {names : List String} (h : Named names headers)
    (hNames : ∀ other ∈ names, sameUpToCase other name = false) : headers.valuesOf name = [] := by
  have hNone : headers.filter (fun h => sameUpToCase h.1 name) = [] := by
    rw [List.filter_eq_nil_iff]
    intro header hMem
    rw [hNames _ (h header hMem)]
    exact Bool.false_ne_true
  rw [Headers.valuesOf, hNone, List.map_nil]

/-- What is dropped has another name, so the first value with the name stays the first. -/
theorem first?_filter {keep : String × List UInt8 → Bool}
    (hKeep : ∀ h : String × List UInt8, sameUpToCase h.1 name = true → keep h = true)
    (headers : Headers) : first? (headers.filter keep) name = headers.first? name := by
  rw [first?, first?, List.find?_filter]
  refine congrArg (Option.map Prod.snd) (congrArg (List.find? · headers) (funext fun h => ?_))
  cases hName : sameUpToCase h.1 name with
  | false => simp
  | true => simp [hKeep h hName]

theorem first?_eq_head? (headers : Headers) (name : String) :
    headers.first? name = (headers.valuesOf name).head? := by
  rw [first?, valuesOf, List.head?_map, List.head?_filter]

/-- A header comes first for its own name only, and only if none before it has the name. -/
theorem first?_insert {front : Headers} {h : String × List UInt8}
    (hIdle : sameUpToCase h.1 name = true → ∃ earlier ∈ front, sameUpToCase earlier.1 name = true)
    (back : Headers) : first? (front ++ h :: back) name = first? (front ++ back) name := by
  rw [first?_eq_head?, first?_eq_head?, valuesOf_append, valuesOf_append]
  cases hName : sameUpToCase h.1 name with
  | false => rw [valuesOf_cons_other hName]
  | true =>
    obtain ⟨earlier, hMem, hSame⟩ := hIdle hName
    have hFront : front.valuesOf name ≠ [] := List.ne_nil_of_mem
      (List.mem_map_of_mem (List.mem_filter.mpr ⟨hMem, hSame⟩))
    rw [List.head?_append, List.head?_append, List.head?_eq_some_head hFront]
    rfl

end Headers

end Gatehouse.Web
