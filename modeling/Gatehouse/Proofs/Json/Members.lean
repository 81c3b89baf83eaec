import Gatehouse.Proofs.Json.Records

/-! What the members of a record give for a field.  A member that a field knows comes once or not at
all, wherever it stands among the others, and what is found under its key is the value it has. -/

namespace Gatehouse.Json

/-- The values under a key, in order. -/
def valuesAt (key : String) (members : List (String × List UInt8)) : List (List UInt8) :=
  (members.filter (·.1 == key)).map (·.2)

/-- What values add to what was found for a field: nothing, or one value that is the first. -/
inductive Adds (kind : FieldKind) :
    List (List UInt8) → Option FieldValue → Option FieldValue → Prop
  | nothing (found : Option FieldValue) : Adds kind [] found found
  | once {text : List UInt8} {v : FieldValue} (h : FieldText kind v text) :
      Adds kind [text] none (some v)

/-! ### A field's text has one value -/

theorem FieldText.unique {kind : FieldKind} {v w : FieldValue} {text : List UInt8}
    (hv : FieldText kind v text) (hw : FieldText kind w text) : v = w := by
  have hEnd : EndsNumber [] := nofun
  have hBoth : Except.ok (ε := ReadError) (v, ([] : List Token)) = .ok (w, []) :=
    (hv.read hEnd).symm.trans (hw.read hEnd)
  cases hBoth
  rfl

variable {kind : FieldKind} {texts more : List (List UInt8)}
  {before found after : Option FieldValue}

theorem Adds.unique (h : Adds kind texts before found) (h' : Adds kind texts before after) :
    found = after := by
  cases h with
  | nothing => cases h'; rfl
  | once hText =>
    obtain _ | hText' := h'
    rw [hText.unique hText']

theorem Adds.trans (h : Adds kind texts before found) (h' : Adds kind more found after) :
    Adds kind (texts ++ more) before after := by
  cases h with
  | nothing => exact h'
  | once hText =>
    obtain ⟨⟩ := h'
    exact .once hText

/-! ### Members and what they add -/

variable {fields : List Field} {field : Field} {key : String}

theorem valuesAt_cons_self (key : String) (text : List UInt8)
    (members : List (String × List UInt8)) :
    valuesAt key ((key, text) :: members) = text :: valuesAt key members := by
  simp [valuesAt]

theorem valuesAt_cons_ne {other : String} (h : other ≠ key) (text : List UInt8)
    (members : List (String × List UInt8)) :
    valuesAt key ((other, text) :: members) = valuesAt key members := by
  simp [valuesAt, h]

theorem any_eq_false_iff {seen : Members} :
    seen.any (·.1 == key) = false ↔ seen.lookup key = none := by
  rw [List.lookup_eq_none_iff, List.any_eq_false]
  exact forall₂_congr fun p _ => by rw [beq_iff_eq, bne_iff_ne, ne_comm, ne_eq]

theorem Takes.adds {seen next : Members} {m : String × List UInt8} (h : Takes fields seen m next)
    (hKind : (fields.find? (·.key == key)).map (·.kind) = some kind) :
    Adds kind (valuesAt key [m]) (seen.lookup key) (next.lookup key) := by
  obtain ⟨field, hField, rfl⟩ := Option.map_eq_some_iff.mp hKind
  cases h with
  | @known k known v text hKnown hNew hValue =>
    by_cases hKey : k = key
    · subst hKey
      obtain rfl : known = field := Option.some.inj (hKnown.symm.trans hField)
      rw [any_eq_false_iff.mp hNew, List.lookup_cons_self]
      exact valuesAt_cons_self k text [] ▸ .once hValue
    · rw [List.lookup_cons, beq_false_of_ne (Ne.symm hKey)]
      exact valuesAt_cons_ne hKey text [] ▸ .nothing _
  | @other k text hOther _ =>
    have hKey : k ≠ key := by
      rintro rfl
      rw [hOther] at hField
      cases hField
    exact valuesAt_cons_ne hKey text [] ▸ .nothing _

variable {seen found : Members} {members : List (String × List UInt8)}

theorem valuesAt_cons (key : String) (m : String × List UInt8)
    (members : List (String × List UInt8)) :
    valuesAt key (m :: members) = valuesAt key [m] ++ valuesAt key members := by
  rw [valuesAt, List.filter_cons]
  simp only [valuesAt, List.filter_cons, List.filter_nil]
  split <;> rfl

theorem TakesAll.adds (h : TakesAll fields seen members found) (key : String)
    (hKind : (fields.find? (·.key == key)).map (·.kind) = some kind) :
    Adds kind (valuesAt key members) (seen.lookup key) (found.lookup key) := by
  induction h with
  | nil => exact .nothing _
  | @cons _ _ _ m members first _ ih =>
    rw [valuesAt_cons]
    exact (first.adds hKind).trans ih

theorem TakesAll.wellFormed (h : TakesAll fields seen members found) :
    ∀ m ∈ members, WellFormed .value m.2 := by
  induction h with
  | nil => exact nofun
  | cons first _ ih => exact List.forall_mem_cons.mpr ⟨first.wellFormed, ih⟩

/-- Members are taken where each field can add its values. -/
theorem exists_takesAll (hWell : ∀ m ∈ members, WellFormed .value m.2)
    (hAdds : ∀ field ∈ fields, ∃ after,
      Adds field.kind (valuesAt field.key members) (seen.lookup field.key) after) :
    ∃ found, TakesAll fields seen members found := by
  induction members generalizing seen with
  | nil => exact ⟨seen, .nil⟩
  | cons m members ih =>
    obtain ⟨key, text⟩ := m
    obtain ⟨hFirst, hOthers⟩ := List.forall_mem_cons.mp hWell
    cases hFind : fields.find? (·.key == key) with
    | none =>
      have hUnknown : ∀ field ∈ fields, key ≠ field.key := by
        intro field hIn hEq
        exact List.find?_eq_none.mp hFind field hIn (beq_iff_eq.mpr hEq.symm)
      obtain ⟨found, hAll⟩ := ih hOthers fun field hIn =>
        valuesAt_cons_ne (hUnknown field hIn) text members ▸ hAdds field hIn
      exact ⟨found, .cons (.other hFind hFirst) hAll⟩
    | some field =>
      obtain rfl : field.key = key := by simpa using List.find?_some hFind
      obtain ⟨after, hAfter⟩ := hAdds field (List.mem_of_find?_eq_some hFind)
      rw [valuesAt_cons_self] at hAfter
      generalize hBefore : seen.lookup field.key = before at hAfter
      generalize hMore : valuesAt field.key members = more at hAfter
      obtain _ | @⟨_, v, hValue⟩ := hAfter
      have hNext : ∀ other ∈ fields, ∃ after, Adds other.kind (valuesAt other.key members)
          (List.lookup other.key ((field.key, v) :: seen)) after := by
        intro other hIn
        by_cases hKey : field.key = other.key
        · rw [← hKey, hMore]
          exact ⟨_, .nothing _⟩
        · rw [List.lookup_cons, beq_false_of_ne (Ne.symm hKey)]
          exact valuesAt_cons_ne hKey text members ▸ hAdds other hIn
      obtain ⟨found, hAll⟩ := ih hOthers hNext
      exact ⟨found, .cons (.known hFind (any_eq_false_iff.mpr hBefore) hValue) hAll⟩

end Gatehouse.Json
