import Gatehouse.Proofs.Json.Fields

/-! Records of a shape.  A record is read where every member of a field has the text of a value of
the field, no such member comes twice, and the others are well formed; a list is read where it holds
the texts of the fields in order. -/

namespace Gatehouse.Json

open Text Token Skip

/-- A member as it is written: a key between quotes, and the text of its value after a colon. -/
def Member (m : String × List UInt8) (bytes : List UInt8) : Prop :=
  ∃ key before after, Quoted m.1 key ∧ Blank before ∧ Blank after ∧
    bytes = key ++ (before ++ 0x3A :: (after ++ m.2))

/-- What one member adds to the members that have been read. -/
inductive Takes (fields : List Field) : Members → String × List UInt8 → Members → Prop
  | known {seen : Members} {key : String} {field : Field} {v : FieldValue} {text : List UInt8}
      (hField : fields.find? (·.key == key) = some field)
      (hNew : seen.any (·.1 == key) = false) (hValue : FieldText field.kind v text) :
      Takes fields seen (key, text) ((key, v) :: seen)
  | other {seen : Members} {key : String} {text : List UInt8}
      (hField : fields.find? (·.key == key) = none) (hValue : WellFormed .value text) :
      Takes fields seen (key, text) seen

/-- What members add, one after another. -/
inductive TakesAll (fields : List Field) : Members → List (String × List UInt8) → Members → Prop
  | nil {seen : Members} : TakesAll fields seen [] seen
  | cons {seen next found : Members} {m : String × List UInt8}
      {members : List (String × List UInt8)} (first : Takes fields seen m next)
      (rest : TakesAll fields next members found) : TakesAll fields seen (m :: members) found

/-! ### One member -/

variable {fields : List Field} {seen found : Members} {m : String × List UInt8}
  {members : List (String × List UInt8)} {ts : List Token}

theorem Takes.read {before after rest : List UInt8} (h : Takes fields seen m found)
    (hBefore : Blank before) (hAfter : Blank after) (hRest : EndsNumber rest) :
    Reader.member fields seen m.1 (tokens (before ++ 0x3A :: (after ++ (m.2 ++ rest)))) =
      .ok (found, tokens rest) := by
  rw [tokens_blank_append hBefore, tokens_mark (t := .colon) (by decide),
    tokens_blank_append hAfter]
  cases h with
  | known hField hNew hValue =>
    have hRead := hValue.read hRest
    simp [Reader.member, hField, hNew, Reader.colon, hRead]
  | other hField hValue =>
    have hSkip := skip?_append hValue hRest
    simp [Reader.member, hField, Reader.colon, hSkip]

theorem exists_colon {bytes : List UInt8} {ts : List Token}
    (h : Reader.colon (tokens bytes) = .ok ts) :
    ∃ before rest, Blank before ∧ bytes = before ++ 0x3A :: rest ∧ tokens rest = ts := by
  unfold Reader.colon at h
  split at h
  · rename_i left hTokens
    cases h
    exact exists_of_tokens_mark 0x3A (by decide) hTokens
  · cases h

theorem takes_of_member {key : String} {bytes : List UInt8}
    (h : Reader.member fields seen key (tokens bytes) = .ok (found, ts)) :
    ∃ before after text rest, Blank before ∧ Blank after ∧ Takes fields seen (key, text) found ∧
      bytes = before ++ 0x3A :: (after ++ (text ++ rest)) ∧ tokens rest = ts := by
  unfold Reader.member at h
  split at h
  · rename_i field hField
    split at h
    · cases h
    · rename_i hNew
      obtain ⟨afterColon, hColon, h⟩ := Except.bind_ok_iff.mp h
      obtain ⟨⟨v, left⟩, hValue, hFound⟩ := Except.bind_ok_iff.mp h
      cases hFound
      obtain ⟨before, rest, hBefore, rfl, rfl⟩ := exists_colon hColon
      obtain ⟨after, text, rest, hAfter, hText, rfl, hRest⟩ := startsWith_value hValue
      exact ⟨before, after, text, rest, hBefore, hAfter,
        .known hField (Bool.eq_false_iff.mpr hNew) hText, rfl, hRest⟩
  · rename_i hField
    obtain ⟨afterColon, hColon, h⟩ := Except.bind_ok_iff.mp h
    obtain ⟨before, rest, hBefore, rfl, rfl⟩ := exists_colon hColon
    split at h
    · rename_i left hSkip
      cases h
      obtain ⟨after, text, rest, hAfter, hText, rfl, hRest⟩ := startsWith_skip? hSkip
      exact ⟨before, after, text, rest, hBefore, hAfter, .other hField hText, rfl, hRest⟩
    · cases h

/-! ### All members -/

theorem Takes.wellFormed (h : Takes fields seen m found) : WellFormed .value m.2 := by
  cases h with
  | known _ _ hValue => exact hValue.wellFormed
  | other _ hValue => exact hValue

theorem TakesAll.read {text tail : List UInt8} {fuel : Nat}
    (h : TakesAll fields seen (m :: members) found) (hText : Member m text)
    (hTail : Tail .record Member members tail) (rest : List UInt8)
    (hFuel : (tokens (text ++ (tail ++ rest))).length ≤ fuel) :
    Reader.members fields fuel seen (tokens (text ++ (tail ++ rest))) =
      .ok (found, tokens rest) := by
  induction fuel generalizing seen m members text tail with
  | zero =>
    obtain ⟨key, before, after, hKey, -, -, rfl⟩ := hText
    obtain ⟨raw, -, hTokens⟩ := hKey.tokens
    rw [List.append_assoc, hTokens] at hFuel
    cases hFuel
  | succ fuel ih =>
    obtain _ | ⟨first, others⟩ := h
    obtain ⟨key, before, after, hKey, hBefore, hAfter, rfl⟩ := hText
    obtain ⟨raw, hRaw, hTokens⟩ := hKey.tokens
    have hEnd := hTail.endsNumber rest
    have hFirst := first.read hBefore hAfter hEnd
    have hShorter := first.wellFormed.tokens_length hEnd
    simp only [List.append_assoc, List.cons_append] at hFuel ⊢
    rw [hTokens] at hFuel ⊢
    simp only [Reader.members, hRaw, hFirst]
    rw [tokens_blank_append hBefore, tokens_mark (t := .colon) (by decide),
      tokens_blank_append hAfter] at hFuel
    cases hTail with
    | close hSpace =>
      obtain ⟨⟩ := others
      rw [List.append_assoc, tokens_blank_append hSpace, List.singleton_append,
        tokens_mark Frame.record.closing_mem]
      rfl
    | next hSpace hBlank hNext hTail =>
      simp only [List.append_assoc, List.cons_append] at hFuel hShorter ⊢
      rw [tokens_blank_append hSpace, tokens_mark (t := .comma) (by decide),
        tokens_blank_append hBlank] at hShorter ⊢
      refine ih others hNext hTail ?_
      simp only [List.length_cons] at hFuel hShorter
      omega

theorem takesAll_of_members {fuel : Nat} {bytes : List UInt8} {ts rest : List Token}
    (hTokens : tokens bytes = ts) (h : Reader.members fields fuel seen ts = .ok (found, rest)) :
    ∃ m members before text tail left, TakesAll fields seen (m :: members) found ∧ Blank before ∧
      Member m text ∧ Tail .record Member members tail ∧
      bytes = before ++ (text ++ (tail ++ left)) ∧ tokens left = rest := by
  fun_induction Reader.members fields fuel seen ts generalizing bytes with
  | case1 => cases h
  | case2 => cases h
  | case3 fuel seen raw afterKey key hKey next afterMember hMember ih =>
    obtain ⟨before, quoted, left, hBefore, hQuoted, rfl, rfl⟩ := startsWith_quoted hTokens hKey
    obtain ⟨blank, after, text, left, hBlank, hAfter, hTakes, rfl, hLeft⟩ := takes_of_member hMember
    obtain ⟨space, left, hSpace, rfl, hNext⟩ := exists_of_tokens_mark 0x2C (by decide) hLeft
    obtain ⟨m, members, front, other, tail, left, hAll, hFront, hOther, hTail, rfl, hRest⟩ :=
      ih hNext h
    refine ⟨(key, text), m :: members, before, _, _, left, .cons hTakes hAll, hBefore,
      ⟨quoted, blank, after, hQuoted, hBlank, hAfter, rfl⟩, .next hSpace hFront hOther hTail, ?_,
      hRest⟩
    simp
  | case4 fuel seen raw afterKey key hKey next afterMember hMember =>
    cases h
    obtain ⟨before, quoted, left, hBefore, hQuoted, rfl, rfl⟩ := startsWith_quoted hTokens hKey
    obtain ⟨blank, after, text, left, hBlank, hAfter, hTakes, rfl, hLeft⟩ := takes_of_member hMember
    obtain ⟨space, left, hSpace, rfl, hRest⟩ := exists_of_tokens_mark 0x7D (by decide) hLeft
    refine ⟨(key, text), [], before, _, _, left, .cons hTakes .nil, hBefore,
      ⟨quoted, blank, after, hQuoted, hBlank, hAfter, rfl⟩, .close hSpace, ?_, hRest⟩
    simp [Frame.closing]
  | case5 => cases h
  | case6 => cases h

/-! ### Lists of fields -/

/-- Texts of the fields in order, of which the last ones may be left out. -/
inductive Positional : List Field → List (List UInt8) → Members → Prop
  | cut {fields : List Field} (h : fields.all (·.mayBeCut) = true) : Positional fields [] []
  | next {field : Field} {fields : List Field} {v : FieldValue} {text : List UInt8}
      {texts : List (List UInt8)} {found : Members} (hValue : FieldText field.kind v text)
      (rest : Positional fields texts found) :
      Positional (field :: fields) (text :: texts) ((field.key, v) :: found)

theorem elements_cut (isFirst : Bool) (h : fields.all (·.mayBeCut) = true) (rest : List Token) :
    Reader.elements isFirst fields (.closeList :: rest) = .ok ([], rest) := by
  cases fields with
  | nil => rfl
  | cons field fields => rw [Reader.elements, if_pos h]

/-- The fields after the first one are read up to the end of their list. -/
theorem Positional.tail {texts : List (List UInt8)} {tail : List UInt8}
    (h : Positional fields texts found) (hTail : Tail .list Eq texts tail) (rest : List UInt8) :
    Reader.elements false fields (tokens (tail ++ rest)) = .ok (found, tokens rest) := by
  induction h generalizing tail with
  | cut hCut =>
    obtain ⟨hSpace⟩ := hTail
    rw [List.append_assoc, tokens_blank_append hSpace, List.singleton_append,
      tokens_mark Frame.list.closing_mem]
    exact elements_cut false hCut _
  | next hValue hRest ih =>
    obtain _ | ⟨hSpace, hBlank, rfl, hTail⟩ := hTail
    have hRead := hValue.read (hTail.endsNumber rest)
    have hOthers := ih hTail
    simp only [List.append_assoc, List.cons_append]
    rw [tokens_blank_append hSpace, tokens_mark (t := .comma) (by decide),
        tokens_blank_append hBlank]
    simp [Reader.elements, hRead, hOthers]

theorem Positional.read {texts : List (List UInt8)} {text : List UInt8}
    (h : Positional fields texts found) (hText : Enclosed .list Eq texts text) (rest : List UInt8) :
    Reader.record fields (tokens (text ++ rest)) = .ok (found, tokens rest) := by
  cases h with
  | cut hCut =>
    obtain ⟨hInner⟩ := hText
    rw [List.cons_append, tokens_mark Frame.list.opening_mem, List.append_assoc,
      tokens_blank_append hInner, List.singleton_append, tokens_mark Frame.list.closing_mem]
    exact elements_cut true hCut _
  | next hValue hRest =>
    obtain _ | ⟨hBlank, rfl, hTail⟩ := hText
    have hEnd := hTail.endsNumber rest
    have hRead := hValue.read hEnd
    have hOthers := hRest.tail hTail rest
    obtain ⟨t, ts, hTokens, hNotClose⟩ := hValue.wellFormed.exists_first hEnd
    rw [List.cons_append, tokens_mark Frame.list.opening_mem, List.append_assoc,
      tokens_blank_append hBlank, List.append_assoc]
    have hNot : t ≠ .closeList := hNotClose .list
    change Reader.elements true (_ :: _) _ = _
    rw [hTokens] at hRead ⊢
    rw [Reader.elements]
    · simp [hRead, hOthers]
    · simpa using hNot

/-- Where a list of fields is read, it ends, or the next field has a value. -/
theorem elements_eq_ok {isFirst : Bool} {ts rest : List Token}
    (h : Reader.elements isFirst fields ts = .ok (found, rest)) :
    (ts = .closeList :: rest ∧ found = [] ∧ fields.all (·.mayBeCut) = true) ∨
      ∃ field others v start left more, fields = field :: others ∧
        (if isFirst then ts = start else ts = .comma :: start) ∧
        Reader.value field.kind start = .ok (v, left) ∧
        Reader.elements false others left = .ok (more, rest) ∧ found = (field.key, v) :: more := by
  unfold Reader.elements at h
  split at h
  · cases h
    exact .inl ⟨rfl, rfl, rfl⟩
  · cases h
  · split at h
    · rename_i hCut
      cases h
      exact .inl ⟨rfl, rfl, hCut⟩
    · cases h
  · rename_i field others hNotClose
    dsimp only at h
    split at h
    · obtain ⟨start, hStart, h⟩ := Except.bind_ok_iff.mp h
      cases hStart
      obtain ⟨⟨v, left⟩, hValue, h⟩ := Except.bind_ok_iff.mp h
      obtain ⟨⟨more, last⟩, hMore, hFound⟩ := Except.bind_ok_iff.mp h
      cases hFound
      exact .inr ⟨field, others, v, _, left, more, rfl, rfl, hValue, hMore, rfl⟩
    · obtain ⟨start, hStart, h⟩ := Except.bind_ok_iff.mp h
      cases hStart
      obtain ⟨⟨v, left⟩, hValue, h⟩ := Except.bind_ok_iff.mp h
      obtain ⟨⟨more, last⟩, hMore, hFound⟩ := Except.bind_ok_iff.mp h
      cases hFound
      exact .inr ⟨field, others, v, _, left, more, rfl, rfl, hValue, hMore, rfl⟩
    · cases h

theorem positional_of_elements {bytes : List UInt8}
    (h : Reader.elements false fields (tokens bytes) = .ok (found, ts)) :
    ∃ texts tail rest, Positional fields texts found ∧ Tail .list Eq texts tail ∧
      bytes = tail ++ rest ∧ tokens rest = ts := by
  have hEnds {fields : List Field} {bytes : List UInt8} (hCut : fields.all (·.mayBeCut) = true)
      (hTokens : tokens bytes = .closeList :: ts) :
      ∃ texts tail rest, Positional fields texts [] ∧ Tail .list Eq texts tail ∧
        bytes = tail ++ rest ∧ tokens rest = ts := by
    obtain ⟨space, rest, hSpace, rfl, hRest⟩ := exists_of_tokens_mark 0x5D (by decide) hTokens
    exact ⟨[], _, rest, .cut hCut, .close hSpace, by simp [Frame.closing], hRest⟩
  induction fields generalizing bytes found with
  | nil =>
    rcases elements_eq_ok h with ⟨hTokens, rfl, hCut⟩ |
      ⟨field, others, v, start, left, more, hCons, -⟩
    · exact hEnds hCut hTokens
    · cases hCons
  | cons field fields ih =>
    rcases elements_eq_ok h with ⟨hTokens, rfl, hCut⟩ |
      ⟨_, _, v, start, left, more, hCons, hStart, hValue, hMore, rfl⟩
    · exact hEnds hCut hTokens
    · cases hCons
      obtain ⟨space, afterComma, hSpace, rfl, rfl⟩ :=
        exists_of_tokens_mark 0x2C (by decide) hStart
      obtain ⟨before, text, afterText, hBefore, hText, rfl, rfl⟩ := startsWith_value hValue
      obtain ⟨texts, tail, rest, hTexts, hTail, rfl, hRest⟩ := ih hMore
      exact ⟨text :: texts, _, rest, .next hText hTexts, .next hSpace hBefore rfl hTail, by simp,
        hRest⟩

/-! ### Both forms -/

/-- A text with what it gives for fields. -/
inductive Gives (fields : List Field) (found : Members) (text : List UInt8) : Prop
  | record {members : List (String × List UInt8)} (hText : Enclosed .record Member members text)
      (hAll : TakesAll fields [] members found)
  | list {texts : List (List UInt8)} (hText : Enclosed .list Eq texts text)
      (hAll : Positional fields texts found)

/-- What is read as a record is the text of a record or of a list. -/
theorem startsWith_record {bytes : List UInt8}
    (h : Reader.record fields (tokens bytes) = .ok (found, ts)) :
    StartsWith (Gives fields found) bytes ts := by
  unfold Reader.record at h
  split at h
  · rename_i left hTokens
    cases h
    obtain ⟨before, inside, hBefore, rfl, hInside⟩ := exists_of_tokens_mark 0x7B (by decide) hTokens
    obtain ⟨inner, rest, hInner, rfl, hRest⟩ := exists_of_tokens_mark 0x7D (by decide) hInside
    exact ⟨before, _, rest, hBefore, .record (.empty hInner) .nil,
      by simp [Frame.opening, Frame.closing], hRest⟩
  · rename_i left hNotEmpty hTokens
    obtain ⟨before, inside, hBefore, rfl, hInside⟩ := exists_of_tokens_mark 0x7B (by decide) hTokens
    obtain ⟨m, members, blank, text, tail, rest, hAll, hBlank, hMember, hTail, rfl, hRest⟩ :=
      takesAll_of_members hInside h
    exact ⟨before, _, rest, hBefore, .record (.items hBlank hMember hTail) hAll,
      by simp [Frame.opening], hRest⟩
  · rename_i left hTokens
    obtain ⟨before, rest, hBefore, rfl, rfl⟩ := exists_of_tokens_mark 0x5B (by decide) hTokens
    rcases elements_eq_ok h with ⟨hTokens, rfl, hCut⟩ |
      ⟨field, others, v, start, left, more, rfl, hStart, hValue, hMore, rfl⟩
    · obtain ⟨inner, rest, hInner, rfl, hRest⟩ := exists_of_tokens_mark 0x5D (by decide) hTokens
      exact ⟨before, _, rest, hBefore, .list (.empty hInner) (.cut hCut),
        by simp [Frame.opening, Frame.closing], hRest⟩
    · obtain rfl : tokens rest = start := hStart
      obtain ⟨blank, text, afterText, hBlank, hText, rfl, rfl⟩ := startsWith_value hValue
      obtain ⟨texts, tail, rest, hTexts, hTail, rfl, hRest⟩ := positional_of_elements hMore
      exact ⟨before, _, rest, hBefore, .list (.items hBlank rfl hTail) (.next hText hTexts),
        by simp [Frame.opening], hRest⟩
  · cases h

theorem TakesAll.record {text : List UInt8} (h : TakesAll fields [] members found)
    (hText : Enclosed .record Member members text) (rest : List UInt8) :
    Reader.record fields (tokens (text ++ rest)) = .ok (found, tokens rest) := by
  cases hText with
  | empty hInner =>
    obtain ⟨⟩ := h
    rw [List.cons_append, tokens_mark Frame.record.opening_mem, List.append_assoc,
      tokens_blank_append hInner, List.singleton_append, tokens_mark Frame.record.closing_mem]
    rfl
  | items hBlank hMember hTail =>
    have hRead := h.read hMember hTail rest le_rfl
    obtain ⟨key, before, after, hKey, -, -, rfl⟩ := hMember
    obtain ⟨raw, -, hTokens⟩ := hKey.tokens
    rw [List.cons_append, tokens_mark Frame.record.opening_mem, List.append_assoc,
      tokens_blank_append hBlank, List.append_assoc]
    simp only [List.append_assoc] at hRead ⊢
    rw [hTokens] at hRead ⊢
    exact hRead

/-- A whole text, with blanks around it. -/
def Alone (P : List UInt8 → Prop) (bytes : List UInt8) : Prop :=
  ∃ before text after, Blank before ∧ Blank after ∧ bytes = before ++ (text ++ after) ∧ P text

theorem alone_congr {P Q : List UInt8 → Prop} (h : ∀ text, P text ↔ Q text) {bytes : List UInt8} :
    Alone P bytes ↔ Alone Q bytes := by
  simp only [Alone, h]

/-- A shape is read from exactly these texts. -/
theorem read_eq_ok_iff {α : Type} {shape : Shape α} {bytes : List UInt8} {a : α} :
    shape.read bytes = .ok a ↔
      Alone (fun text => ∃ found, Gives shape.fields found text ∧ shape.build? found = some a)
        bytes := by
  constructor
  · intro h
    obtain ⟨⟨found, rest⟩, hRecord, h⟩ := Except.bind_ok_iff.mp h
    obtain ⟨before, text, after, hBefore, hText, hBytes, hAfter⟩ := startsWith_record hRecord
    dsimp only at h
    split at h
    · cases h
    · rename_i hBuild
      split at h
      · rename_i hEnd
        cases h
        rw [List.isEmpty_iff.mp hEnd] at hAfter
        exact ⟨before, text, after, hBefore, blank_of_tokens hAfter, hBytes, found, hText, hBuild⟩
      · cases h
  · rintro ⟨before, text, after, hBefore, hAfter, rfl, found, hText, hBuild⟩
    have hRecord : Reader.record shape.fields (tokens (before ++ (text ++ after))) =
        .ok (found, []) := by
      rw [tokens_blank_append hBefore, ← tokens_of_blank hAfter]
      cases hText with
      | record hEnclosed hAll => exact hAll.record hEnclosed after
      | list hEnclosed hAll => exact hAll.read hEnclosed after
    simp [Shape.read, hRecord, hBuild, bind, Except.bind, pure, Except.pure]

/-- Blanks after a text make no difference to what is read. -/
theorem read_append_blank {α : Type} {shape : Shape α} {bytes blanks : List UInt8} {a : α}
    (h : shape.read bytes = .ok a) (hBlank : Blank blanks) :
    shape.read (bytes ++ blanks) = .ok a := by
  obtain ⟨before, text, after, hBefore, hAfter, rfl, hText⟩ := read_eq_ok_iff.mp h
  refine read_eq_ok_iff.mpr ⟨before, text, after ++ blanks, hBefore, ?_, ?_, hText⟩
  · exact List.forall_mem_append.mpr ⟨hAfter, hBlank⟩
  · simp only [List.append_assoc]

end Gatehouse.Json
