import Gatehouse.Proofs.Json.Grammar

/-! Passing over values.  The machine passes over a well-formed value whatever frames are open
around it, and it passes over nothing else: what it has read completes its state. -/

namespace Gatehouse.Json

open Token Skip

namespace Form

/-- What may come where an item of a form must stand. -/
def expect : Form → Expect
  | .value => .value
  | .member => .key

end Form

/-! ### Every value is passed over -/

theorem run_scalar {t : Token} (h : IsScalar t) (frames : List Frame) (ts : List Token) :
    run .value frames (t :: ts) = run .next frames ts := by
  cases h <;> rfl

theorem run_open (frame : Frame) (frames : List Frame) (ts : List Token) :
    run .value frames (frame.openToken :: ts) = run frame.first (frame :: frames) ts := by
  cases frame <;> rfl

theorem run_close_first (frame : Frame) (frames : List Frame) (ts : List Token) :
    run frame.first (frame :: frames) (frame.closeToken :: ts) = run .next frames ts := by
  cases frame <;> rfl

theorem run_close (frame : Frame) (frames : List Frame) (ts : List Token) :
    run .next (frame :: frames) (frame.closeToken :: ts) = run .next frames ts := by
  cases frame <;> rfl

theorem run_comma (frame : Frame) (frames : List Frame) (ts : List Token) :
    run .next (frame :: frames) (.comma :: ts) = run frame.form.expect (frame :: frames) ts := by
  cases frame <;> rfl

theorem run_key (frames : List Frame) (raw : List UInt8) (ts : List Token) :
    run .key frames (.text raw :: .colon :: ts) = run .value frames ts := rfl

/-- The first item of a frame is read as the others are. -/
theorem run_first {frame : Frame} {frames : List Frame} {t : Token} (h : t ≠ frame.closeToken)
    (ts : List Token) :
    run frame.first (frame :: frames) (t :: ts) =
      run frame.form.expect (frame :: frames) (t :: ts) := by
  cases frame <;> cases t <;> first | rfl | exact absurd rfl h

section Passing

/-- Passing over an octet sequence where an item of a form must stand leads to its end. -/
def Passes (form : Form) (text : List UInt8) : Prop :=
  ∀ (frames : List Frame) (rest : List UInt8), EndsNumber rest →
    run form.expect frames (tokens (text ++ rest)) = run .next frames (tokens rest)

theorem Tail.run {frame : Frame} {items : List (List UInt8)} {tail : List UInt8}
    (h : Tail frame Eq items tail) (hItems : ∀ item ∈ items, Passes frame.form item)
    (frames : List Frame) (rest : List UInt8) :
    run .next (frame :: frames) (tokens (tail ++ rest)) = run .next frames (tokens rest) := by
  induction h with
  | close hAfter =>
    rw [List.append_assoc, tokens_blank_append hAfter, List.singleton_append,
      tokens_mark frame.closing_mem, run_close]
  | next hAfter hBefore hItem hTail ih =>
    subst hItem
    obtain ⟨hFirst, hOthers⟩ := List.forall_mem_cons.mp hItems
    rw [List.append_assoc, tokens_blank_append hAfter, List.cons_append,
      tokens_mark (t := .comma) (by decide), run_comma, List.append_assoc,
      tokens_blank_append hBefore, List.append_assoc, hFirst _ _ (hTail.endsNumber rest),
      ih hOthers]

theorem WellFormed.passes {form : Form} {text : List UInt8} (h : WellFormed form text) :
    Passes form text := by
  induction h with
  | scalar hScalar hText =>
    intro frames rest hRest
    rw [tokens_scalar hScalar hText hRest]
    exact run_scalar hScalar frames _
  | @enclosed frame items text hText hItems ih =>
    intro frames rest hRest
    cases hText with
    | empty hInner =>
      rw [List.cons_append, List.append_assoc, tokens_mark frame.opening_mem,
        tokens_blank_append hInner, List.singleton_append, tokens_mark frame.closing_mem]
      exact (run_open frame frames _).trans (run_close_first frame frames _)
    | @items _ items before text tail hBefore hItem hTail =>
      subst hItem
      obtain ⟨hFirst, hOthers⟩ := List.forall_mem_cons.mp ih
      have hEnd := hTail.endsNumber rest
      obtain ⟨t, ts, hTokens, hNotClose⟩ := (hItems _ List.mem_cons_self).exists_first hEnd
      rw [List.cons_append, tokens_mark frame.opening_mem, List.append_assoc,
        tokens_blank_append hBefore, List.append_assoc]
      refine (run_open frame frames _).trans ?_
      rw [hTokens, run_first (hNotClose frame), ← hTokens, hFirst _ _ hEnd, hTail.run hOthers]
  | member hKey hBefore hAfter hValue ih =>
    intro frames rest hRest
    rw [List.cons_append, List.append_assoc, List.cons_append, tokens_scanned hKey,
      List.append_assoc, tokens_blank_append hBefore, List.cons_append,
      tokens_mark (t := .colon) (by decide), List.append_assoc, tokens_blank_append hAfter]
    exact (run_key frames _ _).trans (ih frames rest hRest)

theorem skip?_append {text rest : List UInt8} (h : WellFormed .value text)
    (hRest : EndsNumber rest) : skip? (tokens (text ++ rest)) = some (tokens rest) :=
  (h.passes [] rest hRest).trans (by cases tokens rest <;> rfl)

theorem run_length {expect : Expect} {frames : List Frame} {ts rest : List Token}
    (h : run expect frames ts = some rest) : rest.length ≤ ts.length := by
  fun_induction run expect frames ts with
  | case1 ts =>
    cases h
    exact Nat.le_refl _
  | case2 => cases h
  | case3 expect frames t ts expect' frames' hNotDone hStep ih => exact Nat.le_succ_of_le (ih h)
  | case4 => cases h

theorem WellFormed.tokens_length {text rest : List UInt8} (h : WellFormed .value text)
    (hRest : EndsNumber rest) : (tokens rest).length ≤ (tokens (text ++ rest)).length :=
  run_length (skip?_append h hRest)

end Passing

/-! ### Only values are passed over -/

/-- What ends all frames that are open. -/
def Closes : List Frame → List UInt8 → Prop
  | [], bytes => bytes = []
  | frame :: frames, bytes =>
    ∃ items tail rest, Tail frame Eq items tail ∧ (∀ item ∈ items, WellFormed frame.form item) ∧
      bytes = tail ++ rest ∧ Closes frames rest

/-- An item of a form, and what ends all frames that are open. -/
def Begins (form : Form) (frames : List Frame) (bytes : List UInt8) : Prop :=
  ∃ before text rest, Blank before ∧ WellFormed form text ∧ bytes = before ++ (text ++ rest) ∧
    Closes frames rest

/-- The end of the innermost frame, and what ends the others. -/
def Ends (frame : Frame) (frames : List Frame) (bytes : List UInt8) : Prop :=
  ∃ before rest, Blank before ∧ bytes = before ++ frame.closing :: rest ∧ Closes frames.tail rest

/-- The octets complete a state of the machine. -/
def Completes : Expect → List Frame → List UInt8 → Prop
  | .value, frames, bytes => Begins .value frames bytes
  | .key, frames, bytes => Begins .member frames bytes
  | .firstItem, frames, bytes => Ends .list frames bytes ∨ Begins .value frames bytes
  | .firstKey, frames, bytes => Ends .record frames bytes ∨ Begins .member frames bytes
  | .colon, frames, bytes =>
    ∃ before rest, Blank before ∧ bytes = before ++ 0x3A :: rest ∧ Begins .value frames rest
  | .next, frames, bytes => Closes frames bytes

theorem completes_first_iff {frame : Frame} {frames : List Frame} {bytes : List UInt8} :
    Completes frame.first frames bytes ↔
      Ends frame frames bytes ∨ Begins frame.form frames bytes := by
  cases frame <;> rfl

theorem completes_expect_iff {form : Form} {frames : List Frame} {bytes : List UInt8} :
    Completes form.expect frames bytes ↔ Begins form frames bytes := by
  cases form <;> rfl

/-- The states in which a value may begin. -/
inductive AwaitsValue : Expect → Prop
  | value : AwaitsValue .value
  | firstItem : AwaitsValue .firstItem

/-- The states in which a key may stand. -/
inductive AwaitsKey : Expect → Prop
  | key : AwaitsKey .key
  | firstKey : AwaitsKey .firstKey

/-- All that a step can do. -/
inductive Stepped : List Frame → Expect → Token → Expect → List Frame → Prop
  | scalar {frames : List Frame} {expect : Expect} {t : Token} (h : AwaitsValue expect)
      (hScalar : IsScalar t) : Stepped frames expect t .next frames
  | opened {frames : List Frame} {expect : Expect} (frame : Frame) (h : AwaitsValue expect) :
      Stepped frames expect frame.openToken frame.first (frame :: frames)
  | empty {frames : List Frame} (frame : Frame) :
      Stepped frames frame.first frame.closeToken .next frames.tail
  | closed {frames : List Frame} (frame : Frame) :
      Stepped (frame :: frames) .next frame.closeToken .next frames
  | comma {frames : List Frame} (frame : Frame) :
      Stepped (frame :: frames) .next .comma frame.form.expect (frame :: frames)
  | key {frames : List Frame} {expect : Expect} (raw : List UInt8) (h : AwaitsKey expect) :
      Stepped frames expect (.text raw) .colon frames
  | colon {frames : List Frame} : Stepped frames .colon .colon .value frames

theorem stepped_of_step {frames frames' : List Frame} {expect expect' : Expect} {t : Token}
    (h : step frames expect t = some (expect', frames')) :
    Stepped frames expect t expect' frames' := by
  unfold step at h
  split at h
  · cases h
    exact .opened .list .value
  · cases h
    exact .opened .list .firstItem
  · cases h
    exact .opened .record .value
  · cases h
    exact .opened .record .firstItem
  · cases h
    exact .scalar .value .null
  · cases h
    exact .scalar .firstItem .null
  · cases h
    exact .scalar .value (.bool _)
  · cases h
    exact .scalar .firstItem (.bool _)
  · cases h
    exact .scalar .value (.number _)
  · cases h
    exact .scalar .firstItem (.number _)
  · cases h
    exact .scalar .value (.text _)
  · cases h
    exact .scalar .firstItem (.text _)
  · cases h
    exact .empty .list
  · cases h
    exact .empty .record
  · cases h
    exact .key _ .firstKey
  · cases h
    exact .key _ .key
  · cases h
    exact .colon
  · split at h
    · cases h
      exact .comma .list
    · cases h
      exact .comma .record
    · cases h
  · split at h
    · cases h
      exact .closed .list
    · cases h
  · split at h
    · cases h
      exact .closed .record
    · cases h
  · cases h

theorem not_malformed_of_stepped {frames frames' : List Frame} {expect expect' : Expect} {t : Token}
    (h : Stepped frames expect t expect' frames') : t ≠ .malformed := by
  cases h with
  | scalar _ hScalar => cases hScalar <;> nofun
  | opened frame | empty frame | closed frame => cases frame <;> nofun
  | comma | key | colon => nofun

section Steps

variable {frame : Frame} {frames frames' : List Frame} {expect expect' : Expect} {t : Token}
  {before text bytes : List UInt8}

theorem completes_of_awaitsValue (h : AwaitsValue expect) (hBegins : Begins .value frames bytes) :
    Completes expect frames bytes := by
  cases h with
  | value => exact hBegins
  | firstItem => exact .inr hBegins

theorem completes_of_awaitsKey (h : AwaitsKey expect) (hBegins : Begins .member frames bytes) :
    Completes expect frames bytes := by
  cases h with
  | key => exact hBegins
  | firstKey => exact .inr hBegins

/-- What completes a frame that has just been opened makes a value of it. -/
theorem begins_of_first (hBefore : Blank before)
    (h : Completes frame.first (frame :: frames) bytes) :
    Begins .value frames (before ++ frame.opening :: bytes) := by
  rcases completes_first_iff.mp h with ⟨inner, rest, hInner, rfl, hRest⟩ |
    ⟨blank, text, rest, hBlank, hText, rfl, items, tail, left, hTail, hItems, rfl, hLeft⟩
  · have hEmpty : WellFormed .value (frame.opening :: (inner ++ [frame.closing])) :=
      .enclosed (.empty hInner) nofun
    exact ⟨before, _, rest, hBefore, hEmpty, by simp, hRest⟩
  · have hValue : WellFormed .value (frame.opening :: (blank ++ (text ++ tail))) :=
      .enclosed (.items hBlank rfl hTail) (List.forall_mem_cons.mpr ⟨hText, hItems⟩)
    exact ⟨before, _, left, hBefore, hValue, by simp, hLeft⟩

theorem closes_of_comma (hBefore : Blank before) (h : Begins frame.form (frame :: frames) bytes) :
    Closes (frame :: frames) (before ++ 0x2C :: bytes) := by
  obtain ⟨blank, text, rest, hBlank, hText, rfl, items, tail, left, hTail, hItems, rfl, hLeft⟩ := h
  exact ⟨text :: items, _, left, .next hBefore hBlank rfl hTail,
    List.forall_mem_cons.mpr ⟨hText, hItems⟩, by simp, hLeft⟩

theorem begins_of_key {raw : List UInt8} (hBefore : Blank before) (hKey : Scanned raw)
    (h : Completes .colon frames bytes) :
    Begins .member frames (before ++ (0x22 :: (raw ++ [0x22]) ++ bytes)) := by
  obtain ⟨blank, rest, hBlank, rfl, after, text, left, hAfter, hText, rfl, hLeft⟩ := h
  exact ⟨before, _, left, hBefore, .member hKey hBlank hAfter hText, by simp, hLeft⟩

/-- A token in front of what completes the next state completes the state before it. -/
theorem completes_of_stepped (h : Stepped frames expect t expect' frames') (hBefore : Blank before)
    (hText : Lexeme t text) (hNext : Completes expect' frames' bytes) :
    Completes expect frames (before ++ (text ++ bytes)) := by
  cases h with
  | scalar he hScalar =>
    have hValue : WellFormed .value text := .scalar hScalar hText
    exact completes_of_awaitsValue he ⟨before, text, bytes, hBefore, hValue, rfl, hNext⟩
  | opened frame he =>
    rw [eq_singleton_of_mark frame.opening_mem hText]
    exact completes_of_awaitsValue he (begins_of_first hBefore hNext)
  | empty frame =>
    rw [eq_singleton_of_mark frame.closing_mem hText]
    exact completes_first_iff.mpr (.inl ⟨before, bytes, hBefore, rfl, hNext⟩)
  | closed frame =>
    rw [eq_singleton_of_mark frame.closing_mem hText]
    exact ⟨[], _, bytes, .close hBefore, nofun, by simp, hNext⟩
  | comma frame =>
    have hComma : (0x2C, Token.comma) ∈ marks := by decide
    rw [eq_singleton_of_mark hComma hText]
    exact closes_of_comma hBefore (completes_expect_iff.mp hNext)
  | key raw he =>
    cases hText with
    | mark h => simp [marks] at h
    | word h => simp [words] at h
    | text hKey => exact completes_of_awaitsKey he (begins_of_key hBefore hKey hNext)
  | colon =>
    have hColon : (0x3A, Token.colon) ∈ marks := by decide
    rw [eq_singleton_of_mark hColon hText]
    exact ⟨before, bytes, hBefore, rfl, hNext⟩

end Steps

/-- What the machine reads on its way to the end of a value completes the state it starts in. -/
theorem completes_of_run {frames : List Frame} {expect : Expect} {ts rest : List Token}
    {bytes : List UInt8} (hTokens : tokens bytes = ts) (h : run expect frames ts = some rest) :
    ∃ text left, bytes = text ++ left ∧ tokens left = rest ∧ Completes expect frames text := by
  fun_induction run expect frames ts generalizing bytes with
  | case1 ts =>
    cases h
    exact ⟨[], bytes, rfl, hTokens, rfl⟩
  | case2 => cases h
  | case3 expect frames t ts expect' frames' hNotDone hStep ih =>
    have hStepped := stepped_of_step hStep
    obtain ⟨before, text, left, hBefore, hText, rfl, hLeft⟩ :=
      startsWith_lexeme hTokens (not_malformed_of_stepped hStepped)
    obtain ⟨more, rest, rfl, hRest, hMore⟩ := ih hLeft h
    exact ⟨_, rest, by simp, hRest, completes_of_stepped hStepped hBefore hText hMore⟩
  | case4 => cases h

theorem startsWith_skip? {bytes : List UInt8} {rest : List Token}
    (h : skip? (tokens bytes) = some rest) : StartsWith (WellFormed .value) bytes rest := by
  obtain ⟨_, left, rfl, hLeft, before, text, closing, hBefore, hText, rfl, hClosing⟩ :=
    completes_of_run rfl h
  obtain rfl : closing = [] := hClosing
  exact ⟨before, text, left, hBefore, hText, by simp, hLeft⟩

end Gatehouse.Json
