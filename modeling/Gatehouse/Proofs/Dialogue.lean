import Gatehouse.Dialogue

/-! What a dialogue asks and what it ends with.  `asked` keeps the questions of one run in order,
and `transcript` those that are answered, with their answers.  `Ends` says something of every result
that a dialogue can come to, whatever answers it is given, and `Asks` of every question; `StopsAt`
says after which answers nothing more is asked, and `Hangs` that the last question was in vain. -/

namespace Gatehouse.Dialogue

variable {Question : Type} {Answer : Question → Type} {α β σ : Type}

theorem bind_assoc {γ : Type} (d : Dialogue Question Answer α) (f : α → Dialogue Question Answer β)
    (g : β → Dialogue Question Answer γ) : (d.bind f).bind g = d.bind fun a => (f a).bind g := by
  induction d with
  | done a => rfl
  | ask q next ih => exact congrArg (ask q) (funext ih)

section Asked

variable (respond : (q : Question) → σ → Option (Answer q) × σ)

/-- The questions that a dialogue asks, in order.  The last one may be left without an answer. -/
def asked : Dialogue Question Answer α → σ → List Question
  | done _, _ => []
  | ask q next, s =>
    match respond q s with
    | (some a, s) => q :: (next a).asked s
    | (none, _) => [q]

theorem asked_bind (d : Dialogue Question Answer α) (f : α → Dialogue Question Answer β) (s : σ) :
    (d.bind f).asked respond s =
      d.asked respond s ++
        match d.run respond s with
        | (some a, s) => (f a).asked respond s
        | (none, _) => [] := by
  induction d generalizing s with
  | done a => rfl
  | ask q next ih =>
    simp only [bind, asked, run]
    cases respond q s with
    | mk answer s =>
      cases answer with
      | none => rfl
      | some a => simp only [ih, List.cons_append]

@[simp] theorem asked_map (d : Dialogue Question Answer α) (f : α → β) (s : σ) :
    (d.bind fun a => done (f a)).asked respond s = d.asked respond s := by
  rw [asked_bind]
  cases d.run respond s with
  | mk result s => cases result <;> simp [asked]

theorem run_map (d : Dialogue Question Answer α) (f : α → β) (s : σ) :
    ((d.bind fun a => done (f a)).run respond s).1 = (d.run respond s).1.map f := by
  rw [run_bind]
  cases d.run respond s with
  | mk result s => cases result <;> rfl

/-- A single question is all that is asked if nothing comes after the answer. -/
theorem asked_question (q : Question) (f : Answer q → Dialogue Question Answer β) (s : σ)
    (h : ∀ a, ∃ b, f a = done b) : ((question q).bind f).asked respond s = [q] := by
  simp only [question, bind, asked]
  cases respond q s with
  | mk answer s =>
    cases answer with
    | none => rfl
    | some a =>
      obtain ⟨b, hb⟩ := h a
      simp only [hb, asked]

end Asked

/-- Every result that the dialogue can come to has the property. -/
def Ends (P : α → Prop) : Dialogue Question Answer α → Prop
  | done a => P a
  | ask _ next => ∀ a, (next a).Ends P

theorem Ends.bind {P : α → Prop} {Q : β → Prop} {d : Dialogue Question Answer α}
    {f : α → Dialogue Question Answer β} (h : d.Ends P) (hf : ∀ a, P a → (f a).Ends Q) :
    (d.bind f).Ends Q := by
  induction d with
  | done a => exact hf a h
  | ask q next ih => exact fun a => ih a (h a)

theorem Ends.imp {P Q : α → Prop} {d : Dialogue Question Answer α} (h : d.Ends P)
    (hImp : ∀ a, P a → Q a) : d.Ends Q := by
  induction d with
  | done a => exact hImp a h
  | ask q next ih => exact fun a => ih a (h a)

theorem ends_true (d : Dialogue Question Answer α) : d.Ends fun _ => True := by
  induction d with
  | done a => trivial
  | ask q next ih => exact ih

theorem Ends.run {P : α → Prop} {d : Dialogue Question Answer α} (h : d.Ends P)
    (respond : (q : Question) → σ → Option (Answer q) × σ) {s : σ} {a : α}
    (hRun : (d.run respond s).1 = some a) : P a := by
  induction d generalizing s with
  | done b =>
    cases hRun
    exact h
  | ask q next ih =>
    simp only [Dialogue.run] at hRun
    cases hAnswer : respond q s with
    | mk answer s =>
      rw [hAnswer] at hRun
      cases answer with
      | none => cases hRun
      | some answer => exact ih answer (h answer) hRun

/-- Every question that the dialogue can come to has the property. -/
def Asks (P : Question → Prop) : Dialogue Question Answer α → Prop
  | done _ => True
  | ask q next => P q ∧ ∀ a, (next a).Asks P

theorem Asks.bind {P : Question → Prop} {d : Dialogue Question Answer α}
    {f : α → Dialogue Question Answer β} (h : d.Asks P) (hf : ∀ a, (f a).Asks P) :
    (d.bind f).Asks P := by
  induction d with
  | done a => exact hf a
  | ask q next ih =>
    obtain ⟨hFirst, hNext⟩ := h
    exact ⟨hFirst, fun a => ih a (hNext a)⟩

theorem Asks.asked {P : Question → Prop} {d : Dialogue Question Answer α} (h : d.Asks P)
    (respond : (q : Question) → σ → Option (Answer q) × σ) (s : σ) :
    ∀ q ∈ d.asked respond s, P q := by
  induction d generalizing s with
  | done a => exact fun q hq => nomatch hq
  | ask q next ih =>
    obtain ⟨hFirst, hNext⟩ := h
    simp only [Dialogue.asked]
    cases respond q s with
    | mk answer s =>
      cases answer with
      | none => exact List.forall_mem_cons.mpr ⟨hFirst, nofun⟩
      | some a => exact List.forall_mem_cons.mpr ⟨hFirst, ih a (hNext a) s⟩

section Transcripts

variable (respond : (q : Question) → σ → Option (Answer q) × σ)

/-- The questions of one run that are answered, in order, with their answers. -/
def transcript : Dialogue Question Answer α → σ → List ((q : Question) × Answer q)
  | done _, _ => []
  | ask q next, s =>
    match respond q s with
    | (some a, s) => ⟨q, a⟩ :: (next a).transcript s
    | (none, _) => []

@[simp] theorem transcript_map (d : Dialogue Question Answer α) (f : α → β) (s : σ) :
    (d.bind fun a => done (f a)).transcript respond s = d.transcript respond s := by
  induction d generalizing s with
  | done a => rfl
  | ask q next ih =>
    simp only [bind, transcript]
    cases respond q s with
    | mk answer s =>
      cases answer with
      | none => rfl
      | some a => simp only [ih]

/-- In a run that comes to a result every question is answered. -/
theorem asked_of_run {d : Dialogue Question Answer α} {s : σ} {b : α}
    (h : (d.run respond s).1 = some b) :
    d.asked respond s = (d.transcript respond s).map Sigma.fst := by
  induction d generalizing s with
  | done a => rfl
  | ask q next ih =>
    simp only [run, asked, transcript] at h ⊢
    cases hAnswer : respond q s with
    | mk answer s =>
      rw [hAnswer] at h
      cases answer with
      | none => cases h
      | some a => exact congrArg _ (ih a h)

/-- The last question of the run is left without an answer. -/
def Hangs (d : Dialogue Question Answer α) (s : σ) : Prop :=
  ∃ q, d.asked respond s = (d.transcript respond s).map Sigma.fst ++ [q]

/-- A run comes to a result unless it hangs. -/
theorem run_eq_none_iff {d : Dialogue Question Answer α} {s : σ} :
    (d.run respond s).1 = none ↔ d.Hangs respond s := by
  induction d generalizing s with
  | done a => simp [run, Hangs, asked]
  | ask q next ih =>
    simp only [run, Hangs, asked, transcript]
    cases respond q s with
    | mk answer s =>
      cases answer with
      | none => simp
      | some a => simpa [Hangs] using ih a

end Transcripts

/-- After an answer of this kind the dialogue is done, with a result that fits the answer. -/
def StopsAt (kind : (q : Question) → Answer q → Prop)
    (fits : (q : Question) → Answer q → α → Prop) : Dialogue Question Answer α → Prop
  | done _ => True
  | ask q next =>
    ∀ a, (kind q a → ∃ b, next a = done b ∧ fits q a b) ∧ (next a).StopsAt kind fits

/-- An answer of the kind is the last one in a run, and decides the result. -/
theorem StopsAt.last {kind : (q : Question) → Answer q → Prop}
    {fits : (q : Question) → Answer q → α → Prop} {d : Dialogue Question Answer α}
    (h : d.StopsAt kind fits) (respond : (q : Question) → σ → Option (Answer q) × σ)
    {s : σ} {q : Question} {a : Answer q} (hMem : ⟨q, a⟩ ∈ d.transcript respond s)
    (hKind : kind q a) :
    ∃ b before, (d.run respond s).1 = some b ∧ fits q a b ∧
      d.transcript respond s = before ++ [⟨q, a⟩] := by
  induction d generalizing s with
  | done b => cases hMem
  | ask first next ih =>
    simp only [transcript, run] at hMem ⊢
    cases hAnswer : respond first s with
    | mk answer s =>
      rw [hAnswer] at hMem
      cases answer with
      | none => cases hMem
      | some answer =>
        obtain ⟨hStops, hNext⟩ := h answer
        rcases List.mem_cons.mp hMem with hFirst | hLater
        · cases hFirst
          obtain ⟨b, hDone, hFits⟩ := hStops hKind
          simp only [hDone]
          exact ⟨b, [], rfl, hFits, rfl⟩
        · obtain ⟨b, before, hRun, hFits, hLast⟩ := ih answer hNext hLater
          exact ⟨b, ⟨first, answer⟩ :: before, hRun, hFits, congrArg _ hLast⟩

end Gatehouse.Dialogue
