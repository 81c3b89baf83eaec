import Gatehouse.Proofs.Dialogue
import Mathlib.Logic.Function.Basic

/-! Dialogues that take turns.  They share a responder and its state, and at every step one of them
asks its next question.  Seen by itself, each of them goes its own path through the events. -/

namespace Gatehouse.Dialogue

variable {ι σ α : Type} {Question : Type} {Answer : Question → Type}

/-- A question of one of the dialogues, with the answer that it got. -/
structure Event (ι : Type) (Question : Type) (Answer : Question → Type) where
  who : ι
  question : Question
  answer : Answer question

/-- The dialogues can go on from a state with these events, in this order. -/
inductive Interleaves [DecidableEq ι] (respond : (q : Question) → σ → Option (Answer q) × σ) :
    (ι → Dialogue Question Answer α) → σ → List (Event ι Question Answer) →
      (ι → Dialogue Question Answer α) → σ → Prop
  | stop {talks : ι → Dialogue Question Answer α} {s : σ} : Interleaves respond talks s [] talks s
  | step {talks talks' : ι → Dialogue Question Answer α} {s mid final : σ} {i : ι} {q : Question}
      {next : Answer q → Dialogue Question Answer α} {a : Answer q}
      {events : List (Event ι Question Answer)} (hAsks : talks i = ask q next)
      (hAnswer : respond q s = (some a, mid))
      (rest : Interleaves respond (Function.update talks i (next a)) mid events talks' final) :
      Interleaves respond talks s (⟨i, q, a⟩ :: events) talks' final

/-- Among the events, a dialogue asks its questions and gets its answers. -/
inductive Path (i : ι) :
    Dialogue Question Answer α → List (Event ι Question Answer) → Dialogue Question Answer α → Prop
  | stay {d : Dialogue Question Answer α} : Path i d [] d
  | own {q : Question} {next : Answer q → Dialogue Question Answer α} {a : Answer q}
      {d : Dialogue Question Answer α} {events : List (Event ι Question Answer)}
      (rest : Path i (next a) events d) : Path i (ask q next) (⟨i, q, a⟩ :: events) d
  | other {d d' : Dialogue Question Answer α} {e : Event ι Question Answer}
      {events : List (Event ι Question Answer)} (hOther : e.who ≠ i) (rest : Path i d events d') :
      Path i d (e :: events) d'

section Runs

variable [DecidableEq ι] {respond : (q : Question) → σ → Option (Answer q) × σ}
  {talks talks' : ι → Dialogue Question Answer α} {s s' : σ}
  {events more : List (Event ι Question Answer)}

theorem Interleaves.path (h : Interleaves respond talks s events talks' s') (i : ι) :
    Path i (talks i) events (talks' i) := by
  induction h with
  | stop => exact .stay
  | @step talks talks' s mid final j q next a events hAsks hAnswer rest ih =>
    by_cases hOwn : j = i
    · subst hOwn
      rw [Function.update_self] at ih
      rw [hAsks]
      exact .own ih
    · rw [Function.update_of_ne (Ne.symm hOwn)] at ih
      exact .other hOwn ih

theorem Interleaves.split (h : Interleaves respond talks s (events ++ more) talks' s') :
    ∃ between mid, Interleaves respond talks s events between mid ∧
      Interleaves respond between mid more talks' s' := by
  induction events generalizing talks s with
  | nil => exact ⟨talks, s, .stop, h⟩
  | cons e events ih =>
    cases h with
    | step hAsks hAnswer rest =>
      obtain ⟨between, mid, hFirst, hThen⟩ := ih rest
      exact ⟨between, mid, .step hAsks hAnswer hFirst, hThen⟩

/-- The answer in an event is the one that the responder gives in the state before. -/
theorem Interleaves.answer {e : Event ι Question Answer}
    (h : Interleaves respond talks s (e :: events) talks' s') :
    ∃ between mid, respond e.question s = (some e.answer, mid) ∧
      Interleaves respond between mid events talks' s' := by
  cases h with
  | step hAsks hAnswer rest => exact ⟨_, _, hAnswer, rest⟩

end Runs

section Paths

variable {i : ι} {d : Dialogue Question Answer α} {events : List (Event ι Question Answer)}

theorem Path.of_done {a : α} (h : Path i (done a) events d) :
    d = done a ∧ ∀ e ∈ events, e.who ≠ i := by
  induction events with
  | nil =>
    cases h
    exact ⟨rfl, List.forall_mem_nil _⟩
  | cons e events ih =>
    cases h with
    | other hOther rest =>
      obtain ⟨hSame, hNone⟩ := ih rest
      exact ⟨hSame, List.forall_mem_cons.mpr ⟨hOther, hNone⟩⟩

/-- A dialogue with a question has asked it and gone on, or it waits. -/
theorem Path.of_ask {q : Question} {next : Answer q → Dialogue Question Answer α}
    (h : Path i (ask q next) events d) :
    (d = ask q next ∧ ∀ e ∈ events, e.who ≠ i) ∨
      ∃ a before after, events = before ++ ⟨i, q, a⟩ :: after ∧ (∀ e ∈ before, e.who ≠ i) ∧
        Path i (next a) after d := by
  induction events with
  | nil =>
    cases h
    exact .inl ⟨rfl, List.forall_mem_nil _⟩
  | cons e events ih =>
    cases h with
    | own rest => exact .inr ⟨_, [], events, rfl, List.forall_mem_nil _, rest⟩
    | other hOther rest =>
      rcases ih rest with ⟨hSame, hNone⟩ | ⟨a, before, after, rfl, hBefore, hAfter⟩
      · exact .inl ⟨hSame, List.forall_mem_cons.mpr ⟨hOther, hNone⟩⟩
      · exact .inr ⟨a, e :: before, after, rfl, List.forall_mem_cons.mpr ⟨hOther, hBefore⟩, hAfter⟩

/-- An event of a dialogue is its first question, or comes later. -/
theorem Path.mem_of_ask {q : Question} {next : Answer q → Dialogue Question Answer α}
    {e : Event ι Question Answer} (h : Path i (ask q next) events d) (hMem : e ∈ events)
    (hOwn : e.who = i) :
    ∃ a, ⟨i, q, a⟩ ∈ events ∧ (e = ⟨i, q, a⟩ ∨
      ∃ after, after ⊆ events ∧ e ∈ after ∧ Path i (next a) after d) := by
  rcases h.of_ask with ⟨-, hNone⟩ | ⟨a, before, after, rfl, hBefore, hAfter⟩
  · exact absurd hOwn (hNone e hMem)
  · have hFirst : ⟨i, q, a⟩ ∈ before ++ ⟨i, q, a⟩ :: after :=
      List.mem_append_right _ List.mem_cons_self
    have hSub : after ⊆ before ++ ⟨i, q, a⟩ :: after :=
      fun e he => List.mem_append_right _ (List.mem_cons_of_mem _ he)
    refine ⟨a, hFirst, ?_⟩
    rcases List.mem_append.mp hMem with hEarly | hLate
    · exact absurd hOwn (hBefore e hEarly)
    · rcases List.mem_cons.mp hLate with hSame | hLater
      · exact .inl hSame
      · exact .inr ⟨after, hSub, hLater, hAfter⟩

/-- A dialogue that is done has asked its first question. -/
theorem Path.done_of_ask {q : Question} {next : Answer q → Dialogue Question Answer α} {r : α}
    (h : Path i (ask q next) events (done r)) :
    ∃ a after, ⟨i, q, a⟩ ∈ events ∧ after ⊆ events ∧ Path i (next a) after (done r) := by
  rcases h.of_ask with ⟨hDone, -⟩ | ⟨a, before, after, rfl, -, hAfter⟩
  · cases hDone
  · exact ⟨a, after, List.mem_append_right _ List.mem_cons_self,
      fun e he => List.mem_append_right _ (List.mem_cons_of_mem _ he), hAfter⟩

theorem Path.asks {P : Question → Prop} {d' : Dialogue Question Answer α}
    (h : Path i d events d') (hAsks : d.Asks P) : ∀ e ∈ events, e.who = i → P e.question := by
  induction h with
  | stay => exact List.forall_mem_nil _
  | own rest ih =>
    obtain ⟨hFirst, hNext⟩ := hAsks
    exact List.forall_mem_cons.mpr ⟨fun _ => hFirst, ih (hNext _)⟩
  | other hOther rest ih =>
    exact List.forall_mem_cons.mpr ⟨fun hOwn => absurd hOwn hOther, ih hAsks⟩

end Paths

end Gatehouse.Dialogue
