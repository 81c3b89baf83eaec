/-! Computations that ask questions.  A dialogue is done, or it asks one question and goes on with
the answer.  What answers is not part of it: `run` lets a responder with a state of its own answer
each question in turn, and stops where the responder stays silent. -/

namespace Gatehouse

/-- A computation that asks questions; the type of an answer depends on the question. -/
inductive Dialogue (Question : Type) (Answer : Question → Type) (α : Type) where
  | done (a : α)
  | ask (q : Question) (next : Answer q → Dialogue Question Answer α)

namespace Dialogue

variable {Question : Type} {Answer : Question → Type} {α β σ : Type}

/-- One dialogue after another. -/
def bind : Dialogue Question Answer α → (α → Dialogue Question Answer β) →
    Dialogue Question Answer β
  | done a, f => f a
  | ask q next, f => ask q fun a => (next a).bind f

instance : Monad (Dialogue Question Answer) where
  pure := done
  bind := bind

def question (q : Question) : Dialogue Question Answer (Answer q) := ask q done

/-- Lets a responder answer.  Its state is carried from question to question, and without an answer
there is no result. -/
def run (respond : (q : Question) → σ → Option (Answer q) × σ) :
    Dialogue Question Answer α → σ → Option α × σ
  | done a, s => (some a, s)
  | ask q next, s =>
    match respond q s with
    | (some a, s) => (next a).run respond s
    | (none, s) => (none, s)

theorem pure_eq_done (a : α) : (pure a : Dialogue Question Answer α) = done a := rfl

theorem bind_eq (d : Dialogue Question Answer α) (f : α → Dialogue Question Answer β) :
    d >>= f = d.bind f := rfl

theorem run_bind (respond : (q : Question) → σ → Option (Answer q) × σ)
    (d : Dialogue Question Answer α) (f : α → Dialogue Question Answer β) (s : σ) :
    (d.bind f).run respond s =
      match d.run respond s with
      | (some a, s) => (f a).run respond s
      | (none, s) => (none, s) := by
  induction d generalizing s with
  | done a => rfl
  | ask q next ih =>
    simp only [bind, run]
    cases respond q s with
    | mk answer s =>
      cases answer with
      | none => rfl
      | some a => exact ih a s

end Dialogue

end Gatehouse
