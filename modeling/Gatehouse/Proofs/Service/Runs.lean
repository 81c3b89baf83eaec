import Gatehouse.Proofs.Service.Handling

/-! Runs of the service.  `serve` handles requests one after another, with any responder behind the
service: its state goes from request to request, and its answers may depend on everything that it
was asked before.  The answers of a `Backend` are one case. -/

namespace Gatehouse.Service

open Token

/-- A request with what is new at its arrival: the stamp for tokens and an identifier. -/
structure Arrival where
  request : Request
  stamp : Stamp
  newId : String

/-- What came of a request: the response, and the calls that were made for it, in order. -/
structure Turn where
  request : Request
  response : Response
  calls : List Call

variable {σ : Type} (respond : (q : Call) → σ → Option q.Answer × σ)

/-- Handles one request. -/
def attend (settings : Settings) (cacheOpened : Bool) (a : Arrival) (s : σ) : Turn × σ :=
  let action := handle ⟨settings, cacheOpened, a.stamp⟩ a.newId a.request
  let (response, after) := action.run respond s
  (⟨a.request, response.getD timeout, action.asked respond s⟩, after)

/-- Handles requests in order. -/
def serve (settings : Settings) (cacheOpened : Bool) : List Arrival → σ → List Turn
  | [], _ => []
  | a :: arrivals, s =>
    let (turn, after) := attend respond settings cacheOpened a s
    turn :: serve settings cacheOpened arrivals after

theorem forall_serve {settings : Settings} {cacheOpened : Bool} {P : Turn → Prop}
    (h : ∀ a s, P (attend respond settings cacheOpened a s).1) (arrivals : List Arrival) (s : σ) :
    ∀ turn ∈ serve respond settings cacheOpened arrivals s, P turn := by
  induction arrivals generalizing s with
  | nil => exact fun turn hTurn => nomatch hTurn
  | cons a arrivals ih =>
    intro turn hTurn
    rcases List.mem_cons.mp hTurn with rfl | hRest
    · exact h a s
    · exact ih _ turn hRest

/-- A planned task decides the response and what is left behind, unless the request is too large or
in advance of another. -/
theorem attend_of_task {settings : Settings} (opened : Bool) {a : Arrival} {task : Task}
    (hPlan : plan settings a.request = .task task) (s : σ) :
    (attend respond settings opened a s).1.response.status ∈ [413, 200] ∨
      (attend respond settings opened a s).1.response.status = timeout.status ∨
      ∃ response s', (perform ⟨settings, opened, a.stamp⟩ task).run respond s = (some response, s') ∧
        (attend respond settings opened a s).1.response.status = response.status ∧
        (attend respond settings opened a s).2 = s' := by
  by_cases hLimit : exceedsLimit settings a.request.headers = true
  · have hHandle := handle_of_exceedsLimit ⟨settings, opened, a.stamp⟩ a.newId a.request hLimit
    refine .inl ?_
    simp only [attend, hHandle, Dialogue.run, Option.getD_some, close_status]
    decide
  rw [Bool.not_eq_true] at hLimit
  by_cases hOptions : a.request.method = "OPTIONS"
  · have hHandle := handle_of_options ⟨settings, opened, a.stamp⟩ a.newId a.request hLimit hOptions
    refine .inl ?_
    simp only [attend, hHandle, Dialogue.run, Option.getD_some, close_status]
    exact List.mem_cons_of_mem _ List.mem_cons_self
  have hHandle := handle_eq ⟨settings, opened, a.stamp⟩ a.newId a.request hLimit hOptions
  rw [hPlan, carryOut] at hHandle
  simp only [attend, hHandle, Dialogue.run_bind]
  cases hRun : (perform ⟨settings, opened, a.stamp⟩ task).run respond s with
  | mk result s' =>
    cases result with
    | none => exact .inr (.inl rfl)
    | some response => exact .inr (.inr ⟨response, s', rfl, finish_status _ _ _ _, rfl⟩)

/-! ### Backends -/

/-- The statement in a call. -/
def Call.statement? : Call → Option Statement
  | .statement s => some s
  | .cache _ => none

/-- The cache command in a call. -/
def Call.command? : Call → Option Cache.Command
  | .statement _ => none
  | .cache c => some c

theorem respond_records (q : Call) (b : Backend) :
    (Backend.respond q b).2.statements = b.statements ++ q.statement?.toList ∧
      (Backend.respond q b).2.commands = b.commands ++ q.command?.toList := by
  cases q with
  | statement s =>
    simp only [Backend.respond, Backend.next]
    cases b.script with
    | nil => exact ⟨rfl, (List.append_nil _).symm⟩
    | cons item script => cases item <;> exact ⟨rfl, (List.append_nil _).symm⟩
  | cache c => exact ⟨(List.append_nil _).symm, rfl⟩

theorem run_records {α : Type} (d : Action α) (b : Backend) :
    (d.run Backend.respond b).2.statements =
        b.statements ++ (d.asked Backend.respond b).filterMap Call.statement? ∧
      (d.run Backend.respond b).2.commands =
        b.commands ++ (d.asked Backend.respond b).filterMap Call.command? := by
  induction d generalizing b with
  | done a => simp [Dialogue.run, Dialogue.asked]
  | ask q next ih =>
    have hRecords := respond_records q b
    simp only [Dialogue.run, Dialogue.asked]
    cases hAnswer : Backend.respond q b with
    | mk answer after =>
      rw [hAnswer] at hRecords
      cases answer with
      | none => cases q <;> simpa [Call.statement?, Call.command?, List.filterMap] using hRecords
      | some answer =>
        obtain ⟨hStatements, hCommands⟩ := ih answer after
        refine ⟨hStatements.trans ?_, hCommands.trans ?_⟩
        · rw [hRecords.1]
          cases q <;> simp [Call.statement?, List.filterMap_cons]
        · rw [hRecords.2]
          cases q <;> simp [Call.command?, List.filterMap_cons]

theorem respond_forget (q : Call) (b : Backend) :
    (Backend.respond q b.forget).1 = (Backend.respond q b).1 ∧
      (Backend.respond q b.forget).2.forget = (Backend.respond q b).2.forget := by
  obtain ⟨script, store, statements, commands⟩ := b
  cases q with
  | statement s =>
    cases script with
    | nil => exact ⟨rfl, rfl⟩
    | cons item script => cases item <;> exact ⟨rfl, rfl⟩
  | cache c => exact ⟨rfl, rfl⟩

theorem run_forget {α : Type} (d : Action α) (b : Backend) :
    d.asked Backend.respond b.forget = d.asked Backend.respond b ∧
      (d.run Backend.respond b.forget).1 = (d.run Backend.respond b).1 ∧
      (d.run Backend.respond b.forget).2.forget = (d.run Backend.respond b).2.forget := by
  induction d generalizing b with
  | done a => exact ⟨rfl, rfl, rfl⟩
  | ask q next ih =>
    obtain ⟨hAnswer, hForget⟩ := respond_forget q b
    simp only [Dialogue.run, Dialogue.asked]
    cases hLeft : Backend.respond q b.forget with
    | mk left after =>
      cases hRight : Backend.respond q b with
      | mk right after' =>
        rw [hLeft, hRight] at hAnswer hForget
        simp only at hAnswer hForget
        subst hAnswer
        cases left with
        | none => exact ⟨rfl, rfl, hForget⟩
        | some answer =>
          obtain ⟨hAsked, hResult, hAfter⟩ := ih answer after
          obtain ⟨hAsked', hResult', hAfter'⟩ := ih answer after'
          rw [hForget] at hAsked hResult hAfter
          exact ⟨congrArg _ (hAsked.symm.trans hAsked'), hResult.symm.trans hResult',
            hAfter.symm.trans hAfter'⟩

/-- A turn as the exchange that a backend shows of it. -/
def Turn.exchange (turn : Turn) : Exchange :=
  ⟨turn.response, turn.calls.filterMap Call.statement?, turn.calls.filterMap Call.command?⟩

/-- The run of requests against a backend is the run with the backend as the responder. -/
theorem answerAll_eq_serve (f : Facilities) (newId : String) (requests : List Request)
    (b : Backend) :
    answerAll f newId requests b =
      (serve Backend.respond f.settings f.cacheOpened
        (requests.map fun r => ⟨r, f.stamp, newId⟩) b).map Turn.exchange := by
  suffices h : ∀ b' : Backend, b'.forget = b.forget → answerAll f newId requests b' =
      (serve Backend.respond f.settings f.cacheOpened
        (requests.map fun r => ⟨r, f.stamp, newId⟩) b).map Turn.exchange from h b rfl
  intro b' hSame
  induction requests generalizing b b' with
  | nil => rfl
  | cons r requests ih =>
    obtain ⟨hAsked, hResult, hAfter⟩ := run_forget (handle f newId r) b
    obtain ⟨hStatements, hCommands⟩ := run_records (handle f newId r) b.forget
    rw [hAsked] at hStatements hCommands
    have hAnswer : answer f newId r b.forget =
        (((handle f newId r).run Backend.respond b).1.getD timeout,
          ((handle f newId r).run Backend.respond b.forget).2) := by
      rw [answer, ← hResult]
      cases (handle f newId r).run Backend.respond b.forget with
      | mk result after => cases result <;> rfl
    simp only [answerAll, hSame, hAnswer, List.map_cons, serve, attend]
    rw [ih _ _ hAfter, hStatements, hCommands]
    rfl

end Gatehouse.Service
