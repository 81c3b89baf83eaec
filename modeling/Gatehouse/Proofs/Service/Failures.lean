import Gatehouse.Proofs.Service.Authorization
import Gatehouse.Proofs.Service.Cacheless

/-! Statements that fail.  A failed statement is the last call for its request, and it is answered
with one of two errors: one for a conflict over a user's record, and one for everything else.  What
the database has said about the failure is not in the response, and the cache is left alone. -/

namespace Gatehouse.Service

open Cache Identity Roles Token Web

/-! ### Failures -/

/-- The statement fails: it is answered with an error, or the user that was to be created does not
come back. -/
def Statement.Fails : Statement → Reply → Prop
  | _, .error _ => True
  | .createUser .., .ok outcome => outcome.users = []
  | _, .ok _ => False

def Statement.writesUser : Statement → Bool
  | .createUser .. | .updateUser .. => true
  | .listUsers .. | .getUser _ | .deleteUser _ | .rolesOf _ => false

/-- The database reports that a user's record would have violated a unique constraint. -/
def Statement.Conflicts (st : Statement) (reply : Reply) : Prop :=
  st.writesUser = true ∧ ∃ text, reply = .error ⟨.reported (some "23505") text⟩

/-- The response to a failed statement, with one error for conflicts and one for all else. -/
def Statement.Answers (st : Statement) (reply : Reply) (response : Response) : Prop :=
  (st.Conflicts reply → response = .ofError .conflict) ∧
    (¬st.Conflicts reply → response = .ofError .internal)

theorem answers_internal {st : Statement} {reply : Reply} (h : ¬st.Conflicts reply) :
    st.Answers reply (.ofError .internal) :=
  ⟨fun hConflict => absurd hConflict h, fun _ => rfl⟩

theorem answers_internal_of_read {st : Statement} (h : st.writesUser = false) (reply : Reply) :
    st.Answers reply (.ofError .internal) := by
  refine answers_internal fun hConflict => ?_
  rw [hConflict.1] at h
  cases h

theorem answers_internal_ok (st : Statement) (outcome : Outcome) :
    st.Answers (.ok outcome) (.ofError .internal) := by
  refine answers_internal fun hConflict => ?_
  obtain ⟨-, text, hError⟩ := hConflict
  cases hError

theorem onWrite_eq_conflict_iff {e : StatementError} :
    e.onWrite = .conflict ↔ ∃ text, e = ⟨.reported (some "23505") text⟩ := by
  obtain ⟨fault⟩ := e
  cases fault with
  | reported code text =>
    by_cases hCode : code = some "23505" <;>
      simp [StatementError.onWrite, StatementError.code?, uniqueViolation, hCode]
  | unreported text => simp [StatementError.onWrite, StatementError.code?]
  | unanswered => simp [StatementError.onWrite, StatementError.code?]

theorem answers_onWrite {st : Statement} (h : st.writesUser = true) (e : StatementError) :
    st.Answers (.error e) (.ofError (errorOfRepo e.onWrite)) := by
  constructor
  · rintro ⟨-, text, hError⟩
    rw [onWrite_eq_conflict_iff.mpr ⟨text, Except.error.inj hError⟩]
    rfl
  · intro hOther
    cases hFault : e.onWrite with
    | database => rfl
    | conflict =>
      obtain ⟨text, rfl⟩ := onWrite_eq_conflict_iff.mp hFault
      exact absurd ⟨h, text, rfl⟩ hOther

/-! ### What a task does about a failure -/

/-- The call changes the cache. -/
def Call.WritesCache : Call → Prop
  | .cache (.set ..) | .cache (.delete _) => True
  | .cache (.get _) | .statement _ => False

/-- Nothing may come after the call: it is a statement that fails, or it changes the cache. -/
def Call.IsLast : (q : Call) → q.Answer → Prop
  | .statement st, reply => st.Fails reply
  | .cache c, _ => (Call.cache c).WritesCache

/-- The response answers the statement of the call, if it is one. -/
def Call.Fits : (q : Call) → q.Answer → Response → Prop
  | .statement st, reply, response => st.Answers reply response
  | .cache _, _, _ => True

/-- The action stops at a failed statement with the response for it, and changes the cache last. -/
def FailsSafely (action : Action Response) : Prop := action.StopsAt Call.IsLast Call.Fits

theorem not_fails_of_read {st : Statement} (h : st.writesUser = false) (outcome : Outcome) :
    ¬st.Fails (.ok outcome) := by
  intro hFails
  cases st with
  | createUser name email => cases h
  | _ => exact hFails

/-- After a statement that writes no user it is enough to end with the one error where it fails, and
to go on safely where it does not. -/
theorem failsSafely_of_read {st : Statement} {next : Reply → Action Response}
    (hRead : st.writesUser = false) (hError : ∀ e, next (.error e) = .done (.ofError .internal))
    (hFound : ∀ outcome, FailsSafely (next (.ok outcome))) :
    FailsSafely (.ask (.statement st) next) := by
  intro reply
  cases reply with
  | error e =>
    rw [hError e]
    exact ⟨fun _ => ⟨_, rfl, answers_internal_of_read hRead _⟩, trivial⟩
  | ok outcome =>
    refine ⟨fun hFails => ?_, hFound outcome⟩
    exact absurd hFails (not_fails_of_read hRead outcome)

/-- Without an answer that has roles there are no tokens, be it that the database fails or that it
stays silent. -/
theorem answerTokens_error (f : Facilities) (subject : Subject) (e : StatementError) :
    f.answerTokens subject (f.rolesIn (Reply.roles (.error e))) = .ofError .internal := by
  obtain ⟨fault⟩ := e
  cases fault <;> rfl

theorem storeRoles_error (f : Facilities) (user : UserId) (e : StatementError) :
    f.storeRoles user (Reply.roles (.error e)) = .done (Reply.roles (.error e)) := by
  obtain ⟨fault⟩ := e
  cases fault <;> rfl

theorem lookup_failsSafely (f : Facilities) (subject : Subject) :
    FailsSafely ((f.lookupRoles subject.user).bind fun answer =>
      .done (f.answerTokens subject (f.rolesIn answer))) := by
  cases hCache : f.hasCache with
  | false =>
    rw [lookupRoles_of_no_cache hCache]
    refine failsSafely_of_read rfl (fun e => ?_) fun outcome => trivial
    rw [Dialogue.bind, answerTokens_error]
  | true =>
    rw [lookupRoles_of_cache hCache]
    refine fun entry => ⟨False.elim, ?_⟩
    dsimp only
    cases cachedRoles entry with
    | some names => trivial
    | none =>
      refine failsSafely_of_read rfl (fun e => ?_) fun outcome stored => ?_
      · dsimp only
        rw [storeRoles_error, Dialogue.bind, answerTokens_error]
      · exact ⟨fun _ => ⟨_, rfl, trivial⟩, trivial⟩

theorem perform_failsSafely (f : Facilities) (task : Task) : FailsSafely (perform f task) := by
  cases task with
  | health => trivial
  | showUser user => exact failsSafely_of_read rfl (fun _ => rfl) fun _ => trivial
  | updateUser user name email =>
    intro reply
    cases reply with
    | error e => exact ⟨fun _ => ⟨_, rfl, answers_onWrite rfl e⟩, trivial⟩
    | ok outcome => exact ⟨False.elim, trivial⟩
  | deleteUser user =>
    -- The entry of the user is deleted after the statement, and that comes last.
    refine failsSafely_of_read rfl (fun _ => rfl) fun outcome => ?_
    simp only [Dialogue.bind, Reply.deleted, Except.map, Except.mapError]
    split
    · trivial
    · trivial
    · split
      · exact fun removed => ⟨fun _ => ⟨_, rfl, trivial⟩, trivial⟩
      · trivial
  | listUsers name limit offset => exact failsSafely_of_read rfl (fun _ => rfl) fun _ => trivial
  | createUser name email =>
    -- Without the new record the statement has failed, although no error was reported.
    intro reply
    simp only [Dialogue.bind]
    cases reply with
    | error e => exact ⟨fun _ => ⟨_, rfl, answers_onWrite rfl e⟩, trivial⟩
    | ok outcome =>
      refine ⟨fun hNone => ?_, ?_⟩
      · have hUsers : outcome.users = [] := hNone
        simp only [Reply.created, Reply.written?, Except.map, Except.mapError, hUsers]
        exact ⟨_, rfl, answers_internal_ok _ _⟩
      · split <;> trivial
  | issueTokens subject roles =>
    cases roles with
    | some roles =>
      rw [perform_issueTokens_some]
      trivial
    | none =>
      rw [perform_issueTokens_none]
      exact lookup_failsSafely f subject

/-! ### The response to a request whose statement fails -/

variable {σ : Type}

/-- In the run for an arrival a statement is given a reply by which it fails. -/
structure StatementFails (respond : (q : Call) → σ → Option q.Answer × σ) (settings : Settings)
    (opened : Bool) (a : Arrival) (s : σ) (st : Statement) (reply : Reply) : Prop where
  replied : ⟨.statement st, reply⟩ ∈
    (handle ⟨settings, opened, a.stamp⟩ a.newId a.request).transcript respond s
  fails : st.Fails reply

variable {respond : (q : Call) → σ → Option q.Answer × σ} {settings : Settings} {opened : Bool}
  {a : Arrival} {s : σ} {st : Statement} {reply : Reply}

theorem task_of_statementFails (h : StatementFails respond settings opened a s st reply) :
    ∃ task, plan settings a.request = .task task ∧
      handle ⟨settings, opened, a.stamp⟩ a.newId a.request =
        (perform ⟨settings, opened, a.stamp⟩ task).bind fun response =>
          .done (finish ⟨settings, opened, a.stamp⟩ a.newId a.request response) := by
  obtain ⟨hReplied, -⟩ := h
  obtain ⟨response, hDone, -⟩ | hPlan := handle_cases ⟨settings, opened, a.stamp⟩ a.newId a.request
  · rw [hDone] at hReplied
    cases hReplied
  cases hCase : plan settings a.request with
  | answer response =>
    rw [hPlan, Dialogue.transcript_map, hCase] at hReplied
    cases hReplied
  | task task =>
    rw [hCase] at hPlan
    exact ⟨task, rfl, hPlan⟩

/-- The failed statement is the last call, and decides the response. -/
theorem attend_of_statementFails (h : StatementFails respond settings opened a s st reply) :
    (∃ response, st.Answers reply response ∧
      (attend respond settings opened a s).1.response =
        finish ⟨settings, opened, a.stamp⟩ a.newId a.request response) ∧
    ∀ q ∈ (attend respond settings opened a s).1.calls, ¬q.WritesCache := by
  obtain ⟨task, -, hHandle⟩ := task_of_statementFails h
  obtain ⟨hReplied, hFails⟩ := h
  rw [hHandle, Dialogue.transcript_map] at hReplied
  have hSafe := perform_failsSafely ⟨settings, opened, a.stamp⟩ task
  obtain ⟨response, before, hRun, hAnswers, hTranscript⟩ := hSafe.last respond hReplied hFails
  refine ⟨⟨response, hAnswers, ?_⟩, ?_⟩
  · simp only [attend, hHandle]
    rw [Dialogue.run_map, hRun]
    rfl
  · simp only [attend, hHandle]
    rw [Dialogue.asked_map, Dialogue.asked_of_run respond hRun]
    intro q hq hWrites
    obtain ⟨⟨q, answer⟩, hMem, rfl⟩ := List.mem_map.mp hq
    cases q with
    | statement other => exact hWrites
    | cache c =>
      -- Both the change of the cache and the failed statement would come last.
      obtain ⟨-, before', -, -, hTranscript'⟩ := hSafe.last respond hMem hWrites
      obtain ⟨-, hSame⟩ := List.append_inj' (hTranscript.symm.trans hTranscript') rfl
      cases hSame

/-- The response has a status and shows an error, or nothing at all to a HEAD request. -/
def Response.Shows (response : Response) (r : Request) (status : Nat) (code message : String) :
    Prop :=
  response.status = status ∧
    response.body =
      if r.method = "HEAD" then .empty
      else .json (.record [("error", .record [("code", .text code), ("message", .text message)])])

theorem finalBody_of_task {r : Request} {task : Task} (h : plan settings r = .task task)
    (body : Body) : finalBody r body = if r.method = "HEAD" then .empty else body := by
  obtain ⟨_, _, _, _, hRoute, -⟩ := plan_eq_task_iff.mp h
  exact finalBody_of_matched r hRoute body

/-- A request whose statement fails is answered with one of two errors, as the statement and the
code of the database want it.  The response shows nothing else of the failure, and the cache is left
alone. -/
theorem failed_statement_hidden (h : StatementFails respond settings opened a s st reply) :
    (st.Conflicts reply → (attend respond settings opened a s).1.response.Shows a.request 409
      "CONFLICT" "resource already exists") ∧
    (¬st.Conflicts reply → (attend respond settings opened a s).1.response.Shows a.request 500
      "INTERNAL_SERVER_ERROR" "internal server error") ∧
    (∀ q ∈ (attend respond settings opened a s).1.calls, ¬q.WritesCache) ∧
    ∀ {τ : Type} {respond' : (q : Call) → τ → Option q.Answer × τ} {opened' : Bool} {a' : Arrival}
        {s' : τ} {st' : Statement} {reply' : Reply},
      StatementFails respond' settings opened' a' s' st' reply' →
      a'.request = a.request → a'.newId = a.newId → (st'.Conflicts reply' ↔ st.Conflicts reply) →
      (attend respond' settings opened' a' s').1.response =
        (attend respond settings opened a s).1.response := by
  obtain ⟨⟨response, hAnswers, hResponse⟩, hCalls⟩ := attend_of_statementFails h
  obtain ⟨task, hTask, -⟩ := task_of_statementFails h
  refine ⟨fun hConflicts => ?_, fun hOther => ?_, hCalls, ?_⟩
  · rw [hResponse, hAnswers.1 hConflicts]
    exact ⟨finish_status _ _ _ _, (finish_body _ _ _ _).trans (finalBody_of_task hTask _)⟩
  · rw [hResponse, hAnswers.2 hOther]
    exact ⟨finish_status _ _ _ _, (finish_body _ _ _ _).trans (finalBody_of_task hTask _)⟩
  · intro τ respond' opened' a' s' st' reply' h' hRequest hId hSide
    obtain ⟨⟨response', hAnswers', hResponse'⟩, -⟩ := attend_of_statementFails h'
    have hSame : response' = response := by
      by_cases hConflicts : st.Conflicts reply
      · rw [hAnswers.1 hConflicts, hAnswers'.1 (hSide.mpr hConflicts)]
      · rw [hAnswers.2 hConflicts, hAnswers'.2 (hSide.not.mpr hConflicts)]
    rw [hResponse, hResponse', hSame, hRequest, hId]
    rfl

/-- A request of user 7 on their own record. -/
def onOwnRecord (method body : String) : Arrival where
  request :=
    ⟨method, ⟨Text.Utf8.encode "/api/v1/users/7", none⟩,
      [Response.header "x-user-id" "7", Response.header "content-type" "application/json"],
      Text.Utf8.encode body, none, ""⟩
  stamp := ⟨0, 1, "a", "r"⟩
  newId := "id"

/-- User 7 takes another name. -/
def newName : Arrival := onOwnRecord "PUT" "\x7b\"name\":\"Ada\"\x7d"

/-- The database has one reply to give. -/
def replying (reply : Reply) : Backend := .start [.reply reply] (.ofEntries [])

/-- A violated constraint, as the database reports it. -/
def violation (text : String) : Reply := .error ⟨.reported (some "23505") text⟩

theorem violated_constraint_hidden :
    (attend Backend.respond cachedSettings true newName
        (replying (violation "users_name_key"))).1.calls =
      [.statement (.updateUser 7 (some "Ada") none)] ∧
    (attend Backend.respond cachedSettings true newName
        (replying (violation "users_name_key"))).1.response.status = 409 ∧
    (attend Backend.respond cachedSettings true newName (replying (violation ""))).1.response =
      (attend Backend.respond cachedSettings true newName
        (replying (violation "users_name_key"))).1.response ∧
    (attend Backend.respond cachedSettings true (onOwnRecord "DELETE" "")
        (replying (violation "user_roles_fkey"))).1.response.status = 500 := by
  have hRenaming : ∀ text, StatementFails Backend.respond cachedSettings true newName
      (replying (violation text)) (.updateUser 7 (some "Ada") none) (violation text) :=
    fun _ => ⟨List.mem_singleton.mpr rfl, trivial⟩
  have hDeletion : StatementFails Backend.respond cachedSettings true (onOwnRecord "DELETE" "")
      (replying (violation "user_roles_fkey")) (.deleteUser 7) (violation "user_roles_fkey") :=
    ⟨List.mem_singleton.mpr rfl, trivial⟩
  have hConflicts : ∀ text, (Statement.updateUser 7 (some "Ada") none).Conflicts (violation text) :=
    fun text => ⟨rfl, text, rfl⟩
  obtain ⟨hConflict, -, -, hAlike⟩ :=
    failed_statement_hidden (hRenaming "users_name_key")
  obtain ⟨-, hInternal, -, -⟩ := failed_statement_hidden hDeletion
  refine ⟨rfl, (hConflict (hConflicts _)).1, hAlike (hRenaming "") rfl rfl ?_, (hInternal nofun).1⟩
  exact iff_of_true (hConflicts _) (hConflicts _)

/-- A failure behind a HEAD request is answered without the error. -/
theorem head_shows_no_error :
    StatementFails Backend.respond cachedSettings true (onOwnRecord "HEAD" "")
        (replying (.error ⟨.unreported "closed"⟩)) (.getUser 7) (.error ⟨.unreported "closed"⟩) ∧
      (attend Backend.respond cachedSettings true (onOwnRecord "HEAD" "")
        (replying (.error ⟨.unreported "closed"⟩))).1.response.status = 500 ∧
      (attend Backend.respond cachedSettings true (onOwnRecord "HEAD" "")
        (replying (.error ⟨.unreported "closed"⟩))).1.response.body = .empty :=
  ⟨⟨List.mem_singleton.mpr rfl, trivial⟩, rfl, rfl⟩

end Gatehouse.Service
