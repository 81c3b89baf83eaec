import Gatehouse.Proofs.Json.Records
import Gatehouse.Proofs.Service.ErrorBodies
import Gatehouse.Proofs.Settings

/-! How long a body may be.  The limit in the settings holds for what a request promises and for
what it sends, and below it stands the limit of the buffer, which no setting moves.  The smaller one
of the two decides over a body that nothing else is wrong with. -/

namespace Gatehouse

/-- The limit on the length of bodies that the environment asks for, or the default one. -/
def Settings.bodyLimitIn (get : String → Option String) : Nat :=
  numberOr 1048576 UInt64.size (get "REQUEST_BODY_LIMIT_BYTES")

theorem Settings.bodyLimit_of_load {get : String → Option String} {settings : Settings}
    (h : load get = .ok settings) : settings.bodyLimit.toNat = bodyLimitIn get := by
  rw [(loads_of_load h).bodyLimit]
  exact word64Or_toNat (by decide) _

namespace Service

open Identity Users

variable {v : Visit}

/-- The length of the body is all that could be wrong with the request, and the header on its length
is right if there is one. -/
structure Visit.IsWelcome (v : Visit) : Prop where
  matched : findRoute v.request.target.path = some (v.route, v.params)
  gated : v.route.group.gate? = some v.gate
  offered : v.route.operation? v.request.method = some v.operation
  reads : v.operation.form?.isSome = true
  passes : ∀ check, check ≠ .bodySize → v.failure? check = none
  declared : declaredLength v.request.headers = none ∨
    declaredLength v.request.headers = some v.request.body.length

theorem Visit.IsWelcome.tooLong_iff (h : v.IsWelcome) :
    (exceedsLimit v.facilities.settings v.request.headers = true ∨
        bodyLimit v.facilities.settings.bodyLimit.toNat v.request.headers < v.request.body.length) ↔
      min v.facilities.settings.bodyLimit.toNat bufferLimit < v.request.body.length := by
  rw [exceedsLimit, bodyLimit]
  rcases h.declared with hNone | hSame
  · simp [hNone]
  · simp only [hSame, Option.getD_some, decide_eq_true_eq]
    omega

/-- A body that can be read and breaks no rule passes the checks on what is in it. -/
theorem passes_of_read {form : BodyForm} {content : form.Content}
    (hForm : v.operation.form? = some form)
    (hRead : form.shape.read v.request.body = .ok content)
    (hRules : form.brokenRule? content = none) :
    ∀ check ∈ [.jsonText, .jsonShape, .rules], v.failure? check = none := by
  simp [Visit.failure?, Visit.readError?, Visit.brokenRule?, hForm, hRead, hRules, failIf]

variable {σ : Type} (respond : (q : Call) → σ → Option q.Answer × σ)

theorem Visit.IsWelcome.refused_iff (h : v.IsWelcome) (s : σ) :
    (v.turn respond s).response.status = 413 ↔
      min v.facilities.settings.bodyLimit.toNat bufferLimit < v.request.body.length := by
  have hOptions := ne_options_of_offer (findRoute_eq_some h.matched).1 h.offered
  rw [← h.tooLong_iff]
  by_cases hLimit : exceedsLimit v.facilities.settings v.request.headers = true
  · -- The header promises too much, and the body is not looked at.
    refine iff_of_true ?_ (.inl hLimit)
    have hHandle := handle_of_exceedsLimit v.facilities v.newId v.request hLimit
    simp only [Visit.turn, attend, Visit.arrival, hHandle, Dialogue.run, Option.getD_some,
      close_status]
    rfl
  rw [Bool.not_eq_true] at hLimit
  have hArrives : v.Arrives := ⟨hLimit, hOptions, h.matched, h.gated, h.offered⟩
  have hHandle := handle_eq v.facilities v.newId v.request hLimit hOptions
  simp only [hLimit, Bool.false_eq_true, false_or, Visit.turn, attend, Visit.arrival]
  by_cases hTooLong : bodyLimit v.facilities.settings.bodyLimit.toNat v.request.headers <
      v.request.body.length
  · -- All that comes before the check on the length is passed, so this is the first failure.
    refine iff_of_true ?_ hTooLong
    have hFails : v.FailsFirst .bodySize (.rejected (.bodyTooLarge v.request.complaint)) := by
      refine ⟨fun check hEarlier => h.passes check ?_, ?_⟩
      · rintro rfl
        exact absurd hEarlier (by decide)
      · simp [Visit.failure?, h.reads, hTooLong, failIf]
    rw [hHandle, Visit.plan_of_failsFirst hArrives hFails]
    exact finish_status _ _ _ _
  · -- The request comes to a task, and no task ends with this status.
    refine iff_of_false ?_ hTooLong
    have hPasses : ∀ check, v.failure? check = none := by
      intro check
      by_cases hCheck : check = .bodySize
      · subst hCheck
        simp [Visit.failure?, hTooLong, failIf]
      · exact h.passes check hCheck
    obtain ⟨task, hTask⟩ := Visit.plan_of_passes hArrives hPasses
    rw [hHandle, hTask, carryOut, Dialogue.run_map]
    cases hRun : ((perform v.facilities task).run respond s).1 with
    | none =>
      have hTimeout : timeout.status ≠ 413 := by decide
      exact hTimeout
    | some response =>
      have hStatus := ((perform_ends v.facilities task).run respond hRun).status_mem
      rw [Option.map_some, Option.getD_some, finish_status]
      intro hRefused
      rw [hRefused] at hStatus
      exact absurd hStatus (by decide)

/-- The limit in the settings decides over the length of a body as long as the buffer holds as much.
Beyond that the limit of the buffer decides. -/
theorem body_limit_decides {get : String → Option String}
    (hLoad : Settings.load get = .ok v.facilities.settings) (h : v.IsWelcome) (s : σ) :
    (Settings.bodyLimitIn get ≤ 2097152 →
      ((v.turn respond s).response.status = 413 ↔
        Settings.bodyLimitIn get < v.request.body.length)) ∧
    (2097152 ≤ Settings.bodyLimitIn get →
      ((v.turn respond s).response.status = 413 ↔ 2097152 < v.request.body.length)) := by
  have hRefused := h.refused_iff respond s
  rw [Settings.bodyLimit_of_load hLoad, bufferLimit] at hRefused
  constructor
  · intro hSmall
    rw [hRefused, Nat.min_eq_left hSmall]
  · intro hLarge
    rw [hRefused, Nat.min_eq_right hLarge]

/-- An environment that sets a limit on the length of bodies. -/
def limitedTo (limit : String) (key : String) : Option String :=
  if key = "DATABASE_URL" then some "db"
  else if key = "REQUEST_BODY_LIMIT_BYTES" then some limit
  else none

/-- Settings for development with a limit on the length of bodies. -/
def limitedSettings (limit : UInt64) : Settings :=
  ⟨3000, "db", .development, [], ⟨developmentSecret, 900, 604800⟩, none, 300, 30, limit, [], false⟩

/-- An administrator creates a user, with blanks after the record. -/
def paddedCreation (limit : UInt64) (blanks : Nat) : Visit :=
  creation (limitedSettings limit)
    (Text.Utf8.encode "\x7b\"name\":\"Ada\",\"email\":\"a@x.io\"\x7d" ++ List.replicate blanks 0x20)
    "length limit exceeded"

theorem paddedCreation_isWelcome (limit : UInt64) (blanks : Nat) :
    (paddedCreation limit blanks).IsWelcome := by
  have hRead : CreateUser.shape.read (paddedCreation limit blanks).request.body =
      .ok ⟨"Ada", "a@x.io"⟩ := by
    refine Json.read_append_blank (by rfl) fun b hb => ?_
    rw [List.eq_of_mem_replicate hb]
    rfl
  have hForm : (paddedCreation limit blanks).operation.form? =
      some (.of CreateUser.shape CreateUser.validate Users.RequestError.message) := rfl
  have hAdmin : RoleGate.admin.allows "admin" = true := by decide
  have hAllows : (paddedCreation limit blanks).gate.allows
      (paddedCreation limit blanks).caller.role = true := hAdmin
  refine ⟨by rfl, rfl, rfl, rfl, fun check hCheck => ?_, .inl rfl⟩
  cases check with
  | bodySize => exact absurd rfl hCheck
  | jsonText | jsonShape | rules => exact passes_of_read hForm hRead rfl _ (by decide)
  | roleGate => simp [Visit.failure?, hAllows, failIf]
  | _ => rfl

/-- Where the settings allow 20 octets, 31 are too many; where they allow 64, they are not. -/
theorem record_refused_or_read :
    ((paddedCreation 20 0).turn Backend.respond (.start [] (.ofEntries []))).response.status = 413 ∧
      ((paddedCreation 64 0).turn Backend.respond (.start [] (.ofEntries []))).response.status ≠
        413 := by
  have hLoad : Settings.load (limitedTo "20") = .ok (limitedSettings 20) := by rfl
  have hLoad' : Settings.load (limitedTo "64") = .ok (limitedSettings 64) := by rfl
  have hTight := (body_limit_decides Backend.respond (v := paddedCreation 20 0) hLoad
    (paddedCreation_isWelcome 20 0) (.start [] (.ofEntries []))).1 (by decide)
  have hLoose := (body_limit_decides Backend.respond (v := paddedCreation 64 0) hLoad'
    (paddedCreation_isWelcome 64 0) (.start [] (.ofEntries []))).1 (by decide)
  exact ⟨hTight.mpr (by decide), hLoose.not.mpr (by decide)⟩

/-- A body is refused that is shorter than the settings allow. -/
theorem buffer_refuses_allowed_body :
    Settings.load (limitedTo "3000000") = .ok (paddedCreation 3000000 2097152).facilities.settings ∧
      (paddedCreation 3000000 2097152).IsWelcome ∧
      (paddedCreation 3000000 2097152).request.body.length <
        Settings.bodyLimitIn (limitedTo "3000000") ∧
      ((paddedCreation 3000000 2097152).turn Backend.respond
        (.start [] (.ofEntries []))).response.status = 413 := by
  have hLength : (paddedCreation 3000000 2097152).request.body.length = 2097183 := by
    simp only [paddedCreation, creation, List.length_append, List.length_replicate]
    rfl
  have hLimit : Settings.bodyLimitIn (limitedTo "3000000") = 3000000 := by rfl
  have hWelcome := paddedCreation_isWelcome 3000000 2097152
  refine ⟨by rfl, hWelcome, by rw [hLength, hLimit]; decide, ?_⟩
  refine (hWelcome.refused_iff Backend.respond _).mpr ?_
  rw [hLength]
  decide

end Service

end Gatehouse
