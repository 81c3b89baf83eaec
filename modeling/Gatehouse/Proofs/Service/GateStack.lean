import Gatehouse.Proofs.Identity.Layers
import Gatehouse.Service.SingleRoute
import Mathlib.Data.List.Forall2

/-! Stacks of layers around a handler that says who the caller is.  The caller is settled at the
outermost layer: it is the one that was attached beforehand or the one that a gateway layer reads
there.  From then on every layer can only refuse it, so a stack fails closed, and the policies of
further gateway layers count for nothing. -/

namespace Gatehouse.Service

open Identity Net Web

/-- Is the layer a gateway layer? -/
def isGateway : Layer → Bool
  | .gateway _ => true
  | .authenticated | .role _ => false

/-- The policy of a gateway layer. -/
def gatewayPolicy? : Layer → Option GatewayPolicy
  | .gateway policy => some policy
  | .authenticated | .role _ => none

/-- The policy of the outermost gateway layer. -/
def outermostPolicy (layers : List Layer) : Option GatewayPolicy := layers.findSome? gatewayPolicy?

/-- The caller that a stack of layers works with: the one that was attached beforehand, or else the
one that the outermost gateway layer reads. -/
def settledCaller (layers : List Layer) (headers : Headers) (peer : Option SocketAddress) :
    Option Principal → Option Principal
  | some preset => some preset
  | none => (outermostPolicy layers).bind fun policy => (policy.extract headers peer).toOption

/-- A stack lets a request of the caller `p` through, given the caller attached beforehand. -/
structure LetsThrough (layers : List Layer) (preset : Option Principal) (p : Principal) :
    Prop where
  id_ne_zero : p.id ≠ 0
  role_ne_empty : p.role ≠ ""
  allowed : ∀ gate, Layer.role gate ∈ layers → gate.allows p.role = true
  nothing_outside : preset = none → layers.takeWhile (fun layer => !isGateway layer) = []

/-- Two layers that differ at most in the policy of a gateway. -/
inductive SameKind : Layer → Layer → Prop
  | same (layer : Layer) : SameKind layer layer
  | gateway (policy other : GatewayPolicy) : SameKind (.gateway policy) (.gateway other)

/-- The response of the handler behind layers that work with the caller `p`. -/
def answerFor (layers : List Layer) (p : Principal) : Response :=
  match layers.findSome? (Layer.refusal p) with
  | some e => .ofError e
  | none => if p.id = 0 ∨ p.role = "" then .ofError .unauthenticated else .text 200 (callerText p)

/-- The caller that is known when the outermost layer of a stack has been passed. -/
def openingCaller (layers : List Layer) (headers : Headers) (peer : Option SocketAddress) :
    Option Principal → Except ApiError Principal
  | some preset => .ok preset
  | none =>
    match layers.head?.bind gatewayPolicy? with
    | some policy => (policy.extract headers peer).mapError .ofIdentity
    | none => .error .unauthenticated

theorem answerCaller_attached (layers : List Layer) (headers : Headers)
    (peer : Option SocketAddress) (p : Principal) :
    answerCaller layers headers peer ⟨some p⟩ = answerFor layers p := by
  rw [answerCaller, answerFor, Layer.passAll_attached]
  cases layers.findSome? (Layer.refusal p) with
  | some e => rfl
  | none =>
    simp only [Layer.verdict, Except.bind, Context.caller_attached]
    by_cases hIncomplete : p.id = 0 ∨ p.role = ""
    · rw [if_pos hIncomplete, if_pos hIncomplete]
    · rw [if_neg hIncomplete, if_neg hIncomplete]

/-- The caller is settled once, and what follows depends on nothing else of the request. -/
theorem answerCaller_eq (layers : List Layer) (headers : Headers) (peer : Option SocketAddress)
    (preset : Option Principal) :
    answerCaller layers headers peer ⟨preset⟩ =
      match openingCaller layers headers peer preset with
      | .ok p => answerFor layers p
      | .error e => .ofError e := by
  cases preset with
  | some p => exact answerCaller_attached layers headers peer p
  | none =>
    have hEmpty := Layer.passAll_empty headers peer layers
    match layers with
    | [] => rfl
    | .authenticated :: inner => rfl
    | .role gate :: inner => rfl
    | .gateway policy :: inner =>
      have hInner := fun p => answerCaller_attached inner headers peer p
      simp only [openingCaller, List.head?_cons, Option.bind_some, gatewayPolicy?]
      simp only at hEmpty
      rw [answerCaller, ← Context.empty, hEmpty]
      cases hExtract : policy.extract headers peer with
      | error e => rfl
      | ok p => exact hInner p

theorem answerFor_status {layers : List Layer} {p : Principal}
    (h : answerFor layers p ≠ .text 200 (callerText p)) :
    (answerFor layers p).status = 401 ∨ (answerFor layers p).status = 403 := by
  simp only [answerFor] at h ⊢
  cases hRefusal : layers.findSome? (Layer.refusal p) with
  | some e =>
    obtain ⟨layer, -, he⟩ := List.exists_of_findSome?_eq_some hRefusal
    rcases Layer.refusal_mem he with rfl | rfl
    · exact .inl rfl
    · exact .inr rfl
  | none =>
    simp only [hRefusal] at h
    by_cases hIncomplete : p.id = 0 ∨ p.role = ""
    · rw [if_pos hIncomplete]
      exact .inl rfl
    · exact absurd (if_neg hIncomplete) h

theorem answerFor_eq_text_iff {layers : List Layer} {p : Principal} :
    answerFor layers p = .text 200 (callerText p) ↔
      p.id ≠ 0 ∧ p.role ≠ "" ∧ ∀ gate, Layer.role gate ∈ layers → gate.allows p.role = true := by
  constructor
  · intro h
    simp only [answerFor] at h
    split at h
    · rename_i e he
      obtain ⟨layer, -, he⟩ := List.exists_of_findSome?_eq_some he
      rcases Layer.refusal_mem he with rfl | rfl <;> cases congrArg Response.status h
    · rename_i hNone
      split at h
      · cases congrArg Response.status h
      · rename_i hComplete
        rw [not_or] at hComplete
        refine ⟨hComplete.1, hComplete.2, fun gate hGate => ?_⟩
        have := List.findSome?_eq_none_iff.mp hNone _ hGate
        exact (Layer.role_refusal_eq_none_iff.mp this).2.2
  · rintro ⟨hId, hRole, hAllowed⟩
    have hNone : layers.findSome? (Layer.refusal p) = none := by
      refine List.findSome?_eq_none_iff.mpr fun layer hLayer => ?_
      cases layer with
      | gateway policy => rfl
      | authenticated => exact if_neg hId
      | role gate =>
        exact Layer.role_refusal_eq_none_iff.mpr ⟨hId, hRole, hAllowed gate hLayer⟩
    simp only [answerFor, hNone]
    exact if_neg (by simp [hId, hRole])

/-- The caller is known behind the outermost layer exactly if that is where a gateway reads it, or
if it was attached beforehand. -/
theorem openingCaller_ok_iff {layers : List Layer} {headers : Headers}
    {peer : Option SocketAddress} {preset : Option Principal} {p : Principal} :
    openingCaller layers headers peer preset = .ok p ↔
      settledCaller layers headers peer preset = some p ∧
        (preset = none → layers.takeWhile (fun layer => !isGateway layer) = []) := by
  cases preset with
  | some q => simp [openingCaller, settledCaller]
  | none =>
    match layers with
    | [] => simp [openingCaller, settledCaller, outermostPolicy]
    | .authenticated :: inner => simp [openingCaller, gatewayPolicy?, isGateway]
    | .role gate :: inner => simp [openingCaller, gatewayPolicy?, isGateway]
    | .gateway policy :: inner =>
      simp only [openingCaller, settledCaller, outermostPolicy, List.head?_cons, Option.bind_some,
        gatewayPolicy?, List.findSome?_cons, Except.mapError_ok_iff]
      cases policy.extract headers peer <;> simp [isGateway, Except.toOption]

theorem openingCaller_error_status {layers : List Layer} {headers : Headers}
    {peer : Option SocketAddress} {preset : Option Principal} {e : ApiError}
    (h : openingCaller layers headers peer preset = .error e) : e.status = 401 := by
  cases preset with
  | some q => cases h
  | none =>
    simp only [openingCaller] at h
    split at h
    · rename_i policy hPolicy
      cases hExtract : policy.extract headers peer with
      | ok p => rw [hExtract] at h; cases h
      | error reason =>
        rw [hExtract] at h
        cases h
        cases reason <;> rfl
    · cases h
      rfl

theorem SameKind.refusal {layer other : Layer} (h : SameKind layer other) (p : Principal) :
    layer.refusal p = other.refusal p := by
  cases h <;> rfl

theorem answerFor_congr {layers others : List Layer} (h : List.Forall₂ SameKind layers others)
    (p : Principal) : answerFor layers p = answerFor others p := by
  have hRefusal : layers.findSome? (Layer.refusal p) = others.findSome? (Layer.refusal p) := by
    induction h with
    | nil => rfl
    | cons hLayer _ ih => rw [List.findSome?_cons, List.findSome?_cons, hLayer.refusal p, ih]
  rw [answerFor, answerFor, hRefusal]

theorem openingCaller_congr {layers others : List Layer} {headers : Headers}
    {peer : Option SocketAddress} {preset : Option Principal}
    (h : List.Forall₂ SameKind layers others)
    (hPolicy : preset = none → outermostPolicy layers = outermostPolicy others) :
    openingCaller layers headers peer preset = openingCaller others headers peer preset := by
  cases preset with
  | some q => rfl
  | none =>
    cases h with
    | nil => rfl
    | cons hLayer _ =>
      cases hLayer with
      | same layer => rfl
      | gateway policy other =>
        have : some policy = some other := hPolicy rfl
        cases this
        rfl

/-- A stack of layers answers with the caller exactly if the caller is known and complete, every
role layer allows its role, and nothing stands outside the gateway that reads it.  Otherwise it
answers 401 or 403.  No policy but that of the gateway that settles the caller has any influence. -/
theorem answerCaller_fails_closed (layers : List Layer) (headers : Headers)
    (peer : Option SocketAddress) (preset : Option Principal) :
    (∀ p, settledCaller layers headers peer preset = some p →
      (answerCaller layers headers peer ⟨preset⟩ = .text 200 (callerText p) ↔
        LetsThrough layers preset p)) ∧
    ((¬∃ p, settledCaller layers headers peer preset = some p ∧ LetsThrough layers preset p) →
      (answerCaller layers headers peer ⟨preset⟩).status = 401 ∨
        (answerCaller layers headers peer ⟨preset⟩).status = 403) ∧
    ∀ others, List.Forall₂ SameKind layers others →
      (preset = none → outermostPolicy layers = outermostPolicy others) →
      answerCaller others headers peer ⟨preset⟩ = answerCaller layers headers peer ⟨preset⟩ := by
  rw [answerCaller_eq]
  refine ⟨fun p hSettled => ?_, fun hNone => ?_, fun others hSame hPolicy => ?_⟩
  · cases hOpening : openingCaller layers headers peer preset with
    | error e =>
      refine ⟨fun h => ?_, fun h => ?_⟩
      · have := congrArg Response.status h
        rw [show (Response.ofError e).status = e.status from rfl,
          openingCaller_error_status hOpening] at this
        cases this
      · rw [openingCaller_ok_iff.mpr ⟨hSettled, h.nothing_outside⟩] at hOpening
        cases hOpening
    | ok q =>
      obtain ⟨hq, hOutside⟩ := openingCaller_ok_iff.mp hOpening
      obtain rfl : p = q := by simpa [hSettled] using hq
      rw [answerFor_eq_text_iff]
      exact ⟨fun ⟨hId, hRole, hAllowed⟩ => ⟨hId, hRole, hAllowed, hOutside⟩,
        fun h => ⟨h.id_ne_zero, h.role_ne_empty, h.allowed⟩⟩
  · cases hOpening : openingCaller layers headers peer preset with
    | error e => exact .inl (openingCaller_error_status hOpening)
    | ok p =>
      obtain ⟨hSettled, hOutside⟩ := openingCaller_ok_iff.mp hOpening
      refine answerFor_status fun h => hNone ⟨p, hSettled, ?_⟩
      obtain ⟨hId, hRole, hAllowed⟩ := answerFor_eq_text_iff.mp h
      exact ⟨hId, hRole, hAllowed, hOutside⟩
  · rw [answerCaller_eq, openingCaller_congr hSame hPolicy]
    cases openingCaller others headers peer preset with
    | error e => rfl
    | ok p => exact (answerFor_congr hSame p).symm

end Gatehouse.Service
