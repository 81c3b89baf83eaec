import Gatehouse.Proofs.Service.GateStack
import Mathlib.Logic.Relation

/-! Which changes to a stack of layers nobody notices.  All that a stack asks of a caller is a
number, a role, and the leave of each of its role layers, and it answers alike whichever layer
turns a caller away.  So the response depends only on the layer in front and on the set of role
layers behind it, and every rearrangement that keeps these two keeps the response. -/

namespace Gatehouse.Service

open Identity Net Web

/-! ### What the response depends on -/

/-- The policy of the layer in front, if that is a gateway layer. -/
def frontPolicy (layers : List Layer) : Option GatewayPolicy := layers.head?.bind gatewayPolicy?

/-- Two stacks with the same role layers, in any order and number. -/
def SameGates (layers others : List Layer) : Prop :=
  ∀ gate, Layer.role gate ∈ layers ↔ Layer.role gate ∈ others

variable {layers others : List Layer} {p : Principal}

/-- Nobody is turned away as such by every layer that looks, and by the handler if none does. -/
theorem answerFor_nobody (hId : p.id = 0) : answerFor layers p = .ofError .unauthenticated := by
  rw [answerFor]
  cases hRefusal : layers.findSome? (Layer.refusal p) with
  | none => exact if_pos (.inl hId)
  | some e =>
    obtain ⟨layer, -, hLayer⟩ := List.exists_of_findSome?_eq_some hRefusal
    cases layer <;> simp_all [Layer.refusal]

theorem findSome?_refusal_eq_none_iff (hId : p.id ≠ 0) :
    layers.findSome? (Layer.refusal p) = none ↔
      ∀ gate, Layer.role gate ∈ layers → p.role ≠ "" ∧ gate.allows p.role = true := by
  rw [List.findSome?_eq_none_iff]
  constructor
  · intro h gate hGate
    exact (Layer.role_refusal_eq_none_iff.mp (h _ hGate)).2
  · intro h layer hLayer
    cases layer with
    | gateway policy => rfl
    | authenticated => exact if_neg hId
    | role gate => exact Layer.role_refusal_eq_none_iff.mpr ⟨hId, h gate hLayer⟩

/-- Only a role layer refuses a caller with a number. -/
theorem eq_forbidden_of_findSome?_refusal (hId : p.id ≠ 0) {e : ApiError}
    (h : layers.findSome? (Layer.refusal p) = some e) : e = .forbidden := by
  obtain ⟨layer, -, hLayer⟩ := List.exists_of_findSome?_eq_some h
  cases layer with
  | gateway policy => cases hLayer
  | authenticated => simp [Layer.refusal, hId] at hLayer
  | role gate =>
    simp only [Layer.refusal, if_neg hId] at hLayer
    split at hLayer
    · cases hLayer
    · exact (Option.some.inj hLayer).symm

theorem answerFor_of_sameGates (h : SameGates layers others) (p : Principal) :
    answerFor layers p = answerFor others p := by
  by_cases hId : p.id = 0
  · rw [answerFor_nobody hId, answerFor_nobody hId]
  have hNone : layers.findSome? (Layer.refusal p) = none ↔
      others.findSome? (Layer.refusal p) = none := by
    rw [findSome?_refusal_eq_none_iff hId, findSome?_refusal_eq_none_iff hId]
    exact forall_congr' fun gate => imp_congr_left (h gate)
  have hRefusal : layers.findSome? (Layer.refusal p) = others.findSome? (Layer.refusal p) := by
    cases hLayers : layers.findSome? (Layer.refusal p) with
    | none => exact (hNone.mp hLayers).symm
    | some e =>
      cases hOthers : others.findSome? (Layer.refusal p) with
      | none => rw [hNone.mpr hOthers] at hLayers; cases hLayers
      | some e' =>
        rw [eq_forbidden_of_findSome?_refusal hId hLayers,
          eq_forbidden_of_findSome?_refusal hId hOthers]
  rw [answerFor, answerFor, hRefusal]

theorem openingCaller_of_frontPolicy (h : frontPolicy layers = frontPolicy others)
    (headers : Headers) (peer : Option SocketAddress) (preset : Option Principal) :
    openingCaller layers headers peer preset = openingCaller others headers peer preset := by
  cases preset with
  | some q => rfl
  | none =>
    rw [frontPolicy, frontPolicy] at h
    rw [openingCaller, openingCaller, h]

/-- The policy in front and the role layers decide the response. -/
theorem answerCaller_of_sameGates (hFront : frontPolicy layers = frontPolicy others)
    (hGates : SameGates layers others) (headers : Headers) (peer : Option SocketAddress)
    (preset : Option Principal) :
    answerCaller layers headers peer ⟨preset⟩ = answerCaller others headers peer ⟨preset⟩ := by
  rw [answerCaller_eq, answerCaller_eq, openingCaller_of_frontPolicy hFront]
  cases openingCaller others headers peer preset with
  | error e => rfl
  | ok p => exact answerFor_of_sameGates hGates p

/-! ### Rearrangements -/

/-- Neighbours in a stack, and what may stand in their place. -/
inductive Interchangeable : List Layer → List Layer → Prop
  | swap {layer other : Layer} (h : isGateway layer = false) (h' : isGateway other = false) :
      Interchangeable [layer, other] [other, layer]
  | repeated (layer : Layer) : Interchangeable [layer, layer] [layer]
  | implied_outside (gate : RoleGate) :
      Interchangeable [.authenticated, .role gate] [.role gate]
  | implied_inside (gate : RoleGate) :
      Interchangeable [.role gate, .authenticated] [.role gate]

/-- One stack comes from the other by a change to neighbours somewhere in it. -/
inductive Rearranges : List Layer → List Layer → Prop
  | within (outer inner : List Layer) {window window' : List Layer}
      (h : Interchangeable window window') :
      Rearranges (outer ++ (window ++ inner)) (outer ++ (window' ++ inner))

theorem Interchangeable.sameGates {window window' : List Layer}
    (h : Interchangeable window window') : SameGates window window' := by
  intro gate
  cases h with
  | swap => simp [or_comm]
  | repeated layer => simp
  | implied_outside other => simp
  | implied_inside other => simp

theorem gatewayPolicy?_eq_none {layer : Layer} (h : isGateway layer = false) :
    gatewayPolicy? layer = none := by
  cases layer with
  | gateway policy => cases h
  | authenticated => rfl
  | role gate => rfl

theorem Interchangeable.frontPolicy_append {window window' : List Layer}
    (h : Interchangeable window window') (inner : List Layer) :
    frontPolicy (window ++ inner) = frontPolicy (window' ++ inner) := by
  cases h with
  | swap h h' => exact (gatewayPolicy?_eq_none h).trans (gatewayPolicy?_eq_none h').symm
  | repeated layer => rfl
  | implied_outside gate => rfl
  | implied_inside gate => rfl

theorem Rearranges.sameGates (h : Rearranges layers others) : SameGates layers others := by
  obtain ⟨outer, inner, h⟩ := h
  intro gate
  simp only [List.mem_append, h.sameGates gate]

theorem Rearranges.frontPolicy_eq (h : Rearranges layers others) :
    frontPolicy layers = frontPolicy others := by
  obtain ⟨outer, inner, h⟩ := h
  cases outer with
  | nil => exact h.frontPolicy_append inner
  | cons layer outer => rfl

/-- However often neighbours in a stack are rearranged, every request is answered as before, those
that are turned away included. -/
theorem answerCaller_rearranged (h : Relation.EqvGen Rearranges layers others) (headers : Headers)
    (peer : Option SocketAddress) (preset : Option Principal) :
    answerCaller layers headers peer ⟨preset⟩ = answerCaller others headers peer ⟨preset⟩ := by
  induction h with
  | rel layers others hStep =>
    exact answerCaller_of_sameGates hStep.frontPolicy_eq hStep.sameGates headers peer preset
  | refl layers => rfl
  | symm layers others _ ih => exact ih.symm
  | trans layers middle others _ _ first second => exact first.trans second

/-- A gateway layer that trusts every peer. -/
def openGateway : Layer := .gateway ⟨.everyone, false⟩

/-- A gateway layer is repeated, authenticated layers stand around the role layers, and these are
in the other order. -/
def wordyStack : List Layer :=
  [openGateway, openGateway, .authenticated, .role .admin, .role .userOrAdmin, .authenticated]

def terseStack : List Layer := [openGateway, .role .userOrAdmin, .role .admin]

theorem wordyStack_rearranged : Relation.EqvGen Rearranges wordyStack terseStack := by
  have hGateway : Rearranges wordyStack
      [openGateway, .authenticated, .role .admin, .role .userOrAdmin, .authenticated] :=
    .within [] [.authenticated, .role .admin, .role .userOrAdmin, .authenticated]
      (.repeated openGateway)
  have hOutside : Rearranges
      [openGateway, .authenticated, .role .admin, .role .userOrAdmin, .authenticated]
      [openGateway, .role .admin, .role .userOrAdmin, .authenticated] :=
    .within [openGateway] [.role .userOrAdmin, .authenticated] (.implied_outside .admin)
  have hInside : Rearranges [openGateway, .role .admin, .role .userOrAdmin, .authenticated]
      [openGateway, .role .admin, .role .userOrAdmin] :=
    .within [openGateway, .role .admin] [] (.implied_inside .userOrAdmin)
  have hSwap : Rearranges [openGateway, .role .admin, .role .userOrAdmin] terseStack :=
    .within [openGateway] [] (.swap rfl rfl)
  exact .trans _ _ _ (.rel _ _ hGateway)
    (.trans _ _ _ (.rel _ _ hOutside) (.trans _ _ _ (.rel _ _ hInside) (.rel _ _ hSwap)))

/-- User 7 is turned away by the one role layer and not by the other, and the answer to it is the
same in either order. -/
theorem user_turned_away_alike :
    Relation.EqvGen Rearranges wordyStack terseStack ∧
      answerCaller wordyStack [Response.header "x-user-id" "7"] none ⟨none⟩ =
        answerCaller terseStack [Response.header "x-user-id" "7"] none ⟨none⟩ ∧
      (answerCaller terseStack [Response.header "x-user-id" "7"] none ⟨none⟩).status = 403 :=
  ⟨wordyStack_rearranged, answerCaller_rearranged wordyStack_rearranged _ none none, by rfl⟩

end Gatehouse.Service
