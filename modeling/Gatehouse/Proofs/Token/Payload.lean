import Gatehouse.Proofs.Except
import Gatehouse.Proofs.Token.Signed
import Gatehouse.Token.Issuer
import Gatehouse.Token.Payload

/-! What tokens say.  The claims of each kind of token are read as claims of that kind and not of
the other one, whatever texts they carry. -/

namespace Gatehouse.Token

open Payload

theorem mapM_text? (items : List String) : (items.map Json.text).mapM text? = some items := by
  induction items with
  | nil => rfl
  | cons s items ih => simp [text?, ih]

theorem texts?_texts (items : List String) : texts? (Json.texts items) = some items :=
  mapM_text? items

theorem seconds?_toInt (s : Seconds) : seconds? (.int s.toInt) = some s := by
  rw [seconds?, Int64.ofInt_toInt, if_pos rfl]

theorem fields?_of_lacking {keys : List String} {members : List (String × Json)} (key : String)
    (hKey : key ∈ keys) (hLacking : field? members key = none) :
    fields? keys (.record members) = none :=
  mapM_eq_none_iff.mpr ⟨key, hKey, hLacking⟩

theorem fields?_accessClaims (c : AccessClaims) :
    fields? AccessPayload.keys c.toJson =
      some [.text (subjectText c.subject), .text c.email, .text c.name, Json.texts c.roles,
        .int c.validity.issuedAt.toInt, .int c.validity.issuedAt.toInt,
        .int c.validity.expiresAt.toInt, .text c.validity.tokenId] := by
  simp [fields?, AccessPayload.keys, AccessClaims.toJson, Validity.members, field?]

theorem fields?_refreshClaims (c : RefreshClaims) :
    fields? RefreshPayload.keys c.toJson =
      some [.text (subjectText c.subject), .text "refresh",
        .int c.validity.issuedAt.toInt, .int c.validity.issuedAt.toInt,
        .int c.validity.expiresAt.toInt, .text c.validity.tokenId] := by
  simp [fields?, RefreshPayload.keys, RefreshClaims.toJson, Validity.members, field?]

theorem accessPayload_accessClaims (c : AccessClaims) :
    AccessPayload.ofJson? c.toJson = some {
      sub := subjectText c.subject
      email := c.email
      name := c.name
      roles := c.roles
      iat := c.validity.issuedAt
      nbf := c.validity.issuedAt
      exp := c.validity.expiresAt
      jti := c.validity.tokenId } := by
  simp [AccessPayload.ofJson?, fields?_accessClaims, text?, texts?_texts, seconds?_toInt]

theorem refreshPayload_refreshClaims (c : RefreshClaims) :
    RefreshPayload.ofJson? c.toJson = some {
      sub := subjectText c.subject
      type := "refresh"
      iat := c.validity.issuedAt
      nbf := c.validity.issuedAt
      exp := c.validity.expiresAt
      jti := c.validity.tokenId } := by
  simp [RefreshPayload.ofJson?, fields?_refreshClaims, text?, seconds?_toInt]

/-- The claims of an access token have no type. -/
theorem refreshPayload_accessClaims (c : AccessClaims) :
    RefreshPayload.ofJson? c.toJson = none := by
  have hLacking : fields? RefreshPayload.keys c.toJson = none :=
    fields?_of_lacking "type" (by decide) rfl
  rw [RefreshPayload.ofJson?, hLacking]
  rfl

/-- The claims of a refresh token have no roles. -/
theorem accessPayload_refreshClaims (c : RefreshClaims) :
    AccessPayload.ofJson? c.toJson = none := by
  have hLacking : fields? AccessPayload.keys c.toJson = none :=
    fields?_of_lacking "roles" (by decide) rfl
  rw [AccessPayload.ofJson?, hLacking]
  rfl

theorem AccessPayload.ofToken?_signed (secret : String) (claims : Json) :
    AccessPayload.ofToken? (signed secret claims) = AccessPayload.ofJson? claims := by
  rw [AccessPayload.ofToken?, ofText?_signed, Option.bind_some]

theorem RefreshPayload.ofToken?_signed (secret : String) (claims : Json) :
    RefreshPayload.ofToken? (signed secret claims) = RefreshPayload.ofJson? claims := by
  rw [RefreshPayload.ofToken?, ofText?_signed, Option.bind_some]

theorem ofText?_sign (secret : String) (claims : Json) :
    ∃ token parts, sign secret (some claims) = .ok token ∧ Parts.ofText? token = some parts ∧
      parts.claims = claims :=
  ⟨_, _, rfl, ofText?_signed secret claims, rfl⟩

variable {Question : Type} {Answer : Question → Type}

/-- Each kind of token holds the members of its kind with the given texts, and cannot stand in for
the other kind. -/
theorem tokens_kept_apart (issuer : Issuer Question Answer) (stamp : Stamp) (subject : Subject)
    (roles : List String) :
    (∃ token parts, issuer.accessToken stamp subject roles = .ok token ∧
      Parts.ofText? token = some parts ∧
      parts.claims = .record [
        ("sub", .text (toString subject.user.toNat)),
        ("email", .text subject.email),
        ("name", .text subject.name),
        ("roles", .list (roles.map .text)),
        ("iat", .int stamp.accessNow.toInt),
        ("nbf", .int stamp.accessNow.toInt),
        ("exp", .int (expiry stamp.accessNow issuer.settings.accessTtl).toInt),
        ("jti", .text stamp.accessId)] ∧
      AccessPayload.ofJson? parts.claims = some {
        sub := toString subject.user.toNat
        email := subject.email
        name := subject.name
        roles := roles
        iat := stamp.accessNow
        nbf := stamp.accessNow
        exp := expiry stamp.accessNow issuer.settings.accessTtl
        jti := stamp.accessId } ∧
      RefreshPayload.ofJson? parts.claims = none) ∧
    (∃ token parts, issuer.refreshToken stamp subject.user = .ok token ∧
      Parts.ofText? token = some parts ∧
      parts.claims = .record [
        ("sub", .text (toString subject.user.toNat)),
        ("type", .text "refresh"),
        ("iat", .int stamp.refreshNow.toInt),
        ("nbf", .int stamp.refreshNow.toInt),
        ("exp", .int (expiry stamp.refreshNow issuer.settings.refreshTtl).toInt),
        ("jti", .text stamp.refreshId)] ∧
      RefreshPayload.ofJson? parts.claims = some {
        sub := toString subject.user.toNat
        type := "refresh"
        iat := stamp.refreshNow
        nbf := stamp.refreshNow
        exp := expiry stamp.refreshNow issuer.settings.refreshTtl
        jti := stamp.refreshId } ∧
      AccessPayload.ofJson? parts.claims = none) := by
  constructor
  · obtain ⟨token, parts, hToken, hParts, hClaims⟩ := ofText?_sign issuer.settings.secret
      (AccessClaims.toJson ⟨subject.user, subject.email, subject.name, roles,
        ⟨stamp.accessNow, expiry stamp.accessNow issuer.settings.accessTtl, stamp.accessId⟩⟩)
    refine ⟨token, parts, hToken, hParts, hClaims, ?_, ?_⟩
    · rw [hClaims, accessPayload_accessClaims]
      rfl
    · rw [hClaims, refreshPayload_accessClaims]
  · obtain ⟨token, parts, hToken, hParts, hClaims⟩ := ofText?_sign issuer.settings.secret
      (RefreshClaims.toJson ⟨subject.user,
        ⟨stamp.refreshNow, expiry stamp.refreshNow issuer.settings.refreshTtl, stamp.refreshId⟩⟩)
    refine ⟨token, parts, hToken, hParts, hClaims, ?_, ?_⟩
    · rw [hClaims, refreshPayload_refreshClaims]
      rfl
    · rw [hClaims, accessPayload_refreshClaims]

end Gatehouse.Token
