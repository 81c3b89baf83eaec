import Gatehouse.Proofs.Crypto.Base64Url
import Gatehouse.Proofs.Json.Canonical
import Gatehouse.Proofs.Json.Compact
import Gatehouse.Proofs.Text.Split
import Gatehouse.Token.Parts

/-! What a signed token holds.  It is cut at its full stops into the header, the claims and the
authentication code, and each of them is read back as what it was made from. -/

namespace Gatehouse.Token

open Crypto Text

theorem encode_ne_stop (bytes : List UInt8) :
    ∀ c ∈ (Base64Url.encode bytes).toList, (c == '.') = false := by
  intro c hc
  have hStop : ¬Base64Url.InAlphabet '.' := by
    unfold Base64Url.InAlphabet
    decide
  rw [beq_eq_false_iff_ne]
  rintro rfl
  exact hStop (Base64Url.encode_inAlphabet bytes _ hc)

theorem segment_ne_stop (j : Json) : ∀ c ∈ (segment j).toList, (c == '.') = false :=
  encode_ne_stop _

theorem toList_signed (secret : String) (claims : Json) :
    (signed secret claims).toList =
      (segment header).toList ++ '.' :: ((segment claims).toList ++
        '.' :: (Base64Url.encode (signature secret (signingInput claims))).toList) := by
  simp [signed, signingInput]

theorem pieces_signed (secret : String) (claims : Json) :
    pieces (· == '.') (signed secret claims).toList =
      [(segment header).toList, (segment claims).toList,
        (Base64Url.encode (signature secret (signingInput claims))).toList] := by
  rw [toList_signed, pieces_append_cons (segment_ne_stop _) rfl,
    pieces_append_cons (segment_ne_stop _) rfl, pieces_of_forall (encode_ne_stop _)]

theorem decode?_segment (j : Json) :
    (Base64Url.decode? (segment j).toList).bind Json.parse? = some j := by
  rw [segment, Base64Url.decode?_encode, Option.bind_some, Json.parse?_compact]

theorem ofText?_signed (secret : String) (claims : Json) :
    Parts.ofText? (signed secret claims) =
      some ⟨header.compact, claims, signature secret (signingInput claims),
        signingInput claims⟩ := by
  unfold Parts.ofText?
  rw [toList_signed, cutAt_append_cons (segment_ne_stop _) rfl]
  dsimp only
  rw [cutAt_append_cons (segment_ne_stop _) rfl]
  simp [segment, Base64Url.decode?_encode, Json.parse?_compact, Utf8.decode?_encode, signingInput]

theorem signed_injective {secret : String} {a b : Json} (h : signed secret a = signed secret b) :
    a = b := by
  have hParts := ofText?_signed secret a
  rw [h, ofText?_signed, Option.some.injEq, Parts.mk.injEq] at hParts
  exact hParts.2.1.symm

theorem sign_error {secret : String} {claims : Option Json} {e : ApiError}
    (h : sign secret claims = .error e) : e = .signingFailed := by
  unfold sign at h
  split at h
  · cases h
  · exact (Except.error.inj h).symm

/-- A signed token holds its header and its claims, under the code of both.  Tokens of claims that
do not say the same are not the same. -/
theorem sign_decodes (secret : String) (claims : Json) :
    (∃ token first second third, sign secret (some claims) = .ok token ∧
      pieces (· == '.') token.toList = [first, second, third] ∧
      (∀ c ∈ first ++ second ++ third, Base64Url.InAlphabet c) ∧
      (Base64Url.decode? first).bind Json.parse? =
        some (.record [("typ", .text "JWT"), ("alg", .text "HS256")]) ∧
      (Base64Url.decode? second).bind Json.parse? = some claims ∧
      Base64Url.decode? third =
        some (Hmac.sha256 (Utf8.encode secret)
          (Utf8.encode (String.ofList (first ++ '.' :: second))))) ∧
      ∀ other, ¬claims.Same other →
        sign secret (some claims) ≠ sign secret (some other) ∧
          sign secret (some claims.canonical) ≠ sign secret (some other.canonical) := by
  constructor
  · refine ⟨signed secret claims, _, _, _, rfl, pieces_signed secret claims, ?_,
      decode?_segment header, decode?_segment claims, ?_⟩
    · intro c hc
      simp only [List.mem_append] at hc
      rcases hc with (hc | hc) | hc <;> exact Base64Url.encode_inAlphabet _ c hc
    · have hInput : String.ofList ((segment header).toList ++ '.' :: (segment claims).toList) =
          signingInput claims := by
        simp [signingInput, String.ofList_append, String.ofList_cons, String.append_assoc]
      rw [Base64Url.decode?_encode, hInput, signature]
  · intro other hDiffer
    constructor
    · intro hEq
      rw [signed_injective (Except.ok.inj hEq)] at hDiffer
      exact hDiffer (.refl other)
    · intro hEq
      exact hDiffer (Json.same_of_canonical_eq (signed_injective (Except.ok.inj hEq)))

theorem sign_tells_expiry_apart :
    ¬Json.Same (.record [("exp", .int 900)]) (.record [("exp", .int 901)]) ∧
      sign "secret" (some (.record [("exp", .int 900)])) ≠
        sign "secret" (some (.record [("exp", .int 901)])) := by
  have hDiffer : ¬Json.Same (.record [("exp", .int 900)]) (.record [("exp", .int 901)]) := by
    intro h
    simpa using h.eq_single
  exact ⟨hDiffer, ((sign_decodes "secret" _).2 _ hDiffer).1⟩

end Gatehouse.Token
