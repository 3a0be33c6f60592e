import KeyBound.Proofs.Text.Utf8
import KeyBound.Token.Response

/-!
# Tokens of responses

What a response has to hold for a token, and which token that is.
-/

set_option autoImplicit false

namespace KeyBound

namespace Json

/-- Of the blanks only the form feed is no white space of a document. -/
private theorem eq_formFeed {b : UInt8} (blank : isAsciiBlank (Char.ofNat b.toNat) = true)
    (noSpace : isSpace b = false) : b = 0x0C := by
  have table : ∀ n < 256, isAsciiBlank (Char.ofNat n) = true → isSpace (UInt8.ofNat n) = false →
      UInt8.ofNat n = 0x0C := by
    decide +kernel
  have named := table b.toNat b.toNat_lt blank
  rw [UInt8.ofNat_toNat] at named
  exact named noSpace

/-- No document stands in a text of blanks. -/
theorem read_of_blank {bytes : Bytes}
    (blank : ∀ b ∈ bytes, isAsciiBlank (Char.ofNat b.toNat) = true) :
    (read bytes).1 = .absent ∨ (read bytes).1 = .broken .malformed := by
  rw [read, readValue]
  cases left : skipSpace bytes with
  | nil => exact .inl rfl
  | cons b rest =>
      have member : b ∈ bytes :=
        (List.dropWhile_sublist isSpace).mem (left ▸ List.mem_cons_self : b ∈ skipSpace bytes)
      have noSpace : isSpace b = false := by
        have stop := List.head?_dropWhile_not isSpace bytes
        rw [show bytes.dropWhile isSpace = b :: rest from left] at stop
        simpa using stop
      obtain rfl := eq_formFeed (blank b member) noSpace
      exact .inr rfl

end Json

namespace TokenResponse

/-- A response whose body grants a token for some time, from when it was received. -/
structure Grants (response : Response) (token : AccessToken) (seconds : Int) : Prop where
  success : response.isSuccess = true
  lasting : 0 < seconds
  expiry : token.issuedAt.add? (.ofSeconds seconds) = some token.expiresAt
  body : response.decode Grant.decoder = .ok
    ⟨token.tokenType, some seconds, token.secret.text, token.idToken.map Secret.text, token.scope⟩

theorem isBlankBody_of_record {body : Bytes}
    (record : (∃ members, (Json.read body).1 = .object members) ∨
      ∃ items, (Json.read body).1 = .array items) : isBlankBody body = false := by
  refine Bool.eq_false_iff.mpr fun blank => ?_
  rcases Json.read_of_blank (List.all_eq_true.mp blank) with nothing | nothing <;>
    rw [nothing] at record <;> rcases record with ⟨_, same⟩ | ⟨_, same⟩ <;> cases same

theorem isBlankBody_of_decode {response : Response} {grant : Grant}
    (decoded : response.decode Grant.decoder = .ok grant) : isBlankBody response.body = false := by
  refine Bool.eq_false_iff.mpr fun blank => ?_
  rw [Response.decode, Json.decodeHead] at decoded
  rcases Json.read_of_blank (List.all_eq_true.mp blank) with nothing | nothing
  · rw [nothing] at decoded
    cases decoded
  · rw [nothing] at decoded
    cases decoded

/-- A token is read from the response that grants it. -/
theorem Grants.token_eq {response : Response} {token : AccessToken} {seconds : Int}
    (grants : Grants response token seconds) (explain : Bytes → Json.Report) :
    TokenResponse.token explain response token.issuedAt = .ok token := by
  obtain ⟨success, lasting, expiry, body⟩ := grants
  have something := isBlankBody_of_decode body
  have positive : ¬ seconds ≤ 0 := Int.not_le.mpr lasting
  have secret : Secret.mk ∘ Secret.text = id := rfl
  simp [TokenResponse.token, success, something, body, Grant.token, positive, expiry, secret]

/-- The lifetime of a granted token is positive, and ends within the calendar. -/
private theorem Grant.of_token {response : Response} {issuedAt : Instant} {token : AccessToken}
    (grant : Grant) (success : response.isSuccess = true)
    (body : response.decode Grant.decoder = .ok grant) (mapped : grant.token issuedAt = .ok token) :
    token.issuedAt = issuedAt ∧ ∃ seconds, Grants response token seconds := by
  obtain ⟨tokenType, lifetime, secret, idToken, scope⟩ := grant
  unfold Grant.token at mapped
  cases lifetime with
  | none => cases mapped
  | some seconds =>
      dsimp only at mapped
      split at mapped
      · cases mapped
      · rename_i positive
        split at mapped
        · cases mapped
        · rename_i expiresAt expiry
          cases mapped
          refine ⟨rfl, seconds, success, Int.not_le.mp positive, expiry, ?_⟩
          rw [body]
          cases idToken <;> rfl

/-- A token is read only from a response that grants it. -/
theorem grants_of_token {explain : Bytes → Json.Report} {response : Response} {issuedAt : Instant}
    {token : AccessToken} (mapped : TokenResponse.token explain response issuedAt = .ok token) :
    token.issuedAt = issuedAt ∧ ∃ seconds, Grants response token seconds := by
  unfold TokenResponse.token at mapped
  cases success : response.isSuccess with
  | false => simp [success] at mapped
  | true =>
      simp only [success, Bool.not_true, Bool.false_eq_true, ↓reduceIte] at mapped
      split at mapped
      · cases mapped
      · cases body : response.decode Grant.decoder with
        | error failure =>
            rw [body] at mapped
            cases mapped
        | ok grant =>
            rw [body] at mapped
            exact grant.of_token success body mapped

end TokenResponse

end KeyBound
