import KeyBound.Handshake.State
import KeyBound.Proofs.Http.Header
import KeyBound.Proofs.Json.Likeness
import KeyBound.Proofs.Token.Response

/-!
# Tokens with other secrets

Responses that grant the same token but for its secrets, and what they have in common: the token
that is read from them is the same but for its secrets, as is the header that presents it, and if
there is something wrong with one of them, the same is wrong with the other.
-/

set_option autoImplicit false

namespace KeyBound

/-- A text of visible characters and spaces, all of them ASCII. -/
def Text.IsVisible (text : String) : Prop := ∀ c ∈ text.toList, 0x20 ≤ c.toNat ∧ c.toNat ≤ 0x7E

instance (text : String) : Decidable (Text.IsVisible text) :=
  show Decidable (∀ c ∈ text.toList, 0x20 ≤ c.toNat ∧ c.toNat ≤ 0x7E) from
    List.decidableBAll _ _

theorem Text.IsVisible.append {first second : String} (visible : IsVisible first)
    (visibleToo : IsVisible second) : IsVisible (first ++ second) := by
  intro c member
  rw [String.toList_append] at member
  rcases List.mem_append.mp member with left | right
  · exact visible c left
  · exact visibleToo c right

/-! ## Tokens -/

/-- Two tokens are the same but for their secrets. A secret that differs is visible, and may stand
in a header. -/
structure AccessToken.Alike (first second : AccessToken) : Prop where
  secret : first.secret = second.secret ∨
    Text.IsVisible first.secret.text ∧ Text.IsVisible second.secret.text
  tokenType : first.tokenType = second.tokenType
  issuedAt : first.issuedAt = second.issuedAt
  expiresAt : first.expiresAt = second.expiresAt
  scope : first.scope = second.scope
  idToken : first.idToken.isSome = second.idToken.isSome

namespace AccessToken

theorem Alike.refl (token : AccessToken) : token.Alike token := ⟨.inl rfl, rfl, rfl, rfl, rfl, rfl⟩

variable {first second : AccessToken}

theorem Alike.needsRenewal?_eq (alike : first.Alike second) (window : Span) (now : Instant) :
    first.needsRenewal? window now = second.needsRenewal? window now := by
  have expired : first.isExpiredAt = second.isExpiredAt := by
    funext now
    rw [isExpiredAt, isExpiredAt, alike.expiresAt]
  rw [needsRenewal?, needsRenewal?, expiresWithin?, expiresWithin?, expired]

end AccessToken

/-- A value that presents a token under a scheme. -/
def HeaderValue.presenting (scheme token : String) : HeaderValue := ⟨utf8 (scheme ++ token), true⟩

/-- The schemes under which tokens are presented, with the space after them. -/
def HeaderValue.schemes : List String := ["Bearer ", "DPoP "]

namespace HeaderValue

theorem visible_of_scheme {scheme : String} (known : scheme ∈ schemes) : Text.IsVisible scheme := by
  have each : ∀ scheme ∈ schemes, Text.IsVisible scheme := by decide
  exact each scheme known

theorem chars?_presenting {scheme token : String} (known : scheme ∈ schemes)
    (visible : Text.IsVisible token) :
    (presenting scheme token).chars? = some (scheme.toList ++ token.toList) := by
  rw [← String.toList_append]
  exact chars?_ofAscii fun c member => .inr (((visible_of_scheme known).append visible) c member)

theorem isAllowed_of_isTextByte {b : UInt8} (textual : isTextByte b = true) :
    isAllowed b = true := by
  simp only [isTextByte, isAllowed, Bool.or_eq_true, decide_eq_true_eq, Bool.and_eq_true,
    bne_iff_ne, ne_eq, UInt8.le_iff_toNat_le, ← UInt8.toNat_inj, UInt8.reduceToNat] at textual ⊢
  omega

end HeaderValue

theorem AccessToken.authorization?_of_visible {token : AccessToken}
    (visible : Text.IsVisible token.secret.text) :
    token.authorization? = some (.presenting "Bearer " token.secret.text) := by
  have read := HeaderValue.chars?_presenting (List.mem_cons_self : "Bearer " ∈ HeaderValue.schemes)
    visible
  have textual : (HeaderValue.presenting "Bearer " token.secret.text).isText = true := by
    unfold HeaderValue.chars? at read
    split at read
    · assumption
    · cases read
  have allowed : (utf8 ("Bearer " ++ token.secret.text)).all HeaderValue.isAllowed = true :=
    List.all_eq_true.mpr fun b member =>
      HeaderValue.isAllowed_of_isTextByte (List.all_eq_true.mp textual b member)
  simp only [authorization?, HeaderValue.ofText?, allowed, if_true, Option.map_some]
  rfl

/-! ## Responses -/

namespace TokenResponse

/-- The texts of a grant that may differ: its secrets, of which access tokens are visible. -/
def isSecret (name text other : String) : Prop :=
  name = "access_token" ∧ Text.IsVisible text ∧ Text.IsVisible other ∨ name = "id_token"

def fieldNames : List String := ["token_type", "expires_in", "access_token", "id_token", "scope"]

/-- Two bodies are the same, or are those of grants that are the same but for their secrets. -/
inductive BodiesAlike : Bytes → Bytes → Prop where
  | same (body : Bytes) : BodiesAlike body body
  | grants {first second : Bytes} :
      Json.Doc.Alike isSecret fieldNames (Json.read first).1 (Json.read second).1 →
      BodiesAlike first second

structure Grant.Alike (first second : Grant) : Prop where
  tokenType : first.tokenType = second.tokenType
  expiresIn : first.expiresIn = second.expiresIn
  accessToken : first.accessToken = second.accessToken ∨
    Text.IsVisible first.accessToken ∧ Text.IsVisible second.accessToken
  idToken : first.idToken.isSome = second.idToken.isSome
  scope : first.scope = second.scope

theorem Grant.Alike.refl (grant : Grant) : grant.Alike grant := ⟨rfl, rfl, .inl rfl, rfl, rfl⟩

theorem isBlankBody_of_alike {first second : Bytes}
    (alike : Json.Doc.Alike isSecret fieldNames (Json.read first).1 (Json.read second).1) :
    isBlankBody first = false ∧ isBlankBody second = false := by
  generalize read : (Json.read first).1 = doc at alike
  generalize readToo : (Json.read second).1 = other at alike
  cases alike with
  | object =>
      exact ⟨isBlankBody_of_record (.inl ⟨_, read⟩), isBlankBody_of_record (.inl ⟨_, readToo⟩)⟩
  | array =>
      exact ⟨isBlankBody_of_record (.inr ⟨_, read⟩), isBlankBody_of_record (.inr ⟨_, readToo⟩)⟩

theorem decodeGrant_alike {doc other : Json.Doc}
    (alike : doc.Alike isSecret fieldNames other) (depth : Nat) :
    Agree Eq Grant.Alike (Grant.decoder depth doc) (Grant.decoder depth other) := by
  refine Json.decodeRecord_alike ?_ alike depth (.refl _)
  have text (depth : Nat) (pieces : List Json.Piece) (text : String)
      (read : Json.textOf pieces = .ok text) :
      Json.decodeText depth (.string pieces) = .ok text := by
    rw [Json.decodeText, read]
    rfl
  have nullable (depth : Nat) (pieces : List Json.Piece) (text : String)
      (read : Json.textOf pieces = .ok text) :
      Json.decodeNullable Json.decodeText depth (.string pieces) = .ok (some text) := by
    simp only [Json.decodeNullable, Json.decodeText, read]
    rfl
  simp only [Grant.fields, List.forall_mem_cons, List.not_mem_nil, false_imp_iff, implies_true,
    and_true]
  refine ⟨?tokenType, ?expiresIn, ?accessToken, ?idToken, ?scope⟩
  case tokenType =>
    exact Json.Field.keeps_of_same (by simp [isSecret, Json.Field.ofDecoder])
      fun x first second alike => { alike with tokenType := rfl }
  case expiresIn =>
    exact Json.Field.keeps_of_same (by simp [isSecret, Json.Field.ofDecoder])
      fun x first second alike => { alike with expiresIn := rfl }
  case accessToken =>
    refine Json.Field.keeps_of_texts text
      (fun x first second alike => { alike with accessToken := .inl rfl })
      fun text other first second secret alike => { alike with accessToken := .inr ?_ }
    simpa [isSecret, Json.Field.ofDecoder] using secret
  case idToken =>
    exact Json.Field.keeps_of_texts nullable
      (fun x first second alike => { alike with idToken := rfl })
      fun text other first second _ alike => { alike with idToken := rfl }
  case scope =>
    exact Json.Field.keeps_of_same (by simp [isSecret, Json.Field.ofDecoder])
      fun x first second alike => { alike with scope := rfl }

theorem Grant.Alike.token_alike {first second : Grant} (alike : first.Alike second)
    (issuedAt : Instant) :
    Agree Eq AccessToken.Alike (first.token issuedAt) (second.token issuedAt) := by
  obtain ⟨tokenType, expiresIn, accessToken, idToken, scope⟩ := alike
  unfold Grant.token
  rw [expiresIn]
  cases second.expiresIn with
  | none => exact .error rfl
  | some seconds =>
      dsimp only
      split
      · exact .error rfl
      · split
        · exact .error rfl
        · refine .ok ⟨?_, tokenType, rfl, rfl, scope, ?_⟩
          · exact accessToken.imp_left fun same => congrArg Secret.mk same
          · simpa using idToken

end TokenResponse

/-- Two responses to a request for some target are the same, or both grant a token to it that is the
same but for its secrets. -/
inductive Response.Alike : Target → Response → Response → Prop where
  | same {target : Target} (response : Response) : Alike target response response
  | granting {status : Nat} {headers : Headers} {body other : Bytes} :
      200 ≤ status → status < 300 → TokenResponse.BodiesAlike body other →
      Alike .token ⟨status, headers, body⟩ ⟨status, headers, other⟩

namespace Response.Alike

variable {target : Target} {first second : Response}

theorem eq_of_resource (alike : Response.Alike .resource first second) : first = second := by
  cases alike
  rfl

theorem forToken (alike : Response.Alike target first second) :
    Response.Alike .token first second := by
  cases alike with
  | same => exact .same first
  | granting low high alike => exact .granting low high alike

theorem isSuccess_eq (alike : Response.Alike target first second) :
    first.isSuccess = second.isSuccess := by
  cases alike <;> rfl

theorem headers_eq (alike : Response.Alike target first second) :
    first.headers = second.headers := by
  cases alike <;> rfl

end Response.Alike

/-- Two defects are the same, or two bodies that are alike are refused for the same failure. Of
these the parser reports what it makes of each. -/
inductive TokenDefect.Alike (explain : Bytes → Json.Report) : TokenDefect → TokenDefect → Prop where
  | same (defect : TokenDefect) : Alike explain defect defect
  | malformed {body other : Bytes} (failure : Json.Failure) (status : Nat) :
      TokenResponse.BodiesAlike body other →
      Alike explain (.malformed failure (explain (Json.headText body)) status)
        (.malformed failure (explain (Json.headText other)) status)

theorem TokenResponse.token_alike (explain : Bytes → Json.Report) {first second : Response}
    (alike : Response.Alike .token first second) (issuedAt : Instant) :
    Agree (TokenDefect.Alike explain) AccessToken.Alike (token explain first issuedAt)
      (token explain second issuedAt) := by
  cases alike with
  | same response => exact .refl .same .refl _
  | @granting status headers body other low high bodies =>
      cases bodies with
      | same => exact .refl .same .refl _
      | grants alike =>
          have success : decide (200 ≤ status) && decide (status < 300) := by simp [low, high]
          obtain ⟨something, somethingToo⟩ := isBlankBody_of_alike alike
          have decoded := decodeGrant_alike alike Json.depthLimit
          simp only [token, Response.isSuccess, success, something, somethingToo, Response.decode,
            Json.decodeHead, Bool.not_true, Bool.false_eq_true, if_false]
          generalize Grant.decoder Json.depthLimit (Json.read body).1 = grant at decoded
          generalize Grant.decoder Json.depthLimit (Json.read other).1 = granted at decoded
          cases decoded with
          | ok related =>
              refine (related.token_alike issuedAt).mono ?_ fun _ _ => id
              rintro defect _ rfl
              exact .same defect
          | error same =>
              subst same
              exact .error (.malformed _ status (.grants alike))

end KeyBound
