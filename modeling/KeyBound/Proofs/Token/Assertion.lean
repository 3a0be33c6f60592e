import KeyBound.Proofs.Client.Frame
import KeyBound.Proofs.Handshake.Claims
import KeyBound.Proofs.Text.Form

/-!
# The claims of an assertion

A server reads the assertion from the form of a token request, and finds what the client has stated
in it.
-/

set_option autoImplicit false

namespace KeyBound

namespace Assertion.Claims

open Json

def decoder : Decoder Claims :=
  decodeRecord ⟨"", "", "", 0, 0, ""⟩
    [.ofDecoder "aud" true decodeText fun x claims => { claims with audience := x },
      .ofDecoder "iss" true decodeText fun x claims => { claims with issuer := x },
      .ofDecoder "sub" true decodeText fun x claims => { claims with subject := x },
      .ofDecoder "iat" true decodeInt64 fun x claims => { claims with issuedAt := x },
      .ofDecoder "exp" true decodeInt64 fun x claims => { claims with expiresAt := x },
      .ofDecoder "jti" true decodeText fun x claims => { claims with identifier := x }]

def IsShort (n : Int) : Prop := -(Nat.pow 2 63 : Nat) ≤ n ∧ n ≤ (Nat.pow 2 63 : Nat) - 1

theorem decode_toJson {claims : Claims} (issued : IsShort claims.issuedAt)
    (expires : IsShort claims.expiresAt) :
    decodeWhole decoder (utf8 claims.toJson.toText) = .ok claims := by
  obtain ⟨audience, issuer, subject, issuedAt, expiresAt, identifier⟩ := claims
  have prints : MembersPrint [("aud", .text audience), ("iss", .text issuer),
      ("sub", .text subject), ("iat", .ofInt issuedAt), ("exp", .ofInt expiresAt),
      ("jti", .text identifier)] _ :=
    .cons (prints_text audience) (.cons (prints_text issuer) (.cons (prints_text subject)
      (.cons (prints_integer issuedAt) (.cons (prints_integer expiresAt)
        (.cons (prints_text identifier) .nil)))))
  refine (decodeWhole_of_text prints.prints.wholeText decoder).trans ?_
  simp only [decoder, decodeRecord, descend, bind, Except.bind, depthLimit]
  rw [decodeMembers_of_known (spells_textPieces _) (show field? "aud" _ = some _ from rfl) rfl
      (Field.ofDecoder_update (decodeText_textPieces _ _)),
    decodeMembers_of_known (spells_textPieces _) (show field? "iss" _ = some _ from rfl) rfl
      (Field.ofDecoder_update (decodeText_textPieces _ _)),
    decodeMembers_of_known (spells_textPieces _) (show field? "sub" _ = some _ from rfl) rfl
      (Field.ofDecoder_update (decodeText_textPieces _ _)),
    decodeMembers_of_known (spells_textPieces _) (show field? "iat" _ = some _ from rfl) rfl
      (Field.ofDecoder_update (decodeInt64_integerLiteral _ issued.1 issued.2)),
    decodeMembers_of_known (spells_textPieces _) (show field? "exp" _ = some _ from rfl) rfl
      (Field.ofDecoder_update (decodeInt64_integerLiteral _ expires.1 expires.2)),
    decodeMembers_of_known (spells_textPieces _) (show field? "jti" _ = some _ from rfl) rfl
      (Field.ofDecoder_update (decodeText_textPieces _ _))]
  rfl

end Assertion.Claims

/-- The claims that a server reads from the assertion in the form of a request, if there is one that
it can read. -/
def Request.assertion? (request : Request) : Option Assertion.Claims :=
  match ((Form.decode request.body).lookup "client_assertion").map
      (Text.splitAt '.' ·.toList) with
  | some [_, payload, _] =>
    (Base64.decode? Base64.urlSafe payload).bind fun bytes =>
      (Json.decodeWhole Assertion.Claims.decoder bytes).toOption
  | _ => none

namespace Acquisition

/-- A server reads from a token request what the client states at the instant at which it makes the
request. -/
theorem assertion?_of_request {config : ClientConfig} {now : Instant} {draw : Draw}
    {made : Request} (requested : request config now draw = .ok made) :
    ∃ expiry, now.add? Assertion.lifetime = some expiry ∧
      made.assertion? = some ⟨config.tokenEndpoint.toText, config.clientId, config.clientId,
        now.seconds, expiry.seconds, draw.identifier⟩ := by
  have asks := request_asks config now draw
  rw [requested] at asks
  cases asks with
  | @made expiry assertion later able signed =>
      refine ⟨expiry, later, ?_⟩
      have whole : Json.decodeWhole Assertion.Claims.decoder
          (utf8 (statedAt config now expiry draw).toJson.toText) =
            .ok (statedAt config now expiry draw) :=
        Assertion.Claims.decode_toJson now.seconds_bounds expiry.seconds_bounds
      have stated : (form config assertion).lookup "client_assertion" = some assertion := by
        simp [form, List.lookup_cons]
      simp only [Request.assertion?, Request.withForm, Request.withHeader, Form.decode_encode]
      rw [stated, signed, Option.map_some, splitAt_compactToken]
      simp only [decode?_urlText, whole, Option.bind_some]
      rfl

end Acquisition

end KeyBound
