import KeyBound.Handshake.State
import KeyBound.Proofs.Http.Header
import KeyBound.Proofs.Json.Records
import KeyBound.Proofs.Text.Base64
import KeyBound.Proofs.Text.Parts
import KeyBound.Proofs.Time.Instant

/-!
# The claims of a proof

A server reads the claims of a proof from the request that carries it, and finds what the client has
stated.
-/

set_option autoImplicit false

namespace KeyBound

/-! ## Payloads -/

namespace ProofClaims

open Json

/-- The members before which an optional text stands as a document. -/
def optionalDoc (key : String) : Option String → Members → Members
  | none, docs => docs
  | some text, docs => .member (textPieces key) (.string (textPieces text)) docs

theorem optionalMember_prints {members : List (String × Value)} {docs : Members}
    (prints : MembersPrint members docs) (key : String) (value : Option String) :
    MembersPrint (optionalMember key value ++ members) (optionalDoc key value docs) := by
  cases value with
  | none => exact prints
  | some text => exact .cons (prints_text text) prints

/-- An optional text is put into the record as it is, be it there or not. -/
theorem decodeMembers_optionalDoc {fields : List (Json.Field ProofClaims)} {key : String}
    {required : Bool} {put : Option String → ProofClaims → ProofClaims} {depth : Nat}
    {seen : List String} {record : ProofClaims} {docs : Members} (value : Option String)
    (known : field? key fields =
      some (.ofDecoder key required (decodeNullable decodeText) put))
    (unseen : seen.contains key = false) (blank : put none record = record) :
    decodeMembers fields depth seen record (optionalDoc key value docs) =
      decodeMembers fields depth (value.toList.map (fun _ => key) ++ seen) (put value record)
        docs := by
  cases value with
  | none =>
      rw [blank]
      rfl
  | some text =>
      have read : decodeNullable decodeText depth (.string (textPieces text)) =
          .ok (some text) := by
        simp [decodeNullable, Except.map]
      exact decodeMembers_of_known (spells_textPieces key) known unseen
        (Field.ofDecoder_update read)

theorem decode_payload {claims : ProofClaims} (low : -(Nat.pow 2 63 : Nat) ≤ claims.issuedAt)
    (high : claims.issuedAt ≤ (Nat.pow 2 63 : Nat) - 1) :
    decodeWhole decoder (utf8 claims.payload) = .ok claims := by
  obtain ⟨method, address, identifier, issuedAt, tokenHash, nonce⟩ := claims
  have optional := optionalMember_prints (optionalMember_prints .nil "nonce" nonce) "ath" tokenHash
  rw [List.append_nil] at optional
  have prints : MembersPrint ([("htm", .text method), ("htu", .text address),
      ("jti", .text identifier), ("iat", .ofInt issuedAt)] ++
        (optionalMember "ath" tokenHash ++ optionalMember "nonce" nonce)) _ :=
    .cons (prints_text method) (.cons (prints_text address) (.cons (prints_text identifier)
      (.cons (prints_integer issuedAt) optional)))
  refine (decodeWhole_of_text prints.prints.wholeText decoder).trans ?_
  simp only [decoder, decodeRecord, descend, bind, Except.bind, depthLimit]
  -- The members stand in the order of the fields; only the last two may be left out.
  have unseen : ((tokenHash.toList.map fun _ => "ath") ++ ["iat", "jti", "htu", "htm"]).contains
      "nonce" = false := by
    cases tokenHash <;> rfl
  rw [decodeMembers_of_known (spells_textPieces _) (show field? "htm" _ = some _ from rfl) rfl
      (Field.ofDecoder_update (decodeText_textPieces _ _)),
    decodeMembers_of_known (spells_textPieces _) (show field? "htu" _ = some _ from rfl) rfl
      (Field.ofDecoder_update (decodeText_textPieces _ _)),
    decodeMembers_of_known (spells_textPieces _) (show field? "jti" _ = some _ from rfl) rfl
      (Field.ofDecoder_update (decodeText_textPieces _ _)),
    decodeMembers_of_known (spells_textPieces _) (show field? "iat" _ = some _ from rfl) rfl
      (Field.ofDecoder_update (decodeInt64_integerLiteral _ low high)),
    decodeMembers_optionalDoc tokenHash (show field? "ath" _ = some _ from rfl) rfl rfl,
    decodeMembers_optionalDoc nonce (show field? "nonce" _ = some _ from rfl) unseen rfl]
  cases tokenHash <;> cases nonce <;> rfl

end ProofClaims

/-! ## Signed tokens -/

/-- A part of a signed token consists of visible characters and holds no point. -/
theorem urlText_visible (bytes : Bytes) :
    ∀ c ∈ (urlText bytes).toList, 0x20 ≤ c.toNat ∧ c.toNat ≤ 0x7E ∧ c ≠ '.' := by
  rw [urlText, String.toList_ofList]
  exact Base64.forall_mem_encode (by decide) bytes

theorem decode?_urlText (bytes : Bytes) :
    Base64.decode? Base64.urlSafe (urlText bytes).toList = some bytes := by
  rw [urlText, String.toList_ofList, Base64.decode?_encode Base64.urlSafe_isDistinct]

theorem compactToken_toList (header claims : Json.Value) (signature : Bytes) :
    (compactToken header claims signature).toList =
      (urlText (utf8 header.toText)).toList ++
        '.' :: ((urlText (utf8 claims.toText)).toList ++ '.' :: (urlText signature).toList) := by
  simp [compactToken]

theorem compactToken_visible (header claims : Json.Value) (signature : Bytes) :
    ∀ c ∈ (compactToken header claims signature).toList, 0x20 ≤ c.toNat ∧ c.toNat ≤ 0x7E := by
  intro c member
  have part {bytes : Bytes} (inside : c ∈ (urlText bytes).toList) :
      0x20 ≤ c.toNat ∧ c.toNat ≤ 0x7E := by
    obtain ⟨low, high, _⟩ := urlText_visible bytes c inside
    exact ⟨low, high⟩
  simp only [compactToken_toList, List.mem_append, List.mem_cons] at member
  rcases member with inHeader | rfl | inClaims | rfl | inSignature
  · exact part inHeader
  · decide
  · exact part inClaims
  · decide
  · exact part inSignature

theorem splitAt_compactToken (header claims : Json.Value) (signature : Bytes) :
    Text.splitAt '.' (compactToken header claims signature).toList =
      [(urlText (utf8 header.toText)).toList, (urlText (utf8 claims.toText)).toList,
        (urlText signature).toList] := by
  have pointless (bytes : Bytes) : '.' ∉ (urlText bytes).toList :=
    fun member => (urlText_visible bytes _ member).2.2 rfl
  rw [compactToken_toList, Text.splitAt_append (pointless _), Text.splitAt_append (pointless _),
    Text.splitAt_of_notMem (pointless _)]

/-! ## Proofs on requests -/

namespace Proof

/-- The claims that a server reads from the proof on a request, if there is one that it can read. -/
def claims? (request : Request) : Option ProofClaims :=
  match (request.headers.chars? "dpop").map (Text.splitAt '.') with
  | some [_, payload, _] =>
    (Base64.decode? Base64.urlSafe payload).bind fun bytes =>
      (Json.decodeWhole ProofClaims.decoder bytes).toOption
  | _ => none

def statedNonce? (request : Request) : Option String := (claims? request).bind (·.nonce)

theorem claims?_withHeader_sign (request : Request) (key : ProofKey) {claims : ProofClaims}
    (signature : Bytes) (low : -(Nat.pow 2 63 : Nat) ≤ claims.issuedAt)
    (high : claims.issuedAt ≤ (Nat.pow 2 63 : Nat) - 1) :
    claims? (request.withHeader "dpop" (.ofAscii (sign key claims signature))) = some claims := by
  have read : (request.withHeader "dpop" (.ofAscii (sign key claims signature))).headers.chars?
      "dpop" = some (sign key claims signature).toList := by
    rw [Request.withHeader, Headers.chars?, Headers.get?, Headers.getAll_insert_self,
      List.head?_cons, Option.bind_eq_bind, Option.bind_some]
    exact HeaderValue.chars?_ofAscii fun c member => .inr (compactToken_visible _ _ _ c member)
  have whole := ProofClaims.decode_payload low high
  rw [ProofClaims.payload] at whole
  rw [claims?, read, Option.map_some, sign, splitAt_compactToken]
  dsimp only
  rw [decode?_urlText, Option.bind_some, whole]
  rfl

end Proof

/-- The seconds of an instant fit a signed number of 64 bits. -/
theorem Instant.seconds_bounds (instant : Instant) :
    -(Nat.pow 2 63 : Nat) ≤ instant.seconds ∧ instant.seconds ≤ (Nat.pow 2 63 : Nat) - 1 := by
  obtain ⟨nanos, low, high⟩ := instant
  simp only [firstSecond, lastSecond, nanosPerSecond] at low high
  simp only [seconds, nanosPerSecond, Nat.pow_eq]
  rw [Int.fdiv_eq_ediv_of_nonneg _ (by decide)]
  omega

namespace Handshake

variable {handshake : Handshake} {request : Request}

theorem refresh_key (handshake : Handshake) (target : Target) (now : Instant) :
    (handshake.refresh target now).1.key = handshake.key := by
  unfold refresh
  split <;> rfl

theorem prepare_of_keyless (absent : handshake.key = none) (draw : Draw) (target : Target)
    (now : Instant) (request : Request) :
    (handshake.prepare draw target now request).1 = request := by
  have kept : (handshake.refresh target now).1.key = none := by
    rw [refresh_key, absent]
  unfold prepare
  dsimp only
  rw [kept]

/-- With a key a request carries a proof for the claims that its headers call for. -/
theorem prepare_of_present {key : ProofKey} (present : handshake.key = some key) (draw : Draw)
    (target : Target) (now : Instant) (request : Request) :
    let claimed := claim ((handshake.refresh target now).1.nonce.map (·.value)) target
      (ProofClaims.ofRequest request.method request.url now draw.identifier) request
    (handshake.prepare draw target now request).1 =
      claimed.2.withHeader "dpop" (.ofAscii (Proof.sign key claimed.1 draw.signature)) := by
  intro claimed
  have presentStill : (handshake.refresh target now).1.key = some key := by
    rw [refresh_key, present]
  simp only [prepare, presentStill, claimed]

/-- A token request that presents no token carries a proof that states the nonce which is held after
an expired one was given up. -/
theorem prepare_of_key {key : ProofKey} (draw : Draw) (now : Instant)
    (present : handshake.key = some key) (plain : presented? request = none) :
    let sent := (handshake.prepare draw .token now request).1
    sent.headers.has "dpop" = true ∧
      Proof.statedNonce? sent = (handshake.refresh .token now).1.nonce.map (·.value) := by
  intro sent
  have proved : sent = request.withHeader "dpop" (.ofAscii (Proof.sign key
      { ProofClaims.ofRequest request.method request.url now draw.identifier with
        nonce := (handshake.refresh .token now).1.nonce.map (·.value) } draw.signature)) := by
    simp only [sent, prepare_of_present present, claim, plain, if_pos]
  obtain ⟨low, high⟩ := now.seconds_bounds
  rw [proved]
  constructor
  · rw [Headers.has, Request.withHeader, Headers.get?, Headers.getAll_insert_self]
    rfl
  · rw [Proof.statedNonce?, Proof.claims?_withHeader_sign _ _ _ low high]
    rfl

end Handshake

end KeyBound
