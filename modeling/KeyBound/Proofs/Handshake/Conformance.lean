import KeyBound.Proofs.Handshake.Claims
import KeyBound.Proofs.Handshake.Observation
import KeyBound.Token.Response

/-!
# Servers that keep to the rules

A token endpoint that asks for a proof if there is none, and for a nonce if it requires one that the
proof does not state. What it answers depends on what the handshake lacked when it prepared the
request, and its answer supplies the first thing that is missing.
-/

set_option autoImplicit false

namespace KeyBound

/-! ## Rules of a token endpoint -/

/-- A text that a server may send as a nonce: visible characters and spaces, with no space at either
end. -/
structure IsNonce (text : String) : Prop where
  nonempty : text ≠ ""
  visible : ∀ c ∈ text.toList, 0x20 ≤ c.toNat ∧ c.toNat ≤ 0x7E
  trimmed : Text.trim text.toList = text.toList

/-- How a token endpoint answers a request: what it grants a token for has a proof, and the proof
states the nonce if one is required. -/
inductive Answers (required : Option String) (lasts : Int → Prop) (request : Request)
    (response : Response) : Prop where
  | proofless :
      request.headers.has "dpop" = false → response.status = 400 →
      Demand.errorCode? response.body = some "invalid_dpop_proof" →
      Answers required lasts request response
  | nonceless {nonce : String} :
      request.headers.has "dpop" = true → required = some nonce →
      Proof.statedNonce? request ≠ some nonce → response.status = 400 →
      Demand.errorCode? response.body = some "use_dpop_nonce" →
      response.headers.get? "dpop-nonce" = some (.ofAscii nonce) →
      Answers required lasts request response
  | granted {grant : TokenResponse.Grant} {seconds : Int} :
      request.headers.has "dpop" = true →
      (∀ nonce, required = some nonce → Proof.statedNonce? request = some nonce) →
      response.status = 200 → response.decode TokenResponse.Grant.decoder = .ok grant →
      grant.expiresIn = some seconds → 0 < seconds → lasts seconds →
      Answers required lasts request response

theorem Answers.status_eq {required : Option String} {lasts : Int → Prop} {request : Request}
    {response : Response} (answers : Answers required lasts request response) :
    response.status = 200 ∨ response.status = 400 := by
  cases answers with
  | proofless _ refused | nonceless _ _ _ refused => exact .inr refused
  | granted _ _ success => exact .inl success

/-! ## What a client lacks -/

namespace Handshake

/-- How many things the handshake lacks for a server that asks for proofs. -/
def missing (required : Option String) (handshake : Handshake) : Nat :=
  (if handshake.key = none then 1 else 0) +
    (if required ≠ none ∧ handshake.nonce = none then 1 else 0)

/-- A nonce is held beside a key only, and is the one that is required. -/
def Fits (required : Option String) (handshake : Handshake) : Prop :=
  ∀ nonce, handshake.nonce = some nonce →
    handshake.key ≠ none ∧ ∀ value, required = some value → nonce.value = value

theorem missing_eq_zero_iff {required : Option String} {handshake : Handshake} :
    handshake.missing required = 0 ↔
      handshake.key ≠ none ∧ (required ≠ none → handshake.nonce ≠ none) := by
  simp [missing]

theorem suppliedNonce?_of_isNonce {nonce : String} {response : Response} (fit : IsNonce nonce)
    (supplied : response.headers.get? "dpop-nonce" = some (.ofAscii nonce)) :
    suppliedNonce? response = some nonce := by
  have read : (HeaderValue.ofAscii nonce).chars? = some nonce.toList :=
    HeaderValue.chars?_ofAscii fun c member => .inr (fit.visible c member)
  have something : nonce.isEmpty = false := by simpa using fit.nonempty
  simp [suppliedNonce?, Headers.trimmed?, Headers.chars?, supplied, read, fit.trimmed, something]

/-- How a server that keeps to the rules reacts to a request that carries what a handshake holds. -/
inductive Reaction (required : Option String) (lasts : Int → Prop) (handshake : Handshake)
    (response : Response) : Prop where
  | proofAsked :
      handshake.key = none → handshake.nonce = none → response.status = 400 →
      Demand.errorCode? response.body = some "invalid_dpop_proof" →
      Reaction required lasts handshake response
  | nonceAsked {key : ProofKey} {nonce : String} :
      handshake.key = some key → handshake.nonce = none → required = some nonce →
      response.status = 400 → Demand.errorCode? response.body = some "use_dpop_nonce" →
      suppliedNonce? response = some nonce → Reaction required lasts handshake response
  | granted {grant : TokenResponse.Grant} {seconds : Int} :
      handshake.missing required = 0 → response.status = 200 →
      response.decode TokenResponse.Grant.decoder = .ok grant →
      grant.expiresIn = some seconds → 0 < seconds → lasts seconds →
      Reaction required lasts handshake response

theorem reaction_of_keyless {required : Option String} {lasts : Int → Prop} {request : Request}
    {handshake : Handshake} {response : Response}
    (answers : Answers required lasts request response) (fits : handshake.Fits required)
    (absent : handshake.key = none) (proofless : request.headers.has "dpop" = false) :
    Reaction required lasts handshake response := by
  have noNonce : handshake.nonce = none := by
    cases held : handshake.nonce with
    | none => rfl
    | some nonce => exact absurd absent (fits nonce held).1
  cases answers with
  | proofless _ refused asked => exact .proofAsked absent noNonce refused asked
  | nonceless proved | granted proved =>
      rw [proofless] at proved
      cases proved

theorem reaction_of_key {required : Option String} {lasts : Int → Prop} {request : Request}
    {handshake : Handshake} {response : Response} {key : ProofKey}
    (answers : Answers required lasts request response) (fits : handshake.Fits required)
    (isNonce : ∀ nonce, required = some nonce → IsNonce nonce) (present : handshake.key = some key)
    (proved : request.headers.has "dpop" = true)
    (stated : Proof.statedNonce? request = handshake.nonce.map (·.value)) :
    Reaction required lasts handshake response := by
  cases answers with
  | proofless proofless =>
      rw [proofless] at proved
      cases proved
  | @nonceless value _ needed other refused asked supplied =>
      -- A nonce that is held is the required one, and was stated.
      have noNonce : handshake.nonce = none := by
        cases held : handshake.nonce with
        | none => rfl
        | some nonce =>
            rw [stated, held, Option.map_some, (fits nonce held).2 value needed] at other
            exact absurd rfl other
      exact .nonceAsked present noNonce needed refused asked
        (suppliedNonce?_of_isNonce (isNonce value needed) supplied)
  | granted _ states success body lifetime positive lasting =>
      refine .granted (missing_eq_zero_iff.mpr ⟨present ▸ nofun, fun some noNonce => ?_⟩) success
        body lifetime positive lasting
      obtain ⟨value, needed⟩ := Option.ne_none_iff_exists'.mp some
      have echoed := states value needed
      rw [stated, noNonce] at echoed
      cases echoed

namespace Takes

variable {handshake after : Handshake} {fresh : ProofKey} {now : Instant} {response : Response}
  {verdict : Verdict} {steps : List HandshakeStep}

theorem of_proofless (rule : Takes handshake fresh now response verdict after steps)
    (refused : response.status = 400)
    (asked : Demand.errorCode? response.body = some "invalid_dpop_proof")
    (absent : handshake.key = none) :
    verdict = .advance .keyEstablished ∧ after = { handshake with key := some fresh } := by
  cases rule with
  | keyEstablished => exact ⟨rfl, rfl⟩
  | _ => simp_all [Response.isSuccess]

theorem of_nonceless {value : String}
    (rule : Takes handshake fresh now response verdict after steps)
    (refused : response.status = 400)
    (asked : Demand.errorCode? response.body = some "use_dpop_nonce")
    (absent : handshake.nonce = none) (supplied : suppliedNonce? response = some value) :
    (verdict = .beyondCalendar ∧ now.add? handshake.validity = none) ∨
      ∃ expiresAt, now.add? handshake.validity = some expiresAt ∧
        verdict = .advance .nonceAccepted ∧
        after = { handshake.withKey fresh with nonce := some ⟨value, expiresAt⟩ } := by
  cases rule with
  | beyondCalendar _ _ _ _ expiry => exact .inl ⟨rfl, expiry⟩
  | nonceAccepted _ _ _ same expiry =>
      obtain rfl := Option.some.inj (supplied.symm.trans same)
      exact .inr ⟨_, expiry, rfl, rfl⟩
  | missingNonce _ _ _ lacks =>
      rw [suppliedNonce?_eq_none_iff.mpr lacks] at supplied
      cases supplied
  | _ => simp_all [Response.isSuccess]

theorem of_granted (rule : Takes handshake fresh now response verdict after steps)
    (success : response.status = 200) : verdict = .pass ∧ after = handshake := by
  cases rule with
  | granted | unrelated => exact ⟨rfl, rfl⟩
  | _ => simp_all

end Takes

end Handshake

end KeyBound
