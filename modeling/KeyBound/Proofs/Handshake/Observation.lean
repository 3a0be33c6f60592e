import KeyBound.Handshake.State
import KeyBound.Proofs.Http.Header

/-!
# Responses and the handshake

How the handshake takes a response of the token endpoint, one rule for each way, and what that
leaves of its state.
-/

set_option autoImplicit false

namespace KeyBound

namespace Demand

private theorem ofCode_eq_proof_iff {code : String} :
    ofCode code = .proof ↔ code = "invalid_dpop_proof" := by
  unfold ofCode
  constructor
  · intro taken
    by_cases first : code = Demand.proof.code
    · exact first
    · rw [if_neg first] at taken
      split at taken <;> cases taken
  · intro same
    exact if_pos same

private theorem ofCode_eq_nonce_iff {code : String} :
    ofCode code = .nonce ↔ code = "use_dpop_nonce" := by
  unfold ofCode
  constructor
  · intro taken
    by_cases second : code = Demand.nonce.code
    · exact second
    · rw [if_neg second] at taken
      split at taken <;> cases taken
  · intro same
    subst same
    rfl

theorem ofBody?_eq_proof_iff {body : Bytes} :
    ofBody? body = some .proof ↔ errorCode? body = some "invalid_dpop_proof" := by
  simp [ofBody?, ofCode_eq_proof_iff]

theorem ofBody?_eq_nonce_iff {body : Bytes} :
    ofBody? body = some .nonce ↔ errorCode? body = some "use_dpop_nonce" := by
  simp [ofBody?, ofCode_eq_nonce_iff]

end Demand

theorem Response.isSuccess_of_refused {response : Response} (refused : response.status = 400) :
    response.isSuccess = false := by
  simp [isSuccess, refused]

namespace Handshake

/-- How a response is taken: the verdict, the handshake after it, and the steps that are told. A
response with success is for the caller, and so is every other one whose status is not 400. -/
inductive Takes (handshake : Handshake) (fresh : ProofKey) (now : Instant) (response : Response) :
    Verdict → Handshake → List HandshakeStep → Prop where
  | granted :
      response.isSuccess = true →
      Takes handshake fresh now response .pass handshake
        (if handshake.nonce.isSome then [.completed] else [])
  | unrelated :
      response.isSuccess = false → response.status ≠ 400 →
      Takes handshake fresh now response .pass handshake []
  | keyEstablished :
      response.status = 400 → Demand.errorCode? response.body = some "invalid_dpop_proof" →
      handshake.key = none →
      Takes handshake fresh now response (.advance .keyEstablished)
        { handshake with key := some fresh } [.keyEstablished]
  | repeatedProof {key : ProofKey} :
      response.status = 400 → Demand.errorCode? response.body = some "invalid_dpop_proof" →
      handshake.key = some key →
      Takes handshake fresh now response
        (.violation (.ofBody .repeatedInvalidProof response.body)) handshake []
  | repeatedNonce {nonce : HeldNonce} :
      response.status = 400 → Demand.errorCode? response.body = some "use_dpop_nonce" →
      handshake.nonce = some nonce →
      Takes handshake fresh now response
        (.violation (.ofBody .repeatedUseNonce response.body)) handshake []
  | missingNonce :
      response.status = 400 → Demand.errorCode? response.body = some "use_dpop_nonce" →
      handshake.nonce = none → response.headers.LacksText "dpop-nonce" →
      Takes handshake fresh now response
        (.violation (.ofBody .missingNonceHeader response.body)) handshake []
  | beyondCalendar {value : String} :
      response.status = 400 → Demand.errorCode? response.body = some "use_dpop_nonce" →
      handshake.nonce = none → suppliedNonce? response = some value →
      now.add? handshake.validity = none →
      Takes handshake fresh now response .beyondCalendar (handshake.withKey fresh) []
  | nonceAccepted {value : String} {expiresAt : Instant} :
      response.status = 400 → Demand.errorCode? response.body = some "use_dpop_nonce" →
      handshake.nonce = none → suppliedNonce? response = some value →
      now.add? handshake.validity = some expiresAt →
      Takes handshake fresh now response (.advance .nonceAccepted)
        { handshake.withKey fresh with nonce := some ⟨value, expiresAt⟩ } [.nonceAccepted]
  | unexpected {key : ProofKey} :
      response.status = 400 → Demand.errorCode? response.body ≠ some "invalid_dpop_proof" →
      Demand.errorCode? response.body ≠ some "use_dpop_nonce" → handshake.key = some key →
      Takes handshake fresh now response
        (.violation (.ofBody .unexpectedError response.body)) handshake []
  | unanswered :
      response.status = 400 → Demand.errorCode? response.body ≠ some "invalid_dpop_proof" →
      Demand.errorCode? response.body ≠ some "use_dpop_nonce" → handshake.key = none →
      Takes handshake fresh now response .pass handshake []

/-- A response that reports success is one for the caller. -/
theorem Takes.eq_pass {handshake after : Handshake} {fresh : ProofKey} {now : Instant}
    {response : Response} {verdict : Verdict} {steps : List HandshakeStep}
    (rule : Takes handshake fresh now response verdict after steps)
    (success : response.isSuccess = true) : verdict = .pass := by
  cases rule with
  | granted | unrelated | unanswered => rfl
  | keyEstablished refused | repeatedProof refused | repeatedNonce refused | missingNonce refused
  | beyondCalendar refused | nonceAccepted refused | unexpected refused =>
      rw [Response.isSuccess_of_refused refused] at success
      cases success

theorem suppliedNonce?_eq_none_iff {response : Response} :
    suppliedNonce? response = none ↔ response.headers.LacksText "dpop-nonce" :=
  Headers.filter_trimmed?_eq_none_iff

private theorem demandProof_takes (handshake : Handshake) (fresh : ProofKey) (now : Instant)
    {response : Response} (refused : response.status = 400)
    (asked : Demand.errorCode? response.body = some "invalid_dpop_proof") :
    Takes handshake fresh now response (handshake.demandProof fresh response).1
      (handshake.demandProof fresh response).2
      (handshake.demandProof fresh response).1.steps := by
  unfold demandProof isActive
  cases present : handshake.key with
  | none =>
      have rule : Takes handshake fresh now response (.advance .keyEstablished)
          { handshake with key := some fresh } [.keyEstablished] :=
        .keyEstablished refused asked present
      simpa [withKey, keyOrNew, present, Verdict.steps] using rule
  | some key => exact .repeatedProof refused asked present

private theorem demandNonce_takes (handshake : Handshake) (fresh : ProofKey) (now : Instant)
    {response : Response} (refused : response.status = 400)
    (asked : Demand.errorCode? response.body = some "use_dpop_nonce") :
    Takes handshake fresh now response (handshake.demandNonce fresh now response).1
      (handshake.demandNonce fresh now response).2
      (handshake.demandNonce fresh now response).1.steps := by
  unfold demandNonce
  cases held : handshake.nonce with
  | some nonce => exact .repeatedNonce refused asked held
  | none =>
      cases supplied : suppliedNonce? response with
      | none =>
          exact .missingNonce refused asked held (suppliedNonce?_eq_none_iff.mp supplied)
      | some value =>
          cases expiry : now.add? handshake.validity with
          | none => exact .beyondCalendar refused asked held supplied expiry
          | some expiresAt => exact .nonceAccepted refused asked held supplied expiry

private theorem otherRefusal_takes (handshake : Handshake) (fresh : ProofKey) (now : Instant)
    {response : Response} (refused : response.status = 400)
    (noProof : Demand.errorCode? response.body ≠ some "invalid_dpop_proof")
    (noNonce : Demand.errorCode? response.body ≠ some "use_dpop_nonce") :
    Takes handshake fresh now response (handshake.otherRefusal response).1
      (handshake.otherRefusal response).2 (handshake.otherRefusal response).1.steps := by
  unfold otherRefusal isActive
  cases present : handshake.key with
  | none => exact .unanswered refused noProof noNonce present
  | some key => exact .unexpected refused noProof noNonce present

private theorem refusal_takes (handshake : Handshake) (fresh : ProofKey) (now : Instant)
    {response : Response} (refused : response.status = 400) :
    Takes handshake fresh now response (handshake.refusal fresh now response).1
      (handshake.refusal fresh now response).2
      (handshake.refusal fresh now response).1.steps := by
  unfold refusal
  have proofIff : Demand.ofBody? response.body = some .proof ↔ _ := Demand.ofBody?_eq_proof_iff
  have nonceIff : Demand.ofBody? response.body = some .nonce ↔ _ := Demand.ofBody?_eq_nonce_iff
  cases demanded : Demand.ofBody? response.body with
  | none =>
      rw [demanded] at proofIff nonceIff
      exact otherRefusal_takes handshake fresh now refused
        (fun asked => nomatch proofIff.mpr asked) (fun asked => nomatch nonceIff.mpr asked)
  | some demand =>
      rw [demanded] at proofIff nonceIff
      cases demand with
      | proof => exact demandProof_takes handshake fresh now refused (proofIff.mp rfl)
      | nonce => exact demandNonce_takes handshake fresh now refused (nonceIff.mp rfl)
      | unrecognized code =>
          exact otherRefusal_takes handshake fresh now refused
            (fun asked => nomatch proofIff.mpr asked) (fun asked => nomatch nonceIff.mpr asked)

/-- Every response is taken by one of the rules. -/
theorem observe_takes (handshake : Handshake) (fresh : ProofKey) (now : Instant)
    (response : Response) :
    Takes handshake fresh now response (handshake.observe fresh now response).1
      (handshake.observe fresh now response).2.1 (handshake.observe fresh now response).2.2 := by
  unfold observe
  cases success : response.isSuccess with
  | true => exact .granted success
  | false =>
      by_cases refused : response.status = 400
      · simpa [refused] using refusal_takes handshake fresh now refused
      · simpa [refused] using Takes.unrelated success refused

/-- Violations and responses for the caller leave the handshake as it was; a step adds the key, or
the nonce and a key if there was none. What happens depends on the status, the error code, the
presence of a key and of a nonce, and the first value of the nonce header. -/
theorem observe_spec (handshake : Handshake) (fresh : ProofKey) (now : Instant)
    (response : Response) :
    let verdict := (handshake.observe fresh now response).1
    let after := (handshake.observe fresh now response).2.1
    let code := Demand.errorCode? response.body
    let lacksNonce := response.headers.LacksText "dpop-nonce"
    (verdict = .pass → after = handshake) ∧
    (∀ violation, verdict = .violation violation → after = handshake) ∧
    (∀ step, verdict = .advance step →
      (step = .keyEstablished ∧ handshake.key = none ∧
        after = { handshake with key := some fresh }) ∨
      (step = .nonceAccepted ∧ handshake.nonce = none ∧ ∃ nonce,
        after = { handshake with
          key := some (handshake.key.getD fresh), nonce := some nonce })) ∧
    (response.status ≠ 400 → verdict = .pass) ∧
    (response.status = 400 → code = some "invalid_dpop_proof" →
      (verdict = .advance .keyEstablished ↔ handshake.key = none) ∧
      (verdict = .violation (.ofBody .repeatedInvalidProof response.body) ↔
        handshake.key ≠ none)) ∧
    (response.status = 400 → code = some "use_dpop_nonce" →
      (verdict = .violation (.ofBody .repeatedUseNonce response.body) ↔
        handshake.nonce ≠ none) ∧
      (verdict = .violation (.ofBody .missingNonceHeader response.body) ↔
        handshake.nonce = none ∧ lacksNonce) ∧
      (verdict = .advance .nonceAccepted ↔
        handshake.nonce = none ∧ ¬lacksNonce ∧ now.add? handshake.validity ≠ none) ∧
      (verdict = .beyondCalendar ↔
        handshake.nonce = none ∧ ¬lacksNonce ∧ now.add? handshake.validity = none)) ∧
    (response.status = 400 → code ≠ some "invalid_dpop_proof" → code ≠ some "use_dpop_nonce" →
      (verdict = .violation (.ofBody .unexpectedError response.body) ↔ handshake.key ≠ none) ∧
      (verdict = .pass ↔ handshake.key = none)) := by
  intro verdict after code lacksNonce
  have rule : Takes handshake fresh now response verdict after _ :=
    observe_takes handshake fresh now response
  have provided {value : String} (supplied : suppliedNonce? response = some value) :
      ¬lacksNonce := by
    intro lacks
    rw [suppliedNonce?_eq_none_iff.mpr lacks] at supplied
    cases supplied
  have codeEq : Demand.errorCode? response.body = code := rfl
  have lacksEq : response.headers.LacksText "dpop-nonce" = lacksNonce := rfl
  clear_value verdict after code lacksNonce
  generalize (handshake.observe fresh now response).2.2 = steps at rule
  cases rule with
  | granted success =>
      have other : response.status ≠ 400 := by
        intro refused
        simp [Response.isSuccess, refused] at success
      simp [other]
  | unrelated failed other => simp [other]
  | keyEstablished refused asked absent =>
      rw [codeEq] at asked
      simp [refused, asked, absent]
  | repeatedProof refused asked present =>
      rw [codeEq] at asked
      simp [refused, asked, present]
  | repeatedNonce refused asked held =>
      rw [codeEq] at asked
      simp [refused, asked, held, HandshakeViolation.ofBody]
  | missingNonce refused asked none lacks =>
      rw [codeEq] at asked
      rw [lacksEq] at lacks
      simp [refused, asked, none, lacks, HandshakeViolation.ofBody]
  | beyondCalendar refused asked none supplied expiry =>
      rw [codeEq] at asked
      simp [refused, asked, none, provided supplied, expiry]
  | nonceAccepted refused asked none supplied expiry =>
      rw [codeEq] at asked
      simp [refused, asked, none, provided supplied, expiry, withKey, keyOrNew]
  | unexpected refused noProof noNonce present =>
      rw [codeEq] at noProof noNonce
      simp [refused, noProof, noNonce, present]
  | unanswered refused noProof noNonce absent =>
      rw [codeEq] at noProof noNonce
      simp [refused, noProof, noNonce, absent]

end Handshake

end KeyBound
