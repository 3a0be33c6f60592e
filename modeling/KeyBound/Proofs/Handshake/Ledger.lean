import KeyBound.Proofs.Handshake.Run

/-!
# The ledger of a handshake

The steps that operations record, in the order in which they record them. The record and the state
tell the same: a nonce is held exactly if one more was accepted than has expired, the key is
recorded when a demand for proofs has brought it about, and a token that is granted while a nonce is
held completes the handshake.
-/

set_option autoImplicit false

namespace KeyBound.Handshake

/-- The steps that an operation records. To create a key is none of them. -/
def recorded (handshake : Handshake) : Operation → List HandshakeStep
  | .createKey _ => []
  | .prepare draw target now request => (handshake.prepare draw target now request).2.2
  | .observe fresh now response => (handshake.observe fresh now response).2.2

/-- The steps that operations record one after the other. -/
def ledger (handshake : Handshake) : List Operation → List HandshakeStep
  | [] => []
  | operation :: later => handshake.recorded operation ++ (handshake.step operation).ledger later

theorem ledger_append (handshake : Handshake) (first second : List Operation) :
    handshake.ledger (first ++ second) =
      handshake.ledger first ++ (handshake.run first).ledger second := by
  induction first generalizing handshake with
  | nil => rfl
  | cons operation first ih =>
      rw [List.cons_append, ledger, ih, ledger, List.append_assoc, run_cons]

def Operation.AsksForProof : Operation → Prop
  | .observe _ _ response =>
    response.status = 400 ∧ Demand.errorCode? response.body = some "invalid_dpop_proof"
  | .createKey _ | .prepare _ _ _ _ => False

def Operation.isGrant : Operation → Bool
  | .observe _ _ response => response.isSuccess
  | .createKey _ | .prepare _ _ _ _ => false

/-- A response that the handshake does not get along with. -/
def Operation.FailsOn (handshake : Handshake) : Operation → Prop
  | .observe fresh now response =>
    (∃ violation, (handshake.observe fresh now response).1 = .violation violation) ∨
      (handshake.observe fresh now response).1 = .beyondCalendar
  | .createKey _ | .prepare _ _ _ _ => False

/-! ## Single operations -/

section

variable {handshake after : Handshake} {fresh : ProofKey} {now : Instant} {response : Response}
  {verdict : Verdict} {steps : List HandshakeStep}

/-- What a response makes of the nonce is what it records. -/
theorem Takes.balance (rule : Takes handshake fresh now response verdict after steps) :
    handshake.nonce.isSome.toNat + steps.count .nonceAccepted =
      after.nonce.isSome.toNat + steps.count .nonceExpired := by
  cases rule with
  | granted => cases handshake.nonce <;> simp
  | nonceAccepted _ _ none => simp [none]
  | _ => simp [withKey]

theorem Takes.keyEstablished_iff (rule : Takes handshake fresh now response verdict after steps) :
    .keyEstablished ∈ steps ↔ handshake.key = none ∧ after.key ≠ none ∧
      response.status = 400 ∧ Demand.errorCode? response.body = some "invalid_dpop_proof" := by
  cases rule with
  | granted success =>
      have other : response.status ≠ 400 := fun refused => by
        rw [Response.isSuccess_of_refused refused] at success
        cases success
      cases handshake.nonce <;> simp [other]
  | unrelated _ other => simp [other]
  | keyEstablished refused asked absent => simp [refused, asked, absent]
  | repeatedProof _ _ present => simp [present]
  | unexpected _ noProof => simp [noProof]
  | unanswered _ noProof => simp [noProof]
  | repeatedNonce _ asked | missingNonce _ asked | beyondCalendar _ asked
  | nonceAccepted _ asked => simp [asked]

/-- A key that is recorded was not there before, and is there afterwards. -/
theorem Takes.count_keyEstablished_le
    (rule : Takes handshake fresh now response verdict after steps) :
    handshake.key.isSome.toNat + steps.count .keyEstablished ≤ after.key.isSome.toNat := by
  cases rule with
  | granted => cases handshake.nonce <;> simp
  | keyEstablished _ _ absent => simp [absent]
  | _ => simp [withKey, Bool.toNat_le]

theorem Takes.count_completed (rule : Takes handshake fresh now response verdict after steps) :
    steps.count .completed = (response.isSuccess && handshake.nonce.isSome).toNat := by
  cases rule with
  | granted success => cases handshake.nonce <;> simp [success]
  | unrelated failed => simp [failed]
  | keyEstablished refused | repeatedProof refused | repeatedNonce refused | missingNonce refused
  | beyondCalendar refused | nonceAccepted refused | unexpected refused | unanswered refused =>
      simp [Response.isSuccess_of_refused refused]

theorem Takes.steps_of_failed (rule : Takes handshake fresh now response verdict after steps)
    (failed : (∃ violation, verdict = .violation violation) ∨ verdict = .beyondCalendar) :
    steps = [] := by
  rcases failed with ⟨violation, rfl⟩ | rfl
  · cases rule <;> rfl
  · cases rule
    rfl

end

inductive Records (handshake : Handshake) :
    Operation → Handshake → List HandshakeStep → Prop where
  | createKey (fresh : ProofKey) :
      Records handshake (.createKey fresh) (handshake.withKey fresh) []
  | kept {draw : Draw} {target : Target} {now : Instant} {request : Request} :
      Records handshake (.prepare draw target now request) handshake []
  | expired {draw : Draw} {target : Target} {now : Instant} {request : Request}
      {nonce : HeldNonce} :
      handshake.nonce = some nonce →
      Records handshake (.prepare draw target now request) { handshake with nonce := none }
        [.nonceExpired]
  | observed {fresh : ProofKey} {now : Instant} {response : Response} {verdict : Verdict}
      {after : Handshake} {steps : List HandshakeStep} :
      Takes handshake fresh now response verdict after steps →
      Records handshake (.observe fresh now response) after steps

theorem step_records (handshake : Handshake) (operation : Operation) :
    Records handshake operation (handshake.step operation) (handshake.recorded operation) := by
  cases operation with
  | createKey fresh => exact .createKey fresh
  | prepare draw target now request =>
      rw [step, recorded, prepare_handshake]
      rcases handshake.refresh_eq target now with same | ⟨nonce, _, held, _, same⟩
      · rw [same]
        exact .kept
      · rw [same]
        exact .expired held
  | observe fresh now response => exact .observed (observe_takes handshake fresh now response)

namespace Records

variable {handshake after : Handshake} {operation : Operation} {steps : List HandshakeStep}

/-- What an operation makes of the nonce is what it records. -/
theorem balance (rule : Records handshake operation after steps) :
    handshake.nonce.isSome.toNat + steps.count .nonceAccepted =
      after.nonce.isSome.toNat + steps.count .nonceExpired := by
  cases rule with
  | createKey fresh => rfl
  | kept => rfl
  | expired held => simp [held]
  | observed taken => exact taken.balance

/-- A key that is recorded was not there before, and is there afterwards. -/
theorem count_keyEstablished_le (rule : Records handshake operation after steps) :
    handshake.key.isSome.toNat + steps.count .keyEstablished ≤ after.key.isSome.toNat := by
  cases rule with
  | createKey fresh => exact Bool.toNat_le _
  | kept => exact Nat.le_refl _
  | expired => simp
  | observed taken => exact taken.count_keyEstablished_le

/-- The key is recorded by the operation that creates it because proofs were asked for. -/
theorem keyEstablished_iff (rule : Records handshake operation after steps) :
    .keyEstablished ∈ steps ↔
      handshake.key = none ∧ after.key ≠ none ∧ operation.AsksForProof := by
  cases rule with
  | createKey fresh => simp [Operation.AsksForProof]
  | kept => simp [Operation.AsksForProof]
  | expired => simp [Operation.AsksForProof]
  | observed taken => exact taken.keyEstablished_iff

theorem count_completed (rule : Records handshake operation after steps) :
    steps.count .completed = (operation.isGrant && handshake.nonce.isSome).toNat := by
  cases rule with
  | createKey fresh => rfl
  | kept => rfl
  | expired => rfl
  | observed taken => exact taken.count_completed

end Records

theorem recorded_of_failsOn {handshake : Handshake} {operation : Operation}
    (fails : operation.FailsOn handshake) : handshake.recorded operation = [] := by
  cases operation with
  | createKey fresh => cases fails
  | prepare draw target now request => cases fails
  | observe fresh now response =>
      exact (observe_takes handshake fresh now response).steps_of_failed fails

/-! ## Runs -/

/-- Over a run, what was accepted is held or has expired. -/
theorem run_balance (handshake : Handshake) (operations : List Operation) :
    handshake.nonce.isSome.toNat + (handshake.ledger operations).count .nonceAccepted =
      (handshake.run operations).nonce.isSome.toNat +
        (handshake.ledger operations).count .nonceExpired := by
  induction operations generalizing handshake with
  | nil => rfl
  | cons operation later ih =>
      have first := (handshake.step_records operation).balance
      have rest := ih (handshake.step operation)
      rw [ledger, List.count_append, List.count_append, run_cons]
      omega

theorem count_keyEstablished_ledger_le (handshake : Handshake) (operations : List Operation) :
    handshake.key.isSome.toNat + (handshake.ledger operations).count .keyEstablished ≤
      (handshake.run operations).key.isSome.toNat := by
  induction operations generalizing handshake with
  | nil => exact Nat.le_refl _
  | cons operation later ih =>
      have first := (handshake.step_records operation).count_keyEstablished_le
      have rest := ih (handshake.step operation)
      rw [ledger, List.count_append, run_cons]
      omega

/-- After any operations from the start, a nonce is held exactly if one more was accepted than has
expired, and the key was established once at most. An operation establishes it exactly if it is a
response that asks for proofs and thereby creates the key; it completes the handshake exactly if it
grants a token while a nonce is held; and it records nothing if it fails. -/
theorem run_start_ledger (validity : Span) (operations : List Operation) :
    let first := start validity
    let ledger := first.ledger operations
    ledger.count .nonceAccepted =
      ledger.count .nonceExpired + (first.run operations).nonce.isSome.toNat ∧
    ledger.count .keyEstablished ≤ 1 ∧
    ∀ before operation after, operations = before ++ operation :: after →
      let state := first.run before
      ledger = first.ledger before ++ state.recorded operation ++
        (state.step operation).ledger after ∧
      (.keyEstablished ∈ state.recorded operation ↔
        state.key = none ∧ (state.step operation).key ≠ none ∧ operation.AsksForProof) ∧
      (state.recorded operation).count .completed =
        (operation.isGrant && state.nonce.isSome).toNat ∧
      (operation.FailsOn state → state.recorded operation = []) := by
  intro first ledger
  have balance : 0 + ledger.count .nonceAccepted = _ + ledger.count .nonceExpired :=
    first.run_balance operations
  have established : 0 + ledger.count .keyEstablished ≤ _ :=
    first.count_keyEstablished_ledger_le operations
  have once : (first.run operations).key.isSome.toNat ≤ 1 := Bool.toNat_le _
  refine ⟨by omega, by omega, ?_⟩
  rintro before operation after rfl state
  have records := state.step_records operation
  refine ⟨?_, records.keyEstablished_iff, records.count_completed, recorded_of_failsOn⟩
  change first.ledger (before ++ operation :: after) = _
  rw [ledger_append, Handshake.ledger, List.append_assoc]

end KeyBound.Handshake
