import KeyBound.Proofs.Handshake.Observation
import KeyBound.Proofs.Time.Instant
import Mathlib.Data.List.Induction

/-!
# Runs of a handshake

What operations in any order, at instants in any order, make of the state of a handshake. A run is
followed through the changes that a single operation can make, of which there are three.
-/

set_option autoImplicit false

namespace KeyBound.Handshake

/-- An operation on a handshake, with what chance and the clock bring to it. -/
inductive Operation where
  | createKey (fresh : ProofKey)
  | prepare (draw : Draw) (target : Target) (now : Instant) (request : Request)
  | observe (fresh : ProofKey) (now : Instant) (response : Response)

def step (handshake : Handshake) : Operation → Handshake
  | .createKey fresh => handshake.withKey fresh
  | .prepare draw target now request => (handshake.prepare draw target now request).2.1
  | .observe fresh now response => (handshake.observe fresh now response).2.1

def run (handshake : Handshake) (operations : List Operation) : Handshake :=
  operations.foldl step handshake

@[simp] theorem run_nil (handshake : Handshake) : handshake.run [] = handshake := rfl

theorem run_cons (handshake : Handshake) (operation : Operation) (later : List Operation) :
    handshake.run (operation :: later) = (handshake.step operation).run later := rfl

theorem run_append (handshake : Handshake) (first second : List Operation) :
    handshake.run (first ++ second) = (handshake.run first).run second :=
  List.foldl_append

@[simp] theorem run_singleton (handshake : Handshake) (operation : Operation) :
    handshake.run [operation] = handshake.step operation := rfl

/-! ## Single operations -/

/-- What an operation can do: nothing, add a key where there is none, give up an expired nonce
before a token request, or accept a nonce where none is held. -/
inductive Change (handshake : Handshake) : Operation → Handshake → Prop where
  | keep {operation : Operation} : Change handshake operation handshake
  | addKey {operation : Operation} {fresh : ProofKey} :
      handshake.key = none → Change handshake operation { handshake with key := some fresh }
  | giveUp {draw : Draw} {now : Instant} {request : Request} {nonce : HeldNonce} :
      handshake.nonce = some nonce → nonce.expiresAt ≤ now →
      Change handshake (.prepare draw .token now request) { handshake with nonce := none }
  | accept {fresh : ProofKey} {now : Instant} {response : Response} {value : String}
      {expiresAt : Instant} :
      handshake.nonce = none →
      (handshake.observe fresh now response).1 = .advance .nonceAccepted →
      suppliedNonce? response = some value → now.add? handshake.validity = some expiresAt →
      Change handshake (.observe fresh now response)
        { handshake.withKey fresh with nonce := some ⟨value, expiresAt⟩ }

private theorem withKey_change (handshake : Handshake) (operation : Operation)
    (fresh : ProofKey) : Change handshake operation (handshake.withKey fresh) := by
  cases present : handshake.key with
  | none =>
      have rule : Change handshake operation { handshake with key := some fresh } :=
        .addKey present
      simpa [withKey, keyOrNew, present] using rule
  | some key =>
      have same : handshake.withKey fresh = handshake := by
        rw [withKey, keyOrNew, present, Option.getD_some, ← present]
      rw [same]
      exact .keep

theorem prepare_handshake (handshake : Handshake) (draw : Draw) (target : Target)
    (now : Instant) (request : Request) :
    (handshake.prepare draw target now request).2 = handshake.refresh target now := by
  unfold prepare
  generalize handshake.refresh target now = refreshed
  obtain ⟨after, steps⟩ := refreshed
  dsimp only
  split <;> rfl

/-- A handshake stays as it is before a request, or gives up a nonce that has expired before a token
request. -/
theorem refresh_eq (handshake : Handshake) (target : Target) (now : Instant) :
    handshake.refresh target now = (handshake, []) ∨
      ∃ nonce, target = .token ∧ handshake.nonce = some nonce ∧ nonce.expiresAt ≤ now ∧
        handshake.refresh target now = ({ handshake with nonce := none }, [.nonceExpired]) := by
  unfold refresh
  split
  · rename_i expired
    cases held : handshake.nonce with
    | none =>
        rw [hasExpiredNonce, held] at expired
        cases expired.2
    | some nonce =>
        rw [hasExpiredNonce, held] at expired
        exact .inr ⟨nonce, expired.1, rfl, of_decide_eq_true expired.2, rfl⟩
  · exact .inl rfl

private theorem refresh_change (handshake : Handshake) (draw : Draw) (target : Target)
    (now : Instant) (request : Request) :
    Change handshake (.prepare draw target now request) (handshake.refresh target now).1 := by
  rcases handshake.refresh_eq target now with same | ⟨nonce, rfl, held, due, same⟩
  · rw [same]
    exact .keep
  · rw [same]
    exact .giveUp held due

theorem step_change (handshake : Handshake) (operation : Operation) :
    Change handshake operation (handshake.step operation) := by
  cases operation with
  | createKey fresh => exact withKey_change handshake _ fresh
  | prepare draw target now request =>
      rw [step, prepare_handshake]
      exact refresh_change handshake draw target now request
  | observe fresh now response =>
      have taken := observe_takes handshake fresh now response
      rw [step]
      generalize (handshake.observe fresh now response).2.1 = after at taken ⊢
      generalize (handshake.observe fresh now response).2.2 = steps at taken
      generalize outcome : (handshake.observe fresh now response).1 = verdict at taken
      cases taken with
      | granted | unrelated | repeatedProof | repeatedNonce | missingNonce | unexpected
      | unanswered => exact .keep
      | keyEstablished _ _ absent => exact .addKey absent
      | beyondCalendar => exact withKey_change handshake _ fresh
      | nonceAccepted _ _ none supplied expiry =>
          exact .accept none outcome supplied expiry

namespace Change

variable {handshake after : Handshake} {operation : Operation}

theorem keeps_validity (change : Change handshake operation after) :
    after.validity = handshake.validity := by
  cases change <;> rfl

theorem keeps_key (change : Change handshake operation after) {key : ProofKey}
    (present : handshake.key = some key) : after.key = some key := by
  cases change with
  | keep => exact present
  | addKey absent => rw [absent] at present; cases present
  | giveUp => exact present
  | accept => simp [withKey, keyOrNew, present]

theorem nonce_has_key (change : Change handshake operation after)
    (covered : handshake.nonce ≠ none → handshake.key ≠ none) :
    after.nonce ≠ none → after.key ≠ none := by
  intro held
  cases change with
  | keep => exact covered held
  | addKey => exact Option.some_ne_none _
  | giveUp => exact absurd rfl held
  | accept => exact Option.some_ne_none _

/-- A nonce that is held stays, unless it has expired before a token request. -/
theorem of_held (change : Change handshake operation after) {nonce : HeldNonce}
    (held : handshake.nonce = some nonce) :
    after.nonce = some nonce ∨
      after.nonce = none ∧ ∃ draw now request,
        operation = .prepare draw .token now request ∧ nonce.expiresAt ≤ now := by
  cases change with
  | keep => exact .inl held
  | addKey => exact .inl held
  | giveUp other expired =>
      rw [held] at other
      cases other
      exact .inr ⟨rfl, _, _, _, rfl, expired⟩
  | accept none => rw [held] at none; cases none

end Change

/-! ## Runs -/

theorem run_validity (handshake : Handshake) (operations : List Operation) :
    (handshake.run operations).validity = handshake.validity := by
  induction operations using List.reverseRecOn with
  | nil => rfl
  | append_singleton operations operation ih =>
      rw [run_append, run_singleton, (step_change _ operation).keeps_validity, ih]

theorem run_keeps_key {handshake : Handshake} {key : ProofKey} (operations : List Operation)
    (present : handshake.key = some key) : (handshake.run operations).key = some key := by
  induction operations using List.reverseRecOn with
  | nil => exact present
  | append_singleton operations operation ih =>
      rw [run_append, run_singleton]
      exact (step_change _ operation).keeps_key ih

theorem run_nonce_has_key {handshake : Handshake} (operations : List Operation)
    (covered : handshake.nonce ≠ none → handshake.key ≠ none) :
    (handshake.run operations).nonce ≠ none → (handshake.run operations).key ≠ none := by
  induction operations using List.reverseRecOn with
  | nil => exact covered
  | append_singleton operations operation ih =>
      rw [run_append, run_singleton]
      exact (step_change _ operation).nonce_has_key ih

/-- Among some operations is one by which a nonce was accepted: its value is what the response
supplied, it expires as long after the instant of the response as nonces are held, and it has been
held ever since. -/
def AcceptedIn (handshake : Handshake) (operations : List Operation) (nonce : HeldNonce) : Prop :=
  ∃ before fresh now response later,
    operations = before ++ .observe fresh now response :: later ∧
    ((handshake.run before).observe fresh now response).1 = .advance .nonceAccepted ∧
    response.headers.trimmed? "dpop-nonce" = some nonce.value ∧ nonce.value ≠ "" ∧
    nonce.expiresAt.nanos = now.nanos + handshake.validity.nanos ∧
    ∀ since, since <+: later →
      (handshake.run (before ++ .observe fresh now response :: since)).nonce = some nonce

private theorem AcceptedIn.append {handshake : Handshake} {operations : List Operation}
    {nonce : HeldNonce} (accepted : AcceptedIn handshake operations nonce) (operation : Operation)
    (held : (handshake.run (operations ++ [operation])).nonce = some nonce) :
    AcceptedIn handshake (operations ++ [operation]) nonce := by
  obtain ⟨before, fresh, now, response, later, rfl, verdict, supplied, nonempty, expiry, since⟩ :=
    accepted
  refine ⟨before, fresh, now, response, later ++ [operation], by simp, verdict, supplied, nonempty,
    expiry, ?_⟩
  intro part inside
  rcases List.prefix_concat_iff.mp inside with rfl | earlier
  · simpa using held
  · exact since part earlier

private theorem acceptedIn_of_accept {handshake : Handshake} {operations : List Operation}
    {fresh : ProofKey} {now : Instant} {response : Response} {value : String} {expiresAt : Instant}
    (verdict : ((handshake.run operations).observe fresh now response).1 =
      .advance .nonceAccepted)
    (supplied : suppliedNonce? response = some value)
    (expiry : now.add? (handshake.run operations).validity = some expiresAt)
    (held : (handshake.run (operations ++ [.observe fresh now response])).nonce =
      some ⟨value, expiresAt⟩) :
    AcceptedIn handshake (operations ++ [.observe fresh now response]) ⟨value, expiresAt⟩ := by
  obtain ⟨trimmed, nonempty⟩ := Option.filter_eq_some_iff.mp supplied
  have nanos : expiresAt.nanos = now.nanos + handshake.validity.nanos := by
    rw [run_validity] at expiry
    exact Instant.add?_nanos expiry
  refine ⟨operations, fresh, now, response, [], rfl, verdict, trimmed, ?_, nanos, ?_⟩
  · simpa using nonempty
  · intro since inside
    rw [List.prefix_nil.mp inside]
    exact held

theorem run_acceptedIn {handshake : Handshake} (none : handshake.nonce = none)
    (operations : List Operation) {nonce : HeldNonce}
    (held : (handshake.run operations).nonce = some nonce) :
    AcceptedIn handshake operations nonce := by
  induction operations using List.reverseRecOn with
  | nil => rw [run_nil, none] at held; cases held
  | append_singleton operations operation ih =>
      have change := step_change (handshake.run operations) operation
      have last := held
      rw [run_append, run_singleton] at last
      generalize (handshake.run operations).step operation = after at change last
      cases change with
      | keep => exact (ih last).append operation held
      | addKey => exact (ih last).append operation held
      | giveUp => cases last
      | accept _ verdict supplied expiry =>
          cases last
          exact acceptedIn_of_accept verdict supplied expiry held

/-- After any operations from the start, a nonce is held only beside a key, the key stays for ever,
the nonce is one that was accepted, and it is given up only for having expired before a token
request. -/
theorem run_start_spec (validity : Span) (operations : List Operation) :
    let state := (start validity).run operations
    (state.nonce ≠ none → state.key ≠ none) ∧
    (∀ key later, state.key = some key → (state.run later).key = some key) ∧
    (∀ nonce, state.nonce = some nonce → AcceptedIn (start validity) operations nonce) ∧
    (∀ nonce operation, state.nonce = some nonce →
      (state.step operation).nonce = some nonce ∨
        (state.step operation).nonce = none ∧ ∃ draw now request,
          operation = .prepare draw .token now request ∧ nonce.expiresAt ≤ now) := by
  intro state
  refine ⟨?_, ?_, ?_, ?_⟩
  · exact run_nonce_has_key operations fun held => absurd rfl held
  · intro key later present
    exact run_keeps_key later present
  · intro nonce held
    exact run_acceptedIn rfl operations held
  · intro nonce operation held
    exact (step_change state operation).of_held held

end KeyBound.Handshake
