import KeyBound.Proofs.Handshake.Conformance
import KeyBound.Proofs.Handshake.Run

/-!
# Exchanges that overlap

Exchanges with the token endpoint that share a handshake. A response is judged by the state in which
it is received, whatever its request carried: between the two, other exchanges may have brought a
key or a nonce about. That is the only way in which a server that keeps to the rules is taken for
one that does not.
-/

set_option autoImplicit false

namespace KeyBound.Handshake

/-! ## What happens in between -/

/-- Among some operations is one by which a key came about: a response was received, or the key was
asked for. -/
def KeyIn (handshake : Handshake) (operations : List Operation) : Prop :=
  ∃ before operation later, operations = before ++ operation :: later ∧
    (handshake.run before).key = none ∧ (handshake.run (before ++ [operation])).key ≠ none ∧
    ∀ draw target now request, operation ≠ .prepare draw target now request

theorem prepare_key (handshake : Handshake) (draw : Draw) (target : Target) (now : Instant)
    (request : Request) : (handshake.prepare draw target now request).2.1.key = handshake.key := by
  rw [prepare_handshake, refresh_key]

theorem KeyIn.append {handshake : Handshake} {operations : List Operation}
    (keyed : KeyIn handshake operations) (further : List Operation) :
    KeyIn handshake (operations ++ further) := by
  obtain ⟨before, operation, later, rfl, absent, present, other⟩ := keyed
  exact ⟨before, operation, later ++ further, by simp, absent, present, other⟩

theorem run_keyIn {handshake : Handshake} (absent : handshake.key = none)
    {operations : List Operation} (present : (handshake.run operations).key ≠ none) :
    KeyIn handshake operations := by
  induction operations using List.reverseRecOn with
  | nil => exact absurd absent present
  | append_singleton operations operation ih =>
      cases before : (handshake.run operations).key with
      | some key => exact (ih (by rw [before]; nofun)).append [operation]
      | none =>
          refine ⟨operations, operation, [], rfl, before, present, ?_⟩
          rintro draw target now request rfl
          rw [run_append, run_singleton, step, prepare_key] at present
          exact present before

/-! ## Servers that keep to the rules -/

/-- A response that is received answers some request by the rules. -/
def Operation.Conforms (required : Option String) (lasts : Int → Prop) : Operation → Prop
  | observe _ _ response => ∃ request, Answers required lasts request response
  | createKey _ | prepare _ _ _ _ => True

theorem demand_of_nonceAccepted {handshake : Handshake} {fresh : ProofKey} {now : Instant}
    {response : Response}
    (advanced : (handshake.observe fresh now response).1 = .advance .nonceAccepted) :
    response.status = 400 ∧ Demand.errorCode? response.body = some "use_dpop_nonce" := by
  have taken := observe_takes handshake fresh now response
  rw [advanced] at taken
  generalize (handshake.observe fresh now response).2.1 = after at taken
  generalize (handshake.observe fresh now response).2.2 = steps at taken
  cases taken with
  | nonceAccepted refused asked => exact ⟨refused, asked⟩

variable {required : Option String} {lasts : Int → Prop}

theorem required_of_answers {request : Request} {response : Response}
    (answers : Answers required lasts request response)
    (isNonce : ∀ nonce, required = some nonce → IsNonce nonce) (refused : response.status = 400)
    (asked : Demand.errorCode? response.body = some "use_dpop_nonce") :
    required = suppliedNonce? response := by
  cases answers with
  | proofless _ _ askedElse =>
      rw [asked] at askedElse
      simp at askedElse
  | nonceless _ needed _ _ _ supplied =>
      rw [needed, suppliedNonce?_of_isNonce (isNonce _ needed) supplied]
  | granted _ _ success =>
      rw [refused] at success
      cases success

/-- The nonce that is held stays the one which the server requires. -/
theorem Fits.onward {handshake : Handshake} {operation : Operation}
    (fits : handshake.Fits required) (isNonce : ∀ nonce, required = some nonce → IsNonce nonce)
    (conforms : operation.Conforms required lasts) :
    (handshake.step operation).Fits required := by
  have change := step_change handshake operation
  generalize handshake.step operation = after at change
  intro nonce held
  cases change with
  | keep => exact fits nonce held
  | addKey => exact ⟨nofun, (fits nonce held).2⟩
  | giveUp => cases held
  | @accept fresh now response value _ _ advanced supplied =>
      cases held
      obtain ⟨request, answers⟩ := conforms
      obtain ⟨refused, asked⟩ := demand_of_nonceAccepted advanced
      have same := required_of_answers answers isNonce refused asked
      refine ⟨nofun, fun needed is => ?_⟩
      rw [supplied, is] at same
      exact (Option.some.inj same).symm

theorem run_fits {handshake : Handshake} (fits : handshake.Fits required)
    (isNonce : ∀ nonce, required = some nonce → IsNonce nonce) {operations : List Operation}
    (conform : ∀ operation ∈ operations, operation.Conforms required lasts) :
    (handshake.run operations).Fits required := by
  induction operations using List.reverseRecOn with
  | nil => exact fits
  | append_singleton operations operation ih =>
      rw [run_append, run_singleton]
      have before := ih fun earlier member => conform earlier (List.mem_append_left _ member)
      exact before.onward isNonce (conform operation (List.mem_append_right _ List.mem_cons_self))

/-! ## Exchanges -/

/-- An exchange with the token endpoint, and what else happens to the handshake before its request
is prepared and until its response is received. -/
structure Exchange where
  before : List Operation
  draw : Draw
  prepared : Instant
  request : Request
  /-- The request presents no token. -/
  plain : request.headers.get? "authorization" = none
  between : List Operation
  fresh : ProofKey
  received : Instant
  response : Response

namespace Exchange

variable (validity : Span) (exchange : Exchange)

def atRequest : Handshake := (start validity).run exchange.before

def sent : Request :=
  ((exchange.atRequest validity).prepare exchange.draw .token exchange.prepared exchange.request).1

def underWay : Handshake :=
  ((exchange.atRequest validity).prepare exchange.draw .token exchange.prepared
    exchange.request).2.1

def atResponse : Handshake := (exchange.underWay validity).run exchange.between

def verdict : Verdict :=
  ((exchange.atResponse validity).observe exchange.fresh exchange.received exchange.response).1

variable {validity : Span} {exchange : Exchange}

theorem presented?_eq_none : presented? exchange.request = none := by
  simp [presented?, Headers.chars?, exchange.plain]

theorem underWay_key : (exchange.underWay validity).key = (exchange.atRequest validity).key :=
  prepare_key _ _ _ _ _

theorem underWay_eq : exchange.underWay validity = (start validity).run
    (exchange.before ++ [.prepare exchange.draw .token exchange.prepared exchange.request]) := by
  rw [run_append]
  rfl

theorem underWay_covered (validity : Span) (exchange : Exchange) :
    (exchange.underWay validity).nonce ≠ none → (exchange.underWay validity).key ≠ none := by
  rw [underWay_eq]
  exact (run_start_spec validity _).1

/-- A request that is prepared beside a key carries a proof, which states the nonce that is held. -/
theorem sent_of_key (present : (exchange.atRequest validity).key ≠ none) :
    (exchange.sent validity).headers.has "dpop" = true ∧
      Proof.statedNonce? (exchange.sent validity) =
        (exchange.underWay validity).nonce.map (·.value) := by
  obtain ⟨key, present⟩ := Option.ne_none_iff_exists'.mp present
  have carries := prepare_of_key exchange.draw exchange.prepared present exchange.presented?_eq_none
  rw [underWay, prepare_handshake]
  exact carries

theorem sent_of_keyless (absent : (exchange.atRequest validity).key = none) :
    exchange.sent validity = exchange.request :=
  prepare_of_keyless absent _ _ _ _

theorem key_of_response (present : (exchange.atResponse validity).key ≠ none) :
    (exchange.atRequest validity).key ≠ none ∧
        (exchange.sent validity).headers.has "dpop" = true ∨
      (exchange.atRequest validity).key = none ∧ exchange.sent validity = exchange.request ∧
        KeyIn (exchange.underWay validity) exchange.between := by
  cases before : (exchange.atRequest validity).key with
  | some key =>
      have known : (exchange.atRequest validity).key ≠ none := by
        rw [before]
        nofun
      exact .inl ⟨nofun, (sent_of_key known).1⟩
  | none => exact .inr ⟨rfl, sent_of_keyless before, run_keyIn (underWay_key.trans before) present⟩

theorem nonce_of_response {nonce : HeldNonce}
    (held : (exchange.atResponse validity).nonce = some nonce) :
    (∃ earlier, (exchange.underWay validity).nonce = some earlier ∧
        Proof.statedNonce? (exchange.sent validity) = some earlier.value) ∨
      (exchange.underWay validity).nonce = none ∧
        AcceptedIn (exchange.underWay validity) exchange.between nonce := by
  cases before : (exchange.underWay validity).nonce with
  | some earlier =>
      have present := underWay_covered validity exchange (by rw [before]; nofun)
      rw [underWay_key] at present
      refine .inl ⟨earlier, rfl, ?_⟩
      rw [(sent_of_key present).2, before]
      rfl
  | none => exact .inr ⟨rfl, run_acceptedIn before exchange.between held⟩

theorem verdict_takes (validity : Span) (exchange : Exchange) : ∃ after steps,
    Takes (exchange.atResponse validity) exchange.fresh exchange.received exchange.response
      (exchange.verdict validity) after steps :=
  ⟨_, _, observe_takes _ _ _ _⟩

/-- A repeated demand is told of only if the request had met it, or if it was met while the request
was under way. -/
theorem met_of_violation {violation : HandshakeViolation}
    (violated : exchange.verdict validity = .violation violation) :
    (violation.failure = .repeatedInvalidProof →
      (exchange.sent validity).headers.has "dpop" = true ∨
        exchange.sent validity = exchange.request ∧
          KeyIn (exchange.underWay validity) exchange.between) ∧
    (violation.failure = .repeatedUseNonce →
      (∃ nonce, Proof.statedNonce? (exchange.sent validity) = some nonce) ∨
        ∃ nonce, AcceptedIn (exchange.underWay validity) exchange.between nonce) := by
  obtain ⟨after, steps, rule⟩ := exchange.verdict_takes validity
  rw [violated] at rule
  cases rule with
  | repeatedProof _ _ present =>
      refine ⟨fun _ => ?_, nofun⟩
      rcases key_of_response (by rw [present]; nofun) with ⟨_, proved⟩ | ⟨_, same, keyed⟩
      · exact .inl proved
      · exact .inr ⟨same, keyed⟩
  | repeatedNonce _ _ held =>
      refine ⟨nofun, fun _ => ?_⟩
      rcases nonce_of_response held with ⟨earlier, _, stated⟩ | ⟨_, accepted⟩
      · exact .inl ⟨_, stated⟩
      · exact .inr ⟨_, accepted⟩
  | missingNonce | unexpected => exact ⟨nofun, nofun⟩

theorem underWay_fits (validity : Span) {lasts : Int → Prop}
    (isNonce : ∀ nonce, required = some nonce → IsNonce nonce)
    (conform : ∀ operation ∈ exchange.before, operation.Conforms required lasts) :
    (exchange.underWay validity).Fits required := by
  rw [underWay_eq]
  have nothing : (start validity).Fits required := by
    intro nonce held
    cases held
  have conforming (operation : Operation) (member : operation ∈ exchange.before ++
      [.prepare exchange.draw .token exchange.prepared exchange.request]) :
      operation.Conforms required lasts := by
    rcases List.mem_append.mp member with earlier | last
    · exact conform operation earlier
    · obtain rfl := List.mem_singleton.mp last
      trivial
  exact run_fits nothing isNonce conforming

/-- A response by the rules is taken for a violation only if another exchange, or a call for the
key, has brought about in between what the request lacked. -/
theorem violation_of_answers (isNonce : ∀ nonce, required = some nonce → IsNonce nonce)
    (conform : ∀ operation ∈ exchange.before, operation.Conforms required lasts)
    (answers : Answers required lasts (exchange.sent validity) exchange.response)
    {violation : HandshakeViolation} (violated : exchange.verdict validity = .violation violation) :
    (violation.failure = .repeatedInvalidProof ∧
        (exchange.sent validity).headers.has "dpop" = false ∧
        KeyIn (exchange.underWay validity) exchange.between) ∨
      (violation.failure = .repeatedUseNonce ∧
        (∃ nonce, required = some nonce ∧
          Proof.statedNonce? (exchange.sent validity) ≠ some nonce) ∧
        ∃ nonce, AcceptedIn (exchange.underWay validity) exchange.between nonce) := by
  have fits := underWay_fits validity isNonce conform
  obtain ⟨after, steps, rule⟩ := exchange.verdict_takes validity
  rw [violated] at rule
  cases answers with
  | proofless proofless refused asked =>
      cases rule with
      | repeatedProof _ _ present =>
          -- A key that was there before would have put a proof on the request.
          rcases key_of_response (by rw [present]; nofun) with ⟨_, proved⟩ | ⟨_, _, keyed⟩
          · rw [proofless] at proved
            cases proved
          · exact .inl ⟨rfl, proofless, keyed⟩
      | repeatedNonce _ askedElse | missingNonce _ askedElse =>
          rw [asked] at askedElse
          simp at askedElse
      | unexpected _ other => exact absurd asked other
  | @nonceless value _ needed other refused asked supplied =>
      cases rule with
      | repeatedProof _ askedElse =>
          rw [asked] at askedElse
          simp at askedElse
      | repeatedNonce _ _ held =>
          -- A nonce that was held before is the required one, and would have been stated.
          rcases nonce_of_response held with ⟨earlier, heldEarlier, stated⟩ | ⟨_, accepted⟩
          · rw [stated, (fits earlier heldEarlier).2 value needed] at other
            exact absurd rfl other
          · exact .inr ⟨rfl, ⟨value, needed, other⟩, _, accepted⟩
      | missingNonce _ _ _ lacks =>
          have nothing := suppliedNonce?_eq_none_iff.mpr lacks
          rw [suppliedNonce?_of_isNonce (isNonce value needed) supplied] at nothing
          cases nothing
      | unexpected _ _ other => exact absurd asked other
  | granted _ _ success =>
      cases rule with
      | repeatedProof refused | repeatedNonce refused | missingNonce refused | unexpected refused =>
          rw [success] at refused
          cases refused

/-! ## Two exchanges at a time -/

private def keyMade : ProofKey := ⟨"x", "y"⟩

private def drawn : Draw := ⟨keyMade, "1", [0]⟩

private theorem inCalendar_start : inCalendar 0 := by decide

private def clock : Instant := ⟨0, inCalendar_start⟩

private def hour : Span := .ofSeconds 3600

private def tokenRequest : Request :=
  .plain "POST" ⟨"https".toList, [], [], some (.domain "acme.okta.com".toList), none,
    .segments ["token".toList], none, none⟩

private def demanding (code : String) (headers : Headers) : Response :=
  ⟨400, headers, utf8 ("\x7b\"error\":\"" ++ code ++ "\"\x7d")⟩

private def proofAsked : Response := demanding "invalid_dpop_proof" []

private def nonceAsked : Response := demanding "use_dpop_nonce" [("dpop-nonce", .ofAscii "n-1")]

/-- An exchange beside another one, whose request was prepared before and whose response, the same,
is received before. -/
private def besideAnother (before : List Operation) (response : Response) : Exchange where
  before := before ++ [.prepare drawn .token clock tokenRequest]
  draw := drawn
  prepared := clock
  request := tokenRequest
  plain := rfl
  between := [.observe keyMade clock response]
  fresh := keyMade
  received := clock
  response := response

private theorem proofless_violates :
    let second := besideAnother [] proofAsked
    second.verdict hour = .violation (.ofBody .repeatedInvalidProof proofAsked.body) ∧
      (second.sent hour).headers.has "dpop" = false ∧
      Answers (some "n-1") (0 < ·) (second.sent hour) proofAsked := by
  intro second
  have keyless : (second.atRequest hour).key = none := by decide +kernel
  have proofless : (second.sent hour).headers.has "dpop" = false := by
    rw [sent_of_keyless keyless]
    rfl
  exact ⟨by decide +kernel, proofless, .proofless proofless rfl (by decide +kernel)⟩

/-- Of two requests without a proof, both of which are answered by the demand for one, the second is
taken for a violation, and so is the second of two whose proofs state no nonce. -/
theorem overlapping_demands_violate :
    let second := besideAnother [] proofAsked
    let further := besideAnother [.createKey keyMade] nonceAsked
    (second.verdict hour = .violation (.ofBody .repeatedInvalidProof proofAsked.body) ∧
      (second.sent hour).headers.has "dpop" = false ∧
      Answers (some "n-1") (0 < ·) (second.sent hour) proofAsked) ∧
    further.verdict hour = .violation (.ofBody .repeatedUseNonce nonceAsked.body) ∧
      Proof.statedNonce? (further.sent hour) = none ∧
      Answers (some "n-1") (0 < ·) (further.sent hour) nonceAsked := by
  intro second further
  have known : (further.atRequest hour).key ≠ none := by decide +kernel
  obtain ⟨proved, stated⟩ := sent_of_key known
  have nonceless : Proof.statedNonce? (further.sent hour) = none :=
    stated.trans (by decide +kernel)
  refine ⟨proofless_violates, by decide +kernel, nonceless, ?_⟩
  exact .nonceless proved rfl (by rw [nonceless]; nofun) rfl (by decide +kernel) rfl

/-- In every order of the steps of exchanges that share a handshake: a repeated demand for a proof
is told of only if the request carried one or a key came about while it was under way, and a
repeated demand for a nonce only if its proof stated one or a nonce was accepted while it was under
way. If the server keeps to the rules, an exchange fails for no other violation, and only if what
its request lacked came about while it was under way. -/
theorem violations_of_overlap (validity : Span) (exchange : Exchange) :
    (∀ violation, exchange.verdict validity = .violation violation →
      (violation.failure = .repeatedInvalidProof →
        (exchange.sent validity).headers.has "dpop" = true ∨
          exchange.sent validity = exchange.request ∧
            KeyIn (exchange.underWay validity) exchange.between) ∧
      (violation.failure = .repeatedUseNonce →
        (∃ nonce, Proof.statedNonce? (exchange.sent validity) = some nonce) ∨
          ∃ nonce, AcceptedIn (exchange.underWay validity) exchange.between nonce)) ∧
    (∀ (required : Option String) (lasts : Int → Prop),
      (∀ nonce, required = some nonce → IsNonce nonce) →
      (∀ operation ∈ exchange.before, operation.Conforms required lasts) →
      Answers required lasts (exchange.sent validity) exchange.response →
      ∀ violation, exchange.verdict validity = .violation violation →
        (violation.failure = .repeatedInvalidProof ∧
            (exchange.sent validity).headers.has "dpop" = false ∧
            KeyIn (exchange.underWay validity) exchange.between) ∨
          (violation.failure = .repeatedUseNonce ∧
            (∃ nonce, required = some nonce ∧
              Proof.statedNonce? (exchange.sent validity) ≠ some nonce) ∧
            ∃ nonce, AcceptedIn (exchange.underWay validity) exchange.between nonce)) := by
  refine ⟨fun violation violated => met_of_violation violated, ?_⟩
  intro required lasts isNonce conform answers violation violated
  exact violation_of_answers isNonce conform answers violated

/-- The key came about while the second request without a proof was under way. -/
theorem violations_of_overlap_proofless :
    let second := besideAnother [] proofAsked
    Answers (some "n-1") (0 < ·) (second.sent hour) proofAsked ∧
      KeyIn (second.underWay hour) second.between := by
  intro second
  obtain ⟨violated, _, answers⟩ := proofless_violates
  have isNonce (nonce : String) (needed : some "n-1" = some nonce) : IsNonce nonce := by
    cases needed
    exact ⟨by decide, by simp, by decide +kernel⟩
  have conform : ∀ operation ∈ second.before, operation.Conforms (some "n-1") (0 < ·) := by
    intro operation member
    obtain rfl := List.mem_singleton.mp member
    trivial
  rcases (violations_of_overlap hour second).2 (some "n-1") (0 < ·) isNonce conform answers _
    violated with ⟨_, _, keyed⟩ | ⟨failure, _⟩
  · exact ⟨answers, keyed⟩
  · cases failure

end Exchange

end KeyBound.Handshake
