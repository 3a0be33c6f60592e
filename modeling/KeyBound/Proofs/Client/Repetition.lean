import KeyBound.Proofs.Client.Course

/-!
# Repeated requests

After which failures of the transport a call sends its request again. Methods whose repetition has
no further effect are the only ones that are repeated although the server may have seen them, unless
the rule is another one.
-/

set_option autoImplicit false

namespace KeyBound

namespace RetrySettings

def safeMethods : List String := ["GET", "HEAD", "OPTIONS", "TRACE", "PUT", "DELETE"]

theorem mem_repeatableMethods_iff {method : String} :
    method ∈ repeatableMethods ↔ method ∈ "QUERY" :: safeMethods := by
  simp only [repeatableMethods, safeMethods, List.mem_cons, List.not_mem_nil, or_false]
  constructor
  · rintro (h | h | h | h | h | h | h) <;> simp [h]
  · rintro (h | h | h | h | h | h | h) <;> simp [h]

/-- Whether a request may be sent again after a failure of the transport, when some methods are
taken for safe. -/
def Permits (settings : RetrySettings) (methods : List String) (method : String)
    (failure : TransportFailure) : Prop :=
  failure.kind ∉ settings.nonRetriableKinds ∧
    (settings.idempotency = .always ∨
      settings.idempotency = .safeMethodsOrUnsent ∧
        (failure.requestSent = false ∨ method ∈ methods))

/-- Whether a request is sent again after some failure although its method is not among those that
the rule names: the method is the one that the rule forgets, and retries, kinds and time leave room
for it. -/
structure RepeatsUnnamed (settings : RetrySettings) (method : String) : Prop where
  rule : settings.idempotency = .safeMethodsOrUnsent
  method : method = "QUERY"
  retries : 1 ≤ settings.maxRetries
  kinds : ∃ kind, kind ∉ settings.nonRetriableKinds
  time : ∀ budget, settings.maxElapsed = some budget → settings.backoffDelay 1 ≤ budget

end RetrySettings

namespace Pipeline

variable {env : Environment} {settings : RetrySettings} {target : Target} {request : Request}
  {session : Session}

theorem goesOn_error_iff {method : String} {attempt : Nat} {failure : TransportFailure} :
    goesOn settings method attempt (.error failure) = true ↔
      attempt ≤ settings.maxRetries ∧
        settings.Permits ("QUERY" :: RetrySettings.safeMethods) method failure := by
  rw [goesOn, RetrySettings.shouldRetry_eq_true_iff]
  dsimp only
  rw [RetrySettings.isIdempotent_eq_true_iff, RetrySettings.mem_repeatableMethods_iff]
  exact and_iff_right rfl

/-- An attempt of the call that began with a session has failed in the transport. -/
def FailedAt (env : Environment) (session final : Session) (position : Nat)
    (failure : TransportFailure) : Prop :=
  session.sent.length ≤ position ∧
    ∃ reply, final.reply? env position = some reply ∧ reply.outcome = .error failure

/-- A call repeats its request after failures of the transport only as the rule says, when some
methods are taken for safe. -/
structure RepeatsOnly (env : Environment) (settings : RetrySettings) (target : Target)
    (request : Request) (session : Session) (methods : List String) : Prop where
  /-- An attempt that failed is followed by another one only where the rule permits it. -/
  permitted : ∀ position failure,
    FailedAt env session (run env settings target request session).2 position failure →
    position + 1 < (run env settings target request session).2.sent.length →
    settings.Permits methods request.method failure
  /-- Another method is not sent again once the server may have seen it. -/
  seen : settings.idempotency = .safeMethodsOrUnsent → request.method ∉ methods →
    ∀ position failure,
      FailedAt env session (run env settings target request session).2 position failure →
      failure.requestSent = true →
      (run env settings target request session).2.sent.length = position + 1
  /-- Every failure ends the call, if nothing is to be repeated. -/
  never : settings.idempotency = .never → ∀ position failure,
    FailedAt env session (run env settings target request session).2 position failure →
    (run env settings target request session).2.sent.length = position + 1

/-- Where nothing follows but what is permitted, a failure that permits nothing ends the call. -/
theorem FailedAt.last {final : Session} {position : Nat} {failure : TransportFailure}
    {permitted : Prop} (failed : FailedAt env session final position failure)
    (followed : position + 1 < final.sent.length → permitted) (refused : ¬ permitted) :
    final.sent.length = position + 1 := by
  obtain ⟨_, reply, replied, _⟩ := failed
  refine Nat.le_antisymm (Nat.le_of_not_lt fun more => ?_) (Session.lt_of_reply? replied)
  exact refused (followed more)

theorem RepeatsOnly.of_permitted {methods : List String}
    (permitted : ∀ position failure,
      FailedAt env session (run env settings target request session).2 position failure →
      position + 1 < (run env settings target request session).2.sent.length →
      settings.Permits methods request.method failure) :
    RepeatsOnly env settings target request session methods where
  permitted := permitted
  seen rule other position failure failed sent := by
    refine failed.last (permitted position failure failed) ?_
    rintro ⟨_, always | ⟨_, unsent | safe⟩⟩
    · rw [rule] at always
      cases always
    · rw [sent] at unsent
      cases unsent
    · exact other safe
  never rule position failure failed := by
    refine failed.last (permitted position failure failed) ?_
    rintro ⟨_, always | ⟨safe, _⟩⟩
    · rw [rule] at always
      cases always
    · rw [rule] at safe
      cases safe

/-- What the policy and the time allowed when a request was sent again after a failure. -/
theorem run_failed_followed {position : Nat} {failure : TransportFailure}
    (failed : FailedAt env session (run env settings target request session).2 position failure)
    (more : position + 1 < (run env settings target request session).2.sent.length) :
    ∃ number, 1 ≤ number ∧ number ≤ settings.maxRetries ∧
      settings.Permits ("QUERY" :: RetrySettings.safeMethods) request.method failure ∧
      ∀ budget, settings.maxElapsed = some budget → settings.backoffDelay number ≤ budget := by
  obtain ⟨begun, reply, replied, outcome⟩ := failed
  obtain ⟨made, numbered, placed, allowed, within, _⟩ := run_followed begun more
  obtain rfl : made.reply = reply := Option.some.inj (placed.reply.symm.trans replied)
  rw [Attempt.goesOn, outcome, goesOn_error_iff] at allowed
  refine ⟨made.number, by omega, allowed.1, allowed.2, ?_⟩
  intro budget limit
  rw [Attempt.isLate, isOverBudget, limit, Attempt.delay, outcome] at within
  have fits : ¬ budget < _ := of_decide_eq_false within
  exact Nat.le_trans (Nat.le_add_left _ _) (Nat.le_of_not_lt fits)

private def silentOnce (kind : FailureKind) : Script := ⟨[⟨.zero, .error ⟨kind, true⟩⟩], none⟩

private def silentEnvironment (kind : FailureKind) : Environment := .ofScript (silentOnce kind)

private theorem silent_reply? (kind : FailureKind) {final : Session}
    (any : 0 < final.sent.length) :
    final.reply? (silentEnvironment kind) 0 = some ⟨.zero, .error ⟨kind, true⟩⟩ := by
  have answer : (silentOnce kind).respond [] final.sent[0].2 = ⟨.zero, .error ⟨kind, true⟩⟩ :=
    Script.respond_of_common rfl [] final.sent[0].2
  rw [Session.reply?, List.getElem?_eq_getElem any]
  exact congrArg some answer

private def silentAttempt (kind : FailureKind) : Attempt :=
  ⟨1, .zero, ⟨.zero, .error ⟨kind, true⟩⟩⟩

private theorem silentAttempt_goesOn {method : String} {kind : FailureKind}
    (unnamed : settings.RepeatsUnnamed method) (retriable : kind ∉ settings.nonRetriableKinds) :
    (silentAttempt kind).goesOn settings method = true := by
  refine goesOn_error_iff.mpr ⟨unnamed.retries, retriable, .inr ⟨unnamed.rule, .inr ?_⟩⟩
  rw [unnamed.method]
  exact List.mem_cons_self

private theorem silentAttempt_isLate {method : String} (kind : FailureKind)
    (unnamed : settings.RepeatsUnnamed method) :
    (silentAttempt kind).isLate settings .zero = false := by
  unfold Attempt.isLate isOverBudget
  cases limit : settings.maxElapsed with
  | none => rfl
  | some budget =>
      have fits : (settings.backoffDelay 1).nanos ≤ budget.nanos := unnamed.time budget limit
      refine decide_eq_false fun exceeded => ?_
      change budget.nanos <
        0 + min 0 Delay.longestTimer.nanos - 0 + (settings.backoffDelay 1).nanos at exceeded
      omega

/-- Where the rule forgets a method, some call repeats a request that the server may have seen. -/
theorem exists_repeats_unnamed (unnamed : settings.RepeatsUnnamed request.method)
    (target : Target) :
    ∃ env session, ¬ RepeatsOnly env settings target request session RetrySettings.safeMethods := by
  obtain ⟨kind, retriable⟩ := unnamed.kinds
  refine ⟨silentEnvironment kind, .start ⟨0⟩, fun holds => ?_⟩
  obtain ⟨position, made, _, length, numbered, placed, _, _, stopped⟩ :=
    @run_ended (silentEnvironment kind) rfl settings target request (.start ⟨0⟩)
  have any :
      0 < (run (silentEnvironment kind) settings target request (.start ⟨0⟩)).2.sent.length := by
    omega
  have replied := silent_reply? kind any
  -- If the first attempt were the last one, it would have been refused another one, or been late.
  cases position with
  | zero =>
      have start := placed.start.symm.trans (run_sentAt?_first any)
      obtain ⟨number, begun, reply⟩ := made
      cases Option.some.inj start
      cases Option.some.inj (placed.reply.symm.trans replied)
      cases numbered
      rcases stopped with refused | late
      · have allowed := silentAttempt_goesOn unnamed retriable
        exact absurd allowed (Bool.eq_false_iff.mp refused)
      · have early := silentAttempt_isLate kind unnamed
        exact absurd late (Bool.eq_false_iff.mp early)
  | succ position =>
      have permitted := holds.permitted 0 ⟨kind, true⟩ ⟨Nat.le_refl _, _, replied, rfl⟩
        (by omega)
      obtain ⟨_, always | ⟨_, unsent | safe⟩⟩ := permitted
      · rw [unnamed.rule] at always
        cases always
      · cases unsent
      · rw [unnamed.method] at safe
        revert safe
        decide

/-- A call repeats its request after failures of the transport only as the rule says, but for one
more method that it takes for safe. It keeps to the methods that the rule names on every run exactly
where that method, the settings or the time do not let it come to this. -/
theorem run_repeats (settings : RetrySettings) (target : Target) (request : Request) :
    (∀ env session, RepeatsOnly env settings target request session
      ("QUERY" :: RetrySettings.safeMethods)) ∧
    ((∀ env session, RepeatsOnly env settings target request session RetrySettings.safeMethods) ↔
      ¬ settings.RepeatsUnnamed request.method) := by
  refine ⟨fun env session => .of_permitted fun position failure failed more => ?_, ?_, ?_⟩
  · obtain ⟨_, _, _, permitted, _⟩ := run_failed_followed failed more
    exact permitted
  · intro named unnamed
    obtain ⟨env, session, repeated⟩ := exists_repeats_unnamed unnamed target
    exact repeated (named env session)
  · intro named env session
    refine .of_permitted fun position failure failed more => ?_
    obtain ⟨number, positive, left, ⟨retriable, cause⟩, time⟩ := run_failed_followed failed more
    refine ⟨retriable, ?_⟩
    rcases cause with always | ⟨rule, unsent | safe⟩
    · exact .inl always
    · exact .inr ⟨rule, .inl unsent⟩
    · refine .inr ⟨rule, .inr ?_⟩
      rcases List.mem_cons.mp safe with query | safe
      · exact absurd ⟨rule, query, Nat.le_trans positive left, ⟨_, retriable⟩,
          fun budget limit =>
            Nat.le_trans (RetrySettings.backoffDelay_le positive) (time budget limit)⟩ named
      · exact safe

end Pipeline

end KeyBound
