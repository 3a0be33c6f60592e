import KeyBound.Proofs.Client.Budget
import KeyBound.Proofs.Client.Conformance
import KeyBound.Proofs.Token.Assertion

/-!
# Assertions on their way

Which assertion the requests of an acquisition carry, and whether it is valid when they are sent. An
assertion is made for each exchange, and all attempts of the exchange carry it, however long the
waits between them are.
-/

set_option autoImplicit false

namespace KeyBound

open Session

/-! ## Assertions and time -/

/-- An assertion states what a client has to state about itself, and when it was made: at some
nanosecond since 1970. -/
structure Assertion.Claims.SignedAt (claims : Claims) (config : ClientConfig) (nanos : Int) :
    Prop where
  audience : claims.audience = config.tokenEndpoint.toText
  issuer : claims.issuer = config.clientId
  subject : claims.subject = config.clientId
  issuedAt : claims.issuedAt = nanos.fdiv nanosPerSecond
  expiresAt : claims.expiresAt = claims.issuedAt + 3000

def Assertion.Claims.IsValidAt (claims : Claims) (nanos : Int) : Prop :=
  claims.issuedAt * nanosPerSecond ≤ nanos ∧ nanos < claims.expiresAt * nanosPerSecond

/-- An assertion is valid for fifty minutes, less the part of a second that had passed when it was
made. -/
theorem Assertion.Claims.SignedAt.isValidAt_iff {claims : Claims} {config : ClientConfig}
    {signed nanos : Int} (made : claims.SignedAt config signed) (later : signed ≤ nanos) :
    claims.IsValidAt nanos ↔
      signed % nanosPerSecond + (nanos - signed) < 3000 * nanosPerSecond := by
  have issued := made.issuedAt
  have expires := made.expiresAt
  simp only [IsValidAt, nanosPerSecond] at issued expires ⊢
  rw [Int.fdiv_eq_ediv_of_nonneg _ (by decide)] at issued
  omega

theorem Assertion.Claims.SignedAt.issuedAt_le {claims : Claims} {config : ClientConfig}
    {signed : Int} (made : claims.SignedAt config signed) :
    claims.issuedAt * nanosPerSecond ≤ signed := by
  have issued := made.issuedAt
  simp only [nanosPerSecond] at issued ⊢
  rw [Int.fdiv_eq_ediv_of_nonneg _ (by decide)] at issued
  omega

theorem Assertion.Claims.signedAt_of_add? (config : ClientConfig) {now expiry : Instant}
    (identifier : String) (later : now.add? lifetime = some expiry) :
    SignedAt ⟨config.tokenEndpoint.toText, config.clientId, config.clientId, now.seconds,
      expiry.seconds, identifier⟩ config now.nanos where
  audience := rfl
  issuer := rfl
  subject := rfl
  issuedAt := rfl
  expiresAt := by
    have same := Instant.add?_nanos later
    have span : lifetime.nanos = 3000 * nanosPerSecond := rfl
    simp only [Instant.seconds, same, span, nanosPerSecond]
    rw [Int.fdiv_eq_ediv_of_nonneg _ (by decide), Int.fdiv_eq_ediv_of_nonneg _ (by decide)]
    omega

/-- Between two sessions the clock shows the time of the session, counted from some nanosecond since
1970. -/
def Environment.KeepsTime (env : Environment) (base : Int) (session later : Session) : Prop :=
  ∀ looks elapsed, session.elapsed ≤ elapsed → elapsed ≤ later.elapsed →
    (env.clock looks elapsed).nanos = base + elapsed.nanos

theorem Environment.KeepsTime.narrow {env : Environment} {base : Int}
    {first second third last : Session} (keeps : env.KeepsTime base first last)
    (before : first.Until second) (after : third.Until last) : env.KeepsTime base second third :=
  fun looks elapsed since til =>
    keeps looks elapsed (Nat.le_trans before.elapsed since) (Nat.le_trans til after.elapsed)

/-! ## When requests are sent -/

structure SendsDuring (session later : Session) : Prop where
  elapsed : session.elapsed ≤ later.elapsed
  sent : ∃ sent, later.sent = session.sent ++ sent ∧
    ∀ entry ∈ sent, session.elapsed ≤ entry.1 ∧ entry.1 ≤ later.elapsed

namespace SendsDuring

variable {first second third session later : Session}

theorem of_sent (same : later.sent = session.sent) (elapsed : session.elapsed ≤ later.elapsed) :
    SendsDuring session later :=
  ⟨elapsed, [], by simpa using same, by simp⟩

theorem trans (before : SendsDuring first second) (after : SendsDuring second third) :
    SendsDuring first third := by
  obtain ⟨early, sent, grown, during⟩ := before
  obtain ⟨late, further, grownAgain, duringToo⟩ := after
  refine ⟨Nat.le_trans early late, sent ++ further, ?_, ?_⟩
  · rw [grownAgain, grown, List.append_assoc]
  · intro entry member
    rcases List.mem_append.mp member with inside | inside
    · obtain ⟨since, til⟩ := during entry inside
      exact ⟨since, Nat.le_trans til late⟩
    · obtain ⟨since, til⟩ := duringToo entry inside
      exact ⟨Nat.le_trans early since, til⟩

theorem since (during : SendsDuring session later) {position : Nat} {entry : Delay × Request}
    (begun : session.sent.length ≤ position) (placed : later.sent[position]? = some entry) :
    session.elapsed ≤ entry.1 := by
  obtain ⟨_, sent, grown, each⟩ := during
  rw [grown, List.getElem?_append_right begun] at placed
  exact (each entry (List.mem_of_getElem? placed)).1

end SendsDuring

namespace Pipeline

variable {settings : RetrySettings} {target : Target} {request : Request} {session : Session}

theorem run_sendsDuring (env : Environment) (settings : RetrySettings) (target : Target)
    (request : Request) (session : Session) :
    SendsDuring session (run env settings target request session).2 := by
  have parts : Parts env settings target request SendsDuring :=
    { refl := fun session => .of_sent rfl (Nat.le_refl session.elapsed.nanos)
      trans := SendsDuring.trans
      told := fun session _ _ => .of_sent rfl (Nat.le_refl session.elapsed.nanos)
      waited := fun session delay => by
        obtain ⟨elapsed, later, same⟩ := wait_eq env delay session
        rw [same]
        exact .of_sent rfl later
      attempted := fun session attempt retryFor => by
        obtain ⟨_, _, kept⟩ :=
          (parts_keeps env settings target request).attempted session attempt retryFor
        have later := kept.til.elapsed
        rcases attemptOnce_sent env settings target request attempt retryFor session with
          same | ⟨prepared, sent⟩
        · exact .of_sent same later
        · refine ⟨later, _, sent, ?_⟩
          rintro entry member
          obtain rfl := List.mem_singleton.mp member
          exact ⟨Nat.le_refl session.elapsed.nanos, later⟩ }
  have told : SendsDuring session (session.tell [.span target.kind .pipeline]) :=
    .of_sent rfl (Nat.le_refl session.elapsed.nanos)
  exact told.trans (parts.of_run session)

end Pipeline

namespace Acquisition

variable {env : Environment} {config : ClientConfig} {base : Int} {session later : Session}

/-- A request that was sent at some time carries claims that were signed when the request at some
position was sent, which carries them too. A limit of time counts from there. -/
structure Carries (config : ClientConfig) (base : Int) (later : Session) (first : Nat)
    (signed sent : Delay) (request : Request) (claims : Assertion.Claims) : Prop where
  opening : ∃ opening, later.sent[first]? = some (signed, opening) ∧ opening.body = request.body
  since : signed ≤ sent
  limited : ∀ budget, config.retry.maxElapsed = some budget → sent ≤ signed.plus budget
  carried : request.assertion? = some claims
  stated : claims.SignedAt config (base + signed.nanos)

theorem Carries.of_grows {next : Session} {first : Nat} {signed sent : Delay} {request : Request}
    {claims : Assertion.Claims}
    (carries : Carries config base next first signed sent request claims)
    (grows : next.sent <+: later.sent) :
    Carries config base later first signed sent request claims := by
  obtain ⟨opening, placed, same⟩ := carries.opening
  obtain ⟨rest, whole⟩ := grows
  have inside := (List.getElem?_eq_some_iff.mp placed).1
  refine { carries with opening := ⟨opening, ?_, same⟩ }
  rw [← whole, List.getElem?_append_left inside, placed]

/-- The requests that were sent from one session to a later one carry claims that were signed when
one of them was sent. -/
structure Vouches (config : ClientConfig) (base : Int) (session later : Session) : Prop where
  grows : session.sent <+: later.sent
  each : ∀ position sent request, session.sent.length ≤ position →
    later.sent[position]? = some (sent, request) →
    ∃ first signed claims, session.sent.length ≤ first ∧ first ≤ position ∧
      Carries config base later first signed sent request claims

namespace Vouches

theorem of_sent (same : later.sent = session.sent) : Vouches config base session later where
  grows := same ▸ List.prefix_refl _
  each position sent request begun placed := by
    rw [same] at placed
    exact absurd (List.getElem?_eq_some_iff.mp placed).1 (Nat.not_lt.mpr begun)

theorem trans {first second third : Session} (before : Vouches config base first second)
    (after : Vouches config base second third) : Vouches config base first third where
  grows := before.grows.trans after.grows
  each position sent request begun placed := by
    rcases Nat.lt_or_ge position second.sent.length with early | late
    · obtain ⟨rest, whole⟩ := after.grows
      rw [← whole, List.getElem?_append_left early] at placed
      obtain ⟨opened, signed, claims, since, til, carries⟩ :=
        before.each position sent request begun placed
      exact ⟨opened, signed, claims, since, til, carries.of_grows after.grows⟩
    · obtain ⟨opened, signed, claims, since, til, carries⟩ :=
        after.each position sent request late placed
      exact ⟨opened, signed, claims, Nat.le_trans before.grows.length_le since, til, carries⟩

end Vouches

theorem exchange_until (env : Environment) (config : ClientConfig) (session : Session) :
    session.Until (exchange env config session).2 := by
  obtain ⟨_, _, follows, _⟩ := exchange_follows env config session
  exact follows.til

theorem assertion?_congr {first second : Request} (same : first.body = second.body) :
    first.assertion? = second.assertion? := by
  rw [Request.assertion?, Request.assertion?, same]

section

variable {position : Nat} {sent : Delay} {request : Request}

/-- All attempts of a call carry what its request carries, which was signed when it began. -/
theorem run_carries {made : Request} {claims : Assertion.Claims}
    (carried : made.assertion? = some claims)
    (stated : claims.SignedAt config (base + session.elapsed.nanos))
    (begun : session.sent.length ≤ position)
    (placed : (Pipeline.run env config.retry .token made session).2.sent[position]? =
      some (sent, request)) :
    Carries config base (Pipeline.run env config.retry .token made session).2
      session.sent.length session.elapsed sent request claims := by
  have sends := Pipeline.run_sendsOnly env config.retry .token made session
  have during := Pipeline.run_sendsDuring env config.retry .token made session
  have inside := (List.getElem?_eq_some_iff.mp placed).1
  have more := Nat.lt_of_le_of_lt begun inside
  obtain ⟨opening, opened, started⟩ :=
    Option.map_eq_some_iff.mp (Pipeline.run_sentAt?_first more)
  obtain ⟨first, firstPlaced, firstOutgoing⟩ := sends.at_position (Nat.le_refl _) more
  obtain ⟨last, lastPlaced, lastOutgoing⟩ := sends.at_position begun inside
  obtain rfl : opening = first := Option.some.inj (opened.symm.trans firstPlaced)
  obtain rfl : (sent, request) = last := Option.some.inj (placed.symm.trans lastPlaced)
  have body := lastOutgoing.isCopyOf.body
  refine ⟨⟨opening.2, by rw [opened, ← started], ?_⟩, during.since begun placed, ?_,
    (assertion?_congr body).trans carried, stated⟩
  · exact firstOutgoing.isCopyOf.body.trans body.symm
  · intro budget limited
    rcases Nat.eq_or_lt_of_le begun with same | later
    · subst same
      obtain rfl := Option.some.inj (placed.symm.trans opened)
      exact started ▸ Nat.le_add_right _ _
    · exact Pipeline.run_start_le limited later (by rw [Session.sentAt?, placed]; rfl)

/-- All requests of an exchange carry what was signed when it began. -/
theorem exchange_carries (keeps : env.KeepsTime base session (exchange env config session).2)
    (begun : session.sent.length ≤ position)
    (placed : (exchange env config session).2.sent[position]? = some (sent, request)) :
    ∃ claims, Carries config base (exchange env config session).2 session.sent.length
      session.elapsed sent request claims := by
  have now : (session.now env).nanos = base + session.elapsed.nanos :=
    keeps session.looks session.elapsed (Nat.le_refl _) (exchange_until env config session).elapsed
  cases requested : Acquisition.request config (session.now env) (env.draw session.draws) with
  | error error =>
      have requested : Acquisition.request config (session.look env).1
          ((session.look env).2.draw env).1 = .error error := requested
      have failed : exchange env config session = (.error error, ready env session) := by
        simp only [exchange, requested, ready]
      rw [failed] at placed
      exact absurd (List.getElem?_eq_some_iff.mp placed).1 (Nat.not_lt.mpr begun)
  | ok made =>
      obtain ⟨expiry, later, carried⟩ := assertion?_of_request requested
      have stated :=
        Assertion.Claims.signedAt_of_add? config (env.draw session.draws).identifier later
      rw [now] at stated
      rw [exchange_eq requested] at placed ⊢
      rw [conclude_sent] at placed
      have carries : Carries config base _ (ready env session).sent.length
          (ready env session).elapsed sent request _ := run_carries carried stated begun placed
      exact ⟨_, carries.of_grows ⟨[], by rw [List.append_nil, conclude_sent]⟩⟩

end

theorem exchange_vouches (keeps : env.KeepsTime base session (exchange env config session).2) :
    Vouches config base session (exchange env config session).2 where
  grows := (SendsTo.iff_sendsOnly.mp ((parts_sendsTo env config).of_exchange session)).sent_grows
  each position sent request begun placed := by
    obtain ⟨claims, carries⟩ := exchange_carries keeps begun placed
    exact ⟨_, _, claims, Nat.le_refl _, begun, carries⟩

theorem exchanges_vouches (roundsLeft : Nat)
    (keeps : env.KeepsTime base session (exchanges env config roundsLeft session).2) :
    Vouches config base session (exchanges env config roundsLeft session).2 := by
  induction roundsLeft generalizing session with
  | zero =>
      obtain ⟨_, rest⟩ := exchanges_follows_exchange env config 0 session
      have round := exchange_vouches (keeps.narrow (.refl session) rest.til)
      unfold exchanges
      split <;> (rename_i ended; rwa [ended] at round)
  | succ roundsLeft ih =>
      obtain ⟨_, rest⟩ := exchanges_follows_exchange env config (roundsLeft + 1) session
      have round := exchange_vouches (keeps.narrow (.refl session) rest.til)
      have before := exchange_until env config session
      unfold exchanges at keeps ⊢
      split at keeps <;> rename_i ended <;> rw [ended] at round before
      · exact round
      · exact round
      · exact round.trans (ih (keeps.narrow before (.refl _)))

/-- The requests of an acquisition carry assertions that state what the client is and where they are
sent. An assertion is made when the first request that carries it is sent, so that it is issued when
a request is sent; it is still valid then exactly if fifty minutes have not passed, counted from the
beginning of the second in which it was made. A limit of time that is at least a second shorter
makes sure of that. -/
theorem fetch_vouches (env : Environment) (config : ClientConfig) (base : Int)
    (session : Session) :
    let later := (fetch env config session).2
    env.KeepsTime base session later →
    ∀ position sent request, session.sent.length ≤ position →
      later.sent[position]? = some (sent, request) →
      ∃ first signed claims, session.sent.length ≤ first ∧ first ≤ position ∧
        Carries config base later first signed sent request claims ∧
        claims.issuedAt * nanosPerSecond ≤ base + sent.nanos ∧
        (claims.IsValidAt (base + sent.nanos) ↔
          (base + signed.nanos) % nanosPerSecond + (sent.nanos - signed.nanos) <
            3000 * nanosPerSecond) ∧
        (∀ budget, config.retry.maxElapsed = some budget →
          budget.nanos ≤ 2999 * nanosPerSecond → claims.IsValidAt (base + sent.nanos)) := by
  intro later keeps position sent request begun placed
  have began : Vouches config base session (session.tell [.span .token .clientCredentials]) :=
    .of_sent rfl
  have vouches := began.trans (exchanges_vouches maxRounds keeps)
  obtain ⟨first, signed, claims, since, til, carries⟩ :=
    vouches.each position sent request begun placed
  have after : base + signed.nanos ≤ base + sent.nanos :=
    Int.add_le_add_left (Int.ofNat_le.mpr carries.since) base
  have valid := carries.stated.isValidAt_iff after
  rw [add_sub_add_left_eq_sub] at valid
  refine ⟨first, signed, claims, since, til, carries, ?_, valid, fun budget limited short => ?_⟩
  · exact Int.le_trans carries.stated.issuedAt_le after
  · have fits : sent.nanos ≤ signed.nanos + budget.nanos := carries.limited budget limited
    rw [valid]
    simp only [nanosPerSecond] at short ⊢
    omega

/-! ## A wait of two hours -/

/-- An exchange that brings a token is the last one. -/
theorem exchanges_of_granted {token : AccessToken} (roundsLeft : Nat)
    (granted : (exchange env config session).1 = .ok (some token)) :
    exchanges env config roundsLeft session = (.ok token, (exchange env config session).2) := by
  unfold exchanges
  split <;> (rename_i ended; rw [ended] at granted; cases granted)
  rw [ended]

theorem fetch_of_granted {token : AccessToken}
    (granted : (exchange env config (session.tell [.span .token .clientCredentials])).1 =
      .ok (some token)) :
    (fetch env config session).2 =
      (exchange env config (session.tell [.span .token .clientCredentials])).2 :=
  congrArg Prod.snd (exchanges_of_granted maxRounds granted)

private def timed (script : Script) : Environment :=
  { Environment.ofScript script with
    clock := fun _ elapsed => (Instant.ofNanos? elapsed.nanos).getD epoch }

private theorem timed_keepsTime (script : Script) {later : Session}
    (short : later.elapsed ≤ .ofMillis 86400000) :
    (timed script).KeepsTime 0 session later := by
  intro looks elapsed _ til
  have bounded : elapsed.nanos ≤ 86400000 * 1000000 := Nat.le_trans til short
  have inside : inCalendar elapsed.nanos := by
    simp only [inCalendar, firstSecond, lastSecond, nanosPerSecond]
    omega
  simp [timed, Instant.ofNanos?, inside]

private def crowded : Script where
  replies := [⟨.zero, .ok ⟨429, [("x-rate-limit-reset", .ofAscii "1438855200"),
      ("date", .ofAscii "Thu, 06 Aug 2015 08:00:00 GMT")], []⟩⟩, .granting "at-1"]
  tokenReplies := none

private def opened : Session :=
  (Session.start ClientConfig.sample.nonceValidity).tell [.span .token .clientCredentials]

/-- The token comes with the second request of the first exchange. -/
private theorem crowded_exchange :
    let ended := exchange (timed crowded) .sample opened
    ended.1.toOption.join.isSome = true ∧
      ended.2.sent.map (·.1) = [.zero, .ofMillis 7201000] ∧
      ended.2.elapsed = .ofMillis 7201000 := by
  decide +kernel

private theorem crowded_fetch :
    (fetch (timed crowded) .sample (.start ClientConfig.sample.nonceValidity)).2 =
      (exchange (timed crowded) .sample opened).2 := by
  have brings (result : Except Error (Option AccessToken))
      (some : result.toOption.join.isSome = true) : ∃ token, result = .ok (.some token) := by
    rcases result with error | (none | token)
    · cases some
    · cases some
    · exact ⟨token, rfl⟩
  obtain ⟨token, granted⟩ := brings _ crowded_exchange.1
  exact fetch_of_granted granted

private theorem crowded_keepsTime (session : Session) :
    (timed crowded).KeepsTime 0 session
      (fetch (timed crowded) .sample (.start ClientConfig.sample.nonceValidity)).2 := by
  refine timed_keepsTime crowded ?_
  rw [crowded_fetch, crowded_exchange.2.2]
  decide

/-- The second request of the exchange is sent after two hours. -/
private theorem crowded_second :
    ∃ request, (exchange (timed crowded) .sample opened).2.sent[1]? =
      some (.ofMillis 7201000, request) := by
  have second := congrArg (·[1]?) crowded_exchange.2.1
  obtain ⟨⟨sent, request⟩, placed, rfl⟩ : ∃ entry,
      (exchange (timed crowded) .sample opened).2.sent[1]? = some entry ∧
        entry.1 = .ofMillis 7201000 := by
    simpa [Option.map_eq_some_iff] using second
  exact ⟨request, placed⟩

theorem fetch_vouches_crowded :
    let session := Session.start ClientConfig.sample.nonceValidity
    let later := (fetch (timed crowded) .sample session).2
    (timed crowded).KeepsTime 0 session later ∧
      ∃ request, later.sent[1]? = some (.ofMillis 7201000, request) ∧
        ∃ first signed claims, first ≤ 1 ∧
          Carries .sample 0 later first signed (.ofMillis 7201000) request claims := by
  have keeps := crowded_keepsTime (.start ClientConfig.sample.nonceValidity)
  obtain ⟨request, placed⟩ := crowded_second
  rw [← crowded_fetch] at placed
  obtain ⟨first, signed, claims, _, til, carries, _⟩ := fetch_vouches (timed crowded) .sample 0
    (.start ClientConfig.sample.nonceValidity) keeps 1 (.ofMillis 7201000) request (Nat.zero_le 1)
    placed
  exact ⟨keeps, request, placed, first, signed, claims, til, carries⟩

/-- Not every request of an acquisition carries an assertion that is valid when it is sent: after a
wait of two hours it has expired. -/
theorem fetch_carries_expired :
    let session := Session.start ClientConfig.sample.nonceValidity
    let later := (fetch (timed crowded) .sample session).2
    (timed crowded).KeepsTime 0 session later ∧
      ∃ request claims, later.sent[1]? = some (.ofMillis 7201000, request) ∧
        request.assertion? = some claims ∧
        ¬ claims.IsValidAt (Delay.ofMillis 7201000).nanos := by
  intro session later
  have keeps : (timed crowded).KeepsTime 0 opened (exchange (timed crowded) .sample opened).2 :=
    crowded_fetch ▸ crowded_keepsTime opened
  obtain ⟨request, placed⟩ := crowded_second
  obtain ⟨claims, carries⟩ := exchange_carries keeps (Nat.zero_le 1) placed
  have same : later = (exchange (timed crowded) .sample opened).2 := crowded_fetch
  refine ⟨crowded_keepsTime session, request, claims, same ▸ placed, carries.carried, ?_⟩
  rw [carries.stated.isValidAt_iff (by decide)]
  decide

end Acquisition

end KeyBound
