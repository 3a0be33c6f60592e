import KeyBound.Proofs.Client.Effort

/-!
# Undisturbed calls

What a call comes to that is not cancelled, while no nonce expires. If the first response is no
reason to try again, there is one attempt, whose request carries what the handshake holds.
-/

set_option autoImplicit false

namespace KeyBound

variable {env : Environment} {first second third : Session}

namespace Session

theorem isCancelled_of_elapsed {session later : Session} (since : session.elapsed ≤ later.elapsed)
    (uncancelled : later.isCancelled env = false) : session.isCancelled env = false := by
  rw [isCancelled_eq_false_iff] at uncancelled ⊢
  intro moment planned
  exact Nat.lt_of_le_of_lt since (uncancelled moment planned)

theorem isCancelled_of_exchange {request : Request} {session later : Session}
    (cut : session.exchange env request = (none, later)) : later.isCancelled env = true := by
  obtain ⟨moment, planned, _, rfl⟩ := exchange_cut cut
  rw [isCancelled, planned]
  exact decide_eq_true (Nat.le_max_right session.elapsed.nanos moment.nanos)

/-- A nonce was held in a session, or was accepted on the way to a later one. -/
def Meets (env : Environment) (nonce : HeldNonce) (session later : Session) : Prop :=
  session.handshake.nonce = some nonce ∨ Accepts env nonce session later

/-- On the way from a session to a later one a nonce was given up, after the clock had shown that it
has expired. -/
def Loses (env : Environment) (session later : Session) : Prop :=
  ∃ nonce told, Meets env nonce session later ∧ Expires env nonce session later ∧
    later.events = session.events ++ told ∧ .stepLogged .nonceExpired ∈ told

/-- Nothing interferes on the way to a later session: no nonce expires, and nothing is cancelled. -/
structure Undisturbed (env : Environment) (session later : Session) : Prop where
  uncancelled : later.isCancelled env = false
  lasting : ¬ Loses env session later

namespace Undisturbed

variable {told further : List Event}

theorem left (undisturbed : Undisturbed env first third) (after : Follows second third further) :
    Undisturbed env first second where
  uncancelled := isCancelled_of_elapsed after.til.elapsed undisturbed.uncancelled
  lasting := by
    rintro ⟨nonce, more, meets, expires, since, expired⟩
    refine undisturbed.lasting ⟨nonce, more ++ further, ?_, expires.widen (.refl first) after.til,
      ?_, List.mem_append_left _ expired⟩
    · rcases meets with held | ⟨shown, shows, expiry⟩
      · exact .inl held
      · exact .inr ⟨shown, shows.widen (.refl first) after.til, expiry⟩
    · rw [after.events, since, List.append_assoc]

theorem right (undisturbed : Undisturbed env first third) (before : Follows first second told)
    (til : second.Until third)
    (held : ∀ nonce, second.handshake.nonce = some nonce → Meets env nonce first second) :
    Undisturbed env second third where
  uncancelled := undisturbed.uncancelled
  lasting := by
    rintro ⟨nonce, more, meets, expires, since, expired⟩
    refine undisturbed.lasting ⟨nonce, told ++ more, ?_, expires.widen before.til (.refl third),
      ?_, List.mem_append_right _ expired⟩
    · rcases meets with holds | ⟨shown, shows, expiry⟩
      · rcases held nonce holds with holds | ⟨shown, shows, expiry⟩
        · exact .inl holds
        · exact .inr ⟨shown, shows.widen (.refl first) til, expiry⟩
      · rw [before.validity] at expiry
        exact .inr ⟨shown, shows.widen before.til (.refl third), expiry⟩
    · rw [since, before.events, List.append_assoc]

theorem of_same (undisturbed : Undisturbed env first third) (before : Follows first second told)
    (til : second.Until third) (same : second.handshake = first.handshake) :
    Undisturbed env second third :=
  undisturbed.right before til fun _ held => .inl (same ▸ held)

/-- A request is prepared without giving up a nonce. -/
theorem refresh_eq {session : Session} {target : Target} {request : Request}
    (undisturbed : Undisturbed env session (session.prepare env target request).2) :
    session.handshake.refresh target (session.now env) = (session.handshake, []) := by
  obtain ⟨_, _, kept⟩ := prepare_keeps env target request session
  rcases session.handshake.refresh_eq target (session.now env) with
    kept | ⟨nonce, _, held, due, expired⟩
  · exact kept
  · have told : (session.prepare env target request).2.events =
        session.events ++ [HandshakeStep.nonceExpired].flatMap Event.ofStep := by
      rw [prepare_eq, expired]
    have expires : Expires env nonce session (session.prepare env target request).2 :=
      ⟨session.now env, ⟨session, .refl session, kept.til, rfl⟩, due⟩
    exact absurd ⟨nonce, _, .inl held, expires, told, List.mem_cons_self⟩ undisturbed.lasting

end Undisturbed

end Session

open Session

namespace Pipeline

variable {settings : RetrySettings} {target : Target} {request : Request} {session after : Session}

/-- The first attempt sends the request as the handshake prepares it. -/
theorem attemptOnce_first {outcome : Outcome}
    (attempted : attemptOnce env settings target request 1 none session = (some outcome, after)) :
    let prepared := session.prepare env target request
    let reply := env.respond (session.sent.map (·.2)) prepared.1
    outcome = reply.outcome ∧
      after = { prepared.2.tell [.counted target.kind .attempt] with
        sent := session.sent ++ [(session.elapsed, prepared.1)]
        elapsed := session.deadline reply.delay } := by
  intro prepared reply
  unfold attemptOnce at attempted
  split at attempted
  · cases attempted
  · exact exchange_some attempted

theorem isCancelled_of_attemptOnce {attempt : Nat} {retryFor : Option HeaderValue}
    (cut : attemptOnce env settings target request attempt retryFor session = (none, after)) :
    after.isCancelled env = true := by
  unfold attemptOnce at cut
  split at cut
  · rename_i cancelled
    cases cut
    exact cancelled
  · exact isCancelled_of_exchange cut

theorem run_until (env : Environment) (settings : RetrySettings) (target : Target)
    (request : Request) (session : Session) :
    session.Until (run env settings target request session).2 := by
  obtain ⟨_, _, kept⟩ := (parts_keeps env settings target request).of_run session
  exact ⟨kept.til.looks, kept.til.elapsed⟩

/-- An undisturbed call of the token endpoint whose first response is final: the request carries
the proof that the handshake puts on it, and the handshake is the same afterwards. -/
theorem run_of_undisturbed
    (undisturbed : Undisturbed env session (run env settings .token request session).2)
    (decided : ∀ before sent, sent.url = request.url → ∃ response,
      (env.respond before sent).outcome = .ok response ∧
        response.status ∉ settings.retriableStatuses) :
    let sent :=
      (session.handshake.prepare (env.draw session.draws) .token (session.now env) request).1
    let later := (run env settings .token request session).2
    ∃ response, (env.respond (session.sent.map (·.2)) sent).outcome = .ok response ∧
      (run env settings .token request session).1 = .ok response ∧
      later.sent = session.sent ++ [(session.elapsed, sent)] ∧
      session.handshake.refresh .token (session.now env) = (session.handshake, []) ∧
      later.handshake = session.handshake := by
  intro sent later
  obtain ⟨response, answered, final⟩ := decided (session.sent.map (·.2)) sent
    (session.handshake.prepare_isCopyOf _ _ _ request).url
  obtain ⟨ended, told, whole, course⟩ := run_course env settings .token request session
  have whole : later = ended.tell told := whole
  change Undisturbed env session later at undisturbed
  clear_value later
  subst whole
  -- An attempt that is not the last one would have to follow a response that asks for it.
  have stops {after : Session} {outcome : Outcome} {delay : Delay}
      (attempted : attemptOnce env settings .token request 1 none
        (session.tell [.span Target.token.kind .pipeline]) = (some outcome, after))
      (chosen : delay? settings 1 request.method outcome (after.isCancelled env) = some delay) :
      False := by
    obtain ⟨rfl, _⟩ := attemptOnce_first attempted
    obtain ⟨allowed, _⟩ := goesOn_of_delay? chosen
    obtain ⟨_, _, listed⟩ := RetrySettings.shouldRetry_eq_true_iff.mp allowed
    have outcome : (env.respond ((session.tell [.span Target.token.kind .pipeline]).sent.map (·.2))
        ((session.tell [.span Target.token.kind .pipeline]).prepare env .token request).1).outcome =
          .ok response := answered
    rw [outcome] at listed
    exact final listed
  refine ⟨response, answered, ?_⟩
  generalize (run env settings .token request session).1 = answer at course
  cases course with
  | cancelled attempted =>
      have cancelled : ended.isCancelled env = true := isCancelled_of_attemptOnce attempted
      have uncancelled : ended.isCancelled env = false := undisturbed.uncancelled
      rw [cancelled] at uncancelled
      cases uncancelled
  | overBudget attempted chosen => exact (stops attempted chosen).elim
  | interrupted attempted chosen => exact (stops attempted chosen).elim
  | again attempted chosen => exact (stops attempted chosen).elim
  | final attempted =>
      obtain ⟨rfl, after⟩ := attemptOnce_first attempted
      let began := session.tell [.span Target.token.kind .pipeline]
      obtain ⟨inner, _, kept⟩ := prepare_keeps env .token request began
      have opened : Follows session began [.span Target.token.kind .pipeline] :=
        ⟨⟨Nat.le_refl _, Nat.le_refl session.elapsed.nanos⟩, rfl, rfl⟩
      have closed : Follows (began.prepare env .token request).2 (ended.tell told)
          ([.counted Target.token.kind .attempt] ++ told) := by
        rw [after]
        exact ⟨⟨Nat.le_refl _, Nat.le_add_right _ _⟩, rfl, List.append_assoc _ _ _⟩
      have same := ((undisturbed.of_same opened (kept.til.trans closed.til) rfl).left
        closed).refresh_eq
      refine ⟨congrArg result answered, ?_, same, ?_⟩
      · rw [after]
        rfl
      · rw [after, prepare_eq]
        exact congrArg Prod.fst same

end Pipeline

end KeyBound
