import KeyBound.Crypto.Sample
import KeyBound.Proofs.Client.Frame
import KeyBound.Proofs.Handshake.Run

/-!
# Rounds of an acquisition

How many exchanges an acquisition makes, and when it gives up. A key is established once, so that an
acquisition that gives up has taken two nonces; the first one can only have expired in between.
-/

set_option autoImplicit false

namespace KeyBound

variable {env : Environment} {first second third : Session}

/-! ## Time -/

namespace Session

/-- A session comes no earlier than another one: its clock was looked at as often at least, and as
much time has passed. -/
structure Until (session later : Session) : Prop where
  looks : session.looks ≤ later.looks
  elapsed : session.elapsed ≤ later.elapsed

theorem Until.refl (session : Session) : session.Until session :=
  ⟨Nat.le_refl _, Nat.le_refl session.elapsed.nanos⟩

theorem Until.trans (before : first.Until second) (after : second.Until third) :
    first.Until third :=
  ⟨Nat.le_trans before.looks after.looks,
    Nat.le_trans (m := second.elapsed.nanos) before.elapsed after.elapsed⟩

def now (env : Environment) (session : Session) : Instant := env.clock session.looks session.elapsed

/-- The clock may have shown an instant between two sessions. -/
def Shows (env : Environment) (session later : Session) (shown : Instant) : Prop :=
  ∃ between : Session, session.Until between ∧ between.Until later ∧ shown = between.now env

theorem Shows.widen {shown : Instant} {inner outer : Session} (shows : Shows env first second shown)
    (before : inner.Until first) (after : second.Until outer) : Shows env inner outer shown := by
  obtain ⟨between, since, til, same⟩ := shows
  exact ⟨between, before.trans since, til.trans after, same⟩

end Session

def Environment.IsSteady (env : Environment) : Prop :=
  ∀ {looks further : Nat} {elapsed later : Delay}, looks ≤ further → elapsed ≤ later →
    env.clock looks elapsed ≤ env.clock further later

theorem Session.Shows.within {session later : Session} {shown : Instant} (steady : env.IsSteady)
    (shows : Shows env session later shown) : session.now env ≤ shown ∧ shown ≤ later.now env := by
  obtain ⟨between, since, til, rfl⟩ := shows
  exact ⟨steady since.looks since.elapsed, steady til.looks til.elapsed⟩

namespace Session

theorem wait_eq (env : Environment) (delay : Delay) (session : Session) :
    ∃ elapsed, session.elapsed ≤ elapsed ∧
      (session.wait env delay).2 = { session with elapsed } := by
  have later : session.elapsed ≤ session.deadline delay := Nat.le_add_right _ _
  unfold wait
  cases env.cancelAt with
  | none => exact ⟨_, later, rfl⟩
  | some moment =>
      dsimp only
      split
      · exact ⟨_, Nat.le_max_left _ _, rfl⟩
      · exact ⟨_, later, rfl⟩

theorem exchange_eq (env : Environment) (request : Request) (session : Session) :
    ∃ elapsed sent, session.elapsed ≤ elapsed ∧
      (session.exchange env request).2 = { session with elapsed, sent } := by
  unfold exchange
  dsimp only
  obtain ⟨elapsed, later, same⟩ := wait_eq env
    (env.respond (session.sent.map (·.2)) request).delay
    { session with sent := session.sent ++ [(session.elapsed, request)] }
  rw [same]
  exact ⟨elapsed, _, later, rfl⟩

/-! ## The handshake across a call -/

/-- A later session that has told some events since, and holds nonces for as long. -/
structure Follows (session later : Session) (told : List Event) : Prop where
  til : session.Until later
  validity : later.handshake.validity = session.handshake.validity
  events : later.events = session.events ++ told

theorem Follows.refl (session : Session) : Follows session session [] :=
  ⟨.refl session, rfl, (List.append_nil _).symm⟩

theorem Follows.trans {told further : List Event} (before : Follows first second told)
    (after : Follows second third further) : Follows first third (told ++ further) := by
  refine ⟨before.til.trans after.til, after.validity.trans before.validity, ?_⟩
  rw [after.events, before.events, List.append_assoc]

/-- Between two sessions the clock has shown that a nonce has expired. -/
def Expires (env : Environment) (nonce : HeldNonce) (session later : Session) : Prop :=
  ∃ shown, Shows env session later shown ∧ nonce.expiresAt ≤ shown

theorem Expires.widen {nonce : HeldNonce} {inner outer : Session}
    (expires : Expires env nonce first second) (before : inner.Until first)
    (after : second.Until outer) : Expires env nonce inner outer := by
  obtain ⟨shown, shows, due⟩ := expires
  exact ⟨shown, shows.widen before after, due⟩

/-- What a call of the token endpoint leaves of the handshake on its way: the key, and the nonce
unless it has expired, which is told then. -/
structure Keeps (env : Environment) (session later : Session) (told : List Event) : Prop extends
    Follows session later told where
  key : later.handshake.key = session.handshake.key
  nonce : later.handshake.nonce = session.handshake.nonce ∨
    ∃ nonce, session.handshake.nonce = some nonce ∧ later.handshake.nonce = none ∧
      .stepLogged .nonceExpired ∈ told ∧ Expires env nonce session later

namespace Keeps

theorem of_handshake {session later : Session} {told : List Event} (til : session.Until later)
    (handshake : later.handshake = session.handshake)
    (events : later.events = session.events ++ told) : Keeps env session later told where
  til := til
  validity := congrArg _ handshake
  events := events
  key := congrArg _ handshake
  nonce := .inl (congrArg _ handshake)

theorem trans {told further : List Event} (before : Keeps env first second told)
    (after : Keeps env second third further) : Keeps env first third (told ++ further) := by
  refine ⟨before.toFollows.trans after.toFollows, after.key.trans before.key, ?_⟩
  rcases before.nonce with same | ⟨nonce, held, gone, expired, expires⟩
  · rcases after.nonce with sameToo | ⟨nonce, held, gone, expired, expires⟩
    · exact .inl (sameToo.trans same)
    · exact .inr ⟨nonce, same ▸ held, gone, List.mem_append_right _ expired,
        expires.widen before.til (.refl third)⟩
  · rcases after.nonce with sameToo | ⟨_, heldAgain, _⟩
    · exact .inr ⟨nonce, held, sameToo.trans gone, List.mem_append_left _ expired,
        expires.widen (.refl first) after.til⟩
    · rw [gone] at heldAgain
      cases heldAgain

end Keeps

theorem prepare_eq (env : Environment) (target : Target) (request : Request) (session : Session) :
    (session.prepare env target request).2 =
      { session with
        looks := session.looks + 1
        draws := session.draws + 1
        handshake := (session.handshake.refresh target (session.now env)).1
        events := session.events ++
          (session.handshake.refresh target (session.now env)).2.flatMap Event.ofStep } := by
  have refreshed := Handshake.prepare_handshake session.handshake (env.draw session.draws) target
    (session.now env) request
  unfold prepare
  dsimp only [look, draw, now] at refreshed ⊢
  rw [← refreshed]
  rfl

theorem prepare_keeps (env : Environment) (target : Target) (request : Request)
    (session : Session) :
    ∃ told, told.all Pipeline.isInner = true ∧
      Keeps env session (session.prepare env target request).2 told := by
  have til : session.Until (session.prepare env target request).2 :=
    ⟨Nat.le_succ _, Nat.le_refl session.elapsed.nanos⟩
  rw [prepare_eq] at til ⊢
  rcases session.handshake.refresh_eq target (session.now env) with
    same | ⟨nonce, _, held, due, same⟩
  · rw [same] at til ⊢
    exact ⟨[], rfl, .of_handshake til rfl rfl⟩
  · rw [same] at til ⊢
    exact ⟨_, rfl, ⟨til, rfl, rfl⟩, rfl, .inr ⟨nonce, held, rfl, List.mem_cons_self,
      session.now env, ⟨session, .refl session, til, rfl⟩, due⟩⟩

end Session

open Session

namespace Pipeline

theorem parts_keeps (env : Environment) (settings : RetrySettings) (target : Target)
    (request : Request) :
    Parts env settings target request fun session later =>
      ∃ told, told.all isInner = true ∧ Keeps env session later told where
  refl session := ⟨[], rfl, .of_handshake (.refl session) rfl (List.append_nil _).symm⟩
  trans := by
    rintro first second third ⟨told, inner, before⟩ ⟨further, innerToo, after⟩
    refine ⟨told ++ further, ?_, before.trans after⟩
    rw [List.all_append, inner, innerToo]
    rfl
  told session events inner :=
    ⟨events, inner, .of_handshake ⟨Nat.le_refl _, Nat.le_refl session.elapsed.nanos⟩ rfl rfl⟩
  waited session delay := by
    obtain ⟨elapsed, later, same⟩ := wait_eq env delay session
    rw [same]
    exact ⟨[], rfl, .of_handshake ⟨Nat.le_refl _, later⟩ rfl (List.append_nil _).symm⟩
  attempted session attempt retryFor := by
    unfold attemptOnce
    split
    · exact ⟨[], rfl, .of_handshake (.refl session) rfl (List.append_nil _).symm⟩
    · dsimp only
      obtain ⟨told, inner, prepared⟩ := prepare_keeps env target
        (tagged settings attempt retryFor request) session
      generalize session.prepare env target (tagged settings attempt retryFor request) =
        preparation at prepared
      obtain ⟨outgoing, ready⟩ := preparation
      obtain ⟨elapsed, sent, later, same⟩ := exchange_eq env outgoing
        (ready.tell [.counted target.kind .attempt])
      rw [same]
      refine ⟨told ++ [.counted target.kind .attempt], ?_,
        prepared.trans (.of_handshake ⟨Nat.le_refl _, later⟩ rfl rfl)⟩
      rw [List.all_append, inner]
      rfl

/-- A call that ends without a response was cancelled, or could not be transported. -/
theorem Course.error {settings : RetrySettings} {target : Target} {request : Request}
    {began : Delay} {attempt : Nat} {retryFor : Option HeaderValue} {session final : Session}
    {answer : Except Error Response} {error : Error}
    (course : Course env settings target request began attempt retryFor session answer final)
    (failed : answer = .error error) :
    error = .cancelled ∨ ∃ failure, error = .transport failure := by
  induction course with
  | cancelled | interrupted =>
      cases failed
      exact .inl rfl
  | @final _ _ _ _ outcome | @overBudget _ _ _ _ outcome =>
      cases outcome with
      | ok response => cases failed
      | error failure =>
          cases failed
          exact .inr ⟨failure, rfl⟩
  | again _ _ _ _ _ ih => exact ih failed

theorem run_error (env : Environment) (settings : RetrySettings) (target : Target)
    (request : Request) (session : Session) {error : Error}
    (failed : (run env settings target request session).1 = .error error) :
    error = .cancelled ∨ ∃ failure, error = .transport failure :=
  (attempts_course env settings target request session.elapsed (Nat.le_refl settings.maxRetries)
    none (session.tell [.span target.kind .pipeline])).error failed

end Pipeline

/-! ## The handshake across an exchange -/

namespace Session

/-- Between two sessions a nonce was accepted, to be held from then on. -/
def Accepts (env : Environment) (nonce : HeldNonce) (session later : Session) : Prop :=
  ∃ shown, Shows env session later shown ∧
    nonce.expiresAt.nanos = shown.nanos + session.handshake.validity.nanos

/-- How the handshake meets a demand: there is a key for the first time, or a nonce is accepted. If
one was held before, it has expired first. -/
inductive Advance (env : Environment) (session later : Session) (told : List Event) : Prop where
  | keyEstablished :
      session.handshake.key = none → later.handshake.key ≠ none → Advance env session later told
  | nonceAccepted {nonce : HeldNonce} :
      later.handshake.key ≠ none → later.handshake.nonce = some nonce →
      Accepts env nonce session later → .stepLogged .nonceAccepted ∈ told →
      (∀ old, session.handshake.nonce = some old →
        [.stepLogged .nonceExpired, .stepLogged .nonceAccepted].Sublist told ∧
          Expires env old session later) →
      Advance env session later told

/-- Once there is a key, it is a nonce that advances the handshake, and one that was held before has
expired. -/
theorem Advance.of_key {told : List Event} (advance : Advance env first second told)
    (present : first.handshake.key ≠ none) :
    ∃ nonce, second.handshake.nonce = some nonce ∧ Accepts env nonce first second ∧
      .stepLogged .nonceAccepted ∈ told ∧
      ∀ old, first.handshake.nonce = some old →
        [.stepLogged .nonceExpired, .stepLogged .nonceAccepted].Sublist told ∧
          Expires env old first second := by
  cases advance with
  | keyEstablished absent _ => exact absurd absent present
  | nonceAccepted _ held accepts accepted renews => exact ⟨_, held, accepts, accepted, renews⟩

theorem Advance.key {told : List Event} (advance : Advance env first second told) :
    second.handshake.key ≠ none := by
  cases advance with
  | keyEstablished _ present => exact present
  | nonceAccepted present => exact present

/-- A call before a demand is met may let a nonce expire, and does nothing else to the handshake. -/
theorem Advance.after {told further : List Event} (kept : Keeps env first second told)
    (advance : Advance env second third further) (til : second.Until third) :
    Advance env first third (told ++ further) := by
  cases advance with
  | keyEstablished none present => exact .keyEstablished (kept.key ▸ none) present
  | @nonceAccepted nonce present held accepts accepted renews =>
      obtain ⟨shown, shows, expiry⟩ := accepts
      refine .nonceAccepted present held
        ⟨shown, shows.widen kept.til (.refl third), kept.validity ▸ expiry⟩
        (List.mem_append_right _ accepted) ?_
      intro old heldBefore
      -- The old nonce is given up before the demand or, if not, on the way to it.
      rcases kept.nonce with same | ⟨given, heldGiven, _, expired, expires⟩
      · obtain ⟨sublist, expires⟩ := renews old (same.trans heldBefore)
        exact ⟨sublist.trans (List.sublist_append_right _ _), expires.widen kept.til (.refl third)⟩
      · obtain rfl : given = old := Option.some.inj (heldGiven.symm.trans heldBefore)
        have order := (List.singleton_sublist.mpr expired).append
          (List.singleton_sublist.mpr accepted)
        exact ⟨order, expires.widen (.refl first) til⟩

end Session

/-- The result of a response, by how the handshake takes it. -/
def Handshake.Verdict.result : Handshake.Verdict → Except Error (Option HandshakeStep)
  | .pass => .ok none
  | .advance step => .ok (some step)
  | .violation broken => .error (.handshake broken)
  | .beyondCalendar => .error .beyondCalendar

theorem Event.flatMap_ofStep_isInner (steps : List HandshakeStep) :
    (steps.flatMap ofStep).all Pipeline.isInner = true := by
  induction steps with
  | nil => rfl
  | cons step steps ih => simp [ofStep, Pipeline.isInner, ih]

namespace Session

theorem observe_takes (env : Environment) (response : Response) (session : Session) :
    ∃ verdict handshake steps,
      session.handshake.Takes (env.draw session.draws).key (session.now env) response verdict
        handshake steps ∧
      session.observe env response = (verdict.result,
        { session with
          looks := session.looks + 1
          draws := session.draws + 1
          handshake
          events := session.events ++ steps.flatMap Event.ofStep }) := by
  refine ⟨_, _, _, session.handshake.observe_takes (env.draw session.draws).key (session.now env)
    response, ?_⟩
  unfold observe
  dsimp only [look, draw, now]
  split <;> (rename_i verdict; rw [verdict]; rfl)

/-- A response that lets the handshake go on advances it; no response is a defect of its token
yet. -/
theorem observe_follows (env : Environment) (response : Response) (session : Session) :
    ∃ told, told.all Pipeline.isInner = true ∧
      Follows session (session.observe env response).2 told ∧
      (∀ step, (session.observe env response).1 = .ok (some step) →
        Advance env session (session.observe env response).2 told) ∧
      ∀ defect, (session.observe env response).1 ≠ .error (.token defect) := by
  obtain ⟨verdict, handshake, steps, rule, observed⟩ := observe_takes env response session
  rw [observed]
  have til : session.Until
      { session with
        looks := session.looks + 1
        draws := session.draws + 1
        handshake
        events := session.events ++ steps.flatMap Event.ofStep } :=
    ⟨Nat.le_succ _, Nat.le_refl session.elapsed.nanos⟩
  have validity : handshake.validity = session.handshake.validity := by
    cases rule <;> rfl
  refine ⟨_, Event.flatMap_ofStep_isInner steps, ⟨til, validity, rfl⟩, ?_, ?_⟩
  · intro step advanced
    cases rule with
    | keyEstablished _ _ absent => exact .keyEstablished absent nofun
    | nonceAccepted _ _ absent _ expiry =>
        refine .nonceAccepted nofun rfl
          ⟨session.now env, ⟨session, .refl session, til, rfl⟩, Instant.add?_nanos expiry⟩
          List.mem_cons_self ?_
        intro old held
        rw [absent] at held
        cases held
    | _ => cases advanced
  · intro defect failed
    cases verdict <;> cases failed

end Session

/-! ## Exchanges -/

namespace Pipeline

/-- The events of a call are its span and what it tells on its way. -/
theorem count_span_of_isInner {told : List Event} (inner : told.all isInner = true)
    (kind : RequestKind) (stage : Stage) : told.count (.span kind stage) = 0 := by
  refine List.count_eq_zero.mpr fun member => ?_
  cases List.all_eq_true.mp inner _ member

/-- A call of the token endpoint is told as one, and advances the handshake if it ends with a
demand that is met. -/
theorem runToken_follows (env : Environment) (settings : RetrySettings) (request : Request)
    (session : Session) :
    ∃ told, told.count (.span .token .pipeline) = 1 ∧
      Follows session (runToken env settings request session).2 told ∧
      (∀ step, (runToken env settings request session).1 = .ok (.advanced step) →
        Advance env session (runToken env settings request session).2 told) ∧
      ∀ defect, (runToken env settings request session).1 ≠ .error (.token defect) := by
  have began : Keeps env session (session.tell [.span .token .pipeline])
      [.span .token .pipeline] :=
    .of_handshake ⟨Nat.le_refl _, Nat.le_refl session.elapsed.nanos⟩ rfl rfl
  obtain ⟨told, inner, kept⟩ := (parts_keeps env settings .token request).of_run session
  have whole := began.trans kept
  have once : ([Event.span .token .pipeline] ++ told).count (.span .token .pipeline) = 1 := by
    rw [List.count_append, count_span_of_isInner inner]
    rfl
  rw [runToken_eq]
  cases answered : (run env settings .token request session).1 with
  | error error =>
      refine ⟨_, once, whole.toFollows, nofun, ?_⟩
      intro defect failed
      cases failed
      rcases run_error env settings .token request session answered with same | ⟨_, same⟩ <;>
        cases same
  | ok response =>
      obtain ⟨further, innerToo, follows, advance, sound⟩ :=
        observe_follows env response (run env settings .token request session).2
      refine ⟨_ ++ further, ?_, whole.toFollows.trans follows, ?_, ?_⟩
      · rw [List.count_append, once, count_span_of_isInner innerToo]
      · intro step advanced
        cases observed : ((run env settings .token request session).2.observe env response).1 with
        | error error => simp [observed, Except.map] at advanced
        | ok taken =>
            cases taken with
            | none => simp [observed, Except.map, TokenExchange.ofStep] at advanced
            | some taken => exact (advance taken observed).after whole follows.til
      · intro defect failed
        cases observed : ((run env settings .token request session).2.observe env response).1 with
        | error error =>
            simp only [observed, Except.map, Except.error.injEq] at failed
            exact sound defect (failed ▸ observed)
        | ok taken => simp [observed, Except.map] at failed

end Pipeline

namespace TokenResponse

variable {response : Response} {now : Instant} {rounds : Nat}

theorem refusal_ne_unsettled : refusal response ≠ .unsettled rounds := by
  unfold refusal
  split <;> nofun

theorem Grant.token_ne_unsettled {grant : Grant} :
    grant.token now ≠ .error (.unsettled rounds) := by
  unfold Grant.token
  split
  · nofun
  · split
    · nofun
    · split <;> nofun

/-- A response may yield no token for many reasons; a handshake without end is none of them. -/
theorem token_ne_unsettled {explain : Bytes → Json.Report} :
    token explain response now ≠ .error (.unsettled rounds) := by
  unfold token
  split
  · intro failed
    exact refusal_ne_unsettled (Except.error.inj failed)
  · split
    · nofun
    · split
      · nofun
      · exact Grant.token_ne_unsettled

end TokenResponse

namespace Acquisition

theorem request_ne_token {config : ClientConfig} {now : Instant} {draw : Draw}
    {defect : TokenDefect} : request config now draw ≠ .error (.token defect) := by
  intro failed
  have asks := request_asks config now draw
  rw [failed] at asks
  cases asks

/-- An exchange is one call of the token endpoint at most. It goes on only if the handshake was
advanced. -/
theorem exchange_follows (env : Environment) (config : ClientConfig) (session : Session) :
    ∃ told, told.count (.span .token .pipeline) ≤ 1 ∧
      Follows session (exchange env config session).2 told ∧
      ((exchange env config session).1 = .ok none →
        Advance env session (exchange env config session).2 told) ∧
      ∀ rounds, (exchange env config session).1 ≠ .error (.token (.unsettled rounds)) := by
  have looked : Keeps env session ((session.look env).2.draw env).2 [] :=
    .of_handshake ⟨Nat.le_succ _, Nat.le_refl session.elapsed.nanos⟩ rfl
      (List.append_nil _).symm
  unfold exchange
  dsimp only
  cases made : request config (session.look env).1 ((session.look env).2.draw env).1 with
  | error error =>
      refine ⟨[], Nat.zero_le _, looked.toFollows, nofun, ?_⟩
      intro rounds failed
      cases failed
      exact request_ne_token made
  | ok request =>
      obtain ⟨told, once, follows, advance, sound⟩ := Pipeline.runToken_follows env config.retry
        request ((session.look env).2.draw env).2
      dsimp only
      generalize Pipeline.runToken env config.retry request ((session.look env).2.draw env).2 =
        ran at follows advance sound
      obtain ⟨answer, later⟩ := ran
      have whole := looked.toFollows.trans follows
      rw [List.nil_append] at whole
      cases answer with
      | error error =>
          refine ⟨told, Nat.le_of_eq once, whole, nofun, ?_⟩
          intro rounds failed
          cases failed
          exact sound _ rfl
      | ok ended =>
          cases ended with
          | advanced step =>
              refine ⟨told, Nat.le_of_eq once, whole, fun _ => ?_, nofun⟩
              exact (advance step rfl).after looked follows.til
          | completed response =>
              have seen : Follows later (later.look env).2 [] :=
                ⟨⟨Nat.le_succ _, Nat.le_refl later.elapsed.nanos⟩, rfl, (List.append_nil _).symm⟩
              have ended := whole.trans seen
              rw [List.append_nil] at ended
              dsimp only
              split
              · rename_i defect unread
                refine ⟨told, Nat.le_of_eq once, ended, nofun, ?_⟩
                intro rounds failed
                cases failed
                exact TokenResponse.token_ne_unsettled unread
              · exact ⟨told, Nat.le_of_eq once, ended, nofun, nofun⟩

/-! ## Rounds -/

/-- Some number of exchanges one after the other, each of which advances the handshake. -/
inductive Advances (env : Environment) : Nat → Session → Session → List Event → Prop where
  | none (session : Session) : Advances env 0 session session []
  | more {rounds : Nat} {session next later : Session} {told further : List Event} :
      Follows session next told → Advance env session next told →
      Advances env rounds next later further →
      Advances env (rounds + 1) session later (told ++ further)

/-- There are no more exchanges than demands that may be met and one, and each of them advances the
handshake if the acquisition gives up. -/
theorem exchanges_follows (env : Environment) (config : ClientConfig) (roundsLeft : Nat)
    (session : Session) :
    ∃ told, told.count (.span .token .pipeline) ≤ roundsLeft + 1 ∧
      Follows session (exchanges env config roundsLeft session).2 told ∧
      ∀ rounds, (exchanges env config roundsLeft session).1 =
          .error (.token (.unsettled rounds)) →
        rounds = maxRounds + 1 ∧ Advances env (roundsLeft + 1) session
          (exchanges env config roundsLeft session).2 told := by
  -- On the demands that may still be met: a round more is an advance before those of the rest.
  induction roundsLeft generalizing session with
  | zero =>
      obtain ⟨told, once, follows, advance, sound⟩ := exchange_follows env config session
      unfold exchanges
      generalize exchange env config session = exchanged at follows advance sound
      obtain ⟨answer, later⟩ := exchanged
      rcases answer with error | (_ | token)
      · refine ⟨told, once, follows, fun rounds failed => ?_⟩
        cases failed
        exact absurd rfl (sound rounds)
      · refine ⟨told, once, follows, fun rounds failed => ?_⟩
        cases failed
        have whole := Advances.more follows (advance rfl) (.none later)
        rw [List.append_nil] at whole
        exact ⟨rfl, whole⟩
      · refine ⟨told, once, follows, fun rounds failed => ?_⟩
        cases failed
  | succ roundsLeft ih =>
      obtain ⟨told, once, follows, advance, sound⟩ := exchange_follows env config session
      unfold exchanges
      generalize exchange env config session = exchanged at follows advance sound
      obtain ⟨answer, next⟩ := exchanged
      rcases answer with error | (_ | token)
      · refine ⟨told, Nat.le_trans once (Nat.le_add_left _ _), follows, fun rounds failed => ?_⟩
        cases failed
        exact absurd rfl (sound rounds)
      · obtain ⟨further, bounded, rest, unsettled⟩ := ih next
        refine ⟨told ++ further, ?_, follows.trans rest, fun rounds failed => ?_⟩
        · rw [List.count_append]
          omega
        · obtain ⟨number, advances⟩ := unsettled rounds failed
          exact ⟨number, .more follows (advance rfl) advances⟩
      · refine ⟨told, Nat.le_trans once (Nat.le_add_left _ _), follows, fun rounds failed => ?_⟩
        cases failed

/-- The second of three advances holds a nonce, which has expired when the third one holds another.
The key of the first one is there for both. -/
theorem Advances.renews {session later : Session} {told : List Event}
    (advances : Advances env 3 session later told) :
    [.stepLogged .nonceAccepted, .stepLogged .nonceExpired, .stepLogged .nonceAccepted].Sublist
        told ∧
      ∃ accepted expired, Shows env session later accepted ∧ Shows env session later expired ∧
        accepted.nanos + session.handshake.validity.nanos ≤ expired.nanos := by
  cases advances with
  | @more _ _ keyed _ told _ toKeyed first advances =>
  cases advances with
  | @more _ _ held _ further _ toHeld second advances =>
  cases advances with
  | @more _ _ last _ rest _ toLast third advances =>
  cases advances with
  | none =>
  obtain ⟨nonce, holds, ⟨shown, shows, expiry⟩, accepted, _⟩ := second.of_key first.key
  obtain ⟨_, _, _, _, renews⟩ := third.of_key second.key
  obtain ⟨order, seen, showsSeen, due⟩ := renews nonce holds
  constructor
  · rw [List.append_nil]
    exact ((List.singleton_sublist.mpr accepted).append order).trans
      (List.sublist_append_right told _)
  · refine ⟨shown, seen, shows.widen toKeyed.til toLast.til,
      showsSeen.widen (toKeyed.til.trans toHeld.til) (.refl later), ?_⟩
    rw [← toKeyed.validity, ← expiry]
    exact due

/-- An acquisition makes three exchanges at most. If it gives up, it has accepted a nonce, given it
up because it had expired, and accepted another one, so that it has taken as long as a nonce is held
at least. -/
theorem fetch_rounds (env : Environment) (config : ClientConfig) (session : Session) :
    let result := (fetch env config session).1
    let later := (fetch env config session).2
    ∃ told, later.events = session.events ++ told ∧
      told.count (.span .token .pipeline) ≤ 3 ∧
      (∀ rounds, result = .error (.token (.unsettled rounds)) →
        rounds = 3 ∧
          [.stepLogged .nonceAccepted, .stepLogged .nonceExpired,
            .stepLogged .nonceAccepted].Sublist told) ∧
      (env.IsSteady →
        (later.now env).nanos - (session.now env).nanos < session.handshake.validity.nanos →
        ∀ rounds, result ≠ .error (.token (.unsettled rounds))) := by
  intro result later
  obtain ⟨told, bounded, follows, unsettled⟩ := exchanges_follows env config maxRounds
    (session.tell [.span .token .clientCredentials])
  refine ⟨.span .token .clientCredentials :: told, ?_, ?_, ?_, ?_⟩
  · have events : later.events = _ ++ told := follows.events
    rw [events]
    exact List.append_assoc _ _ _
  · rw [List.count_cons_of_ne (by decide)]
    exact bounded
  · intro rounds failed
    obtain ⟨number, advances⟩ := unsettled rounds failed
    exact ⟨number, advances.renews.1.trans (List.sublist_cons_self _ _)⟩
  · intro steady short rounds failed
    obtain ⟨_, accepted, expired, showsAccepted, showsExpired, lasted⟩ :=
      (unsettled rounds failed).2.renews
    have since : (session.now env).nanos ≤ accepted.nanos := (showsAccepted.within steady).1
    have til : expired.nanos ≤ (later.now env).nanos := (showsExpired.within steady).2
    have held : accepted.nanos + session.handshake.validity.nanos ≤ expired.nanos := lasted
    omega

/-! ## A server that always demands -/

private def demandedEndpoint : Url :=
  ⟨"https".toList, [], [], some (.domain "acme.okta.com".toList), none,
    .segments ["token".toList], none, none⟩

private def hastyConfig : ClientConfig where
  orgUrl := demandedEndpoint
  tokenEndpoint := demandedEndpoint
  clientId := "courier"
  key := .sampleCurve
  keyId := none
  scopes := ⟨["okta.users.read"]⟩
  retry := .standard
  nonceValidity := ⟨1⟩
  refreshWindow := ClientConfig.standardRefreshWindow

private def demanding : Script where
  replies := ["a", "b", "c"].map fun nonce =>
    ⟨.zero, .ok ⟨400, [("dpop-nonce", .ofAscii nonce)],
      utf8 "\x7b\"error\":\"use_dpop_nonce\"\x7d"⟩⟩
  tokenReplies := none

/-- A nonce that is held for a nanosecond does not last until the next request. -/
example :
    (fetch (.ofScript demanding) hastyConfig (.start hastyConfig.nonceValidity)).1 =
      .error (.token (.unsettled 3)) := by
  decide +kernel

end Acquisition

end KeyBound
