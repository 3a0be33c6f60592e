import KeyBound.Proofs.Client.Conformance
import KeyBound.Proofs.Client.Operations

/-!
# Clients and the end of the calendar

A client computes instants that lie ahead: when its assertions expire, when a nonce is to be given
up, and up to when a token has to last. None of them lies beyond the calendar as long as the clock
shows the years that follow 1970, provided that the two spans of the configuration lead from no such
year to the end of the calendar. Nothing but these spans decides, whatever the server does.
-/

set_option autoImplicit false

namespace KeyBound

/-! ## Years and spans -/

/-- The second after the last one of the year 9000. -/
def yearsEnd : Int := 221876928000

def Instant.InYears (t : Instant) : Prop := 0 ≤ t.nanos ∧ t.nanos < yearsEnd * nanosPerSecond

/-- The clock shows years from 1970 to 9000 whenever it is looked at. -/
def Environment.KeepsYears (env : Environment) : Prop :=
  ∀ looks elapsed, (env.clock looks elapsed).InYears

/-- A span that leads from these years no further than to the end of the calendar. -/
def Span.Fits (span : Span) : Prop := ∀ t : Instant, t.InYears → t.add? span ≠ none

/-- The first and the last instant of the years decide whether a span fits. -/
theorem Span.fits_iff {span : Span} :
    span.Fits ↔ inCalendar span.nanos ∧
      inCalendar (yearsEnd * nanosPerSecond - 1 + span.nanos) := by
  constructor
  · intro fits
    have ends (nanos : Int) (valid : inCalendar nanos)
        (inside : 0 ≤ nanos ∧ nanos < yearsEnd * nanosPerSecond) :
        inCalendar (nanos + span.nanos) :=
      Decidable.of_not_not fun outside =>
        fits ⟨nanos, valid⟩ inside (Instant.add?_eq_none_iff.mpr outside)
    exact ⟨by simpa using ends 0 (by decide) (by decide),
      ends (yearsEnd * nanosPerSecond - 1) (by decide) (by decide)⟩
  · rintro ⟨⟨first, _⟩, ⟨_, last⟩⟩ t ⟨low, high⟩ beyond
    refine Instant.add?_eq_none_iff.mp beyond ⟨?_, ?_⟩ <;> omega

instance (span : Span) : Decidable span.Fits := decidable_of_iff _ Span.fits_iff.symm

/-- An assertion of these years expires within the calendar. -/
theorem lifetime_fits : Assertion.lifetime.Fits := by decide

def ClientConfig.HasRoom (config : ClientConfig) : Prop :=
  config.nonceValidity.Fits ∧ config.refreshWindow.clamped.Fits

instance (config : ClientConfig) : Decidable config.HasRoom :=
  inferInstanceAs (Decidable (config.nonceValidity.Fits ∧ config.refreshWindow.clamped.Fits))

/-- What a client holds unless it is told otherwise fits. -/
example : ClientConfig.sample.HasRoom := by decide

/-! ## Steps that stay within the calendar -/

/-- A step of a client does not end beyond the calendar, and nonces are held for as long as the
configuration says. -/
structure Stays {β : Type} (config : ClientConfig) (step : Except Error β × Session) : Prop where
  inside : ∀ error, step.1 = .error error → error ≠ .beyondCalendar
  validity : step.2.handshake.validity = config.nonceValidity

namespace Stays

variable {β γ : Type} {config : ClientConfig} {session : Session} {error : Error}

theorem ok (validity : session.handshake.validity = config.nonceValidity) (value : β) :
    Stays config (.ok value, session) := ⟨nofun, validity⟩

theorem failed (inside : error ≠ .beyondCalendar)
    (validity : session.handshake.validity = config.nonceValidity) :
    Stays config ((.error error : Except Error β), session) :=
  ⟨fun _ same => Except.error.inj same ▸ inside, validity⟩

theorem as (stays : Stays config ((.error error : Except Error β), session)) :
    Stays config ((.error error : Except Error γ), session) :=
  .failed (stays.inside error rfl) stays.validity

theorem map {step : Except Error β × Session} (stays : Stays config step) (make : β → γ) :
    Stays config (step.1.map make, step.2) := by
  obtain ⟨result, session⟩ := step
  cases result with
  | error error => exact stays.as
  | ok value => exact .ok stays.validity _

end Stays

section

variable {env : Environment} {config : ClientConfig} {session : Session}

namespace Pipeline

theorem run_stays (env : Environment) (settings : RetrySettings) (target : Target)
    (request : Request) (validity : session.handshake.validity = config.nonceValidity) :
    Stays config (run env settings target request session) where
  inside error failed := by
    rcases run_error env settings target request session failed with rfl | ⟨_, rfl⟩ <;> nofun
  validity := by
    obtain ⟨_, _, kept⟩ := (parts_keeps env settings target request).of_run session
    exact kept.validity.trans validity

end Pipeline

namespace Acquisition

theorem observe_stays (room : config.HasRoom) (years : env.KeepsYears) (response : Response)
    (validity : session.handshake.validity = config.nonceValidity) :
    Stays config (session.observe env response) := by
  obtain ⟨_, _, follows, _⟩ := Session.observe_follows env response session
  refine ⟨?_, follows.validity.trans validity⟩
  obtain ⟨verdict, handshake, steps, rule, observed⟩ := Session.observe_takes env response session
  rw [observed]
  rintro _ failed rfl
  cases rule with
  | beyondCalendar _ _ _ _ beyond =>
      rw [validity] at beyond
      exact room.1 _ (years _ _) beyond
  | _ => cases failed

theorem request_inside {now : Instant} {draw : Draw} {error : Error} (years : now.InYears)
    (failed : request config now draw = .error error) : error ≠ .beyondCalendar := by
  have asks := request_asks config now draw
  rw [failed] at asks
  cases asks with
  | beyond later => exact absurd later (lifetime_fits now years)
  | unsignable => nofun

theorem exchange_stays (room : config.HasRoom) (years : env.KeepsYears)
    (validity : session.handshake.validity = config.nonceValidity) :
    Stays config (exchange env config session) := by
  cases requested : request config (session.now env) (env.draw session.draws) with
  | error error =>
      have inside := request_inside (years _ _) requested
      have requested : request config (session.look env).1 ((session.look env).2.draw env).1 =
          .error error := requested
      unfold exchange
      simp only [requested]
      exact .failed inside validity
  | ok made =>
      rw [exchange_eq requested]
      have ran : Stays config (Pipeline.run env config.retry .token made (ready env session)) :=
        Pipeline.run_stays env config.retry .token made validity
      unfold conclude
      split
      · rename_i answered
        rw [answered] at ran
        exact ran.as
      · rename_i response after answered
        rw [answered] at ran
        have observed := observe_stays room years response ran.validity
        split <;> (rename_i taken; rw [taken] at observed)
        · exact observed.as
        · exact .ok observed.validity none
        · split
          · exact .failed nofun observed.validity
          · exact ⟨nofun, observed.validity⟩

theorem exchanges_stays (room : config.HasRoom) (years : env.KeepsYears) (roundsLeft : Nat)
    (validity : session.handshake.validity = config.nonceValidity) :
    Stays config (exchanges env config roundsLeft session) := by
  induction roundsLeft generalizing session with
  | zero =>
      have first := exchange_stays room years validity
      unfold exchanges
      split <;> (rename_i exchanged; rw [exchanged] at first)
      · exact first.as
      · exact .ok first.validity _
      · exact .failed nofun first.validity
  | succ roundsLeft ih =>
      have first := exchange_stays room years validity
      unfold exchanges
      split <;> (rename_i exchanged; rw [exchanged] at first)
      · exact first.as
      · exact .ok first.validity _
      · exact ih first.validity

theorem fetch_stays (room : config.HasRoom) (years : env.KeepsYears)
    (validity : session.handshake.validity = config.nonceValidity) :
    Stays config (fetch env config session) :=
  exchanges_stays room years maxRounds validity

theorem fresh_stays (room : config.HasRoom) (years : env.KeepsYears)
    (validity : session.handshake.validity = config.nonceValidity) :
    Stays config (fresh env config session) := by
  have room := room.2 (session.now env) (years _ _)
  unfold fresh
  dsimp only
  split
  · exact ⟨nofun, validity⟩
  · split
    · rename_i token _ unknown
      unfold AccessToken.needsRenewal? AccessToken.expiresWithin? at unknown
      split at unknown
      · cases unknown
      · exact absurd (Option.map_eq_none_iff.mp unknown) room
    · exact ⟨nofun, validity⟩
    · exact ⟨nofun, validity⟩

theorem accessToken_stays (room : config.HasRoom) (years : env.KeepsYears)
    (validity : session.handshake.validity = config.nonceValidity) :
    Stays config (accessToken env config session) := by
  have first := fresh_stays room years validity
  unfold accessToken
  split <;> (rename_i looked; rw [looked] at first)
  · exact first.as
  · exact .ok first.validity _
  · have second := fresh_stays room years first.validity
    split <;> (rename_i lookedAgain; rw [lookedAgain] at second)
    · exact second.as
    · exact .ok second.validity _
    · have fetched := fetch_stays room years second.validity
      unfold renew
      split <;> (rename_i ended; rw [ended] at fetched)
      · exact fetched
      · exact ⟨nofun, fetched.validity⟩

end Acquisition

namespace Api

variable {α : Type}

theorem attempt_stays (room : config.HasRoom) (years : env.KeepsYears) (request : Request)
    (validity : session.handshake.validity = config.nonceValidity) :
    Stays config (attempt env config request session) := by
  have access := Acquisition.accessToken_stays room years validity
  unfold attempt
  split <;> (rename_i taken; rw [taken] at access)
  · exact access.as
  · split
    · exact .failed nofun access.validity
    · exact Pipeline.run_stays env config.retry .resource _ access.validity

theorem accepted_stays (response : Response)
    (validity : session.handshake.validity = config.nonceValidity) :
    Stays config (accepted response, session) := by
  unfold accepted
  split
  · exact .ok validity _
  · exact .failed nofun validity

theorem send_stays (room : config.HasRoom) (years : env.KeepsYears) (request : Request)
    (validity : session.handshake.validity = config.nonceValidity) :
    Stays config (send env config request session) := by
  have first := attempt_stays room years request validity
  unfold send
  split <;> (rename_i attempted; rw [attempted] at first)
  · exact first
  · rename_i later
    split
    · have second : Stays config (attempt env config request later.invalidate) :=
        attempt_stays room years request first.validity
      split <;> (rename_i again; rw [again] at second)
      · exact second
      · exact accepted_stays _ second.validity
    · exact accepted_stays _ first.validity

theorem fetch_stays (room : config.HasRoom) (years : env.KeepsYears) (decoder : Json.Decoder α)
    (url : Url) (validity : session.handshake.validity = config.nonceValidity) :
    Stays config (fetch decoder env config url session) := by
  have sent := send_stays room years (jsonRequest url) validity
  unfold fetch
  split <;> (rename_i answered; rw [answered] at sent)
  · exact sent.as
  · unfold decoded
    split <;> (rename_i read; split at read <;> cases read)
    · exact .ok sent.validity _
    · exact .failed nofun sent.validity

theorem resolve_inside {reference : String} {error : Error}
    (failed : config.resolve reference = .error error) : error ≠ .beyondCalendar := by
  unfold ClientConfig.resolve at failed
  split at failed <;> cases failed
  nofun

theorem getJson_stays (room : config.HasRoom) (years : env.KeepsYears) (decoder : Json.Decoder α)
    (path : String) (validity : session.handshake.validity = config.nonceValidity) :
    Stays config (getJson decoder env config path session) := by
  unfold getJson
  split
  · rename_i refused
    exact .failed (resolve_inside refused) validity
  · exact (fetch_stays room years decoder _ validity).map _

theorem pages_stays (room : config.HasRoom) (years : env.KeepsYears) (decoder : Json.Decoder α)
    (first : Url) (target : Option String)
    (validity : session.handshake.validity = config.nonceValidity) :
    Stays config (pages decoder env config first session target) := by
  unfold pages
  split
  · rename_i refused
    refine .failed ?_ validity
    cases target with
    | none => cases refused
    | some link =>
        rw [Option.elim_some] at refused
        exact resolve_inside refused
  · exact (fetch_stays room years (Json.decodeList decoder) _ validity).map _

end Api

/-! ## Calls that stay within the calendar -/

namespace Operation

open Acquisition

variable {α : Type}

/-- A cursor fails on its own only because of a link. -/
theorem turn_inside {cursor after : Cursor α} {error : Error}
    (failed : cursor.turn = .failed error after) : error ≠ .beyondCalendar := by
  unfold Cursor.turn at failed
  split at failed
  · cases failed
  · dsimp only at failed
    split at failed <;> cases failed
    nofun

theorem nextOf_stays (room : config.HasRoom) (years : env.KeepsYears) (asked : OpenCursor α)
    (fuel : Nat) (validity : session.handshake.validity = config.nonceValidity) :
    (nextOf env config asked fuel session).1 ≠ some (.error .beyondCalendar) ∧
      (nextOf env config asked fuel session).2.fetcher.handshake.validity =
        config.nonceValidity := by
  -- Every turn of the call leaves a traversal with the same validity of nonces, on less fuel.
  suffices turns : ∀ t : Traversal Session α, t.fetcher.handshake.validity = config.nonceValidity →
      (t.call (Api.pages asked.decoder env config asked.first) fuel).1 ≠
          some (.error .beyondCalendar) ∧
        (t.call (Api.pages asked.decoder env config asked.first) fuel).2.fetcher.handshake.validity
          = config.nonceValidity from
    turns ⟨asked.cursor, session, []⟩ validity
  induction fuel with
  | zero => exact fun t validity => ⟨(by intro same; cases same), validity⟩
  | succ fuel ih =>
      intro t validity
      rw [Traversal.call, Traversal.turn]
      cases turned : t.cursor.turn with
      | item value cursor => exact ⟨(by intro same; cases same), validity⟩
      | finished cursor => exact ⟨(by intro same; cases same), validity⟩
      | failed error cursor =>
          refine ⟨fun same => ?_, validity⟩
          cases same
          exact turn_inside turned rfl
      | fetch target waiting =>
          have fetched := Api.pages_stays room years asked.decoder asked.first target validity
          cases answered : Api.pages asked.decoder env config asked.first t.fetcher target with
          | mk outcome later =>
              rw [answered] at fetched
              cases outcome with
              | ok page =>
                  simp only [answered, Traversal.settle]
                  exact ih _ fetched.validity
              | error error =>
                  simp only [answered, Traversal.settle]
                  refine ⟨?_, fetched.validity⟩
                  rintro same
                  cases same
                  exact fetched.inside _ rfl rfl

/-- An answer that is an error only where a step ended with it. -/
theorem answer_inside {β : Type} {step : Except Error β × Session} (stays : Stays config step)
    {make : Except Error β → Answer α}
    (shows : ∀ result error, (make result).error? = some error → result = .error error) :
    (make step.1).error? ≠ some .beyondCalendar :=
  fun same => stays.inside _ (shows _ _ same) rfl

theorem tokens_stays (room : config.HasRoom) (years : env.KeepsYears) (call : TokenCall)
    (validity : session.handshake.validity = config.nonceValidity) :
    (ofTokens (call.perform env config session).1 : Answer α).error? ≠ some .beyondCalendar ∧
      (call.perform env config session).2.handshake.validity = config.nonceValidity := by
  have shows : ∀ (result : Except Error AccessToken) (error : Error),
      (ofTokens (some result) : Answer α).error? = some error → result = .error error := by
    rintro (failure | token) error same <;> cases same
    rfl
  cases call with
  | access cancelAt =>
      have yearsToo : Environment.KeepsYears { env with cancelAt } := years
      have stays := Acquisition.accessToken_stays room yearsToo validity
      exact ⟨answer_inside stays shows, stays.validity⟩
  | fetch cancelAt =>
      have yearsToo : Environment.KeepsYears { env with cancelAt } := years
      have stays := Acquisition.fetch_stays room yearsToo validity
      exact ⟨answer_inside stays shows, stays.validity⟩
  | invalidate => exact ⟨nofun, validity⟩

/-- A call does not end beyond the calendar, and leaves nonces to be held for as long. -/
theorem perform_stays (room : config.HasRoom) (years : env.KeepsYears) (operation : Operation α)
    {space : Workspace α}
    (validity : space.session.handshake.validity = config.nonceValidity) :
    (operation.perform env config space).1.error? ≠ some .beyondCalendar ∧
      (operation.perform env config space).2.session.handshake.validity =
        config.nonceValidity := by
  cases operation with
  | tokens call => exact tokens_stays room years call validity
  | held | debug =>
      simp only [perform]
      exact ⟨nofun, validity⟩
  | send request =>
      have stays := Api.send_stays room years request validity
      simp only [perform]
      refine ⟨answer_inside stays ?_, stays.validity⟩
      rintro (failure | response) error same <;> cases same
      rfl
  | getJson decoder path =>
      have stays := Api.getJson_stays room years decoder path validity
      simp only [perform]
      refine ⟨answer_inside stays ?_, stays.validity⟩
      rintro (failure | value) error same <;> cases same
      rfl
  | paginate decoder path =>
      simp only [perform]
      split
      · rename_i refused
        refine ⟨fun same => ?_, validity⟩
        exact Api.resolve_inside refused (Option.some.inj same)
      · exact ⟨nofun, validity⟩
  | next place fuel =>
      simp only [perform]
      split
      · exact ⟨nofun, validity⟩
      · rename_i asked _
        obtain ⟨inside, kept⟩ := nextOf_stays room years asked fuel validity
        refine ⟨?_, kept⟩
        rcases answered : (nextOf env config asked fuel space.session).1 with
          _ | error | item
        · nofun
        · intro same
          rw [Option.some.inj same] at answered
          exact inside answered
        · nofun

theorem performAll_stays (room : config.HasRoom) (years : env.KeepsYears)
    (operations : List (Operation α)) {space : Workspace α}
    (validity : space.session.handshake.validity = config.nonceValidity) :
    ∀ answer ∈ (performAll env config operations space).1,
      answer.error? ≠ some .beyondCalendar := by
  induction operations generalizing space with
  | nil =>
      intro _ member
      cases member
  | cons operation operations ih =>
      obtain ⟨inside, kept⟩ := perform_stays room years operation validity
      intro answer member
      rcases List.mem_cons.mp member with rfl | later
      · exact inside
      · exact ih kept answer later

end Operation

end

/-! ## A server that answers everything alike -/

def Environment.still (shown : Instant) (reply : Reply) : Environment where
  respond _ _ := reply
  clock _ _ := shown
  draw := .numbered
  explain _ _ := .silent
  cancelAt := none

def Response.demandingNonce : Response :=
  ⟨400, [("dpop-nonce", .ofAscii "n-1")], Acquisition.refusalBody "use_dpop_nonce"⟩

section

variable {shown : Instant} {reply : Reply} {response : Response} {config : ClientConfig}
  {session : Session}

/-- A call of such a server ends with its reply, however often it is tried. -/
theorem Pipeline.run_still (settings : RetrySettings) (target : Target) (request : Request) :
    (run (.still shown reply) settings target request session).1 = result reply.outcome := by
  have uncancelled : (Environment.still shown reply).cancelAt = none := rfl
  obtain ⟨position, made, _, _, _, placed, ended, _⟩ :=
    run_ended uncancelled settings target request session
  obtain ⟨entry, _, same⟩ := Option.map_eq_some_iff.mp placed.reply
  rw [ended, ← same]
  rfl

namespace Acquisition

/-- An exchange with such a server concludes with its reply, in a session that holds a nonce only if
one was held before. -/
theorem exchange_still (session : Session) (canSign : config.key.canSign = true)
    (years : shown.InYears)
    (answered : reply.outcome = .ok response) (nonceless : session.handshake.nonce = none) :
    ∃ after : Session, after.handshake.nonce = none ∧
      after.handshake.validity = session.handshake.validity ∧
      exchange (.still shown reply) config session =
        conclude (.still shown reply) (.ok response, after) := by
  rcases request_of_canSign canSign shown ((Environment.still shown reply).draw session.draws) with
    ⟨_, beyond⟩ | ⟨made, requested, _⟩
  · exact absurd beyond (lifetime_fits shown years)
  · have ran : (Pipeline.run (.still shown reply) config.retry .token made
        (ready (.still shown reply) session)).1 = Pipeline.result reply.outcome :=
      Pipeline.run_still config.retry .token made
    rw [answered] at ran
    obtain ⟨_, _, kept⟩ :=
      (Pipeline.parts_keeps (.still shown reply) config.retry .token made).of_run
        (ready (.still shown reply) session)
    refine ⟨(Pipeline.run (.still shown reply) config.retry .token made
      (ready (.still shown reply) session)).2, ?_, kept.validity, ?_⟩
    · rcases kept.nonce with same | ⟨nonce, held, _⟩
      · exact same.trans nonceless
      · cases nonceless.symm.trans held
    · rw [exchange_eq requested, ← Prod.mk.eta (p := Pipeline.run _ _ _ _ _), ran]
      rfl

theorem fetch_of_exchange {env : Environment} {result : Except Error (Option AccessToken)}
    (ended : (exchange env config (session.tell [.span .token .clientCredentials])).1 = result) :
    (∀ error, result = .error error → (fetch env config session).1 = .error error) ∧
      ∀ token, result = .ok (some token) → (fetch env config session).1 = .ok token := by
  unfold fetch exchanges
  split <;> (rename_i same; rw [same] at ended; cases ended)
  all_goals constructor <;> (intro _ same; cases same)
  all_goals rfl

/-- A server that asks for a nonce of its own ends an acquisition at the calendar, if the nonce
would be held beyond it. -/
theorem fetch_beyond (session : Session) (canSign : config.key.canSign = true)
    (years : shown.InYears)
    (answered : reply.outcome = .ok .demandingNonce)
    (nonceless : session.handshake.nonce = none)
    (beyond : shown.add? session.handshake.validity = none) :
    (fetch (.still shown reply) config session).1 = .error .beyondCalendar := by
  have refused : Response.demandingNonce.status = 400 := rfl
  have asked : Demand.errorCode? Response.demandingNonce.body = some "use_dpop_nonce" := by
    decide +kernel
  have supplied : Handshake.suppliedNonce? .demandingNonce = some "n-1" := by decide +kernel
  obtain ⟨after, still, validity, exchanged⟩ :=
    exchange_still (session.tell [.span .token .clientCredentials]) canSign years answered nonceless
  rcases conclude_of_nonceless (.still shown reply) refused asked still supplied with
    ⟨ended, _⟩ | ⟨_, expiresAt, expiry, _⟩
  · rw [← exchanged] at ended
    exact (fetch_of_exchange ended).1 _ rfl
  · rw [validity] at expiry
    have same : shown.add? session.handshake.validity = some expiresAt := expiry
    rw [beyond] at same
    cases same

theorem fetch_granted (session : Session) {grant : TokenResponse.Grant} {seconds : Int}
    (canSign : config.key.canSign = true) (years : shown.InYears)
    (answered : reply.outcome = .ok response) (success : response.status = 200)
    (body : response.decode TokenResponse.Grant.decoder = .ok grant)
    (lifetime : grant.expiresIn = some seconds) (positive : 0 < seconds)
    (fits : (Span.ofSeconds seconds).Fits) (nonceless : session.handshake.nonce = none) :
    ∃ token, (fetch (.still shown reply) config session).1 = .ok token ∧
      shown < token.expiresAt := by
  obtain ⟨after, _, _, exchanged⟩ :=
    exchange_still (session.tell [.span .token .clientCredentials]) canSign years answered nonceless
  have room : ∀ seen, Session.Shows (.still shown reply) after
      (conclude (.still shown reply) (.ok response, after)).2 seen →
        seen.add? (.ofSeconds seconds) ≠ none := by
    rintro seen ⟨_, _, _, same⟩
    rw [same]
    exact fits shown years
  obtain ⟨token, ended, grants, ⟨_, _, _, issued⟩, _⟩ :=
    conclude_of_granted success body lifetime positive room
  rw [← exchanged] at ended
  refine ⟨token, (fetch_of_exchange ended).2 _ rfl, ?_⟩
  have later := Instant.add?_nanos grants.expiry
  show shown.nanos < token.expiresAt.nanos
  rw [later, show token.issuedAt = shown from issued]
  simp only [Span.ofSeconds, nanosPerSecond]
  omega

theorem accessToken_of_empty {env : Environment} (empty : session.cached = none) :
    accessToken env config session =
      renew env config ((session.look env).2.look env).2 := by
  have emptyToo : (session.look env).2.cached = none := empty
  unfold accessToken
  rw [fresh_of_empty empty]
  dsimp only
  rw [fresh_of_empty emptyToo]

/-- A token that is kept cannot be checked where the window leads beyond the calendar. -/
theorem accessToken_beyond (reply : Reply) {token : AccessToken}
    (held : session.cached = some token) (lasting : shown < token.expiresAt)
    (beyond : shown.add? config.refreshWindow.clamped = none) :
    (accessToken (.still shown reply) config session).1 = .error .beyondCalendar := by
  have unknown : token.needsRenewal? config.refreshWindow
      (session.now (.still shown reply)) = none := by
    have unexpired : token.isExpiredAt shown = false := decide_eq_false (Int.not_le.mpr lasting)
    change token.needsRenewal? config.refreshWindow shown = none
    simp [AccessToken.needsRenewal?, AccessToken.expiresWithin?, unexpired, beyond]
  unfold accessToken
  rw [fresh_of_held held, unknown]

end Acquisition

end

/-! ## What decides -/

/-- If the spans of a configuration fit, no call of a client ends beyond the calendar, in whatever
order calls are made and whatever the server does, as long as the clock shows years from 1970 to
9000. If one of them does not fit and the key can sign, some calls do end there, with a clock of
these years and a server that keeps to the rules. -/
theorem operations_inCalendar (α : Type) (config : ClientConfig) :
    (config.HasRoom → ∀ env : Environment, env.KeepsYears → ∀ operations : List (Operation α),
      ∀ answer ∈ (Operation.performAll env config operations (.start config)).1,
        answer.error? ≠ some .beyondCalendar) ∧
    (config.key.canSign = true → ¬ config.HasRoom →
      ∃ env : Environment, env.KeepsYears ∧ ∃ operations : List (Operation α),
        ∃ answer ∈ (Operation.performAll env config operations (.start config)).1,
          answer.error? = some .beyondCalendar) := by
  refine ⟨fun room env years operations =>
    Operation.performAll_stays room years operations rfl, fun canSign noRoom => ?_⟩
  rcases not_and_or.mp noRoom with endless | endless
  · simp only [Span.Fits, not_forall, not_not] at endless
    obtain ⟨shown, years, beyond⟩ := endless
    -- A nonce that the server demands cannot be held.
    refine ⟨.still shown ⟨.zero, .ok .demandingNonce⟩, fun _ _ => years,
      [.tokens (.fetch none)], .token (.error .beyondCalendar), ?_, rfl⟩
    have answered : (Reply.mk .zero (.ok .demandingNonce)).outcome = .ok .demandingNonce := rfl
    have ended := Acquisition.fetch_beyond (.start config.nonceValidity) canSign years answered rfl
      beyond
    exact List.mem_singleton.mpr (congrArg Answer.token ended.symm)
  · simp only [Span.Fits, not_forall, not_not] at endless
    obtain ⟨shown, years, beyond⟩ := endless
    -- The first call brings a token, and the second one cannot tell whether it lasts.
    obtain ⟨response, answered, success, body⟩ :
        ∃ response, (Reply.granting "at-1").outcome = .ok response ∧ response.status = 200 ∧
          response.decode TokenResponse.Grant.decoder =
            .ok ⟨"Bearer", some 3600, "at-1", none, none⟩ :=
      ⟨_, rfl, rfl, by decide +kernel⟩
    let env := Environment.still shown (.granting "at-1")
    let begun := Session.start config.nonceValidity
    obtain ⟨token, fetched, lasting⟩ := Acquisition.fetch_granted
      ((begun.look env).2.look env).2 canSign years answered success body rfl (by decide)
      (by decide) rfl
    have first : (Acquisition.accessToken env config begun).1 = .ok token := by
      rw [Acquisition.accessToken_of_empty rfl, Acquisition.renew_fst]
      exact fetched
    have second := Acquisition.accessToken_beyond (.granting "at-1")
      (Acquisition.accessToken_cached_of_ok first) lasting beyond
    refine ⟨env, fun _ _ => years, [.tokens (.access none), .tokens (.access none)],
      .token (.error .beyondCalendar), ?_, rfl⟩
    exact List.mem_cons_of_mem _ (List.mem_singleton.mpr (congrArg Answer.token second.symm))

private def foresighted : ClientConfig :=
  { ClientConfig.sample with refreshWindow := .ofSeconds 9223372036854775807 }

/-- No calendar has room for the longest window. -/
theorem operations_inCalendar_foresighted :
    foresighted.key.canSign = true ∧ ¬ foresighted.HasRoom ∧
      ∃ env : Environment, env.KeepsYears ∧ ∃ operations : List (Operation Unit),
        ∃ answer ∈ (Operation.performAll env foresighted operations (.start foresighted)).1,
          answer.error? = some .beyondCalendar := by
  have canSign : foresighted.key.canSign = true := by decide +kernel
  have noRoom : ¬ foresighted.HasRoom := by decide
  exact ⟨canSign, noRoom, (operations_inCalendar Unit foresighted).2 canSign noRoom⟩

end KeyBound
