import KeyBound.Proofs.Client.Refusals
import KeyBound.Proofs.Client.TokenCache

/-!
# Cancelled clients

What is left of a client whose calls are cancelled. Nothing is sent any more and no request is
answered, but a token at hand is still handed out as long as it need not be replaced.
-/

set_option autoImplicit false

namespace KeyBound

open Session

variable {env : Environment} {config : ClientConfig} {session later : Session}

/-! ## Rest -/

namespace Session

/-- A later session that has looked at the clock, used chance and told events, and has done nothing
else. -/
structure Rests (session later : Session) : Prop where
  sent : later.sent = session.sent
  handshake : later.handshake = session.handshake
  cached : later.cached = session.cached
  elapsed : later.elapsed = session.elapsed

theorem Rests.refl (session : Session) : session.Rests session := ⟨rfl, rfl, rfl, rfl⟩

theorem Rests.trans {first second third : Session} (before : first.Rests second)
    (after : second.Rests third) : first.Rests third where
  sent := after.sent.trans before.sent
  handshake := after.handshake.trans before.handshake
  cached := after.cached.trans before.cached
  elapsed := after.elapsed.trans before.elapsed

theorem Rests.tell (session : Session) (events : List Event) :
    session.Rests (session.tell events) :=
  ⟨rfl, rfl, rfl, rfl⟩

theorem Rests.of_looked (looked : Acquisition.Looked session later) : session.Rests later := by
  obtain ⟨_, rfl⟩ := looked
  exact ⟨rfl, rfl, rfl, rfl⟩

theorem Rests.isCancelled (rests : session.Rests later) :
    later.isCancelled env = session.isCancelled env := by
  rw [Session.isCancelled, rests.elapsed]
  rfl

end Session

/-! ## Calls -/

/-- A cancelled call ends before its first attempt. -/
theorem Pipeline.run_of_cancelled (settings : RetrySettings) (target : Target) (request : Request)
    (cancelled : session.isCancelled env = true) :
    (run env settings target request session).1 = .error .cancelled ∧
      session.Rests (run env settings target request session).2 := by
  have attempted (attempt : Nat) :
      attemptOnce env settings target request attempt none
          (session.tell [.span target.kind .pipeline]) =
        (none, session.tell [.span target.kind .pipeline]) :=
    if_pos cancelled
  have ended (began : Delay) (retriesLeft : Nat) :
      attempts env settings target request began retriesLeft none
          (session.tell [.span target.kind .pipeline]) =
        (.error .cancelled, session.tell [.span target.kind .pipeline]) := by
    cases retriesLeft <;> simp only [attempts, attempted]
  unfold run
  dsimp only
  rw [ended]
  exact ⟨rfl, (Rests.tell _ _).trans (Rests.tell _ _)⟩

namespace Acquisition

theorem exchange_of_cancelled (config : ClientConfig) (cancelled : session.isCancelled env = true) :
    ∃ error, (exchange env config session).1 = .error error ∧
      session.Rests (exchange env config session).2 := by
  have looked : session.Rests ((session.look env).2.draw env).2 := ⟨rfl, rfl, rfl, rfl⟩
  unfold exchange
  dsimp only
  split
  · exact ⟨_, rfl, looked⟩
  · rename_i made _
    obtain ⟨ended, rests⟩ := Pipeline.run_of_cancelled config.retry .token made
      (looked.isCancelled.trans cancelled)
    rw [Pipeline.runToken_eq, ended]
    exact ⟨_, rfl, looked.trans rests⟩

theorem exchanges_of_cancelled (config : ClientConfig) (roundsLeft : Nat)
    (cancelled : session.isCancelled env = true) :
    ∃ error, (exchanges env config roundsLeft session).1 = .error error ∧
      session.Rests (exchanges env config roundsLeft session).2 := by
  obtain ⟨error, ended, rests⟩ := exchange_of_cancelled config cancelled
  have exchanged : exchange env config session = (.error error, (exchange env config session).2) :=
    Prod.ext ended rfl
  unfold exchanges
  rw [exchanged]
  exact ⟨error, rfl, rests⟩

theorem fetch_of_cancelled (config : ClientConfig) (cancelled : session.isCancelled env = true) :
    ∃ error, (fetch env config session).1 = .error error ∧
      session.Rests (fetch env config session).2 := by
  have told := Rests.tell session [.span .token .clientCredentials]
  obtain ⟨error, ended, rests⟩ := exchanges_of_cancelled config maxRounds
    (told.isCancelled.trans cancelled)
  exact ⟨error, ended, told.trans rests⟩

theorem renew_of_cancelled (config : ClientConfig) (cancelled : session.isCancelled env = true) :
    ∃ error, (renew env config session).1 = .error error ∧
      session.Rests (renew env config session).2 := by
  obtain ⟨error, ended, rests⟩ := fetch_of_cancelled config cancelled
  have fetched : fetch env config session = (.error error, (fetch env config session).2) :=
    Prod.ext ended rfl
  unfold renew
  rw [fetched]
  exact ⟨error, rfl, rests⟩

/-- A token is at hand that the client does not replace, at the first or the second check. -/
def Holds (env : Environment) (config : ClientConfig) (session : Session) (token : AccessToken) :
    Prop :=
  session.cached = some token ∧
    (token.needsRenewal? config.refreshWindow (session.now env) = some false ∨
      token.needsRenewal? config.refreshWindow (session.now env) = some true ∧
        token.needsRenewal? config.refreshWindow ((session.look env).2.now env) = some false)

theorem accessToken_of_holds {token : AccessToken} (holds : Holds env config session token) :
    (accessToken env config session).1 = .ok token := by
  obtain ⟨held, usable | ⟨due, usable⟩⟩ := holds
  · simp only [accessToken, fresh_of_held held, usable]
  · have heldStill : (session.look env).2.cached = some token := held
    simp only [accessToken, fresh_of_held held, due, fresh_of_held heldStill, usable]

/-- A cancelled client hands out the token at hand, or none. -/
theorem accessToken_of_cancelled (config : ClientConfig)
    (cancelled : session.isCancelled env = true) :
    session.Rests (accessToken env config session).2 ∧
      ∀ token, (accessToken env config session).1 = .ok token ↔ Holds env config session token := by
  have looked : session.Rests ((session.look env).2.look env).2 := ⟨rfl, rfl, rfl, rfl⟩
  obtain ⟨error, failed, rests⟩ :=
    renew_of_cancelled config (looked.isCancelled.trans cancelled)
  have turn := accessToken_turn env config session
  refine ⟨?_, fun token => ⟨fun taken => ?_, accessToken_of_holds⟩⟩
  · generalize (accessToken env config session).1 = answer at turn
    generalize (accessToken env config session).2 = later at turn ⊢
    cases turn with
    | first | second => exact ⟨rfl, rfl, rfl, rfl⟩
    | unknown seen => exact .of_looked seen
    | renewed => exact looked.trans rests
  · generalize (accessToken env config session).1 = answer at turn taken
    generalize (accessToken env config session).2 = later at turn
    cases turn with
    | first kept =>
        cases taken
        have held := cached_of_fresh kept
        exact ⟨held, .inl (needsRenewal?_of_fresh held kept)⟩
    | second missed kept =>
        cases taken
        have stays : (session.look env).2.cached = some token := cached_of_fresh kept
        have held : session.cached = some token := stays
        exact ⟨held, .inr ⟨needsRenewal?_of_fresh held missed, needsRenewal?_of_fresh stays kept⟩⟩
    | unknown => cases taken
    | renewed =>
        rw [failed] at taken
        cases taken

end Acquisition

/-! ## Requests -/

namespace Api

theorem attempt_of_cancelled (config : ClientConfig) (request : Request)
    (cancelled : session.isCancelled env = true) :
    ∃ error, (attempt env config request session).1 = .error error ∧
      session.Rests (attempt env config request session).2 := by
  obtain ⟨rests, _⟩ := Acquisition.accessToken_of_cancelled config cancelled
  unfold attempt
  split
  · rename_i taken
    rw [taken] at rests
    exact ⟨_, rfl, rests⟩
  · rename_i taken
    rw [taken] at rests
    split
    · exact ⟨_, rfl, rests⟩
    · obtain ⟨ended, restsToo⟩ := Pipeline.run_of_cancelled config.retry .resource _
        (rests.isCancelled.trans cancelled)
      exact ⟨_, ended, rests.trans restsToo⟩

theorem send_of_cancelled (config : ClientConfig) (request : Request)
    (cancelled : session.isCancelled env = true) :
    ∃ error, (send env config request session).1 = .error error ∧
      session.Rests (send env config request session).2 := by
  obtain ⟨error, ended, rests⟩ := attempt_of_cancelled config request cancelled
  have tried : attempt env config request session =
      (.error error, (attempt env config request session).2) := Prod.ext ended rfl
  have unanswered : ¬ Refuses (.error error) := nofun
  rw [send_of_granted tried unanswered]
  exact ⟨error, rfl, rests⟩

theorem fetch_of_cancelled {α : Type} (decoder : Json.Decoder α) (config : ClientConfig) (url : Url)
    (cancelled : session.isCancelled env = true) :
    ∃ error, (fetch decoder env config url session).1 = .error error := by
  obtain ⟨error, ended, _⟩ := send_of_cancelled config (jsonRequest url) cancelled
  have sent : send env config (jsonRequest url) session =
      (.error error, (send env config (jsonRequest url) session).2) := Prod.ext ended rfl
  unfold fetch
  rw [sent]
  exact ⟨error, rfl⟩

end Api

namespace Call

def succeeds (env : Environment) (config : ClientConfig) (session : Session) : Call → Bool
  | send request => (Api.send env config request session).1.isOk
  | getJson decoder path => (Api.getJson decoder env config path session).1.isOk
  | page decoder first target => (Api.pages decoder env config first session target).1.isOk

theorem of_cancelled (config : ClientConfig) (call : Call)
    (cancelled : session.isCancelled env = true) :
    call.succeeds env config session = false ∧ session.Rests (call.perform env config session) := by
  constructor
  · cases call with
    | send request =>
        obtain ⟨error, ended, _⟩ := Api.send_of_cancelled config request cancelled
        simp only [succeeds, ended]
        rfl
    | getJson decoder path =>
        simp only [succeeds, Api.getJson]
        split
        · rfl
        · rename_i url _
          obtain ⟨error, ended⟩ := Api.fetch_of_cancelled decoder config url cancelled
          simp only [ended]
          rfl
    | page decoder first target =>
        simp only [succeeds, Api.pages]
        split
        · rfl
        · rename_i url _
          obtain ⟨error, ended⟩ :=
            Api.fetch_of_cancelled (Json.decodeList decoder) config url cancelled
          simp only [ended]
          rfl
  · rcases call.perform_eq env config session with same | ⟨request, same⟩
    · rw [same]
      exact .refl session
    · obtain ⟨_, _, rests⟩ := Api.send_of_cancelled config request cancelled
      rw [same]
      exact rests

end Call

/-! ## Histories of a cancelled client -/

inductive ClientOperation : Type 1 where
  | access
  | call (call : Call)

namespace ClientOperation

def perform (env : Environment) (config : ClientConfig) (session : Session) :
    ClientOperation → Session
  | access => (Acquisition.accessToken env config session).2
  | call made => made.perform env config session

def performAll (env : Environment) (config : ClientConfig) (operations : List ClientOperation)
    (session : Session) : Session :=
  operations.foldl (perform env config) session

theorem perform_of_cancelled (config : ClientConfig) (operation : ClientOperation)
    (cancelled : session.isCancelled env = true) :
    session.Rests (operation.perform env config session) := by
  cases operation with
  | access => exact (Acquisition.accessToken_of_cancelled config cancelled).1
  | call made => exact (made.of_cancelled config cancelled).2

theorem performAll_of_cancelled (config : ClientConfig) (operations : List ClientOperation)
    (cancelled : session.isCancelled env = true) :
    session.Rests (performAll env config operations session) := by
  induction operations generalizing session with
  | nil => exact .refl session
  | cons operation operations ih =>
      have first := operation.perform_of_cancelled config cancelled
      exact first.trans (ih (first.isCancelled.trans cancelled))

end ClientOperation

/-- Once a client is cancelled, nothing that it does sends a request or answers one. A token for use
is still handed out by it, but only the one at hand, as long as a check finds that it need not be
replaced. -/
theorem operations_of_cancelled (config : ClientConfig)
    (cancelled : session.isCancelled env = true) (operations : List ClientOperation) :
    let later := ClientOperation.performAll env config operations session
    session.Rests later ∧ later.isCancelled env = true ∧
      (∀ call : Call, call.succeeds env config later = false ∧
        (call.perform env config later).sent = session.sent) ∧
      (Acquisition.accessToken env config later).2.sent = session.sent ∧
      ∀ token, (Acquisition.accessToken env config later).1 = .ok token ↔
        Acquisition.Holds env config later token := by
  intro later
  have rests : session.Rests later :=
    ClientOperation.performAll_of_cancelled config operations cancelled
  have still : later.isCancelled env = true := rests.isCancelled.trans cancelled
  obtain ⟨restsToo, hands⟩ := Acquisition.accessToken_of_cancelled config still
  refine ⟨rests, still, fun call => ?_, (rests.trans restsToo).sent, hands⟩
  obtain ⟨failed, restsCalling⟩ := call.of_cancelled config still
  exact ⟨failed, (rests.trans restsCalling).sent⟩

/-! ## A client that is cancelled while it has a token -/

private def leavingSoon : Script where
  replies := [.granting "at-1", ⟨⟨5⟩, .ok ⟨200, [], []⟩⟩]
  tokenReplies := none

private def closing : Environment :=
  { Environment.ofScript leavingSoon with cancelAt := some ⟨1⟩ }

private def closed : Session :=
  ClientOperation.performAll closing .sample
    [.access, .call (.send (.plain "GET" (.sample ["api"])))]
    (.start ClientConfig.sample.nonceValidity)

private theorem closed_holds :
    closed.isCancelled closing = true ∧
      (closed.cached.bind fun token =>
        token.needsRenewal? ClientConfig.sample.refreshWindow (closed.now closing)) =
          some false := by
  decide +kernel

theorem operations_of_cancelled_closed :
    closed.isCancelled closing = true ∧
      (∀ call : Call, call.succeeds closing .sample closed = false ∧
        (call.perform closing .sample closed).sent = closed.sent) ∧
      ∃ token, (Acquisition.accessToken closing .sample closed).1 = .ok token := by
  obtain ⟨cancelled, kept⟩ := closed_holds
  obtain ⟨token, held, usable⟩ := Option.bind_eq_some_iff.mp kept
  have facts := operations_of_cancelled .sample cancelled []
  simp only [ClientOperation.performAll, List.foldl_nil] at facts
  obtain ⟨_, _, refused, _, hands⟩ := facts
  exact ⟨cancelled, refused, token, (hands token).mpr ⟨held, .inl usable⟩⟩

end KeyBound
