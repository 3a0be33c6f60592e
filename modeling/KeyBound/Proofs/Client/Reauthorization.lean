import KeyBound.Proofs.Client.TokenUse

/-!
# A refused token

What is sent when a token is refused, and which response decides in the end: the request goes out
once more, with a token that was issued after the refusal, and the last response counts.
-/

set_option autoImplicit false

namespace KeyBound

open Session

/-! ## Requests with a token -/

/-- A request presents a token: it has one authorization, which is the token, or its text under the
scheme of proofs. -/
def Request.Presents (token : AccessToken) (request : Request) : Prop :=
  ∃ value, request.headers.getAll "authorization" = [value] ∧
    (token.authorization? = some value ∨
      value = (HeaderValue.ofAscii ("DPoP " ++ token.secret.text)).secret)

open Request

theorem Request.Presents.withHeader {token : AccessToken} {request : Request} {name : String}
    (presents : request.Presents token) (other : Headers.fold name ≠ Headers.fold "authorization")
    (value : HeaderValue) : (request.withHeader name value).Presents token := by
  obtain ⟨held, alone, form⟩ := presents
  exact ⟨held, (Headers.getAll_insert_of_ne other request.headers value).trans alone, form⟩

namespace Handshake

theorem presented?_eq {token : AccessToken} {value : HeaderValue} {request : Request}
    {text : List Char} (written : token.authorization? = some value)
    (alone : request.headers.getAll "authorization" = [value])
    (presented : presented? request = some text) : String.ofList text = token.secret.text := by
  obtain ⟨whole, read, rfl⟩ := Option.map_eq_some_iff.mp presented
  have first : request.headers.get? "authorization" = some value := by
    rw [Headers.get?, alone]
    rfl
  simp only [Headers.chars?, first, Option.bind_eq_bind, Option.bind_some] at read
  obtain ⟨plain, allowed, rfl⟩ := Option.map_eq_some_iff.mp written
  have bytes : plain = ⟨utf8 ("Bearer " ++ token.secret.text), false⟩ := by
    simp only [HeaderValue.ofText?] at allowed
    split at allowed <;> cases allowed
    rfl
  subst bytes
  obtain rfl := HeaderValue.chars?_utf8 read
  simp [String.toList_append]

theorem claim_presents {token : AccessToken} {value : HeaderValue} {request : Request}
    (written : token.authorization? = some value)
    (alone : request.headers.getAll "authorization" = [value]) (nonce : Option String)
    (target : Target) (claims : ProofClaims) :
    (claim nonce target claims request).2.Presents token := by
  have unchanged : request.Presents token := ⟨value, alone, .inl written⟩
  unfold claim
  split
  · rename_i text presented
    refine ⟨_, Headers.getAll_insert_self _ _ _, .inr ?_⟩
    rw [presented?_eq written alone presented]
  · split <;> exact unchanged

end Handshake

namespace Pipeline

variable {settings : RetrySettings} {target : Target} {request : Request}

/-- Whatever an attempt adds, the request presents the token that it was made with. -/
theorem Outgoing.presents {token : AccessToken} {value : HeaderValue} {sent : Request}
    (outgoing : Outgoing settings target (request.withHeader "authorization" value) sent)
    (written : token.authorization? = some value) : sent.Presents token := by
  have alone := Headers.getAll_insert_self request.headers "authorization" value
  cases outgoing with
  | prepared handshake draw now attempt retryFor =>
      have tag : ((tagged settings attempt retryFor
          (request.withHeader "authorization" value)).headers.getAll "authorization") = [value] :=
        (tagged_getAll settings attempt retryFor _ (by decide)).trans alone
      unfold Handshake.prepare
      dsimp only
      split
      · exact ⟨value, tag, .inl written⟩
      · exact (Handshake.claim_presents written tag _ _ _).withHeader (by decide) _

end Pipeline

namespace Api

variable {env : Environment} {config : ClientConfig} {request : Request}

/-- Sends one request only, with a token. -/
def SendsWith (request : Request) (token : AccessToken) (session later : Session) : Prop :=
  SendsOnly (fun sent => sent.IsCopyOf request ∧ sent.Presents token) session later

theorem run_sendsWith {token : AccessToken} {value : HeaderValue}
    (written : token.authorization? = some value) (env : Environment) (settings : RetrySettings)
    (request : Request) (session : Session) :
    SendsWith request token session (Pipeline.run env settings .resource
      (request.withHeader "authorization" value) session).2 := by
  refine (Pipeline.run_sendsOnly env settings .resource _ session).mono fun sent outgoing => ?_
  exact ⟨outgoing.isCopyOf.trans (withHeader_isCopyOf request (by decide) value),
    outgoing.presents written⟩

/-! ## The last response -/

/-- How a request ends when its last call ends: an error of the call is its own, a success is its
response, and any other response is an error that describes it. -/
def Settles (last result : Except Error Response) : Prop :=
  match last with
  | .error error => result = .error error
  | .ok response =>
    (result = .ok response ↔ 200 ≤ response.status ∧ response.status < 300) ∧
      (¬ (200 ≤ response.status ∧ response.status < 300) → result = .error (.api
        { status := response.status
          requestId := response.headers.trimmed? "x-okta-request-id"
          preview := ApiFailure.previewOf response.body }))

theorem settles_accepted (last : Except Error Response) : Settles last (last.bind accepted) := by
  cases last with
  | error error => rfl
  | ok response =>
      have success : response.isSuccess = true ↔ 200 ≤ response.status ∧ response.status < 300 := by
        simp [Response.isSuccess]
      simp only [Settles, Except.bind, accepted, ← success]
      split
      · rename_i granted
        simp [granted]
      · rename_i refused
        simp [refused, failureOf, ApiFailure.of, Pipeline.requestIdHeader]

/-! ## Both calls -/

theorem accessToken_calls {result : Except Error AccessToken} {session later : Session}
    (taken : Acquisition.accessToken env config session = (result, later)) :
    later.calls .resource = session.calls .resource := by
  obtain ⟨source, access⟩ := Acquisition.accessToken_access env config session
  rw [taken] at access
  exact access.spends.resourceCalls

/-- A token that is taken after the last one was dropped was issued since. -/
theorem issues_of_invalidated {token : AccessToken} {session later : Session}
    (taken : Acquisition.accessToken env config session.invalidate = (.ok token, later)) :
    Acquisition.Issues env config token session later := by
  obtain ⟨source, access⟩ := Acquisition.accessToken_access env config session.invalidate
  rw [taken] at access
  obtain rfl := access.of_empty rfl
  exact access.issues.widen ⟨Nat.le_refl _, Nat.le_refl session.elapsed.nanos⟩ (.refl later)
    (List.prefix_refl _) (List.prefix_refl _)

/-- A request goes out with a token, and once more exactly if that one is refused, with a token that
was issued after the refusal. The last response decides, or the error in its place. -/
theorem send_presents {first : AccessToken} {value : HeaderValue} {session between : Session}
    (taken : Acquisition.accessToken env config session = (.ok first, between))
    (written : first.authorization? = some value)
    (retaken : ∀ refusal later,
      Pipeline.run env config.retry .resource (request.withHeader "authorization" value) between =
        (.ok refusal, later) → refusal.status = 401 →
      ∃ second after valueToo,
        Acquisition.accessToken env config later.invalidate = (.ok second, after) ∧
          second.authorization? = some valueToo) :
    let ran := Pipeline.run env config.retry .resource
      (request.withHeader "authorization" value) between
    let result := send env config request session
    SendsWith request first between ran.2 ∧
    (¬ (∃ refusal, ran.1 = .ok refusal ∧ refusal.status = 401) →
      result.2 = ran.2 ∧ result.2.calls .resource = session.calls .resource + 1 ∧
        Settles ran.1 result.1) ∧
    ((∃ refusal, ran.1 = .ok refusal ∧ refusal.status = 401) →
      ∃ second after valueToo,
        Acquisition.accessToken env config ran.2.invalidate = (.ok second, after) ∧
        second.authorization? = some valueToo ∧
        Acquisition.Issues env config second ran.2 after ∧
        let again := Pipeline.run env config.retry .resource
          (request.withHeader "authorization" valueToo) after
        SendsWith request second after again.2 ∧
        result.2 = again.2 ∧ result.2.calls .resource = session.calls .resource + 2 ∧
        Settles again.1 result.1) := by
  intro ran result
  have tried : attempt env config request session = ran := attempt_of_taken taken written
  have ranOnce : ran.2.calls .resource = session.calls .resource + 1 := by
    rw [← accessToken_calls taken]
    exact Pipeline.run_calls env config.retry .resource _ between .resource
  refine ⟨run_sendsWith written env config.retry request between, ?_, ?_⟩
  · intro granted
    have same : result = (ran.1.bind accepted, ran.2) := send_of_granted tried granted
    rw [same]
    exact ⟨rfl, ranOnce, settles_accepted ran.1⟩
  · intro refused
    obtain ⟨refusal, ended, status⟩ := refused
    obtain ⟨second, after, valueToo, takenToo, writtenToo⟩ :=
      retaken refusal ran.2 (Prod.ext ended rfl) status
    have again : result =
        ((attempt env config request ran.2.invalidate).1.bind accepted,
          (attempt env config request ran.2.invalidate).2) :=
      send_of_refused tried ⟨refusal, ended, status⟩
    rw [attempt_of_taken takenToo writtenToo] at again
    have acquiredToo : after.calls .resource = session.calls .resource + 1 :=
      (accessToken_calls takenToo).trans ranOnce
    refine ⟨second, after, valueToo, takenToo, writtenToo, issues_of_invalidated takenToo,
      run_sendsWith writtenToo env config.retry request after, ?_, ?_, ?_⟩
    · rw [again]
    · rw [again]
      have ranAgain := Pipeline.run_calls env config.retry .resource
        (request.withHeader "authorization" valueToo) after .resource
      rw [acquiredToo] at ranAgain
      exact ranAgain
    · rw [again]
      exact settles_accepted _

/-! ## A server that refuses the first token -/

private def refusing : Script where
  replies := [.granting "at-1", ⟨.zero, .ok ⟨401, [], []⟩⟩, .granting "at-2",
    ⟨.zero, .ok ⟨200, [], utf8 "[]"⟩⟩]
  tokenReplies := none

private def groupList : Request := jsonRequest (.sample ["api", "v1", "groups"])

private def untouched : Session := .start ClientConfig.sample.nonceValidity

private def bearer (secret : String) : HeaderValue := ⟨utf8 ("Bearer " ++ secret), true⟩

private theorem token_of_authorization {taken : Except Error AccessToken × Session}
    {value : HeaderValue}
    (written : taken.1.toOption.bind AccessToken.authorization? = some value) :
    ∃ token, taken = (.ok token, taken.2) ∧ token.authorization? = some value := by
  obtain ⟨answer, later⟩ := taken
  cases answer with
  | error error => cases written
  | ok token => exact ⟨token, rfl, written⟩

private def taking (session : Session) : Except Error AccessToken × Session :=
  Acquisition.accessToken (.ofScript refusing) .sample session

private def presenting (secret : String) (session : Session) : Except Error Response × Session :=
  Pipeline.run (.ofScript refusing) ClientConfig.sample.retry .resource
    (groupList.withHeader "authorization" (bearer secret)) session

private theorem refusing_answers :
    (taking untouched).1.toOption.bind AccessToken.authorization? = some (bearer "at-1") ∧
      (presenting "at-1" (taking untouched).2).1 = .ok ⟨401, [], []⟩ ∧
      (taking (presenting "at-1" (taking untouched).2).2.invalidate).1.toOption.bind
        AccessToken.authorization? = some (bearer "at-2") := by
  decide +kernel

theorem send_presents_refused :
    ∃ first between, taking untouched = (.ok first, between) ∧
      first.authorization? = some (bearer "at-1") ∧
      (presenting "at-1" between).1 = .ok ⟨401, [], []⟩ ∧
      ∃ second after,
        Acquisition.Issues (.ofScript refusing) .sample second (presenting "at-1" between).2 after ∧
        SendsWith groupList second after
          (send (.ofScript refusing) .sample groupList untouched).2 ∧
        (send (.ofScript refusing) .sample groupList untouched).2.calls .resource =
          untouched.calls .resource + 2 := by
  obtain ⟨firstWritten, refused, secondWritten⟩ := refusing_answers
  obtain ⟨first, taken, written⟩ := token_of_authorization firstWritten
  obtain ⟨second, takenToo, writtenToo⟩ := token_of_authorization secondWritten
  have retaken : ∀ refusal later, presenting "at-1" (taking untouched).2 = (.ok refusal, later) →
      refusal.status = 401 →
      ∃ second after value, taking later.invalidate = (.ok second, after) ∧
        second.authorization? = some value := by
    intro refusal later same _
    rw [same] at takenToo
    exact ⟨second, _, _, takenToo, writtenToo⟩
  obtain ⟨_, _, again⟩ := send_presents taken written retaken
  obtain ⟨second, after, _, _, _, issued, sends, same, calls, _⟩ := again ⟨_, refused, rfl⟩
  refine ⟨first, _, taken, written, refused, second, after, issued, ?_, calls⟩
  rw [same]
  exact sends

end Api

end KeyBound
