import KeyBound.Proofs.Client.Effort
import KeyBound.Proofs.Client.Provenance

/-!
# The use of tokens

What a request that presents a token does, step by step: it takes a token, a call presents it, and
a token that is refused is dropped before the second try. The effort of a request follows from the
number of those steps.
-/

set_option autoImplicit false

namespace KeyBound

open Session

inductive TokenUse where
  /-- A token was at hand, or was acquired. -/
  | took (source : Acquisition.Source) (token : AccessToken)
  /-- A call presented the token, and ended so. -/
  | presented (request : Request) (token : AccessToken) (answer : Except Error Response)
  | dropped

namespace TokenUse

def isAcquisition : TokenUse → Bool
  | took .endpoint _ => true
  | _ => false

def isPresentation : TokenUse → Bool
  | presented .. => true
  | _ => false

def isDrop : TokenUse → Bool
  | dropped => true
  | _ => false

/-- The token at hand after a step: an acquired one takes the place of the one before it. -/
def update : Option AccessToken → TokenUse → Option AccessToken
  | _, took .endpoint token => some token
  | _, dropped => none
  | held, took .cache _ | held, presented .. => held

/-- Without an acquisition the token at hand is the same, or none any more. -/
theorem foldl_update {uses : List TokenUse} (quiet : ∀ use ∈ uses, use.isAcquisition = false)
    (held : Option AccessToken) :
    uses.foldl update held = held ∨ uses.foldl update held = none := by
  induction uses generalizing held with
  | nil => exact .inl rfl
  | cons use uses ih =>
      obtain ⟨quietHere, quietRest⟩ := List.forall_mem_cons.mp quiet
      rw [List.foldl_cons]
      rcases use with ⟨_ | _, _⟩ | _ | _
      · exact ih quietRest held
      · cases quietHere
      · exact ih quietRest held
      · exact .inr ((ih quietRest none).elim id id)

end TokenUse

namespace Api

variable {env : Environment} {config : ClientConfig} {request : Request}

def Refuses (answer : Except Error Response) : Prop :=
  ∃ response, answer = .ok response ∧ response.status = unauthorized

/-- One try: there is no token, or none that a header may hold, or a call presents it. -/
inductive Tries (env : Environment) (config : ClientConfig) (request : Request)
    (session : Session) : List TokenUse → Except Error Response → Session → Prop where
  | missing {source : Acquisition.Source} {error : Error} {later : Session} :
      Acquisition.Access env config session source (.error error) later →
      Tries env config request session [] (.error error) later
  | unfit {source : Acquisition.Source} {token : AccessToken} {later : Session} :
      Acquisition.Access env config session source (.ok token) later →
      token.authorization? = none →
      Tries env config request session [.took source token] (.error (.config .headerInvalid)) later
  | called {source : Acquisition.Source} {token : AccessToken} {value : HeaderValue}
      {between later : Session} {answer : Except Error Response} :
      Acquisition.Access env config session source (.ok token) between →
      token.authorization? = some value →
      Pipeline.run env config.retry .resource (request.withHeader "authorization" value) between =
        (answer, later) →
      Tries env config request session [.took source token, .presented request token answer] answer
        later

theorem attempt_tries (env : Environment) (config : ClientConfig) (request : Request)
    (session : Session) :
    ∃ uses, Tries env config request session uses (attempt env config request session).1
      (attempt env config request session).2 := by
  obtain ⟨source, access⟩ := Acquisition.accessToken_access env config session
  unfold attempt
  split
  · rename_i taken
    rw [taken] at access
    exact ⟨_, .missing access⟩
  · rename_i taken
    rw [taken] at access
    split
    · rename_i written
      exact ⟨_, .unfit access written⟩
    · rename_i written
      exact ⟨_, .called access written rfl⟩

/-- A request is tried, and tried once more without the token that was refused. -/
inductive Performs (env : Environment) (config : ClientConfig) (request : Request)
    (session : Session) : List TokenUse → Except Error Response → Session → Prop where
  | once {uses : List TokenUse} {answer : Except Error Response} {later : Session} :
      Tries env config request session uses answer later → ¬ Refuses answer →
      Performs env config request session uses (answer.bind accepted) later
  | twice {uses more : List TokenUse} {refusal answer : Except Error Response}
      {between later : Session} :
      Tries env config request session uses refusal between → Refuses refusal →
      Tries env config request between.invalidate more answer later →
      Performs env config request session (uses ++ .dropped :: more) (answer.bind accepted) later

theorem attempt_of_taken {token : AccessToken} {value : HeaderValue} {session between : Session}
    (taken : Acquisition.accessToken env config session = (.ok token, between))
    (written : token.authorization? = some value) :
    attempt env config request session = Pipeline.run env config.retry .resource
      (request.withHeader "authorization" value) between := by
  simp only [attempt, taken, written]

theorem send_of_granted {answer : Except Error Response} {session later : Session}
    (tried : attempt env config request session = (answer, later)) (granted : ¬ Refuses answer) :
    send env config request session = (answer.bind accepted, later) := by
  cases answer with
  | error error => simp only [send, tried]; rfl
  | ok response =>
      have other : response.status ≠ unauthorized := fun refused => granted ⟨response, rfl, refused⟩
      simp only [send, tried, if_neg other]
      rfl

theorem send_of_refused {answer : Except Error Response} {session later : Session}
    (tried : attempt env config request session = (answer, later)) (refused : Refuses answer) :
    send env config request session =
      ((attempt env config request later.invalidate).1.bind accepted,
        (attempt env config request later.invalidate).2) := by
  obtain ⟨response, rfl, status⟩ := refused
  simp only [send, tried, if_pos status]
  cases attempt env config request later.invalidate with
  | mk answer after => cases answer <;> rfl

theorem send_performs (env : Environment) (config : ClientConfig) (request : Request)
    (session : Session) :
    ∃ uses, Performs env config request session uses (send env config request session).1
      (send env config request session).2 := by
  obtain ⟨uses, first⟩ := attempt_tries env config request session
  by_cases refused : Refuses (attempt env config request session).1
  · obtain ⟨more, second⟩ := attempt_tries env config request
      (attempt env config request session).2.invalidate
    rw [send_of_refused rfl refused]
    exact ⟨_, .twice first refused second⟩
  · rw [send_of_granted rfl refused]
    exact ⟨uses, .once first refused⟩

/-! ## Effort -/

namespace Tries

variable {session later : Session} {uses : List TokenUse} {answer : Except Error Response}

/-- A try takes three calls of the token endpoint at most, and one call if a token is presented. -/
theorem spends (tries : Tries env config request session uses answer later) :
    Spends 3 (uses.countP TokenUse.isPresentation) (4 * (config.retry.maxRetries + 1)) session
      later := by
  cases tries with
  | missing access | unfit access =>
      exact access.spends.weaken (Nat.le_refl 3) (Nat.mul_le_mul_right _ (by decide))
  | @called _ _ value between _ _ access _ ran =>
      have call := Pipeline.run_spends_resource env config.retry
        (request.withHeader "authorization" value) between
      rw [ran] at call
      exact (access.spends.trans call).weaken (Nat.le_refl 3) (by omega)

theorem countP_isPresentation_le (tries : Tries env config request session uses answer later) :
    uses.countP TokenUse.isPresentation ≤ 1 := by
  cases tries <;> simp [TokenUse.isPresentation]

theorem countP_isDrop (tries : Tries env config request session uses answer later) :
    uses.countP TokenUse.isDrop = 0 := by
  cases tries <;> rfl

end Tries

/-- A request takes two calls that present a token and six calls of the token endpoint at most,
drops a token once at most, and sends no more requests than eight calls may. -/
theorem send_effort (env : Environment) (config : ClientConfig) (request : Request)
    (session : Session) :
    let later := (send env config request session).2
    ∃ uses, Performs env config request session uses (send env config request session).1 later ∧
      uses.countP TokenUse.isDrop ≤ 1 ∧
      later.calls .resource = session.calls .resource + uses.countP TokenUse.isPresentation ∧
      uses.countP TokenUse.isPresentation ≤ 2 ∧
      later.calls .token ≤ session.calls .token + 6 ∧
      later.sent.length ≤ session.sent.length + 8 * (config.retry.maxRetries + 1) := by
  intro later
  obtain ⟨uses, performs⟩ := send_performs env config request session
  refine ⟨uses, performs, ?_⟩
  change Performs env config request session uses _ later at performs
  clear_value later
  generalize (send env config request session).1 = answer at performs
  cases performs with
  | once first =>
      obtain ⟨token, resource, sent⟩ := first.spends
      have presented := first.countP_isPresentation_le
      rw [first.countP_isDrop]
      omega
  | twice first _ second =>
      obtain ⟨token, resource, sent⟩ := first.spends
      obtain ⟨tokenToo, resourceToo, sentToo⟩ := second.spends
      have presented := first.countP_isPresentation_le
      have presentedToo := second.countP_isPresentation_le
      rw [List.countP_append, List.countP_append, List.countP_cons_of_pos rfl,
        List.countP_cons_of_neg (by simp [TokenUse.isPresentation]), first.countP_isDrop,
        second.countP_isDrop]
      simp only [Session.calls, Session.invalidate] at *
      omega

end Api

end KeyBound
