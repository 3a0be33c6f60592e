import KeyBound.Proofs.Client.Likeness
import KeyBound.Proofs.Client.Operations
import KeyBound.Proofs.Json.Records

/-!
# Secrets stay in their place

What a client does and tells does not depend on the secrets of the tokens that it is granted. Two
runs whose servers grant tokens that are the same but for their secrets are the same but for the
tokens that requests present, the hashes of them in proofs, the secrets in the tokens that are
handed out, and what the parser reports of a body that is no grant.
-/

set_option autoImplicit false

namespace KeyBound

open Work

variable {env : Environment} {other : List Request → Request → Reply} {config : ClientConfig}

/-- Two errors are the same, or two bodies that are alike are refused for the same failure. -/
inductive Error.Alike (explain : Bytes → Json.Report) : Error → Error → Prop where
  | same (error : Error) : Alike explain error error
  | token {defect other : TokenDefect} :
      defect.Alike explain other → Alike explain (.token defect) (.token other)

/-- Two results are alike: values that are related, or errors that are alike. -/
abbrev Environment.Agrees {β γ : Type} (env : Environment) (R : β → γ → Prop) :
    Except Error β → Except Error γ → Prop :=
  Agree (Error.Alike (env.explain TokenResponse.Grant.decoder)) R

theorem Environment.Agrees.of_same {β γ : Type} {R : β → γ → Prop} {first : Except Error β}
    {second : Except Error γ} (agree : Agree Eq R first second) : env.Agrees R first second := by
  refine agree.mono ?_ fun _ _ => id
  rintro error _ rfl
  exact .same error

/-! ## Acquisitions -/

namespace Acquisition

theorem exchange_eq_andThen (env : Environment) (config : ClientConfig) :
    exchange env config =
      Work.andThen (Session.look env) fun now =>
        Work.andThen (Session.draw env) fun draw =>
          match request config now draw with
          | .error error => done (.error error)
          | .ok made =>
            Work.orError (Pipeline.runToken env config.retry made) fun
              | .advanced _ => done (.ok none)
              | .completed response =>
                Work.andThen (Session.look env) fun now =>
                  match TokenResponse.token (env.explain TokenResponse.Grant.decoder) response
                      now with
                  | .error defect => done (.error (.token defect))
                  | .ok token => done (.ok (some token)) := by
  funext session
  simp only [exchange, andThen_apply]
  cases request config (session.look env).1 ((session.look env).2.draw env).1 with
  | error error => rfl
  | ok made =>
      simp only [Work.orError, andThen_apply]
      cases Pipeline.runToken env config.retry made ((session.look env).2.draw env).2 with
      | mk answer later =>
          rcases answer with error | (response | step)
          · rfl
          · simp only [andThen_apply]
            cases TokenResponse.token (env.explain TokenResponse.Grant.decoder) response
              (later.look env).1 <;> rfl
          · rfl

theorem exchange_coupled (env : Environment) (other : List Request → Request → Reply)
    (config : ClientConfig) :
    Coupled env other (env.Agrees (Option.Rel AccessToken.Alike)) (exchange env config)
      (exchange (env.answering other) config) := by
  rw [exchange_eq_andThen, exchange_eq_andThen]
  refine (Coupled.look env other).andThen (fun _ => rfl) ?_
  rintro now _ rfl
  refine (Coupled.draw env other).andThen (fun _ => rfl) ?_
  rintro draw _ rfl
  split
  · exact .done (.error (.same _))
  · rename_i made _
    have ran : Coupled env other (env.Agrees Pipeline.TokenExchange.Alike) _ _ :=
      (Pipeline.runToken_coupled env other config.retry (.refl made)).mono fun _ _ =>
        Environment.Agrees.of_same
    refine ran.orError .same .refl fun ended answered alike => ?_
    cases alike with
    | advanced step => exact .done (.ok .none)
    | @completed response answer alike =>
        refine (Coupled.look env other).andThen (fun _ => rfl) ?_
        rintro now _ rfl
        rw [Environment.answering_explain]
        generalize env.explain TokenResponse.Grant.decoder = explain
        have tokens := TokenResponse.token_alike explain alike now
        generalize TokenResponse.token explain response now = token at tokens
        generalize TokenResponse.token explain answer now = granted at tokens
        cases tokens with
        | ok alike => exact .done (.ok (.some alike))
        | error alike => exact .done (.error (.token alike))

theorem exchanges_eq_orError (env : Environment) (config : ClientConfig) (roundsLeft : Nat) :
    exchanges env config roundsLeft =
      Work.orError (exchange env config) fun
        | some token => done (.ok token)
        | none =>
          match roundsLeft with
          | 0 => done (.error (.token (.unsettled (maxRounds + 1))))
          | roundsLeft + 1 => exchanges env config roundsLeft := by
  funext session
  unfold exchanges
  simp only [Work.orError, andThen_apply]
  cases exchange env config session with
  | mk answer later =>
      rcases answer with error | (_ | token)
      · rfl
      · cases roundsLeft <;> rfl
      · rfl

theorem optional_refl (token : Option AccessToken) :
    Option.Rel AccessToken.Alike token token := by
  cases token with
  | none => exact .none
  | some token => exact .some (.refl token)

theorem exchanges_coupled (env : Environment) (other : List Request → Request → Reply)
    (config : ClientConfig) (roundsLeft : Nat) :
    Coupled env other (env.Agrees AccessToken.Alike) (exchanges env config roundsLeft)
      (exchanges (env.answering other) config roundsLeft) := by
  induction roundsLeft with
  | zero =>
      rw [exchanges_eq_orError, exchanges_eq_orError]
      refine (exchange_coupled env other config).orError .same optional_refl fun _ _ alike => ?_
      cases alike with
      | some alike => exact .done (.ok alike)
      | none => exact .done (.error (.same _))
  | succ roundsLeft ih =>
      rw [exchanges_eq_orError, exchanges_eq_orError]
      refine (exchange_coupled env other config).orError .same optional_refl fun _ _ alike => ?_
      cases alike with
      | some alike => exact .done (.ok alike)
      | none => exact ih

theorem fetch_eq_andThen (env : Environment) (config : ClientConfig) :
    fetch env config =
      (changing (·.tell [.span .token .clientCredentials])).andThen fun _ =>
        exchanges env config maxRounds := rfl

theorem fetch_coupled (env : Environment) (other : List Request → Request → Reply)
    (config : ClientConfig) :
    Coupled env other (env.Agrees AccessToken.Alike) (fetch env config)
      (fetch (env.answering other) config) := by
  rw [fetch_eq_andThen, fetch_eq_andThen]
  exact (Coupled.tell env other _).andThen (fun _ => rfl) fun _ _ _ =>
    exchanges_coupled env other config maxRounds

/-- Whether the token that is kept need not be replaced does not depend on its secret. -/
theorem fresh_coupled (env : Environment) (other : List Request → Request → Reply)
    (config : ClientConfig) :
    Coupled env other (env.Agrees (Option.Rel AccessToken.Alike)) (fresh env config)
      (fresh (env.answering other) config) := by
  have unsent (env : Environment) (session : Session) :
      (fresh env config session).2.sent = session.sent := by
    rw [fresh_session]
    rfl
  refine .of_unsent (unsent env) (unsent _) ?_
  rintro session _ ⟨kept, sent⟩
  have after : ∀ cached, Option.Rel AccessToken.Alike session.cached cached → Session.Alike
      (session.look env).2 { (session.look env).2 with cached, sent := _ } :=
    fun _ kept => .mk kept sent
  unfold fresh
  simp only [Session.look, Environment.answering] at after ⊢
  -- Only the times of the kept token are looked at, and both tokens have the same.
  generalize held : session.cached = cached at kept
  rw [held] at after
  cases kept with
  | none => exact ⟨.ok .none, after _ .none⟩
  | some alike =>
      simp only [alike.needsRenewal?_eq]
      split
      · exact ⟨.error (.same _), after _ (.some alike)⟩
      · exact ⟨.ok .none, after _ (.some alike)⟩
      · exact ⟨.ok (.some alike), after _ (.some alike)⟩

theorem renew_eq_orError (env : Environment) (config : ClientConfig) :
    renew env config =
      Work.orError (fetch env config) fun token =>
        (changing ({ · with cached := some token })).andThen fun _ => done (.ok token) := by
  funext session
  simp only [renew, Work.orError, andThen_apply]
  cases fetch env config session with
  | mk result later => cases result <;> rfl

theorem renew_coupled (env : Environment) (other : List Request → Request → Reply)
    (config : ClientConfig) :
    Coupled env other (env.Agrees AccessToken.Alike) (renew env config)
      (renew (env.answering other) config) := by
  rw [renew_eq_orError, renew_eq_orError]
  refine (fetch_coupled env other config).orError .same .refl fun token granted alike => ?_
  exact (Coupled.keep env other alike).andThen (fun _ => rfl) fun _ _ _ => .done (.ok alike)

theorem accessToken_eq_orError (env : Environment) (config : ClientConfig) :
    accessToken env config =
      Work.orError (fresh env config) fun
        | some token => done (.ok token)
        | none =>
          Work.orError (fresh env config) fun
            | some token => done (.ok token)
            | none => renew env config := by
  funext session
  simp only [accessToken, Work.orError, andThen_apply]
  rcases fresh env config session with ⟨error | (_ | token), later⟩
  · rfl
  · simp only [andThen_apply]
    rcases fresh env config later with ⟨error | (_ | token), later⟩ <;> rfl
  · rfl

theorem accessToken_coupled (env : Environment) (other : List Request → Request → Reply)
    (config : ClientConfig) :
    Coupled env other (env.Agrees AccessToken.Alike) (accessToken env config)
      (accessToken (env.answering other) config) := by
  rw [accessToken_eq_orError, accessToken_eq_orError]
  refine (fresh_coupled env other config).orError .same optional_refl fun _ _ held => ?_
  cases held with
  | some alike => exact .done (.ok alike)
  | none =>
      refine (fresh_coupled env other config).orError .same optional_refl fun _ _ held => ?_
      cases held with
      | some alike => exact .done (.ok alike)
      | none => exact renew_coupled env other config

end Acquisition

/-! ## Calls that present a token -/

namespace Api

theorem attempt_eq_orError (env : Environment) (config : ClientConfig) (request : Request) :
    attempt env config request =
      Work.orError (Acquisition.accessToken env config) fun token =>
        match token.authorization? with
        | none => done (.error (.config .headerInvalid))
        | some value =>
          Pipeline.run env config.retry .resource (request.withHeader "authorization" value) := by
  funext session
  simp only [attempt, Work.orError, andThen_apply]
  rcases Acquisition.accessToken env config session with ⟨error | token, later⟩
  · rfl
  · dsimp only
    cases token.authorization? <;> rfl

/-- Tokens that are alike are presented by headers that are, if they can be presented. -/
theorem authorization?_alike {token granted : AccessToken} (alike : token.Alike granted) :
    Option.Rel (fun value answer => Headers.FieldAlike ("authorization", value)
      ("authorization", answer)) token.authorization? granted.authorization? := by
  rcases alike.secret with same | ⟨visible, visibleToo⟩
  · rw [show token.authorization? = granted.authorization? by
      rw [AccessToken.authorization?, AccessToken.authorization?, same]]
    cases granted.authorization? with
    | none => exact .none
    | some value => exact .some (.same _)
  · rw [AccessToken.authorization?_of_visible visible,
      AccessToken.authorization?_of_visible visibleToo]
    exact .some (.authorization List.mem_cons_self visible visibleToo)

theorem attempt_coupled (env : Environment) (other : List Request → Request → Reply)
    (config : ClientConfig) (request : Request) :
    Coupled env other (env.Agrees Eq) (attempt env config request)
      (attempt (env.answering other) config request) := by
  rw [attempt_eq_orError, attempt_eq_orError]
  refine (Acquisition.accessToken_coupled env other config).orError .same .refl ?_
  intro token granted alike
  have presented := authorization?_alike alike
  generalize token.authorization? = value at presented
  generalize granted.authorization? = answer at presented
  cases presented with
  | none => exact .done (.error (.same _))
  | some field =>
      have presenting := (Request.Alike.refl request).withHeader
        (show Headers.fold "authorization" = "authorization" by decide) field
      -- The request asks for no token, so that its responses are not only alike but the same.
      refine (Pipeline.run_coupled env other config.retry .resource presenting).mono ?_
      rw [Request.target_withAuthorization]
      exact fun _ _ agree => Environment.Agrees.of_same
        (agree.mono (fun _ _ => id) fun _ _ => Response.Alike.eq_of_resource)

theorem send_eq_orError (env : Environment) (config : ClientConfig) (request : Request) :
    send env config request =
      Work.orError (attempt env config request) fun response =>
        if response.status = unauthorized then
          (changing Session.invalidate).andThen fun _ =>
            Work.orError (attempt env config request) fun response => done (accepted response)
        else done (accepted response) := by
  funext session
  simp only [send, Work.orError, andThen_apply]
  rcases attempt env config request session with ⟨error | response, later⟩
  · rfl
  · dsimp only
    split
    · simp only [andThen_apply, changing_apply]
      rcases attempt env config request later.invalidate with ⟨error | response, later⟩ <;> rfl
    · rfl

/-- A request gets the same answer whatever the secret of the token that it presents. -/
theorem send_coupled (env : Environment) (other : List Request → Request → Reply)
    (config : ClientConfig) (request : Request) :
    Coupled env other (env.Agrees Eq) (send env config request)
      (send (env.answering other) config request) := by
  have ended (response : Response) :
      Coupled env other (env.Agrees Eq) (done (accepted response)) (done (accepted response)) :=
    .done (.refl .same (fun _ => rfl) _)
  rw [send_eq_orError, send_eq_orError]
  refine (attempt_coupled env other config request).orError .same (fun _ => rfl) ?_
  rintro response _ rfl
  split
  · refine (Coupled.invalidate env other).andThen (fun _ => rfl) fun _ _ _ => ?_
    refine (attempt_coupled env other config request).orError .same (fun _ => rfl) ?_
    rintro response _ rfl
    exact ended response
  · exact ended response

section

variable {α : Type}

theorem fetch_eq_orError (decoder : Json.Decoder α) (env : Environment) (config : ClientConfig)
    (url : Url) :
    fetch decoder env config url =
      Work.orError (send env config (jsonRequest url)) fun response =>
        done ((decoded (env.explain decoder) decoder response).map fun value =>
          (value, response.headers)) := by
  funext session
  simp only [fetch, Work.orError, andThen_apply]
  rcases send env config (jsonRequest url) session with ⟨error | response, later⟩
  · rfl
  · dsimp only
    cases decoded (env.explain decoder) decoder response <;> rfl

theorem fetch_coupled (decoder : Json.Decoder α) (env : Environment)
    (other : List Request → Request → Reply) (config : ClientConfig) (url : Url) :
    Coupled env other (env.Agrees Eq) (fetch decoder env config url)
      (fetch decoder (env.answering other) config url) := by
  rw [fetch_eq_orError, fetch_eq_orError]
  refine (send_coupled env other config _).orError .same (fun _ => rfl) ?_
  rintro response _ rfl
  exact .done (.refl .same (fun _ => rfl) _)

theorem map_coupled {β : Type} {first second : Work (Except Error α)}
    {env : Environment} {other : List Request → Request → Reply}
    (coupled : Coupled env other (env.Agrees Eq) first second) (make : α → β) :
    Coupled env other (env.Agrees Eq) (first.andThen fun result => done (result.map make))
      (second.andThen fun result => done (result.map make)) := by
  refine coupled.andThen (.refl .same fun _ => rfl) ?_
  rintro _ _ (rfl | alike)
  · exact .done (.ok rfl)
  · exact .done (.error alike)

theorem getJson_eq_andThen (decoder : Json.Decoder α) (env : Environment) (config : ClientConfig)
    (path : String) :
    getJson decoder env config path =
      match config.resolve path with
      | .error error => done (.error error)
      | .ok url => Work.andThen (fetch decoder env config url) fun result =>
          done (result.map (·.1)) := by
  funext session
  rw [getJson]
  cases config.resolve path <;> rfl

theorem getJson_coupled (decoder : Json.Decoder α) (env : Environment)
    (other : List Request → Request → Reply) (config : ClientConfig) (path : String) :
    Coupled env other (env.Agrees Eq) (getJson decoder env config path)
      (getJson decoder (env.answering other) config path) := by
  rw [getJson_eq_andThen, getJson_eq_andThen]
  split
  · exact .done (.error (.same _))
  · exact map_coupled (fetch_coupled decoder env other config _) _

theorem pages_eq_andThen (decoder : Json.Decoder α) (env : Environment) (config : ClientConfig)
    (first : Url) (target : Option String) :
    (pages decoder env config first · target) =
      match target.elim (.ok first) config.resolve with
      | .error error => done (.error error)
      | .ok url => Work.andThen (fetch (Json.decodeList decoder) env config url) fun result =>
          done (result.map fun (items, headers) => ⟨items, headers⟩) := by
  funext session
  rw [pages]
  cases target.elim (.ok first) config.resolve <;> rfl

theorem pages_coupled (decoder : Json.Decoder α) (env : Environment)
    (other : List Request → Request → Reply) (config : ClientConfig) (first : Url)
    (target : Option String) :
    Coupled env other (env.Agrees Eq) (pages decoder env config first · target)
      (pages decoder (env.answering other) config first · target) := by
  rw [pages_eq_andThen, pages_eq_andThen]
  split
  · exact .done (.error (.same _))
  · exact map_coupled (fetch_coupled (Json.decodeList decoder) env other config _) _

end

end Api

/-! ## Cursors -/

variable {α : Type}

namespace Traversal

def working (fetch : Fetcher Session α) (fuel : Nat) (cursor : Cursor α)
    (history : List (Occurrence α)) :
    Work (Option (Except Error (Option α)) × Cursor α × List (Occurrence α)) := fun session =>
  let (answer, later) := call fetch fuel ⟨cursor, session, history⟩
  ((answer, later.cursor, later.history), later.fetcher)

theorem working_succ (fetch : Fetcher Session α) (fuel : Nat) (cursor : Cursor α)
    (history : List (Occurrence α)) :
    working fetch (fuel + 1) cursor history =
      match cursor.turn with
      | .item value cursor =>
        done (some (.ok (some value)), cursor, history ++ [.answered (.ok (some value))])
      | .finished cursor => done (some (.ok none), cursor, history ++ [.answered (.ok none)])
      | .failed error cursor =>
        done (some (.error error), cursor, history ++ [.answered (.error error)])
      | .fetch target waiting =>
        Work.andThen (fetch · target) fun
          | .ok page =>
            working fetch fuel (waiting.receive page) (history ++ [.fetched target (.ok page)])
          | .error error =>
            done (some (.error error), waiting.restore target,
              history ++ [.fetched target (.error error), .answered (.error error)]) := by
  funext session
  simp only [working, call, turn]
  cases cursor.turn with
  | item | finished | failed => rfl
  | fetch target waiting =>
      simp only [andThen_apply]
      rcases fetch session target with ⟨error | page, later⟩ <;> rfl

def Leaves (env : Environment)
    (first second : Option (Except Error (Option α)) × Cursor α × List (Occurrence α)) : Prop :=
  Option.Rel (env.Agrees Eq) first.1 second.1 ∧ first.2.1 = second.2.1

theorem Leaves.refl (env : Environment)
    (ended : Option (Except Error (Option α)) × Cursor α × List (Occurrence α)) :
    Leaves env ended ended := by
  obtain ⟨answer, rest⟩ := ended
  cases answer with
  | none => exact ⟨.none, rfl⟩
  | some result => exact ⟨.some (.refl .same (fun _ => rfl) result), rfl⟩

theorem working_coupled {fetch fetchToo : Fetcher Session α}
    (coupled : ∀ target, Coupled env other (env.Agrees Eq) (fetch · target) (fetchToo · target))
    (fuel : Nat) (cursor : Cursor α) (history : List (Occurrence α)) :
    Coupled env other (Leaves env) (working fetch fuel cursor history)
      (working fetchToo fuel cursor history) := by
  induction fuel generalizing cursor history with
  | zero =>
      exact (.done (.refl env _) : Coupled env other (Leaves env) (done (none, cursor, history)) _)
  | succ fuel ih =>
      rw [working_succ, working_succ]
      cases cursor.turn with
      | item | finished | failed => exact .done (.refl env _)
      | fetch target waiting =>
          refine (coupled target).andThen (.refl .same fun _ => rfl) ?_
          rintro _ _ (rfl | alike)
          · exact ih _ _
          · exact .done ⟨.some (.error alike), rfl⟩

end Traversal

/-! ## Applications -/

/-- Two answers are the same, or hand out tokens that are the same but for their secrets, or are
errors that are alike. -/
inductive Answer.Alike (env : Environment) : Answer α → Answer α → Prop where
  | same (answer : Answer α) : Alike env answer answer
  | token {result other : Except Error AccessToken} :
      env.Agrees AccessToken.Alike result other → Alike env (.token result) (.token other)
  | held {token other : Option AccessToken} :
      Option.Rel AccessToken.Alike token other → Alike env (.held token) (.held other)
  | response {result other : Except Error Response} :
      env.Agrees Eq result other → Alike env (.response result) (.response other)
  | document {result other : Except Error α} :
      env.Agrees Eq result other → Alike env (.document result) (.document other)
  | item {result other : Option (Except Error (Option α))} :
      Option.Rel (env.Agrees Eq) result other → Alike env (.item result) (.item other)

namespace Operation

def working (env : Environment) (config : ClientConfig) (operation : Operation α)
    (cursors : List (OpenCursor α)) : Work (Answer α × List (OpenCursor α)) := fun session =>
  let (answer, space) := operation.perform env config ⟨session, cursors⟩
  ((answer, space.cursors), space.session)

theorem working_eq (env : Environment) (config : ClientConfig) (operation : Operation α)
    (cursors : List (OpenCursor α)) :
    operation.working env config cursors =
      match operation with
      | tokens call =>
        Work.andThen (call.perform env config) fun result => done (ofTokens result, cursors)
      | held => (reading (·.cached)).andThen fun token => done (.held token, cursors)
      | send request =>
        Work.andThen (Api.send env config request) fun result => done (.response result, cursors)
      | getJson decoder path =>
        Work.andThen (Api.getJson decoder env config path) fun result =>
          done (.document result, cursors)
      | paginate decoder path =>
        match config.resolve path with
        | .error error => done (.opened (.error error), cursors)
        | .ok first => done (.opened (.ok ()), cursors ++ [⟨decoder, first, .start⟩])
      | next place fuel =>
        match cursors[place]? with
        | none => done (.item none, cursors)
        | some asked =>
          (Traversal.working (Api.pages asked.decoder env config asked.first) fuel asked.cursor
            []).andThen fun (result, cursor, _) =>
              done (.item result, cursors.set place { asked with cursor })
      | debug => (reading (Api.debugText env config)).andThen fun text =>
          done (.shown text, cursors) := by
  funext session
  cases operation with
  | paginate decoder path =>
      simp only [working, perform]
      cases config.resolve path <;> rfl
  | next place fuel =>
      simp only [working, perform]
      cases cursors[place]? <;> rfl
  | tokens | held | send | getJson | debug => rfl

/-- Two answers are alike, and the same cursors are open after them. -/
def Leaves (env : Environment) (first second : Answer α × List (OpenCursor α)) : Prop :=
  first.1.Alike env second.1 ∧ first.2 = second.2

def LeavesAll (env : Environment) (first second : List (Answer α) × List (OpenCursor α)) : Prop :=
  List.Forall₂ (Answer.Alike env) first.1 second.1 ∧ first.2 = second.2

theorem Leaves.refl (env : Environment) (ended : Answer α × List (OpenCursor α)) :
    Leaves env ended ended :=
  ⟨.same _, rfl⟩

theorem LeavesAll.refl (env : Environment) (ended : List (Answer α) × List (OpenCursor α)) :
    LeavesAll env ended ended :=
  ⟨List.forall₂_same.mpr fun answer _ => .same answer, rfl⟩

theorem tokens_coupled (env : Environment) (other : List Request → Request → Reply)
    (config : ClientConfig) (call : Acquisition.TokenCall) :
    Coupled env other (Option.Rel (env.Agrees AccessToken.Alike)) (call.perform env config)
      (call.perform (env.answering other) config) := by
  have called {first second : Work (Except Error AccessToken)} {cancelAt : Option Delay}
      (coupled : Coupled { env with cancelAt } other (env.Agrees AccessToken.Alike) first second) :
      Coupled env other (Option.Rel (env.Agrees AccessToken.Alike))
        (first.andThen fun result => done (some result))
        (second.andThen fun result => done (some result)) :=
    coupled.cancelledAt.andThen (.refl .same .refl) fun _ _ agree => .done (.some agree)
  cases call with
  | access cancelAt =>
      exact called (Acquisition.accessToken_coupled { env with cancelAt } other config)
  | fetch cancelAt => exact called (Acquisition.fetch_coupled { env with cancelAt } other config)
  | invalidate =>
      exact (Coupled.invalidate env other).andThen (fun _ => rfl) fun _ _ _ => .done .none

theorem debugText_coupled (env : Environment) (other : List Request → Request → Reply)
    (config : ClientConfig) :
    Coupled env other Eq (reading (Api.debugText env config))
      (reading (Api.debugText (env.answering other) config)) := by
  refine .reading fun session twin alike => ?_
  have tokens : Acquisition.debugText config session = Acquisition.debugText config twin := by
    unfold Acquisition.debugText
    rw [alike.isSome_cached_eq]
  unfold Api.debugText
  rw [tokens, alike.isCancelled_eq env other]

theorem answer_coupled {β : Type} {R : β → β → Prop} {first second : Work β}
    (coupled : Coupled env other R first second) (refl : ∀ value, R value value)
    (make : β → Answer α)
    (alike : ∀ value answer, R value answer → (make value).Alike env (make answer))
    (cursors : List (OpenCursor α)) :
    Coupled env other (Leaves env) (first.andThen fun value => done (make value, cursors))
      (second.andThen fun value => done (make value, cursors)) :=
  coupled.andThen refl fun _ _ related => .done ⟨alike _ _ related, rfl⟩

theorem working_coupled (env : Environment) (other : List Request → Request → Reply)
    (config : ClientConfig) (operation : Operation α) (cursors : List (OpenCursor α)) :
    Coupled env other (Leaves env) (operation.working env config cursors)
      (operation.working (env.answering other) config cursors) := by
  rw [working_eq, working_eq]
  cases operation with
  | tokens call =>
      refine answer_coupled (tokens_coupled env other config call) ?_ ofTokens ?_ cursors
      · rintro (_ | result)
        · exact .none
        · exact .some (.refl .same .refl result)
      · rintro result answer (agree | _)
        · exact .token agree
        · exact .same _
  | held =>
      refine answer_coupled (.reading ?_) Acquisition.optional_refl .held (fun _ _ => .held) cursors
      rintro _ _ ⟨kept, _⟩
      exact kept
  | send request =>
      exact answer_coupled (Api.send_coupled env other config request) (.refl .same fun _ => rfl)
        .response (fun _ _ => .response) cursors
  | getJson decoder path =>
      exact answer_coupled (Api.getJson_coupled decoder env other config path)
        (.refl .same fun _ => rfl) .document (fun _ _ => .document) cursors
  | paginate decoder path =>
      dsimp only
      split <;> exact .done ⟨.same _, rfl⟩
  | next place fuel =>
      dsimp only
      split
      · exact .done ⟨.same _, rfl⟩
      · rename_i asked _
        refine (Traversal.working_coupled (Api.pages_coupled asked.decoder env other config
          asked.first) fuel asked.cursor []).andThen (.refl env) ?_
        rintro ⟨answer, cursor, _⟩ ⟨answerToo, _, _⟩ ⟨alike, rfl⟩
        exact .done ⟨.item alike, rfl⟩
  | debug =>
      refine answer_coupled (debugText_coupled env other config) (fun _ => rfl) .shown ?_ cursors
      rintro text _ rfl
      exact .same _

def workingAll (env : Environment) (config : ClientConfig) (operations : List (Operation α))
    (cursors : List (OpenCursor α)) : Work (List (Answer α) × List (OpenCursor α)) := fun session =>
  let (answers, space) := performAll env config operations ⟨session, cursors⟩
  ((answers, space.cursors), space.session)

theorem workingAll_cons (env : Environment) (config : ClientConfig) (operation : Operation α)
    (operations : List (Operation α)) (cursors : List (OpenCursor α)) :
    workingAll env config (operation :: operations) cursors =
      (operation.working env config cursors).andThen fun (answer, cursors) =>
        (workingAll env config operations cursors).andThen fun (answers, cursors) =>
          done (answer :: answers, cursors) := rfl

theorem workingAll_coupled (env : Environment) (other : List Request → Request → Reply)
    (config : ClientConfig) (operations : List (Operation α)) (cursors : List (OpenCursor α)) :
    Coupled env other (LeavesAll env) (workingAll env config operations cursors)
      (workingAll (env.answering other) config operations cursors) := by
  induction operations generalizing cursors with
  | nil =>
      exact (.done (.refl env ([], cursors)) :
        Coupled env other (LeavesAll env) (done ([], cursors)) _)
  | cons operation operations ih =>
      rw [workingAll_cons, workingAll_cons]
      refine (working_coupled env other config operation cursors).andThen (.refl env) ?_
      rintro ⟨answer, cursors⟩ ⟨answerToo, _⟩ ⟨alike, rfl⟩
      refine (ih cursors).andThen (.refl env) ?_
      rintro ⟨answers, cursors⟩ ⟨answersToo, _⟩ ⟨alikes, rfl⟩
      exact .done ⟨.cons alike alikes, rfl⟩

end Operation

/-- Two runs of an application, against servers whose replies are the same but for the secrets of
the tokens that they grant, tell the same events, keep the same handshake, send the same requests
at the same times but for the tokens in them, and end with the same answers but for the secrets of
the tokens that are handed out. Where such a reply is no grant, both runs end with the same failure
and status; the parser reports of the body that each of them has read. -/
theorem operations_keep_secrets (env : Environment) (other : List Request → Request → Reply)
    (config : ClientConfig) (operations : List (Operation α)) :
    let first := Operation.performAll env config operations (.start config)
    let second := Operation.performAll (env.answering other) config operations (.start config)
    Session.RepliesAlike env other first.2.session second.2.session →
      first.2.session.events = second.2.session.events ∧
        first.2.session.handshake = second.2.session.handshake ∧
        List.Forall₂ Request.SentAlike first.2.session.sent second.2.session.sent ∧
        List.Forall₂ (Answer.Alike env) first.1 second.1 ∧
        Option.Rel AccessToken.Alike first.2.session.cached second.2.session.cached ∧
        first.2.cursors = second.2.cursors := by
  intro first second replies
  have begun : (Session.start config.nonceValidity).Alike (.start config.nonceValidity) :=
    .mk .none .nil
  obtain ⟨⟨answers, cursors⟩, sessions⟩ :=
    (Operation.workingAll_coupled env other config operations []).alike _ _ begun replies
  change first.2.session.Alike second.2.session at sessions
  change List.Forall₂ (Answer.Alike env) first.1 second.1 at answers
  exact ⟨sessions.events_eq, sessions.handshake_eq, sessions.sent, answers, sessions.cached,
    cursors⟩

/-! ## Two servers with a secret each -/

private def stating (more : List (String × Json.Value)) (secret : String) : Reply :=
  ⟨.zero, .ok ⟨200, [], utf8 (Json.Value.object (("access_token", .text secret) :: more)).toText⟩⟩

section

variable {more : List (String × Json.Value)} {secret other : String}

private theorem stating_alike (printed : ∀ member ∈ more, Json.IsPrinted member.2)
    (visible : Text.IsVisible secret) (visibleToo : Text.IsVisible other) :
    (stating more secret).Alike .token (stating more other) := by
  obtain ⟨docs, _, print, _, _⟩ := Json.exists_printed printed
  have prints (secret : String) := (Json.MembersPrint.cons (Json.prints_text secret) print :
    Json.MembersPrint (("access_token", .text secret) :: more) _).prints
  refine ⟨rfl, .ok (.granting (by decide) (by decide) (.grants ?_))⟩
  rw [Json.read_of_prints (prints secret), Json.read_of_prints (prints other)]
  have changed : TokenResponse.isSecret "access_token" secret other :=
    .inl ⟨rfl, visible, visibleToo⟩
  exact .object (.replaced (Json.textOf_textPieces "access_token")
    (.texts (Json.textOf_textPieces secret) (Json.textOf_textPieces other) changed)
    (docs.alike_refl _))

private def lender (more : List (String × Json.Value)) (secret : String) : Script where
  replies := [stating more secret, ⟨.zero, .ok ⟨200, [], utf8 "[]"⟩⟩]
  tokenReplies := none

/-- The first request that is sent to such servers has to ask for a token. -/
private theorem lender_repliesAlike {env : Environment} {first second : Session}
    (served : env.respond = (lender more secret).respond)
    (printed : ∀ member ∈ more, Json.IsPrinted member.2) (visible : Text.IsVisible secret)
    (visibleToo : Text.IsVisible other)
    (asks : first.sent[0]?.map (·.2.target) = some .token) :
    Session.RepliesAlike env (lender more other).respond first second := by
  have replies (secret : String) {env : Environment} {session : Session} {position : Nat}
      {reply : Reply} (served : env.respond = (lender more secret).respond)
      (replied : session.reply? env position = some reply) :
      reply = ((lender more secret).replies[position]?).getD Script.exhausted := by
    have inside := Session.lt_of_reply? replied
    obtain ⟨entry, _, rfl⟩ := Option.map_eq_some_iff.mp replied
    rw [served, Script.respond_of_common rfl]
    simp [Nat.min_eq_left (Nat.le_of_lt inside)]
  intro position entry reply answer placed replied answered
  rw [replies secret served replied, replies other rfl answered]
  cases position with
  | zero =>
      rw [placed] at asks
      have asks : entry.2.target = .token := Option.some.inj asks
      rw [asks]
      exact stating_alike printed visible visibleToo
  | succ position =>
      simp only [lender, List.getElem?_cons_succ]
      exact ⟨rfl, .refl (fun _ => rfl) .same _⟩

end

private def performed (operations : List (Operation Unit)) (env : Environment) :
    List (Answer Unit) × Workspace Unit :=
  Operation.performAll env .sample operations (.start .sample)

private def listing : List (Operation Unit) :=
  [.send (Api.jsonRequest (.sample ["api", "v1", "users"])), .held]

private def hourly : List (String × Json.Value) :=
  [("token_type", .text "Bearer"), ("expires_in", .ofInt 3600)]

private def home : Environment := .ofScript (lender hourly "at-1")

private def away : Environment := home.answering (lender hourly "at-2").respond

/-- A token is asked for and then presented, and the tokens of the two servers are handed out. -/
private theorem listing_secrets :
    let secret (run : List (Answer Unit) × Workspace Unit) :=
      run.2.session.cached.map (·.secret.text)
    (performed listing home).2.session.sent[0]?.map (·.2.target) = some .token ∧
      secret (performed listing home) = some "at-1" ∧
      secret (performed listing away) = some "at-2" := by
  decide +kernel

theorem operations_keep_secrets_lent :
    Session.RepliesAlike home (lender hourly "at-2").respond (performed listing home).2.session
        (performed listing away).2.session ∧
      (performed listing home).2.session.cached.map (·.secret.text) = some "at-1" ∧
      (performed listing away).2.session.cached.map (·.secret.text) = some "at-2" ∧
      (performed listing home).2.session.events = (performed listing away).2.session.events ∧
      List.Forall₂ Request.SentAlike (performed listing home).2.session.sent
        (performed listing away).2.session.sent ∧
      List.Forall₂ (Answer.Alike home) (performed listing home).1 (performed listing away).1 := by
  obtain ⟨asks, lent, lentToo⟩ := listing_secrets
  have printed : ∀ member ∈ hourly, Json.IsPrinted member.2 :=
    List.forall_mem_cons.mpr ⟨Json.isPrinted_text "Bearer",
      List.forall_mem_singleton.mpr (Json.isPrinted_integer 3600)⟩
  have replies : Session.RepliesAlike home (lender hourly "at-2").respond
      (performed listing home).2.session (performed listing away).2.session :=
    lender_repliesAlike rfl printed (by decide) (by decide) asks
  unfold performed away at *
  obtain ⟨events, _, sent, answers, _⟩ := operations_keep_secrets home
    (lender hourly "at-2").respond .sample listing replies
  exact ⟨replies, lent, lentToo, events, sent, answers⟩

/-- A parser that misses the type of a token where the object ends, in a text of one line. -/
private def missing (text : Bytes) : Json.Report := ⟨"missing field `token_type`", 1, text.length⟩

private def untyped : Environment :=
  { Environment.ofScript (lender [] "at-1") with explain := fun _ => missing }

/-- A body without a type is no grant. How far the parser had read then tells the length of the
secret, so that two runs do not end with the same errors. -/
theorem operations_tell_length :
    let other := (lender [] "at-1234").respond
    let short := performed [.tokens (.access none)] untyped
    let long := performed [.tokens (.access none)] (untyped.answering other)
    let refused (column : Nat) : Error := .token
      (.malformed (.here .mismatched) ⟨"missing field `token_type`", 1, column⟩ 200)
    Session.RepliesAlike untyped other short.2.session long.2.session ∧
      short.1.map Answer.error? = [some (refused 23)] ∧
      long.1.map Answer.error? = [some (refused 26)] := by
  intro other short long refused
  have ended : short.2.session.sent[0]?.map (·.2.target) = some .token ∧
      short.1.map Answer.error? = [some (refused 23)] ∧
      long.1.map Answer.error? = [some (refused 26)] := by
    decide +kernel
  exact ⟨lender_repliesAlike rfl nofun (by decide) (by decide) ended.1, ended.2⟩

end KeyBound
