import KeyBound.Proofs.Client.TokenUse

/-!
# Refused tokens across calls

Any number of calls one after the other, followed through their use of tokens. A token that a call
presents is the one acquired last, unless that was dropped. The first refusal of a call drops the
token; the second one leaves it, and it is presented again as long as it need not be replaced.
-/

set_option autoImplicit false

namespace KeyBound

open Session

/-! ## Histories -/

inductive Call : Type 1 where
  | send (request : Request)
  | getJson {α : Type} (decoder : Json.Decoder α) (path : String)
  | page {α : Type} (decoder : Json.Decoder α) (first : Url) (target : Option String)

namespace Call

def perform (env : Environment) (config : ClientConfig) (session : Session) : Call → Session
  | send request => (Api.send env config request session).2
  | getJson decoder path => (Api.getJson decoder env config path session).2
  | page decoder first target => (Api.pages decoder env config first session target).2

theorem perform_eq (env : Environment) (config : ClientConfig) (session : Session) (call : Call) :
    call.perform env config session = session ∨
      ∃ request, call.perform env config session = (Api.send env config request session).2 := by
  have fetches {α : Type} (decoder : Json.Decoder α) (url : Url) :
      (Api.fetch decoder env config url session).2 =
        (Api.send env config (Api.jsonRequest url) session).2 := by
    unfold Api.fetch
    split
    · rename_i sent
      rw [sent]
    · rename_i sent
      rw [sent]
      split <;> rfl
  cases call with
  | send request => exact .inr ⟨request, rfl⟩
  | getJson decoder path =>
      simp only [perform, Api.getJson]
      split
      · exact .inl rfl
      · rename_i url _
        exact .inr ⟨_, fetches decoder url⟩
  | page decoder first target =>
      simp only [perform, Api.pages]
      split
      · exact .inl rfl
      · rename_i url _
        exact .inr ⟨_, fetches (Json.decodeList decoder) url⟩

def performAll (env : Environment) (config : ClientConfig) (calls : List Call)
    (session : Session) : Session :=
  calls.foldl (perform env config) session

end Call

namespace Api

variable {env : Environment} {config : ClientConfig} {request : Request}
  {begun session later : Session} {history uses : List TokenUse} {token : AccessToken}
  {answer : Except Error Response}

/-- What calls have made of tokens from some session on. -/
inductive History (env : Environment) (config : ClientConfig) (begun : Session) :
    List TokenUse → Session → Prop where
  | nothing : History env config begun [] begun
  | more {request : Request} {history uses : List TokenUse} {answer : Except Error Response}
      {session later : Session} :
      History env config begun history session →
      Performs env config request session uses answer later →
      History env config begun (history ++ uses) later

theorem History.perform (past : History env config begun history session) (call : Call) :
    ∃ further, History env config begun further (call.perform env config session) := by
  rcases call.perform_eq env config session with same | ⟨request, same⟩
  · rw [same]
    exact ⟨history, past⟩
  · rw [same]
    obtain ⟨uses, performs⟩ := send_performs env config request session
    exact ⟨history ++ uses, past.more performs⟩

theorem exists_history (env : Environment) (config : ClientConfig) (begun : Session)
    (calls : List Call) :
    ∃ history, History env config begun history (Call.performAll env config calls begun) := by
  have onward (calls : List Call) {history : List TokenUse} {session : Session}
      (past : History env config begun history session) :
      ∃ history, History env config begun history (Call.performAll env config calls session) := by
    induction calls generalizing history session with
    | nil => exact ⟨history, past⟩
    | cons call calls ih =>
        obtain ⟨further, ahead⟩ := past.perform call
        exact ih ahead
  exact onward calls .nothing

private theorem append_split {α : Type} {first second before after : List α} {a : α}
    (same : first ++ second = before ++ a :: after) :
    (∃ more, first = before ++ a :: more ∧ after = more ++ second) ∨
      ∃ between, before = first ++ between ∧ second = between ++ a :: after := by
  rcases List.append_eq_append_iff.mp same with ⟨between, rfl, split⟩ | ⟨between, rfl, split⟩
  · exact .inr ⟨between, rfl, split⟩
  · cases between with
    | nil => exact .inr ⟨[], by simp, split.symm⟩
    | cons b between =>
        obtain ⟨rfl, rfl⟩ := List.cons_eq_cons.mp split
        exact .inl ⟨between, rfl, rfl⟩

/-! ## The token at hand -/

/-- The token at hand after a history: the one that was acquired last, unless it was dropped. -/
def atHand (history : List TokenUse) : Option AccessToken := history.foldl TokenUse.update none

@[simp] theorem atHand_append (history uses : List TokenUse) :
    atHand (history ++ uses) = uses.foldl TokenUse.update (atHand history) :=
  List.foldl_append

/-- After a drop a token is at hand only if it was acquired since. -/
theorem atHand_dropped (before : List TokenUse) {since : List TokenUse}
    (quiet : ∀ use ∈ since, use.isAcquisition = false) :
    atHand (before ++ .dropped :: since) = none := by
  rw [atHand_append, List.foldl_cons]
  exact (TokenUse.foldl_update quiet none).elim id id

/-- Every token that was presented was at hand. -/
def Supplied (history : List TokenUse) : Prop :=
  ∀ before request token answer after,
    history = before ++ .presented request token answer :: after → atHand before = some token

theorem Supplied.snoc {use : TokenUse} (supplied : Supplied history)
    (fits : ∀ request token answer, use = .presented request token answer →
      atHand history = some token) : Supplied (history ++ [use]) := by
  intro before request token answer after same
  rcases append_split same with ⟨more, rfl, _⟩ | ⟨between, rfl, rest⟩
  · exact supplied _ _ _ _ _ rfl
  · cases between with
    | nil =>
        obtain ⟨rfl, _⟩ := List.cons_eq_cons.mp rest
        rw [List.append_nil]
        exact fits _ _ _ rfl
    | cons first between => simp at rest

theorem Supplied.quiet {use : TokenUse} (supplied : Supplied history)
    (other : use.isPresentation = false) : Supplied (history ++ [use]) := by
  refine supplied.snoc fun request token answer same => ?_
  rw [same] at other
  cases other

/-- A session has the token that is at hand after its history, and so it had with every token that
was presented. -/
structure Tracks (history : List TokenUse) (session : Session) : Prop where
  cached : session.cached = atHand history
  supplied : Supplied history

namespace Tracks

theorem took {source : Acquisition.Source} (tracks : Tracks history session)
    (access : Acquisition.Access env config session source (.ok token) later) :
    Tracks (history ++ [.took source token]) later := by
  refine ⟨access.cached_of_ok.trans ?_, tracks.supplied.quiet rfl⟩
  rw [atHand_append]
  cases access with
  | reused cached => exact cached.symm.trans tracks.cached
  | acquired => rfl

theorem tries (tracks : Tracks history session)
    (tried : Tries env config request session uses answer later) :
    Tracks (history ++ uses) later := by
  cases tried with
  | missing access =>
      rw [List.append_nil]
      exact ⟨access.cached_of_error.trans tracks.cached, tracks.supplied⟩
  | unfit access => exact tracks.took access
  | @called source token value between _ answer access _ ran =>
      have present := tracks.took access
      have kept := Pipeline.run_cached env config.retry .resource
        (request.withHeader "authorization" value) between
      rw [ran] at kept
      have regroup : history ++ [.took source token, .presented request token answer] =
          (history ++ [.took source token]) ++ [.presented request token answer] := by
        rw [List.append_assoc]
        rfl
      rw [regroup]
      constructor
      · rw [atHand_append]
        exact kept.trans present.cached
      · refine present.supplied.snoc fun _ _ _ same => ?_
        cases same
        exact present.cached.symm.trans access.cached_of_ok

theorem dropped (tracks : Tracks history session) :
    Tracks (history ++ [.dropped]) session.invalidate := by
  refine ⟨?_, tracks.supplied.quiet rfl⟩
  rw [atHand_append]
  rfl

theorem performs (tracks : Tracks history session)
    (performed : Performs env config request session uses answer later) :
    Tracks (history ++ uses) later := by
  cases performed with
  | once tried _ => exact tracks.tries tried
  | twice first _ second =>
      have whole := ((tracks.tries first).dropped).tries second
      rw [List.append_assoc, List.append_assoc] at whole
      exact whole

end Tracks

theorem History.tracks (past : History env config begun history session)
    (empty : begun.cached = none) : Tracks history session := by
  induction past with
  | nothing =>
      refine ⟨empty, fun before _ _ _ _ same => ?_⟩
      cases before <;> cases same
  | more _ performed ih => exact ih.performs performed

/-! ## Refusals -/

/-- A token was acquired because the one before it was refused. -/
def AfterRefusal (before : List TokenUse) (request : Request) (token : AccessToken) : Prop :=
  ∃ earlier refused refusal, Refuses refusal ∧
    before = earlier ++ [.presented request refused refusal, .dropped, .took .endpoint token]

/-- Every token that was refused was dropped at once, except for those that took the place of
another one that was refused. -/
def Answered (history : List TokenUse) : Prop :=
  ∀ before request token refusal after,
    history = before ++ .presented request token refusal :: after → Refuses refusal →
      (∃ rest, after = .dropped :: rest) ∨ AfterRefusal before request token

namespace Answered

theorem cons {use : TokenUse} (answered : Answered history)
    (followed : ∀ request token refusal, use = .presented request token refusal →
      Refuses refusal → ∃ rest, history = .dropped :: rest) : Answered (use :: history) := by
  intro before request token refusal after same refused
  cases before with
  | nil =>
      obtain ⟨rfl, rfl⟩ := List.cons_eq_cons.mp same
      exact .inl (followed _ _ _ rfl refused)
  | cons first before =>
      obtain ⟨rfl, rfl⟩ := List.cons_eq_cons.mp same
      rcases answered before request token refusal after rfl refused with dropped | late
      · exact .inl dropped
      · obtain ⟨earlier, other, refusal, refusedFirst, rfl⟩ := late
        exact .inr ⟨use :: earlier, other, refusal, refusedFirst, rfl⟩

theorem append (answered : Answered history) (answeredToo : Answered uses) :
    Answered (history ++ uses) := by
  intro before request token refusal after same refused
  rcases append_split same with ⟨more, rfl, rfl⟩ | ⟨between, rfl, rfl⟩
  · rcases answered before request token refusal more rfl refused with dropped | late
    · obtain ⟨rest, rfl⟩ := dropped
      exact .inl ⟨rest ++ uses, rfl⟩
    · exact .inr late
  · rcases answeredToo between request token refusal after rfl refused with dropped | late
    · exact .inl dropped
    · obtain ⟨earlier, other, refusal, refusedFirst, rfl⟩ := late
      exact .inr ⟨history ++ earlier, other, refusal, refusedFirst, (List.append_assoc _ _ _).symm⟩

theorem snoc {use : TokenUse} (answered : Answered history)
    (late : ∀ request token refusal, use = .presented request token refusal →
      Refuses refusal → AfterRefusal history request token) : Answered (history ++ [use]) := by
  intro before request token refusal after same refused
  rcases append_split same with ⟨more, rfl, rfl⟩ | ⟨between, rfl, rest⟩
  · rcases answered before request token refusal more rfl refused with dropped | late
    · obtain ⟨rest, rfl⟩ := dropped
      exact .inl ⟨rest ++ [use], rfl⟩
    · exact .inr late
  · cases between with
    | nil =>
        obtain ⟨rfl, _⟩ := List.cons_eq_cons.mp rest
        rw [List.append_nil]
        exact .inr (late _ _ _ rfl refused)
    | cons first between => simp at rest

end Answered

private theorem answered_nil : Answered [] := by
  intro before _ _ _ _ same
  cases before <;> cases same

theorem Tries.answered (tried : Tries env config request session uses answer later)
    (granted : ¬ Refuses answer) : Answered uses := by
  cases tried with
  | missing => exact answered_nil
  | unfit => exact answered_nil.cons fun _ _ _ same => by cases same
  | called =>
      refine (answered_nil.cons fun _ _ _ same refused => ?_).cons fun _ _ _ same => by cases same
      cases same
      exact absurd refused granted

theorem Performs.answered (performed : Performs env config request session uses answer later) :
    Answered uses := by
  cases performed with
  | once tried granted => exact tried.answered granted
  | @twice _ _ refusal _ _ _ first refused second =>
      cases first with
      | missing | unfit =>
          obtain ⟨_, same, _⟩ := refused
          cases same
      | @called source token =>
          have start :
              Answered [.took source token, .presented request token refusal, .dropped] := by
            refine ((answered_nil.cons ?_).cons ?_).cons ?_
            · intro _ _ _ same
              cases same
            · intro _ _ _ _ _
              exact ⟨_, rfl⟩
            · intro _ _ _ same
              cases same
          cases second with
          | missing => exact start
          | @unfit sourceToo second => exact start.snoc fun _ _ _ same => by cases same
          | called access =>
              -- The token of the second try was acquired after the drop.
              obtain rfl := access.of_empty rfl
              refine (start.snoc fun _ _ _ same => by cases same).snoc ?_
              intro _ _ _ same _
              cases same
              exact ⟨[.took source token], token, refusal, refused, rfl⟩

theorem History.answered (past : History env config begun history session) : Answered history := by
  induction past with
  | nothing => exact answered_nil
  | more _ performed ih => exact ih.append performed.answered

/-! ## Presenting a token again -/

/-- A token that was refused is presented again, without having been acquired again, only if it took
the place of another one that was refused. -/
theorem History.presents_again (past : History env config begun history session)
    (empty : begun.cached = none) {before between after : List TokenUse} {asked again : Request}
    {token other : AccessToken} {refusal answer : Except Error Response}
    (same : history = before ++ .presented asked token refusal ::
      (between ++ .presented again other answer :: after))
    (refused : Refuses refusal) (quiet : ∀ use ∈ between, use.isAcquisition = false) :
    other = token ∧ AfterRefusal before asked token := by
  obtain ⟨_, supplied⟩ := past.tracks empty
  have first := supplied _ _ _ _ _ same
  have second : atHand (before ++ .presented asked token refusal :: between) = some other := by
    refine supplied _ again _ answer after ?_
    rw [same, List.append_assoc]
    rfl
  constructor
  · rw [atHand_append, List.foldl_cons, first] at second
    rcases TokenUse.foldl_update quiet (some token) with kept | gone
    · exact Option.some.inj (second.symm.trans kept)
    · cases second.symm.trans gone
  · rcases past.answered _ _ _ _ _ same refused with ⟨rest, dropped⟩ | late
    · -- The drop stands in between, so that there would be no token to present.
      cases between with
      | nil => cases dropped
      | cons use between =>
          obtain ⟨rfl, _⟩ := List.cons_eq_cons.mp dropped
          have nothing := atHand_dropped (before ++ [.presented asked token refusal])
            (List.forall_mem_cons.mp quiet).2
          rw [List.append_assoc] at nothing
          cases second.symm.trans nothing
    · exact late

/-- After any number of calls the token that was presented last is still at hand, whatever the
answer. The next call presents it as long as it need not be replaced. -/
theorem History.presents_next (past : History env config begun history session)
    (empty : begun.cached = none) {before : List TokenUse} {asked : Request}
    (same : history = before ++ [.presented asked token answer]) : session.cached = some token := by
  obtain ⟨cached, supplied⟩ := past.tracks empty
  have first := supplied _ _ _ _ [] same
  rw [cached, same, atHand_append, first]
  rfl

/-- A try that leaves a token which can be presented had it before, or has presented it. -/
theorem Tries.exists_presented (tries : Tries env config request session uses answer later)
    (held : later.cached = some token) (written : token.authorization? ≠ none) :
    (uses = [] ∧ session.cached = some token) ∨
      ∃ before, uses = before ++ [.presented request token answer] := by
  cases tries with
  | missing access => exact .inl ⟨rfl, access.cached_of_error.symm.trans held⟩
  | unfit access unwritten =>
      obtain rfl := Option.some.inj (access.cached_of_ok.symm.trans held)
      exact absurd unwritten written
  | @called source other value between _ _ access _ ran =>
      have kept := Pipeline.run_cached env config.retry .resource
        (request.withHeader "authorization" value) between
      rw [ran] at kept
      obtain rfl := Option.some.inj ((kept.trans access.cached_of_ok).symm.trans held)
      exact .inr ⟨[.took source other], rfl⟩

/-- A token that is held and can be presented is the one that was presented last. -/
theorem History.exists_presented (past : History env config begun history session)
    (empty : begun.cached = none) (held : session.cached = some token)
    (written : token.authorization? ≠ none) :
    ∃ before asked answer, history = before ++ [.presented asked token answer] := by
  induction past with
  | nothing => cases empty.symm.trans held
  | @more asked history _ _ _ _ past performed ih =>
      cases performed with
      | once first _ =>
          rcases first.exists_presented held written with ⟨rfl, earlier⟩ | ⟨before, rfl⟩
          · rw [List.append_nil]
            exact ih earlier
          · exact ⟨history ++ before, asked, _, (List.append_assoc _ _ _).symm⟩
      | @twice first _ _ answer _ _ _ _ second =>
          rcases second.exists_presented held written with ⟨_, dropped⟩ | ⟨before, rfl⟩
          · cases dropped
          · exact ⟨history ++ (first ++ .dropped :: before), asked, answer, by simp⟩

/-- A token that is presented was acquired last and not dropped since. One that is refused is
presented again only if it had taken the place of another one that the same call had presented and
that was refused. One that was presented last is still there, refused or not, and the next request
presents it if it need not be replaced. -/
theorem calls_refused (env : Environment) (config : ClientConfig) (validity : Span)
    (calls : List Call) :
    let later := Call.performAll env config calls (.start validity)
    ∃ history, History env config (.start validity) history later ∧
      (∀ before request token answer after,
        history = before ++ .presented request token answer :: after →
          atHand before = some token) ∧
      (∀ before asked token refusal between again other answer after,
        history = before ++ .presented asked token refusal ::
          (between ++ .presented again other answer :: after) →
        Refuses refusal → (∀ use ∈ between, use.isAcquisition = false) →
          other = token ∧ AfterRefusal before asked token) ∧
      (∀ before asked token last, history = before ++ [.presented asked token last] →
        later.cached = some token ∧
        ∀ request looked value, Acquisition.fresh env config later = (.ok (some token), looked) →
          token.authorization? = some value →
          attempt env config request later = Pipeline.run env config.retry .resource
            (request.withHeader "authorization" value) looked) := by
  intro later
  obtain ⟨history, past⟩ := exists_history env config (.start validity) calls
  refine ⟨history, past, (past.tracks rfl).supplied, ?_, ?_⟩
  · intro before asked token refusal between again other answer after same refused quiet
    exact past.presents_again rfl same refused quiet
  · intro before asked token last same
    refine ⟨past.presents_next rfl same, ?_⟩
    intro request looked value fresh written
    apply attempt_of_taken _ written
    simp only [Acquisition.accessToken, fresh]

/-! ## Two refusals in one call -/

private def strict : Environment := .ofScript {
  replies := [⟨.zero, .ok ⟨401, [], []⟩⟩, ⟨.zero, .ok ⟨401, [], []⟩⟩]
  tokenReplies := some [.granting "at-1", .granting "at-2", .granting "at-3"] }

private def memberList : Request := jsonRequest (.sample ["api", "v1", "users"])

private def refusedTwice : Session :=
  Call.performAll strict .sample [.send memberList] (.start ClientConfig.sample.nonceValidity)

/-- The second token was refused as well, and the next request presents it again. -/
theorem calls_refused_twice :
    refusedTwice.sent.map (fun entry => (entry.2.headers.getAll "authorization").map (·.bytes)) =
        [[], [utf8 "Bearer at-1"], [], [utf8 "Bearer at-2"]] ∧
      ∃ value, value.bytes = utf8 "Bearer at-2" ∧
        attempt strict .sample memberList refusedTwice =
          Pipeline.run strict ClientConfig.sample.retry .resource
            (memberList.withHeader "authorization" value)
            (Acquisition.fresh strict .sample refusedTwice).2 := by
  have ended :
      refusedTwice.sent.map (fun entry => (entry.2.headers.getAll "authorization").map (·.bytes)) =
          [[], [utf8 "Bearer at-1"], [], [utf8 "Bearer at-2"]] ∧
        (Acquisition.fresh strict .sample refusedTwice).1 = .ok refusedTwice.cached ∧
        (refusedTwice.cached.bind AccessToken.authorization?).map (·.bytes) =
          some (utf8 "Bearer at-2") := by
    decide +kernel
  obtain ⟨sent, fresh, presented⟩ := ended
  obtain ⟨value, found, bytes⟩ := Option.map_eq_some_iff.mp presented
  obtain ⟨token, cached, written⟩ := Option.bind_eq_some_iff.mp found
  obtain ⟨history, past, _, _, again⟩ :=
    calls_refused strict .sample ClientConfig.sample.nonceValidity [.send memberList]
  obtain ⟨before, asked, last, same⟩ := past.exists_presented rfl cached (by simp [written])
  obtain ⟨_, presents⟩ := again before asked token last same
  have split : ∀ step : Except Error (Option AccessToken) × Session,
      step.1 = .ok (some token) → step = (.ok (some token), step.2) := by
    rintro ⟨_, _⟩ rfl
    rfl
  have looked := split (Acquisition.fresh strict .sample refusedTwice) (cached ▸ fresh)
  exact ⟨sent, value, bytes, presents memberList _ value looked written⟩

end Api

end KeyBound
