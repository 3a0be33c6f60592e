import KeyBound.Proofs.Client.Effort
import KeyBound.Proofs.Client.Provenance
import KeyBound.Proofs.Token.Response

/-!
# The token that a client keeps

Any number of calls one after the other: a token for use, an acquisition of its own, and an
invalidation. Which token is kept follows from how the calls ended. A kept token is handed out as
long as it need not be replaced at the first or at the second look at the clock; an acquisition
takes its place only if it succeeds.
-/

set_option autoImplicit false

namespace KeyBound

open Session

/-! ## Replacement -/

namespace AccessToken

def IsUsable (token : AccessToken) (window : Span) (now : Instant) : Prop :=
  now.nanos + max window.nanos 0 < token.expiresAt.nanos

theorem IsUsable.unexpired {token : AccessToken} {window : Span} {now : Instant}
    (usable : token.IsUsable window now) : now < token.expiresAt := by
  have bound : 0 ≤ max window.nanos 0 := Int.le_max_right _ _
  unfold IsUsable at usable
  change now.nanos < token.expiresAt.nanos
  omega

theorem needsRenewal?_of_isUsable {token : AccessToken} {window : Span} {now later : Instant}
    (inside : now.add? window.clamped = some later) (usable : token.IsUsable window now) :
    token.needsRenewal? window now = some false := by
  have lasting : ¬ token.expiresAt ≤ now := Int.not_le.mpr usable.unexpired
  have reached : later.nanos = now.nanos + max window.nanos 0 := Instant.add?_nanos inside
  have lastingToo : ¬ token.expiresAt ≤ later := by
    apply Int.not_le.mpr
    rw [reached]
    exact usable
  simp [needsRenewal?, expiresWithin?, isExpiredAt, inside, lasting, lastingToo]

theorem needsRenewal?_of_due {token : AccessToken} {window : Span} {now later : Instant}
    (inside : now.add? window.clamped = some later) (due : ¬ token.IsUsable window now) :
    token.needsRenewal? window now = some true := by
  have reached : later.nanos = now.nanos + max window.nanos 0 := Instant.add?_nanos inside
  have passed : token.expiresAt ≤ later := by
    change token.expiresAt.nanos ≤ later.nanos
    rw [reached]
    exact Int.not_lt.mp due
  unfold needsRenewal?
  split
  · rfl
  · simp [expiresWithin?, isExpiredAt, inside, passed]

/-- Where it is said that a token need not be replaced, it has not expired, whether or not the
window ends within the calendar. -/
theorem unexpired_of_needsRenewal? {token : AccessToken} {window : Span} {now : Instant}
    (kept : token.needsRenewal? window now = some false) : now < token.expiresAt := by
  unfold needsRenewal? at kept
  split at kept
  · cases kept
  · rename_i lasting
    exact Int.not_le.mp fun expired => lasting (decide_eq_true expired)

end AccessToken

namespace TokenResponse

theorem Grants.unexpired {response : Response} {token : AccessToken} {seconds : Int}
    (grants : Grants response token seconds) : token.issuedAt < token.expiresAt := by
  have reached : token.expiresAt.nanos = token.issuedAt.nanos + seconds * nanosPerSecond :=
    Instant.add?_nanos grants.expiry
  have lasting := grants.lasting
  change token.issuedAt.nanos < token.expiresAt.nanos
  unfold nanosPerSecond at reached
  omega

/-- A granted token has not expired when it is received. -/
theorem unexpired_of_token {response : Response} {now : Instant} {granted : AccessToken}
    {explain : Bytes → Json.Report} (mapped : token explain response now = .ok granted) :
    now < granted.expiresAt := by
  obtain ⟨rfl, seconds, grants⟩ := grants_of_token mapped
  exact grants.unexpired

end TokenResponse

namespace Acquisition

variable {env : Environment} {config : ClientConfig} {session later : Session}
  {token : AccessToken} {error : Error}

/-! ## Checks -/

theorem fresh_of_empty (empty : session.cached = none) :
    fresh env config session = (.ok none, (session.look env).2) := by
  unfold fresh
  dsimp only [look]
  rw [empty]

theorem fresh_of_held (held : session.cached = some token) :
    fresh env config session =
      (match token.needsRenewal? config.refreshWindow (session.now env) with
        | none => .error .beyondCalendar
        | some true => .ok none
        | some false => .ok (some token), (session.look env).2) := by
  unfold fresh
  dsimp only [look, now]
  rw [held]
  cases verdict :
      token.needsRenewal? config.refreshWindow (env.clock session.looks session.elapsed) with
  | none => simp only [verdict]
  | some due => cases due <;> simp only [verdict]

theorem fresh_of_isUsable {later : Instant}
    (inside : (session.now env).add? config.refreshWindow.clamped = some later)
    (held : session.cached = some token)
    (usable : token.IsUsable config.refreshWindow (session.now env)) :
    fresh env config session = (.ok (some token), (session.look env).2) := by
  rw [fresh_of_held held, AccessToken.needsRenewal?_of_isUsable inside usable]

theorem fresh_of_due {later : Instant}
    (inside : (session.now env).add? config.refreshWindow.clamped = some later)
    (due : ∀ token, session.cached = some token →
      ¬ token.IsUsable config.refreshWindow (session.now env)) :
    fresh env config session = (.ok none, (session.look env).2) := by
  cases held : session.cached with
  | none => exact fresh_of_empty held
  | some token =>
      rw [fresh_of_held held, AccessToken.needsRenewal?_of_due inside (due token held)]

/-- What a check of the token at hand finds tells whether it has to be replaced. -/
theorem needsRenewal?_of_fresh {found : Option AccessToken}
    (held : session.cached = some token) (seen : (fresh env config session).1 = .ok found) :
    token.needsRenewal? config.refreshWindow (session.now env) = some found.isNone := by
  rw [fresh_of_held held] at seen
  cases verdict : token.needsRenewal? config.refreshWindow (session.now env) with
  | none =>
      rw [verdict] at seen
      cases seen
  | some due =>
      rw [verdict] at seen
      cases due with
      | false =>
          cases seen
          rfl
      | true =>
          cases seen
          rfl

theorem unexpired_of_fresh
    (kept : (fresh env config session).1 = .ok (some token)) :
    session.now env < token.expiresAt :=
  AccessToken.unexpired_of_needsRenewal? (needsRenewal?_of_fresh (cached_of_fresh kept) kept)

/-! ## Tokens for use -/

/-- How a token for use comes about: the first or the second check finds one, a check cannot be
made, or both find nothing and a token is acquired. -/
inductive Turn (env : Environment) (config : ClientConfig) (session : Session) :
    Except Error AccessToken → Session → Prop where
  | first {token : AccessToken} :
      (fresh env config session).1 = .ok (some token) →
      Turn env config session (.ok token) (session.look env).2
  | second {token : AccessToken} :
      (fresh env config session).1 = .ok none →
      (fresh env config (session.look env).2).1 = .ok (some token) →
      Turn env config session (.ok token) ((session.look env).2.look env).2
  | unknown {error : Error} {later : Session} :
      Looked session later → Turn env config session (.error error) later
  | renewed :
      (fresh env config session).1 = .ok none →
      (fresh env config (session.look env).2).1 = .ok none →
      Turn env config session (renew env config ((session.look env).2.look env).2).1
        (renew env config ((session.look env).2.look env).2).2

theorem renew_fst (env : Environment) (config : ClientConfig) (session : Session) :
    (renew env config session).1 = (fetch env config session).1 := by
  unfold renew
  split <;> rename_i result <;> rw [result]

theorem renew_acquisitions (env : Environment) (config : ClientConfig) (session : Session) :
    (renew env config session).2.acquisitions = session.acquisitions + 1 := by
  have fetched := fetch_acquisitions env config session
  unfold renew
  split <;> (rename_i result; rwa [result] at fetched)

theorem accessToken_turn (env : Environment) (config : ClientConfig) (session : Session) :
    Turn env config session (accessToken env config session).1
      (accessToken env config session).2 := by
  -- Whatever a check finds, it costs the session one look at the clock and nothing else.
  have looked := fresh_session env config session
  unfold accessToken
  split
  · rename_i result
    rw [result] at looked
    exact .unknown ⟨1, looked⟩
  · rename_i result
    rw [result] at looked
    subst looked
    exact .first (congrArg Prod.fst result)
  · rename_i missed
    rw [missed] at looked
    subst looked
    have lookedAgain := fresh_session env config (session.look env).2
    split
    · rename_i result
      rw [result] at lookedAgain
      exact .unknown ⟨2, lookedAgain⟩
    · rename_i result
      rw [result] at lookedAgain
      subst lookedAgain
      exact .second (congrArg Prod.fst missed) (congrArg Prod.fst result)
    · rename_i result
      rw [result] at lookedAgain
      subst lookedAgain
      exact .renewed (congrArg Prod.fst missed) (congrArg Prod.fst result)

/-- A token was last seen at an instant: at the first or the second check, or when it was issued. -/
inductive SeenAt (env : Environment) (config : ClientConfig) (token : AccessToken)
    (session later : Session) : Instant → Prop where
  | first :
      (fresh env config session).1 = .ok (some token) →
      SeenAt env config token session later (session.now env)
  | second :
      (fresh env config session).1 = .ok none →
      (fresh env config (session.look env).2).1 = .ok (some token) →
      SeenAt env config token session later ((session.look env).2.now env)
  | issued {response : Response} {now : Instant} :
      Receives env config.tokenEndpoint response session later → Shows env session later now →
      TokenResponse.token (env.explain TokenResponse.Grant.decoder) response now = .ok token →
      SeenAt env config token session later now

theorem SeenAt.unexpired {now : Instant} (seen : SeenAt env config token session later now) :
    now < token.expiresAt := by
  cases seen with
  | first kept => exact unexpired_of_fresh kept
  | second _ kept => exact unexpired_of_fresh kept
  | issued _ _ mapped => exact TokenResponse.unexpired_of_token mapped

theorem Issues.seen (issues : Issues env config token session later) :
    ∃ now, SeenAt env config token session later now := by
  obtain ⟨response, now, receives, shows, mapped⟩ := issues
  exact ⟨now, .issued receives shows mapped⟩

/-- A kept token is usable at the first or at the second check. -/
def Offers (env : Environment) (config : ClientConfig) (session : Session) (token : AccessToken) :
    Prop :=
  session.cached = some token ∧
    (token.IsUsable config.refreshWindow (session.now env) ∨
      token.IsUsable config.refreshWindow ((session.look env).2.now env))

/-- The first check stays within the calendar, and the second one if it is made. -/
def Representable (env : Environment) (config : ClientConfig) (session : Session) : Prop :=
  inCalendar ((session.now env).nanos + max config.refreshWindow.nanos 0) ∧
    ((∀ token, session.cached = some token →
        ¬ token.IsUsable config.refreshWindow (session.now env)) →
      inCalendar (((session.look env).2.now env).nanos + max config.refreshWindow.nanos 0))

theorem add?_of_inCalendar {now : Instant} {window : Span}
    (inside : inCalendar (now.nanos + max window.nanos 0)) :
    ∃ later, now.add? window.clamped = some later :=
  ⟨⟨_, inside⟩, dif_pos inside⟩

theorem accessToken_of_offers (inside : Representable env config session)
    (offers : Offers env config session token) :
    (accessToken env config session).1 = .ok token ∧
      Looked session (accessToken env config session).2 := by
  obtain ⟨held, usable⟩ := offers
  obtain ⟨_, insideFirst⟩ := add?_of_inCalendar inside.1
  by_cases usableFirst : token.IsUsable config.refreshWindow (session.now env)
  · have found := fresh_of_isUsable insideFirst held usableFirst
    simp only [accessToken, found, true_and]
    exact ⟨1, rfl⟩
  · have due (other : AccessToken) (same : session.cached = some other) :
        ¬ other.IsUsable config.refreshWindow (session.now env) := by
      obtain rfl := Option.some.inj (held.symm.trans same)
      exact usableFirst
    have missed := fresh_of_due insideFirst due
    obtain ⟨_, insideSecond⟩ := add?_of_inCalendar (inside.2 due)
    have found : fresh env config (session.look env).2 =
        (.ok (some token), ((session.look env).2.look env).2) :=
      fresh_of_isUsable insideSecond held (usable.resolve_left usableFirst)
    simp only [accessToken, missed, found, true_and]
    exact ⟨2, rfl⟩

theorem accessToken_of_due (inside : Representable env config session)
    (due : ∀ token, ¬ Offers env config session token) :
    accessToken env config session = renew env config ((session.look env).2.look env).2 := by
  have dueFirst (token : AccessToken) (held : session.cached = some token) :
      ¬ token.IsUsable config.refreshWindow (session.now env) :=
    fun usable => due token ⟨held, .inl usable⟩
  obtain ⟨_, insideFirst⟩ := add?_of_inCalendar inside.1
  obtain ⟨_, insideSecond⟩ := add?_of_inCalendar (inside.2 dueFirst)
  have missed := fresh_of_due insideFirst dueFirst
  have missedAgain : fresh env config (session.look env).2 =
      (.ok none, ((session.look env).2.look env).2) :=
    fresh_of_due insideSecond fun token held usable => due token ⟨held, .inr usable⟩
  simp only [accessToken, missed, missedAgain]

theorem Looked.acquisitions (looked : Looked session later) :
    later.acquisitions = session.acquisitions := by
  obtain ⟨_, rfl⟩ := looked
  rfl

theorem Looked.cached (looked : Looked session later) : later.cached = session.cached := by
  obtain ⟨_, rfl⟩ := looked
  rfl

theorem accessToken_acquisitions_iff (inside : Representable env config session) :
    (accessToken env config session).2.acquisitions = session.acquisitions ↔
      ∃ token, Offers env config session token := by
  constructor
  · intro quiet
    by_contra nothing
    have due : ∀ token, ¬ Offers env config session token := fun token offers =>
      nothing ⟨token, offers⟩
    rw [accessToken_of_due inside due, renew_acquisitions] at quiet
    exact Nat.succ_ne_self _ quiet
  · rintro ⟨token, offers⟩
    exact (accessToken_of_offers inside offers).2.acquisitions

theorem accessToken_cached_of_error (failed : (accessToken env config session).1 = .error error) :
    (accessToken env config session).2.cached = session.cached := by
  obtain ⟨source, access⟩ := accessToken_access env config session
  rw [failed] at access
  exact access.cached_of_error

theorem accessToken_cached_of_ok (taken : (accessToken env config session).1 = .ok token) :
    (accessToken env config session).2.cached = some token := by
  obtain ⟨source, access⟩ := accessToken_access env config session
  rw [taken] at access
  exact access.cached_of_ok

theorem renew_issues (taken : (renew env config session).1 = .ok token) :
    Issues env config token session (renew env config session).2 := by
  unfold renew at taken ⊢
  split at taken
  · cases taken
  · rename_i between fetched
    cases taken
    have kept : between.Until { between with cached := some token } :=
      ⟨Nat.le_refl _, Nat.le_refl between.elapsed.nanos⟩
    exact (fetch_issues fetched).widen (.refl session) kept (List.prefix_refl _)
      (List.prefix_refl _)

theorem issues_of_looks (issues : Issues env config token ((session.look env).2.look env).2 later) :
    Issues env config token session later := by
  have waited : session.Until ((session.look env).2.look env).2 :=
    ⟨Nat.le_add_right _ 2, Nat.le_refl session.elapsed.nanos⟩
  exact issues.widen waited (.refl later) (List.prefix_refl _) (List.prefix_refl _)

/-- A token that is handed out was seen during the call. -/
theorem accessToken_seen (taken : (accessToken env config session).1 = .ok token) :
    ∃ now, SeenAt env config token session (accessToken env config session).2 now := by
  have turn := accessToken_turn env config session
  rw [taken] at turn
  generalize (accessToken env config session).2 = later at turn
  generalize same : (Except.ok token : Except Error AccessToken) = result at turn
  cases turn with
  | first found =>
      cases same
      exact ⟨_, .first found⟩
  | second missed found =>
      cases same
      exact ⟨_, .second missed found⟩
  | unknown => cases same
  | renewed missed missedAgain =>
      exact (issues_of_looks (renew_issues same.symm)).seen

/-! ## Calls one after the other -/

/-- A call on the tokens of a client. A call that waits may be cancelled at a time of its own. -/
inductive TokenCall where
  | access (cancelAt : Option Delay)
  | fetch (cancelAt : Option Delay)
  | invalidate

namespace TokenCall

def perform (env : Environment) (config : ClientConfig) (session : Session) :
    TokenCall → Option (Except Error AccessToken) × Session
  | access cancelAt =>
    let (result, session) := accessToken { env with cancelAt } config session
    (some result, session)
  | fetch cancelAt =>
    let (result, session) := Acquisition.fetch { env with cancelAt } config session
    (some result, session)
  | invalidate => (none, session.invalidate)

def performAll (env : Environment) (config : ClientConfig) :
    List TokenCall → Session → List (Option (Except Error AccessToken)) × Session
  | [], session => ([], session)
  | call :: calls, session =>
    let (result, session) := call.perform env config session
    let (results, session) := performAll env config calls session
    (result :: results, session)

/-- The token that is kept after a call, given how it ended. -/
def keep (held : Option AccessToken) :
    TokenCall × Option (Except Error AccessToken) → Option AccessToken
  | (access _, some (.ok token)) => some token
  | (invalidate, _) => none
  | _ => held

theorem perform_cached (env : Environment) (config : ClientConfig) (session : Session)
    (call : TokenCall) :
    (call.perform env config session).2.cached =
      keep session.cached (call, (call.perform env config session).1) := by
  cases call with
  | access cancelAt =>
      simp only [perform]
      cases taken : (accessToken { env with cancelAt } config session).1 with
      | error error => exact accessToken_cached_of_error taken
      | ok token => exact accessToken_cached_of_ok taken
  | fetch cancelAt => exact fetch_cached { env with cancelAt } config session
  | invalidate => rfl

theorem performAll_cached (env : Environment) (config : ClientConfig) (calls : List TokenCall)
    (session : Session) :
    (performAll env config calls session).2.cached =
      (calls.zip (performAll env config calls session).1).foldl keep session.cached := by
  induction calls generalizing session with
  | nil => rfl
  | cons call calls ih =>
      simp only [performAll, List.zip_cons_cons, List.foldl_cons]
      rw [ih, perform_cached]

end TokenCall

/-- After any calls the kept token is the last one that was handed out since the last invalidation.
The next token for use is acquired unless one is kept that is usable at the first or the second
check, and is that one then. An acquired token is kept; where a call fails, what was kept stays. A
token that is handed out has not expired when it is seen last. -/
theorem calls_keep_token (env : Environment) (config : ClientConfig) (validity : Span)
    (calls : List TokenCall) :
    let results := (TokenCall.performAll env config calls (.start validity)).1
    let session := (TokenCall.performAll env config calls (.start validity)).2
    session.cached = (calls.zip results).foldl TokenCall.keep none ∧
      ∀ cancelAt : Option Delay,
        let turn : Environment := { env with cancelAt }
        let access := accessToken turn config session
        let waited := ((session.look turn).2.look turn).2
        let fetched := fetch turn config session
        (Representable turn config session →
          (access.2.acquisitions = session.acquisitions ↔
            ∃ token, Offers turn config session token) ∧
          (∀ token, Offers turn config session token →
            access.1 = .ok token ∧ access.2.cached = some token) ∧
          ((∀ token, ¬ Offers turn config session token) →
            access.2.acquisitions = session.acquisitions + 1 ∧
            access.1 = (fetch turn config waited).1 ∧
            ∀ token, access.1 = .ok token →
              Issues turn config token waited access.2 ∧ access.2.cached = some token)) ∧
        (∀ error, access.1 = .error error → access.2.cached = session.cached) ∧
        (fetched.2.acquisitions = session.acquisitions + 1 ∧
          fetched.2.cached = session.cached) ∧
        (∀ token, access.1 = .ok token →
          ∃ now, SeenAt turn config token session access.2 now ∧ now < token.expiresAt) ∧
        ∀ token, fetched.1 = .ok token →
          ∃ response now, Receives turn config.tokenEndpoint response session fetched.2 ∧
            Shows turn session fetched.2 now ∧
            TokenResponse.token (turn.explain TokenResponse.Grant.decoder) response now =
              .ok token ∧
            now < token.expiresAt := by
  intro results session
  refine ⟨TokenCall.performAll_cached env config calls (.start validity), ?_⟩
  intro cancelAt turn access waited fetched
  refine ⟨?_, fun _ => accessToken_cached_of_error, ?_, ?_, ?_⟩
  · intro inside
    refine ⟨accessToken_acquisitions_iff inside, ?_, ?_⟩
    · intro token offers
      obtain ⟨handed, looked⟩ := accessToken_of_offers inside offers
      exact ⟨handed, looked.cached.trans offers.1⟩
    · intro due
      have renewed : access = renew turn config waited := accessToken_of_due inside due
      refine ⟨?_, ?_, ?_⟩
      · rw [renewed, renew_acquisitions]
        rfl
      · rw [renewed, renew_fst]
      · intro token taken
        refine ⟨?_, accessToken_cached_of_ok taken⟩
        rw [renewed] at taken ⊢
        exact renew_issues taken
  · exact ⟨fetch_acquisitions turn config session, fetch_cached turn config session⟩
  · intro token taken
    obtain ⟨now, seen⟩ := accessToken_seen taken
    exact ⟨now, seen, seen.unexpired⟩
  · intro token taken
    obtain ⟨response, now, receives, shows, mapped⟩ := fetch_issues (Prod.ext taken rfl)
    exact ⟨response, now, receives, shows, mapped, TokenResponse.unexpired_of_token mapped⟩

private def grantingOnce : Environment := .ofScript ⟨[.granting "at-1"], none⟩

private theorem uncancelled_eq (env : Environment) (uncancelled : env.cancelAt = none) :
    { env with cancelAt := none } = env := by
  cases env
  cases uncancelled
  rfl

private def supplied : Session :=
  (TokenCall.performAll grantingOnce .sample [.invalidate, .access none] (.start ⟨0⟩)).2

private theorem inCalendar_supplied : inCalendar 5 ∧ inCalendar 3600000000005 := by decide

private def hourly : AccessToken :=
  ⟨⟨"at-1"⟩, "Bearer", ⟨5, inCalendar_supplied.1⟩, ⟨3600000000005, inCalendar_supplied.2⟩, none,
    none⟩

private theorem supplied_holds :
    supplied.cached = some hourly ∧ (supplied.now grantingOnce).nanos = 6 ∧
      ((supplied.look grantingOnce).2.now grantingOnce).nanos = 7 := by
  decide +kernel

theorem calls_keep_token_hourly :
    Offers grantingOnce .sample supplied hourly ∧ Representable grantingOnce .sample supplied ∧
      (accessToken grantingOnce .sample supplied).1 = .ok hourly ∧
      (accessToken grantingOnce .sample supplied).2.acquisitions = supplied.acquisitions := by
  obtain ⟨held, first, second⟩ := supplied_holds
  have offers : Offers grantingOnce .sample supplied hourly := by
    refine ⟨held, .inl ?_⟩
    rw [AccessToken.IsUsable, first]
    decide
  have inside : Representable grantingOnce .sample supplied := by
    rw [Representable, first, second]
    exact ⟨by decide, fun _ => by decide⟩
  obtain ⟨_, turns⟩ := calls_keep_token grantingOnce .sample ⟨0⟩ [.invalidate, .access none]
  obtain ⟨turn, _⟩ := turns none
  rw [uncancelled_eq grantingOnce rfl] at turn
  obtain ⟨quiet, handed, _⟩ := turn inside
  exact ⟨offers, inside, (handed hourly offers).1, quiet.mpr ⟨hourly, offers⟩⟩

end Acquisition

end KeyBound
