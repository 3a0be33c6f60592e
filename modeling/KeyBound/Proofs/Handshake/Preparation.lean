import KeyBound.Proofs.Handshake.Claims
import KeyBound.Proofs.Handshake.Run

/-!
# Prepared requests

What a handshake makes of a request that is about to be sent. With a key it puts one proof on the
request and binds the proof to what the request presents: the hash of a token, or else the nonce
that is held for the token endpoint, never both. What a prepared request presents stays as it is,
however often the request is prepared again.
-/

set_option autoImplicit false

namespace KeyBound

/-- A text and what follows the first space in it, which is nothing if there is no space. -/
inductive Text.AfterSpace : List Char → List Char → Prop where
  | space {before after : List Char} : ' ' ∉ before → AfterSpace (before ++ ' ' :: after) after
  | none {text : List Char} : ' ' ∉ text → AfterSpace text []

theorem Text.afterSpace_dropWhile (text : List Char) :
    AfterSpace text ((text.dropWhile (· != ' ')).drop 1) := by
  induction text with
  | nil => exact .none List.not_mem_nil
  | cons c text ih =>
      by_cases space : c = ' '
      · subst space
        exact @AfterSpace.space [] text List.not_mem_nil
      · rw [List.dropWhile_cons_of_pos (by simpa using space)]
        generalize (text.dropWhile (· != ' ')).drop 1 = rest at ih
        cases ih with
        | @space before _ absent =>
            have absentToo : ' ' ∉ c :: before := by simp [Ne.symm space, absent]
            exact .space absentToo
        | none absent => exact .none (by simp [Ne.symm space, absent])

namespace Headers

def without (names : List String) (headers : Headers) : Headers :=
  headers.filter fun entry => !names.contains entry.1

theorem without_insert {names : List String} {name : String} (inside : fold name ∈ names)
    (headers : Headers) (value : HeaderValue) :
    (headers.insert name value).without names = headers.without names := by
  change (headers.remove name ++ [(fold name, value)]).filter _ = _
  have gone : [(fold name, value)].filter (fun entry => !names.contains entry.1) = [] := by
    simp [inside]
  rw [List.filter_append, gone, List.append_nil, remove, List.filter_filter, without]
  apply List.filter_congr
  intro entry member
  by_cases named : entry.1 = fold name
  · simp [named, inside]
  · simp [named]

end Headers

namespace Handshake

variable {handshake : Handshake} {request : Request}

/-! ## What a request presents -/

theorem presented?_withHeader_dpop (request : Request) (value : HeaderValue) :
    presented? (request.withHeader "dpop" value) = presented? request := by
  have same : (request.withHeader "dpop" value).headers.getAll "authorization" =
      request.headers.getAll "authorization" :=
    Headers.getAll_insert_of_ne (by decide) _ _
  simp only [presented?, Headers.chars?, Headers.get?, same]

theorem visible_of_presented? {token : List Char} (presented : presented? request = some token) :
    ∀ c ∈ token, c = '\t' ∨ 0x20 ≤ c.toNat ∧ c.toNat ≤ 0x7E := by
  intro c member
  obtain ⟨text, read, rfl⟩ := Option.map_eq_some_iff.mp presented
  obtain ⟨value, _, chars⟩ := Option.bind_eq_some_iff.mp read
  have inside : c ∈ text := (List.dropWhile_sublist _).mem (List.mem_of_mem_drop member)
  exact HeaderValue.visible_of_chars? chars c inside

theorem presented?_withHeader_authorization {token : List Char}
    (visible : ∀ c ∈ token, c = '\t' ∨ 0x20 ≤ c.toNat ∧ c.toNat ≤ 0x7E) (request : Request) :
    presented? (request.withHeader "authorization"
      (HeaderValue.ofAscii ("DPoP " ++ String.ofList token)).secret) = some token := by
  have written : ("DPoP " ++ String.ofList token).toList = "DPoP ".toList ++ token := by simp
  have textual : ∀ c ∈ ("DPoP " ++ String.ofList token).toList,
      c = '\t' ∨ 0x20 ≤ c.toNat ∧ c.toNat ≤ 0x7E := by
    rw [written]
    exact List.forall_mem_append.mpr ⟨by simp, visible⟩
  have read := HeaderValue.chars?_ofAscii textual
  have marked (value : HeaderValue) : value.secret.chars? = value.chars? := rfl
  simp only [presented?, Headers.chars?, Headers.get?, Request.withHeader,
    Headers.getAll_insert_self, List.head?_cons, Option.bind_eq_bind, Option.bind_some, marked,
    read, Option.map_some, written]
  rfl

theorem presented?_claim (nonce : Option String) (target : Target) (claims : ProofClaims)
    (request : Request) :
    presented? (claim nonce target claims request).2 = presented? request := by
  unfold claim
  split
  · rename_i token presented
    rw [presented]
    exact presented?_withHeader_authorization (visible_of_presented? presented) request
  · split <;> rfl

theorem presented?_prepare (handshake : Handshake) (draw : Draw) (target : Target) (now : Instant)
    (request : Request) :
    presented? (handshake.prepare draw target now request).1 = presented? request := by
  cases present : handshake.key with
  | none => rw [prepare_of_keyless present]
  | some key =>
      rw [prepare_of_present present, presented?_withHeader_dpop, presented?_claim]

/-! ## What a proof states -/

def statedHash? (request : Request) : Option String :=
  (Proof.claims? request).bind (·.tokenHash)

/-- A request as it is sent with a proof by a key, and the claims of the proof. -/
structure Decorates (handshake : Handshake) (key : ProofKey) (target : Target) (now : Instant)
    (request sent : Request) (claims : ProofClaims) : Prop where
  proof : ∃ signature, sent.headers.getAll "dpop" = [.ofAscii (Proof.sign key claims signature)]
  stated : Proof.claims? sent = some claims
  method : claims.method = request.method
  address : claims.address = canonicalAddress request.url
  issued : claims.issuedAt * nanosPerSecond ≤ now.nanos ∧
    now.nanos < (claims.issuedAt + 1) * nanosPerSecond
  presenting : ∀ text, request.headers.chars? "authorization" = some text →
    ∃ token, Text.AfterSpace text token ∧
      claims.tokenHash = some (tokenHash (String.ofList token)) ∧
      sent.headers.getAll "authorization" =
        [(HeaderValue.ofAscii ("DPoP " ++ String.ofList token)).secret] ∧
      sent.headers.without ["dpop", "authorization"] =
        request.headers.without ["dpop", "authorization"]
  unpresenting : request.headers.chars? "authorization" = none →
    claims.tokenHash = none ∧ sent.headers.without ["dpop"] = request.headers.without ["dpop"]
  nonce : ∀ value, claims.nonce = some value ↔
    target = .token ∧ request.headers.chars? "authorization" = none ∧
      ∃ held, handshake.nonce = some held ∧ now < held.expiresAt ∧ held.value = value
  apart : claims.tokenHash = none ∨ claims.nonce = none
  rest : sent.method = request.method ∧ sent.url = request.url ∧ sent.body = request.body

theorem refresh_nonce_iff {now : Instant} {held : HeldNonce} :
    (handshake.refresh .token now).1.nonce = some held ↔
      handshake.nonce = some held ∧ now < held.expiresAt := by
  unfold refresh hasExpiredNonce
  cases present : handshake.nonce with
  | none => simp [present]
  | some nonce =>
      have later : ¬ nonce.expiresAt ≤ now ↔ now < nonce.expiresAt := Int.not_le
      by_cases expired : nonce.expiresAt ≤ now
      · simp only [expired, decide_true, and_self, ↓reduceIte, reduceCtorEq, false_iff, not_and]
        intro same
        cases same
        exact fun unexpired => later.mpr unexpired expired
      · simp only [expired, decide_false, Bool.false_eq_true, and_false, ↓reduceIte, present]
        constructor
        · intro same
          cases same
          exact ⟨rfl, later.mp expired⟩
        · exact fun both => both.1

variable {key : ProofKey}

theorem decorates_of_presented {token : List Char} (present : handshake.key = some key)
    (presented : presented? request = some token) (draw : Draw) (target : Target) (now : Instant) :
    Decorates handshake key target now request (handshake.prepare draw target now request).1
      { ProofClaims.ofRequest request.method request.url now draw.identifier with
        tokenHash := some (tokenHash (String.ofList token)) } := by
  obtain ⟨text, read, rfl⟩ := Option.map_eq_some_iff.mp presented
  obtain ⟨low, high⟩ := now.seconds_bounds
  have textual : ¬ request.headers.chars? "authorization" = none := by simp [read]
  rw [prepare_of_present present]
  simp only [claim, presented]
  refine ⟨⟨draw.signature, Headers.getAll_insert_self _ _ _⟩,
    Proof.claims?_withHeader_sign _ _ _ low high, rfl, rfl, now.seconds_le_nanos, ?_,
    fun unread => absurd unread textual, ?_, .inr rfl, rfl, rfl, rfl⟩
  · intro other same
    obtain rfl := Option.some.inj (read.symm.trans same)
    refine ⟨_, Text.afterSpace_dropWhile text, rfl, ?_, ?_⟩
    · exact (Headers.getAll_insert_of_ne (by decide) _ _).trans (Headers.getAll_insert_self _ _ _)
    · exact (Headers.without_insert (by decide) _ _).trans (Headers.without_insert (by decide) _ _)
  · intro value
    simp [ProofClaims.ofRequest, textual]

theorem decorates_of_unpresented (present : handshake.key = some key)
    (unpresented : presented? request = none) (draw : Draw) (target : Target) (now : Instant) :
    Decorates handshake key target now request (handshake.prepare draw target now request).1
      { ProofClaims.ofRequest request.method request.url now draw.identifier with
        nonce := if target = .token then
          (handshake.refresh target now).1.nonce.map (·.value) else none } := by
  have unread : request.headers.chars? "authorization" = none :=
    Option.map_eq_none_iff.mp unpresented
  obtain ⟨low, high⟩ := now.seconds_bounds
  have claimed (nonce : Option String) (claims : ProofClaims) (blank : claims.nonce = none) :
      claim nonce target claims request =
        ({ claims with nonce := if target = .token then nonce else none }, request) := by
    rw [claim, unpresented]
    dsimp only
    split <;> simp [← blank]
  rw [prepare_of_present present, claimed _ _ rfl]
  refine ⟨⟨draw.signature, Headers.getAll_insert_self _ _ _⟩,
    Proof.claims?_withHeader_sign _ _ _ low high, rfl, rfl, now.seconds_le_nanos, ?_,
    fun _ => ⟨rfl, Headers.without_insert (by decide) _ _⟩, ?_, .inl rfl, rfl, rfl, rfl⟩
  · intro text read
    rw [unread] at read
    cases read
  · intro value
    cases target with
    | token =>
        simp only [↓reduceIte, Option.map_eq_some_iff, refresh_nonce_iff, unread, true_and,
          and_assoc]
    | resource => simp

/-! ## Preparing again -/

theorem prepare_authorization (present : handshake.key = some key) (draw : Draw) (target : Target)
    (now : Instant) (request : Request) :
    (handshake.prepare draw target now request).1.headers.getAll "authorization" =
      match presented? request with
      | some token => [(HeaderValue.ofAscii ("DPoP " ++ String.ofList token)).secret]
      | none => request.headers.getAll "authorization" := by
  rw [prepare_of_present present]
  refine (Headers.getAll_insert_of_ne (by decide) _ _).trans ?_
  unfold claim
  cases presented : presented? request with
  | some token => exact Headers.getAll_insert_self _ _ _
  | none =>
      dsimp only
      split <;> rfl

theorem statedHash?_prepare (present : handshake.key = some key) (draw : Draw) (target : Target)
    (now : Instant) (request : Request) :
    statedHash? (handshake.prepare draw target now request).1 =
      (presented? request).map fun token => tokenHash (String.ofList token) := by
  cases presented : presented? request with
  | none =>
      rw [statedHash?, (decorates_of_unpresented present presented draw target now).stated]
      rfl
  | some token =>
      rw [statedHash?, (decorates_of_presented present presented draw target now).stated]
      rfl

/-- Without a key a request stays as it is; with one it is decorated, and what it then presents
stays as it is when it is prepared again, at any time and whatever has become of the handshake. -/
theorem prepare_decorates (handshake : Handshake) (draw : Draw) (target : Target) (now : Instant)
    (request : Request) :
    let sent := (handshake.prepare draw target now request).1
    (handshake.key = none → sent = request) ∧
    ∀ key, handshake.key = some key →
      (∃ claims, Decorates handshake key target now request sent claims) ∧
      ∀ (later : Handshake) (drawAgain : Draw) (targetAgain : Target) (nowAgain : Instant),
        let again := (later.prepare drawAgain targetAgain nowAgain sent).1
        again.headers.getAll "authorization" = sent.headers.getAll "authorization" ∧
          statedHash? again = statedHash? sent := by
  intro sent
  constructor
  · intro absent
    exact prepare_of_keyless absent draw target now request
  intro key present
  constructor
  · cases presented : presented? request with
    | none => exact ⟨_, decorates_of_unpresented present presented draw target now⟩
    | some token => exact ⟨_, decorates_of_presented present presented draw target now⟩
  · intro later drawAgain targetAgain nowAgain again
    have kept : presented? sent = presented? request := presented?_prepare ..
    cases presentAgain : later.key with
    | none =>
        have same : again = sent := prepare_of_keyless presentAgain ..
        rw [same]
        exact ⟨rfl, rfl⟩
    | some keyAgain =>
        constructor
        · rw [prepare_authorization presentAgain, kept]
          cases presented : presented? request with
          | none => rfl
          | some token => rw [prepare_authorization present, presented]
        · rw [statedHash?_prepare presentAgain, kept, statedHash?_prepare present]

private theorem inCalendar_second : inCalendar 1000000000 := by decide

private def holding : Handshake where
  key := some ⟨"x", "y"⟩
  nonce := some ⟨"n-1", 1000000000, inCalendar_second⟩
  validity := .ofSeconds 1

private def asking : Request :=
  .plain "POST" ⟨"https".toList, [], [], some (.domain "acme.okta.com".toList), none,
    .segments ["token".toList], none, none⟩

theorem prepare_decorates_holding :
    let sent := (holding.prepare ⟨⟨"x", "y"⟩, "1", [0]⟩ .token ⟨0, inCalendar_zero⟩ asking).1
    ∃ claims, Proof.claims? sent = some claims ∧ claims.method = "POST" ∧
      claims.tokenHash = none ∧ claims.nonce = some "n-1" := by
  intro sent
  obtain ⟨-, keyed⟩ :=
    prepare_decorates holding ⟨⟨"x", "y"⟩, "1", [0]⟩ .token ⟨0, inCalendar_zero⟩ asking
  obtain ⟨⟨claims, decorates⟩, -⟩ := keyed ⟨"x", "y"⟩ rfl
  have unread : asking.headers.chars? "authorization" = none := rfl
  have unexpired : (⟨0, inCalendar_zero⟩ : Instant) < ⟨1000000000, inCalendar_second⟩ := by decide
  exact ⟨claims, decorates.stated, decorates.method, (decorates.unpresenting unread).1,
    (decorates.nonce "n-1").mpr ⟨rfl, unread, _, rfl, unexpired, rfl⟩⟩

end Handshake

end KeyBound
