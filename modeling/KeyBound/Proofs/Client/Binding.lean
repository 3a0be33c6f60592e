import KeyBound.Proofs.Client.Reauthorization
import KeyBound.Proofs.Client.Requests

/-!
# Tokens that are bound to a key

Which proof goes out with a token. Once the client has a key, an authorization that it can read as
text is rewritten to the scheme of proofs, and the proof states the hash of the token. One that it
cannot read goes out as it was made, beside a proof for no token.
-/

set_option autoImplicit false

namespace KeyBound

open Session

/-! ## Authorizations as text -/

/-- Of the texts that a header may hold, those in ASCII are read as they were written, and no others
are read at all. -/
theorem HeaderValue.chars?_ofText? {text : String} {value : HeaderValue}
    (allowed : ofText? text = some value) :
    value.chars? = if Domain.isAscii text.toList then some text.toList else none := by
  unfold ofText? at allowed
  dsimp only at allowed
  split at allowed
  · rename_i inside
    cases allowed
    split
    · rename_i ascii
      refine chars?_ofAscii fun c member => ?_
      have small : c.toNat < 0x80 := of_decide_eq_true (List.all_eq_true.mp ascii c member)
      have byte : (UInt8.ofNat c.toNat).toNat = c.toNat :=
        UInt8.toNat_ofNat_of_lt (show c.toNat < 256 by omega)
      have encoded : UInt8.ofNat c.toNat ∈ utf8 text :=
        List.mem_flatMap.mpr ⟨c, member, Utf8.encodeChar_of_ascii small ▸ List.mem_singleton_self _⟩
      have held := List.all_eq_true.mp inside _ encoded
      simp only [isAllowed, Bool.or_eq_true, Bool.and_eq_true, decide_eq_true_eq, bne_iff_ne, ne_eq,
        UInt8.le_iff_toNat_le, ← UInt8.toNat_inj, byte, UInt8.reduceToNat] at held
      rcases held with tab | ⟨low, other⟩
      · exact .inl (Char.toNat_inj.mp tab)
      · exact .inr ⟨low, by omega⟩
    · rename_i wide
      obtain ⟨c, member, large⟩ : ∃ c ∈ text.toList, ¬ c.toNat < 0x80 := by
        simpa [Domain.isAscii] using wide
      obtain ⟨b, inChar⟩ := List.exists_mem_of_ne_nil _ (Utf8.encodeChar_ne_nil c)
      have beyond := Utf8.encodeChar_of_wide (Nat.not_lt.mp large) b inChar
      have unread : (⟨utf8 text, false⟩ : HeaderValue).isText = false := by
        refine List.all_eq_false.mpr ⟨b, List.mem_flatMap.mpr ⟨c, member, inChar⟩, ?_⟩
        simp only [isTextByte, Bool.or_eq_true, Bool.and_eq_true, decide_eq_true_eq,
          UInt8.le_iff_toNat_le, UInt8.lt_iff_toNat_lt, ← UInt8.toNat_inj,
          UInt8.reduceToNat] at beyond ⊢
        omega
      rw [chars?, unread]
      rfl
  · cases allowed

namespace Handshake

variable {handshake : Handshake} {request : Request} {token : AccessToken} {value : HeaderValue}

/-- A client reads the token of an authorization exactly if its secret is in ASCII. -/
theorem presented?_of_written (written : token.authorization? = some value)
    (alone : request.headers.getAll "authorization" = [value]) :
    (presented? request).map String.ofList =
      if Domain.isAscii token.secret.text.toList then some token.secret.text else none := by
  have first : request.headers.get? "authorization" = some value := by
    rw [Headers.get?, alone]
    rfl
  obtain ⟨plain, allowed, rfl⟩ := Option.map_eq_some_iff.mp written
  have scheme : Domain.isAscii ("Bearer " ++ token.secret.text).toList =
      Domain.isAscii token.secret.text.toList := by
    rw [String.toList_append, Domain.isAscii, List.all_append]
    exact Bool.true_and _
  have read := HeaderValue.chars?_ofText? allowed
  have marked : plain.secret.chars? = plain.chars? := rfl
  rw [scheme] at read
  simp only [presented?, Headers.chars?, first, Option.bind_eq_bind, Option.bind_some, marked,
    read]
  split
  · simp [String.toList_append]
  · rfl

end Handshake

/-! ## Proofs beside tokens -/

namespace Request

/-- The one authorization of a request is the secret of a token after some scheme. -/
def Authorizes (scheme : String) (token : AccessToken) (request : Request) : Prop :=
  ∃ value, request.headers.getAll "authorization" = [value] ∧
    value.bytes = utf8 (scheme ++ token.secret.text)

/-- A request presents a token under a scheme, beside one proof that is for this request and states
some hash of a token. -/
structure PresentsUnder (scheme : String) (hash : Option String) (token : AccessToken)
    (sent : Request) : Prop where
  authorization : sent.Authorizes scheme token
  proof : ∃ value claims, sent.headers.getAll "dpop" = [value] ∧
    Proof.claims? sent = some claims ∧ claims.method = sent.method ∧
    claims.address = canonicalAddress sent.url ∧ claims.tokenHash = hash

/-- A request is bound to a token: it presents the token under the scheme of proofs, and its proof
states the hash of the token. -/
def IsBoundTo (token : AccessToken) (sent : Request) : Prop :=
  sent.PresentsUnder "DPoP " (some (tokenHash token.secret.text)) token

/-- A request goes out with a token: it is bound to the token exactly if the secret is in ASCII, and
otherwise presents it as if there were no key, beside a proof for no token. -/
structure GoesWith (token : AccessToken) (sent : Request) : Prop where
  bound : sent.IsBoundTo token ↔ Domain.isAscii token.secret.text.toList = true
  bare : Domain.isAscii token.secret.text.toList = false →
    sent.PresentsUnder "Bearer " none token

def IsTokenless (sent : Request) : Prop := sent.headers.getAll "authorization" = []

theorem IsTokenless.presented? {request : Request} (tokenless : request.IsTokenless) :
    Handshake.presented? request = none := by
  have first : request.headers.get? "authorization" = none := by
    rw [Headers.get?, tokenless]
    rfl
  simp only [Handshake.presented?, Headers.chars?, first]
  rfl

variable {token : AccessToken} {sent : Request} {scheme : String} {hash : Option String}

theorem PresentsUnder.hash_eq {schemeToo : String} {hashToo : Option String}
    (presents : sent.PresentsUnder scheme hash token)
    (presentsToo : sent.PresentsUnder schemeToo hashToo token) : hash = hashToo := by
  obtain ⟨_, claims, _, read, _, _, rfl⟩ := presents.proof
  obtain ⟨_, claimsToo, _, readToo, _, _, rfl⟩ := presentsToo.proof
  obtain rfl := Option.some.inj (read.symm.trans readToo)
  rfl

theorem GoesWith.of_bound (ascii : Domain.isAscii token.secret.text.toList = true)
    (bound : sent.IsBoundTo token) : sent.GoesWith token where
  bound := iff_of_true bound ascii
  bare wide := by
    rw [ascii] at wide
    cases wide

theorem GoesWith.of_bare (wide : Domain.isAscii token.secret.text.toList = false)
    (bare : sent.PresentsUnder "Bearer " none token) : sent.GoesWith token where
  bound := by
    rw [wide]
    refine iff_of_false (fun bound => ?_) Bool.false_ne_true
    cases bound.hash_eq bare
  bare _ := bare

theorem Authorizes.of_written {value : HeaderValue} {request : Request}
    (written : token.authorization? = some value)
    (alone : request.headers.getAll "authorization" = [value]) :
    request.Authorizes "Bearer " token := by
  refine ⟨value, alone, ?_⟩
  obtain ⟨plain, allowed, rfl⟩ := Option.map_eq_some_iff.mp written
  unfold HeaderValue.ofText? at allowed
  dsimp only at allowed
  split at allowed
  · cases allowed
    rfl
  · cases allowed

theorem Authorizes.presentsUnder {request : Request} {claims : ProofClaims}
    (authorizes : request.Authorizes scheme token) (method : claims.method = request.method)
    (address : claims.address = canonicalAddress request.url)
    (issued : ∃ now : Instant, claims.issuedAt = now.seconds) (stated : claims.tokenHash = hash)
    (key : ProofKey) (signature : Bytes) :
    (request.withHeader "dpop" (.ofAscii (Proof.sign key claims signature))).PresentsUnder scheme
      hash token := by
  obtain ⟨value, alone, bytes⟩ := authorizes
  obtain ⟨now, issued⟩ := issued
  obtain ⟨low, high⟩ := now.seconds_bounds
  rw [← issued] at low high
  refine ⟨⟨value, ?_, bytes⟩, _, claims, Headers.getAll_insert_self _ _ _, ?_, method, address,
    stated⟩
  · exact (Headers.getAll_insert_of_ne (by decide) _ _).trans alone
  · exact Proof.claims?_withHeader_sign request key signature low high

end Request

open Request

namespace Handshake

variable {handshake : Handshake} {request : Request} {token : AccessToken} {value : HeaderValue}

theorem claim_of_ascii (written : token.authorization? = some value)
    (alone : request.headers.getAll "authorization" = [value])
    (ascii : Domain.isAscii token.secret.text.toList = true) (nonce : Option String)
    (target : Target) (claims : ProofClaims) :
    claim nonce target claims request =
      ({ claims with tokenHash := some (tokenHash token.secret.text) },
        request.withHeader "authorization"
          (HeaderValue.ofAscii ("DPoP " ++ token.secret.text)).secret) := by
  have reads := presented?_of_written written alone
  rw [if_pos ascii] at reads
  obtain ⟨text, presented, same⟩ := Option.map_eq_some_iff.mp reads
  simp only [claim, presented, same]

theorem claim_of_wide (written : token.authorization? = some value)
    (alone : request.headers.getAll "authorization" = [value])
    (wide : Domain.isAscii token.secret.text.toList = false) (nonce : Option String)
    (claims : ProofClaims) : claim nonce .resource claims request = (claims, request) := by
  have reads := presented?_of_written written alone
  rw [wide] at reads
  simp only [claim, Option.map_eq_none_iff.mp reads]
  rfl

theorem prepare_goesWith {key : ProofKey} (written : token.authorization? = some value)
    (alone : request.headers.getAll "authorization" = [value])
    (present : handshake.key = some key) (draw : Draw) (now : Instant) :
    (handshake.prepare draw .resource now request).1.GoesWith token := by
  rw [prepare_of_present present]
  cases ascii : Domain.isAscii token.secret.text.toList with
  | true =>
      have rewritten : (request.withHeader "authorization" (HeaderValue.ofAscii
          ("DPoP " ++ token.secret.text)).secret).Authorizes "DPoP " token :=
        ⟨_, Headers.getAll_insert_self _ _ _, rfl⟩
      rw [claim_of_ascii written alone ascii]
      refine .of_bound ascii (rewritten.presentsUnder ?_ ?_ ⟨now, ?_⟩ ?_ key draw.signature)
      all_goals rfl
  | false =>
      rw [claim_of_wide written alone ascii]
      refine .of_bare ascii ((Authorizes.of_written written alone).presentsUnder ?_ ?_ ⟨now, ?_⟩ ?_
        key draw.signature)
      all_goals rfl

end Handshake

/-! ## Requests of a client with a key -/

namespace Pipeline

variable {env : Environment} {settings : RetrySettings} {request : Request} {session : Session}

theorem run_goesWith {token : AccessToken} {value : HeaderValue}
    (written : token.authorization? = some value) (active : session.handshake.isActive = true) :
    SendsOnly (GoesWith token) session
      (run env settings .resource (request.withHeader "authorization" value) session).2 := by
  obtain ⟨key, present⟩ := Option.isSome_iff_exists.mp active
  refine (run_sendsOnly_attempts env settings .resource _ session).mono ?_
  rintro sent ⟨number, retryFor, handshake, draw, now, same, rfl⟩
  refine handshake.prepare_goesWith written ?_ (same.trans present) draw now
  rw [tagged_getAll settings _ _ _ (by decide)]
  exact Headers.getAll_insert_self _ _ _

theorem Outgoing.tokenless {target : Target} {sent : Request}
    (outgoing : Outgoing settings target request sent) (tokenless : request.IsTokenless) :
    sent.IsTokenless := by
  obtain ⟨handshake, draw, now, attempt, retryFor⟩ := outgoing
  have tag : (tagged settings attempt retryFor request).IsTokenless :=
    (tagged_getAll settings attempt retryFor request (by decide)).trans tokenless
  unfold Handshake.prepare Handshake.claim
  rw [tag.presented?]
  dsimp only
  split
  · exact tag
  · refine (Headers.getAll_insert_of_ne (by decide) _ _).trans ?_
    split <;> exact tag

end Pipeline

namespace Session

def KeepsKey (session later : Session) : Prop :=
  ∀ key, session.handshake.key = some key → later.handshake.key = some key

variable {session later last : Session}

theorem KeepsKey.trans (before : KeepsKey session later) (after : KeepsKey later last) :
    KeepsKey session last := fun key present => after key (before key present)

theorem KeepsKey.isActive (keeps : KeepsKey session later)
    (active : session.handshake.isActive = true) : later.handshake.isActive = true := by
  obtain ⟨key, present⟩ := Option.isSome_iff_exists.mp active
  exact Option.isSome_iff_exists.mpr ⟨key, keeps key present⟩

end Session

namespace Pipeline

theorem run_key (env : Environment) (settings : RetrySettings) (target : Target) (request : Request)
    (session : Session) :
    (run env settings target request session).2.handshake.key = session.handshake.key := by
  obtain ⟨_, _, kept⟩ := (parts_keeps env settings target request).of_run session
  exact kept.key

theorem runToken_keepsKey (env : Environment) (settings : RetrySettings) (request : Request)
    (session : Session) : KeepsKey session (runToken env settings request session).2 := by
  intro key present
  have presentStill := (run_key env settings .token request session).trans present
  rw [runToken_eq]
  split
  · exact presentStill
  · rename_i response _
    obtain ⟨verdict, handshake, steps, rule, observed⟩ :=
      observe_takes env response (run env settings .token request session).2
    rw [observed]
    cases rule with
    | keyEstablished _ _ absent => rw [presentStill] at absent; cases absent
    | beyondCalendar | nonceAccepted =>
        simp [Handshake.withKey, Handshake.keyOrNew, presentStill]
    | _ => exact presentStill

end Pipeline

namespace Acquisition

variable {env : Environment} {config : ClientConfig}

theorem parts_keepsKey (env : Environment) (config : ClientConfig) :
    Parts env config fun _ => KeepsKey where
  trans := KeepsKey.trans
  weaken _ keeps := keeps
  looked _ _ present := present
  drawn _ _ present := present
  told _ _ present := present
  called session made _ := Pipeline.runToken_keepsKey env config.retry made session

theorem Access.keepsKey {session later : Session} {source : Source}
    {answer : Except Error AccessToken}
    (access : Access env config session source answer later) : KeepsKey session later := by
  cases access with
  | reused _ looked | unknown looked =>
      obtain ⟨_, rfl⟩ := looked
      exact fun _ present => present
  | @acquired _ waiting _ looked fetched | @failed _ waiting _ looked fetched =>
      have kept := (parts_keepsKey env config).of_fetch waiting
      rw [fetched] at kept
      obtain ⟨_, rfl⟩ := looked
      exact kept

/-! ## Requests of an acquisition -/

theorem request_tokenless {now : Instant} {draw : Draw} {made : Request}
    (requested : request config now draw = .ok made) : made.IsTokenless := by
  have asks := request_asks config now draw
  rw [requested] at asks
  cases asks
  exact (Headers.getAll_insert_of_ne (by decide) _ _).trans
    (Headers.getAll_insert_of_ne (by decide) _ _)

theorem Access.tokenless {session later : Session} {source : Source}
    {answer : Except Error AccessToken}
    (access : Access env config session source answer later) :
    SendsOnly IsTokenless session later := by
  cases access with
  | reused _ looked | unknown looked =>
      obtain ⟨_, rfl⟩ := looked
      exact .of_sent rfl
  | @acquired _ waiting _ looked fetched | @failed _ waiting _ looked fetched =>
      have sends : SendsOnly IsTokenless waiting (fetch env config waiting).2 :=
        fetch_sendsOnly (fun requested _ outgoing =>
          outgoing.tokenless (request_tokenless requested)) env waiting
      rw [fetched] at sends
      obtain ⟨_, rfl⟩ := looked
      exact sends

end Acquisition

/-! ## Requests that present a token -/

namespace Api

variable {env : Environment} {config : ClientConfig} {request : Request}

/-- What a request sends that uses tokens in some way: no token, or one of those that it presents,
as a key has it go out. -/
def SendsBound (request : Request) (uses : List TokenUse) (session later : Session) : Prop :=
  SendsOnly (fun sent => sent.IsTokenless ∨
    ∃ token answer, .presented request token answer ∈ uses ∧ sent.GoesWith token) session later

theorem SendsBound.mono {uses more : List TokenUse} {session later : Session}
    (sends : SendsBound request uses session later) (covers : ∀ use ∈ uses, use ∈ more) :
    SendsBound request more session later := by
  refine SendsOnly.mono sends ?_
  rintro sent (tokenless | ⟨token, answer, presented, goes⟩)
  · exact .inl tokenless
  · exact .inr ⟨token, answer, covers _ presented, goes⟩

theorem Tries.keepsKey {uses : List TokenUse} {answer : Except Error Response}
    {session later : Session} (tries : Tries env config request session uses answer later) :
    KeepsKey session later := by
  cases tries with
  | missing access | unfit access => exact access.keepsKey
  | @called _ _ value between _ _ access _ ran =>
      have key := Pipeline.run_key env config.retry .resource
        (request.withHeader "authorization" value) between
      rw [ran] at key
      exact access.keepsKey.trans fun _ present => key.trans present

theorem Tries.sendsBound {uses : List TokenUse} {answer : Except Error Response}
    {session later : Session} (tries : Tries env config request session uses answer later)
    (active : session.handshake.isActive = true) : SendsBound request uses session later := by
  cases tries with
  | missing access | unfit access => exact access.tokenless.mono fun _ => .inl
  | @called source token value between _ _ access written ran =>
      have goes : SendsOnly (GoesWith token) between (Pipeline.run env config.retry .resource
          (request.withHeader "authorization" value) between).2 :=
        Pipeline.run_goesWith written (access.keepsKey.isActive active)
      rw [ran] at goes
      have presented : TokenUse.presented request token answer ∈
          [.took source token, .presented request token answer] :=
        List.mem_cons_of_mem _ (List.mem_singleton_self _)
      exact (access.tokenless.mono fun _ => .inl).trans
        (goes.mono fun sent goes => .inr ⟨token, answer, presented, goes⟩)

/-- Once a client has a key, each request that presents a token is bound to it, by whichever attempt
it is sent, unless the secret is one that the client cannot read. A client presents its tokens so,
and sends nothing else but requests without any. -/
theorem send_binds (env : Environment) (config : ClientConfig) (request : Request)
    (session : Session) :
    (∀ token value, token.authorization? = some value → session.handshake.isActive = true →
      SendsOnly (GoesWith token) session (Pipeline.run env config.retry .resource
        (request.withHeader "authorization" value) session).2) ∧
    (session.handshake.isActive = true →
      ∃ uses, Performs env config request session uses (send env config request session).1
          (send env config request session).2 ∧
        SendsBound request uses session (send env config request session).2) := by
  refine ⟨fun token value written active => Pipeline.run_goesWith written active, fun active => ?_⟩
  obtain ⟨uses, performs⟩ := send_performs env config request session
  refine ⟨uses, performs, ?_⟩
  generalize (send env config request session).1 = answer at performs
  generalize (send env config request session).2 = later at performs ⊢
  cases performs with
  | once first => exact first.sendsBound active
  | @twice first second refusal _ between _ tried _ retried =>
      have before : SendsBound request (first ++ .dropped :: second) session between :=
        (tried.sendsBound active).mono fun use => List.mem_append_left _
      have after : SendsBound request (first ++ .dropped :: second) between later :=
        (retried.sendsBound (tried.keepsKey.isActive active)).mono fun use member =>
          List.mem_append_right _ (List.mem_cons_of_mem _ member)
      exact before.trans after

/-! ## A secret beyond ASCII -/

private def widening : Environment :=
  .ofScript ⟨[⟨.zero, .ok ⟨400, [], utf8 "\x7b\"error\":\"invalid_dpop_proof\"\x7d"⟩⟩,
    .granting "tök-1", ⟨.zero, .ok ⟨200, [], []⟩⟩], none⟩

private def widened : Session :=
  (Acquisition.accessToken widening .sample (.start ClientConfig.sample.nonceValidity)).2

private def wideValue : HeaderValue := ⟨utf8 "Bearer tök-1", true⟩

private def lookedUp : Except Error Response × Session :=
  Pipeline.run widening ClientConfig.sample.retry .resource
    ((jsonRequest (.sample ["api"])).withHeader "authorization" wideValue) widened

/-- A token beyond ASCII goes out as it would without a key, although there is one. -/
theorem send_binds_wide :
    ∃ token entry, widened.cached = some token ∧ token.secret.text = "tök-1" ∧
      token.authorization? = some wideValue ∧ widened.handshake.isActive = true ∧
      lookedUp.2.sent = widened.sent ++ [entry] ∧ entry.2.PresentsUnder "Bearer " none token ∧
      ¬ entry.2.IsBoundTo token := by
  have ended : widened.handshake.isActive = true ∧
      widened.cached.map (fun token => (token.secret.text, token.authorization?)) =
        some ("tök-1", some wideValue) ∧
      lookedUp.2.sent.length = widened.sent.length + 1 := by
    decide +kernel
  obtain ⟨active, held, grown⟩ := ended
  obtain ⟨token, cached, same⟩ := Option.map_eq_some_iff.mp held
  obtain ⟨secret, written⟩ := Prod.mk.inj same
  have wide : Domain.isAscii token.secret.text.toList = false := by
    rw [secret]
    decide
  obtain ⟨bound, _⟩ := send_binds widening .sample (jsonRequest (.sample ["api"])) widened
  have presented : SendsOnly (GoesWith token) widened lookedUp.2 := bound token _ written active
  obtain ⟨sent, added, goes⟩ := presented
  obtain ⟨entry, rfl⟩ : ∃ entry, sent = [entry] := by
    rw [added, List.length_append] at grown
    exact List.length_eq_one_iff.mp (by omega)
  have goes := goes entry (List.mem_singleton_self _)
  refine ⟨token, entry, cached, secret, written, active, added, goes.bare wide, fun bound => ?_⟩
  cases wide.symm.trans (goes.bound.mp bound)

end Api

end KeyBound
