import KeyBound.Proofs.Client.Effort
import KeyBound.Proofs.Handshake.Claims

/-!
# The requests of a call

What each attempt of a call sends. Every attempt begins with the caller's request: from the second
one on it adds its number and what the server called the first request that it named, and then the
handshake of that time puts a proof on it. Nothing of this reaches the next attempt.
-/

set_option autoImplicit false

namespace KeyBound

open Session

/-! ## What went before an attempt -/

namespace Session

variable {env : Environment} {session : Session} {first last : Nat}

/-- How the requests from one position up to another one ended, in order. -/
def outcomes (env : Environment) (session : Session) (first last : Nat) : List Outcome :=
  (List.range' first (last - first)).filterMap fun position =>
    (session.reply? env position).map (·.outcome)

@[simp] theorem outcomes_self (env : Environment) (session : Session) (position : Nat) :
    session.outcomes env position position = [] := by
  simp [outcomes]

theorem outcomes_of_reply? {reply : Reply} (replied : session.reply? env first = some reply)
    (before : first < last) :
    session.outcomes env first last = reply.outcome :: session.outcomes env (first + 1) last := by
  have count : last - first = last - (first + 1) + 1 := by omega
  rw [outcomes, outcomes, count, List.range'_succ, List.filterMap_cons, replied]
  rfl

theorem outcomes_length {count : Nat} (inside : first + count ≤ session.sent.length) :
    (session.outcomes env first (first + count)).length = count := by
  induction count generalizing first with
  | zero => rw [Nat.add_zero, outcomes_self, List.length_nil]
  | succ count ih =>
      have placed : first < session.sent.length := by omega
      have replied : session.reply? env first = some _ :=
        congrArg _ (List.getElem?_eq_getElem placed)
      have next : first + (count + 1) = first + 1 + count := by omega
      rw [outcomes_of_reply? replied (by omega), List.length_cons, next, ih (by omega)]

end Session

namespace Pipeline

variable {env : Environment} {settings : RetrySettings} {target : Target} {request : Request}
  {began : Delay} {attempt : Nat} {retryFor : Option HeaderValue} {session final : Session}

/-- What a response calls its request. -/
def named? : Outcome → Option HeaderValue
  | .ok response => response.headers.get? "x-okta-request-id"
  | .error _ => none

theorem firstNamed_eq (retryFor : Option HeaderValue) (outcome : Outcome) :
    firstNamed retryFor outcome = retryFor.or (named? outcome) := by
  cases retryFor with
  | some id => cases outcome <;> rfl
  | none => cases outcome <;> rfl

/-- Attempt after attempt, the first name is the one that counts. -/
theorem foldl_firstNamed (retryFor : Option HeaderValue) (outcomes : List Outcome) :
    outcomes.foldl firstNamed retryFor = retryFor.or (outcomes.findSome? named?) := by
  induction outcomes generalizing retryFor with
  | nil => simp
  | cons outcome outcomes ih =>
      rw [List.foldl_cons, ih, firstNamed_eq, Option.or_assoc, List.findSome?_cons]
      cases named? outcome <;> rfl

/-! ## Every attempt begins anew -/

/-- An attempt sends the caller's request, tagged with the number of the attempt and the first name,
as a handshake with some key prepares it. -/
def SendsAs (settings : RetrySettings) (target : Target) (request : Request)
    (key : Option ProofKey) (attempt : Nat) (retryFor : Option HeaderValue) (sent : Request) :
    Prop :=
  ∃ (handshake : Handshake) (draw : Draw) (now : Instant), handshake.key = key ∧
    sent = (handshake.prepare draw target now (tagged settings attempt retryFor request)).1

theorem attemptOnce_sendsAs {entry : Delay × Request} {position : Nat} {later : Session}
    (same : later.sent = (attemptOnce env settings target request attempt retryFor session).2.sent)
    (begun : session.sent.length ≤ position) (placed : later.sent[position]? = some entry)
    (final : Session) :
    SendsAs settings target request session.handshake.key
      (attempt + (position - session.sent.length))
      ((final.outcomes env session.sent.length position).foldl firstNamed retryFor) entry.2 := by
  rw [same] at placed
  unfold attemptOnce at placed
  split at placed
  · rw [List.getElem?_eq_none begun] at placed
    cases placed
  · simp only [exchange, wait_sent, tell_sent, prepare_sent] at placed
    rw [List.getElem?_append_right begun] at placed
    obtain ⟨inside, rfl⟩ := List.getElem?_eq_some_iff.mp placed
    obtain rfl : position = session.sent.length := by
      rw [List.length_singleton] at inside
      omega
    rw [outcomes_self]
    refine ⟨session.handshake, env.draw session.draws, session.now env, rfl, ?_⟩
    simp only [Nat.sub_self]
    rfl

/-- Whatever the attempts before it came to, an attempt begins with the caller's request. -/
theorem Course.sendsAs {answer : Except Error Response}
    (course : Course env settings target request began attempt retryFor session answer final)
    {position : Nat} {entry : Delay × Request} (begun : session.sent.length ≤ position)
    (placed : final.sent[position]? = some entry) :
    SendsAs settings target request session.handshake.key
      (attempt + (position - session.sent.length))
      ((final.outcomes env session.sent.length position).foldl firstNamed retryFor) entry.2 := by
  induction course with
  | cancelled attempted =>
      exact attemptOnce_sendsAs (congrArg (·.2.sent) attempted).symm begun placed _
  | final attempted =>
      exact attemptOnce_sendsAs (congrArg (·.2.sent) attempted).symm begun placed _
  | overBudget attempted =>
      exact attemptOnce_sendsAs (congrArg (·.2.sent) attempted).symm begun placed _
  | interrupted attempted _ _ waited =>
      have unchanged := congrArg (·.2.sent) waited
      rw [wait_sent] at unchanged
      exact attemptOnce_sendsAs (unchanged.symm.trans (congrArg (·.2.sent) attempted).symm) begun
        placed _
  | @again attempt retryFor session _ later final _ _ _ attempted _ _ waited rest ih =>
      obtain ⟨prepared, grown, answered, _⟩ := attemptOnce_some attempted
      obtain ⟨_, _, kept⟩ := (parts_keeps env settings target request).of_delay attempted waited
      obtain ⟨unchanged, _⟩ := passed_of_wait waited
      rw [tell_sent, tell_sent] at unchanged
      have sent : later.sent = session.sent ++ [(session.elapsed, prepared)] :=
        unchanged.trans grown
      have length : later.sent.length = session.sent.length + 1 := by
        rw [sent, List.length_append, List.length_singleton]
      -- The request is that of the first attempt, or of one of those after it.
      rcases Nat.eq_or_lt_of_le begun with first | further
      · obtain ⟨_, whole⟩ := rest.sends.sent_grows
        rw [← whole, List.getElem?_append_left (by omega)] at placed
        exact attemptOnce_sendsAs (unchanged.trans (congrArg (·.2.sent) attempted).symm) begun
          placed _
      · have replied : later.reply? env session.sent.length = some _ := reply?_of_append sent
        have repliedStill :=
          (reply?_of_grows rest.sends.sent_grows (by omega)).trans replied
        have number : attempt + (position - session.sent.length) =
            attempt + 1 + (position - later.sent.length) := by omega
        rw [outcomes_of_reply? repliedStill further, List.foldl_cons, ← answered, ← kept.key,
          number, ← length]
        exact ih (by omega) placed

end Pipeline

/-! ## What an attempt changes -/

namespace Pipeline

variable {settings : RetrySettings}

private theorem isRepeated_iff {attempt : Nat} :
    (1 < attempt && settings.retryHeaders) = true ↔
      2 ≤ attempt ∧ settings.retryHeaders = true := by
  simp [Nat.succ_le_iff]

theorem tagged_count (settings : RetrySettings) (attempt : Nat) (retryFor : Option HeaderValue)
    (request : Request) :
    (tagged settings attempt retryFor request).headers.getAll retryCountHeader =
      if 2 ≤ attempt ∧ settings.retryHeaders = true then [.ofAscii (toString attempt)]
      else request.headers.getAll retryCountHeader := by
  unfold tagged
  simp only [isRepeated_iff]
  split
  · cases retryFor with
    | none => exact Headers.getAll_insert_self _ _ _
    | some id =>
        exact (Headers.getAll_insert_of_ne (by decide) _ _).trans
          (Headers.getAll_insert_self _ _ _)
  · rfl

theorem tagged_retryFor (settings : RetrySettings) (attempt : Nat) (retryFor : Option HeaderValue)
    (request : Request) :
    (tagged settings attempt retryFor request).headers.getAll retryForHeader =
      match if 2 ≤ attempt ∧ settings.retryHeaders = true then retryFor else none with
      | some id => [id]
      | none => request.headers.getAll retryForHeader := by
  unfold tagged
  simp only [isRepeated_iff]
  split
  · cases retryFor with
    | none => exact Headers.getAll_insert_of_ne (by decide) _ _
    | some id => exact Headers.getAll_insert_self _ _ _
  · rfl

end Pipeline

/-- A request of an attempt is the caller's request but for the headers that a client sets on its
own: the number of the attempt and the first name among the responses before it, if it is not the
first one and they are to be told, and proofs if the client has a key. -/
structure Request.IsAttempt (sent request : Request) (retryHeaders active : Bool) (number : Nat)
    (earlier : List Outcome) : Prop extends sent.IsCopyOf request where
  count : sent.headers.getAll "x-okta-retry-count" =
    if 2 ≤ number ∧ retryHeaders = true then [.ofAscii (toString number)]
    else request.headers.getAll "x-okta-retry-count"
  retryFor : sent.headers.getAll "x-okta-retry-for" =
    match if 2 ≤ number ∧ retryHeaders = true then earlier.findSome? Pipeline.named? else none with
    | some id => [id]
    | none => request.headers.getAll "x-okta-retry-for"
  proofs : active = false → ∀ name, Headers.fold name ∈ ["authorization", "dpop"] →
    sent.headers.getAll name = request.headers.getAll name

namespace Pipeline

variable {env : Environment} {settings : RetrySettings} {target : Target} {request sent : Request}
  {session : Session}

theorem SendsAs.isAttempt {key : Option ProofKey} {number : Nat} {earlier : List Outcome}
    (sends : SendsAs settings target request key number (earlier.findSome? named?) sent) :
    sent.IsAttempt request settings.retryHeaders key.isSome number earlier := by
  obtain ⟨handshake, draw, now, rfl, rfl⟩ := sends
  refine ⟨(Outgoing.prepared handshake draw now number _).isCopyOf, ?_, ?_, ?_⟩
  · exact (handshake.prepare_getAll draw target now _ (by decide)).trans (tagged_count ..)
  · exact (handshake.prepare_getAll draw target now _ (by decide)).trans (tagged_retryFor ..)
  · intro inactive name proof
    have absent : handshake.key = none :=
      Option.isNone_iff_eq_none.mp (Option.isSome_eq_false_iff.mp inactive)
    rw [Handshake.prepare_of_keyless absent]
    refine tagged_getAll settings number _ request ?_
    rcases List.mem_pair.mp proof with same | same
    · rw [same]
      decide
    · rw [same]
      decide

theorem runToken_sent (env : Environment) (settings : RetrySettings) (request : Request)
    (session : Session) :
    (runToken env settings request session).2.sent =
      (run env settings .token request session).2.sent := by
  rw [runToken_eq]
  split
  · rfl
  · exact observe_sent env _ _

/-- The requests of a call are sent as those of its attempts, one after the other. -/
theorem run_sendsAs {sent : List (Delay × Request)} {i : Nat} {entry : Delay × Request}
    (grown : (run env settings target request session).2.sent = session.sent ++ sent)
    (placed : sent[i]? = some entry) :
    SendsAs settings target request session.handshake.key (i + 1)
      (((run env settings target request session).2.outcomes env session.sent.length
        (session.sent.length + i)).findSome? named?) entry.2 := by
  obtain ⟨last, told, whole, course⟩ := run_course env settings target request session
  rw [whole] at grown ⊢
  have standing : last.sent[session.sent.length + i]? = some entry := by
    have same : last.sent = session.sent ++ sent := grown
    rw [same, List.getElem?_append_right (Nat.le_add_right _ i), Nat.add_sub_cancel_left]
    exact placed
  have sends := course.sendsAs (Nat.le_add_right _ i) standing
  rw [tell_sent, Nat.add_sub_cancel_left, Nat.add_comm 1 i, foldl_firstNamed,
    Option.none_or] at sends
  exact sends

/-- A call sends nothing but its attempts, with the key that there is at the beginning. -/
theorem run_sendsOnly_attempts (env : Environment) (settings : RetrySettings) (target : Target)
    (request : Request) (session : Session) :
    SendsOnly (fun sent => ∃ number retryFor,
        SendsAs settings target request session.handshake.key number retryFor sent)
      session (run env settings target request session).2 := by
  obtain ⟨sent, grown⟩ := run_sent_grows env settings target request session
  refine ⟨sent, grown.symm, fun entry member => ?_⟩
  obtain ⟨i, placed⟩ := List.mem_iff_getElem?.mp member
  exact ⟨_, _, run_sendsAs grown.symm placed⟩

/-- Few retries can be counted in 32 bits, and so can the attempts. -/
theorem run_attempts_countable (countable : settings.maxRetries < Nat.pow 2 32 - 1) :
    (run env settings target request session).2.sent.length <
      session.sent.length + Nat.pow 2 32 := by
  have few := run_sent_length_le env settings target request session
  have more := Nat.add_lt_of_lt_sub countable
  omega

/-- Each request of a call is the caller's request, tagged and prepared for that attempt alone: of
the attempts before it, it shows their number and the first name. Numbers of attempts have 32 bits,
which hold all of them unless the settings allow as many retries as 32 bits can tell. A call of the
token endpoint sends no others. -/
theorem run_requests (env : Environment) (settings : RetrySettings) (target : Target)
    (request : Request) (session : Session) :
    let final := (run env settings target request session).2
    (∃ sent, final.sent = session.sent ++ sent ∧
      (settings.maxRetries < Nat.pow 2 32 - 1 → sent.length < Nat.pow 2 32) ∧
      ∀ i entry, sent[i]? = some entry → i + 1 < Nat.pow 2 32 →
        let earlier := final.outcomes env session.sent.length (session.sent.length + i)
        earlier.length = i ∧
          entry.2.IsAttempt request settings.retryHeaders session.handshake.isActive (i + 1)
            earlier ∧
          SendsAs settings target request session.handshake.key (i + 1)
            (earlier.findSome? named?) entry.2) ∧
      (runToken env settings request session).2.sent =
        (run env settings .token request session).2.sent := by
  intro final
  obtain ⟨sent, grown⟩ := run_sent_grows env settings target request session
  refine ⟨⟨sent, grown.symm, ?counted, ?each⟩, runToken_sent env settings request session⟩
  case counted =>
    intro countable
    have few : final.sent.length < session.sent.length + Nat.pow 2 32 :=
      run_attempts_countable countable
    rw [← grown, List.length_append] at few
    exact Nat.lt_of_add_lt_add_left few
  case each =>
    intro i entry placed _ earlier
    have inside : i < sent.length := (List.getElem?_eq_some_iff.mp placed).1
    have sends := run_sendsAs grown.symm placed
    refine ⟨outcomes_length ?_, sends.isAttempt, sends⟩
    rw [← grown, List.length_append]
    omega

private def namedOnce : Environment :=
  .ofScript ⟨[⟨.zero, .ok ⟨503, [("x-okta-request-id", .ofAscii "r-1")], []⟩⟩,
    ⟨.zero, .ok ⟨200, [("x-okta-request-id", .ofAscii "r-2")], []⟩⟩], none⟩

private def askAgain : Except Error Response × Session :=
  run namedOnce .standard .resource (.plain "GET" (.sample ["api"])) (.start ⟨0⟩)

theorem run_requests_named :
    RetrySettings.standard.maxRetries < Nat.pow 2 32 - 1 ∧
      ∃ entry, askAgain.2.sent[1]? = some entry ∧ entry.2.method = "GET" ∧
        entry.2.headers.getAll "x-okta-retry-count" = [.ofAscii "2"] ∧
        entry.2.headers.getAll "x-okta-retry-for" = [.ofAscii "r-1"] := by
  have few : RetrySettings.standard.maxRetries < Nat.pow 2 32 - 1 := by decide
  obtain ⟨⟨sent, grown, _, each⟩, _⟩ := run_requests namedOnce .standard .resource
    (.plain "GET" (.sample ["api"])) (.start ⟨0⟩)
  obtain ⟨entry, placed⟩ : ∃ entry, askAgain.2.sent[1]? = some entry := ⟨_, rfl⟩
  have sole : askAgain.2.sent = sent := grown
  obtain ⟨_, attempt, _⟩ := each 1 entry (sole ▸ placed) (by decide)
  exact ⟨few, entry, placed, attempt.method, attempt.count, attempt.retryFor⟩

end Pipeline

end KeyBound
