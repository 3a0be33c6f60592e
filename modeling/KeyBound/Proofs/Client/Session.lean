import KeyBound.Client.Script
import KeyBound.Crypto.Sample

/-!
# Effects of a session

What single effects do to the requests that were sent and to the time, and what the server answered
to each of those requests.
-/

set_option autoImplicit false

namespace KeyBound

/-- A scripted server that does not set replies to token requests apart answers in order, whatever
it is asked. -/
theorem Script.respond_of_common {script : Script} (common : script.tokenReplies = none)
    (before : List Request) (request : Request) :
    script.respond before request = (script.replies[before.length]?).getD exhausted := by
  have resource (sent : Request) : script.isTokenRequest sent = false := by
    simp [isTokenRequest, common]
  simp [respond, repliesTo, count, resource]

def Environment.ofScript (script : Script) : Environment := .scripted script ⟨0, by decide⟩ none

def Reply.granting (secret : String) : Reply :=
  ⟨.zero, .ok ⟨200, [], utf8 ("\x7b\"token_type\":\"Bearer\",\"expires_in\":3600," ++
    "\"access_token\":\"" ++ secret ++ "\"\x7d")⟩⟩

def Url.sample (path : List String) : Url :=
  ⟨"https".toList, [], [], some (.domain "acme.okta.com".toList), none,
    .segments (path.map String.toList), none, none⟩

def ClientConfig.sample : ClientConfig where
  orgUrl := .sample [""]
  tokenEndpoint := .sample ["oauth2", "v1", "token"]
  clientId := "courier"
  key := .sampleCurve
  keyId := none
  scopes := ⟨["okta.users.read"]⟩
  retry := .standard
  nonceValidity := standardNonceValidity
  refreshWindow := standardRefreshWindow

namespace Session

variable {env : Environment} {request : Request} {outcome : Outcome} {session later : Session}
  {delay : Delay}

@[simp] theorem tell_sent (session : Session) (events : List Event) :
    (session.tell events).sent = session.sent := rfl

@[simp] theorem tell_elapsed (session : Session) (events : List Event) :
    (session.tell events).elapsed = session.elapsed := rfl

@[simp] theorem prepare_sent (env : Environment) (target : Target) (request : Request)
    (session : Session) : (session.prepare env target request).2.sent = session.sent := rfl

@[simp] theorem prepare_elapsed (env : Environment) (target : Target) (request : Request)
    (session : Session) : (session.prepare env target request).2.elapsed = session.elapsed := rfl

/-- Without a cancellation every wait passes. -/
theorem wait_of_uncancelled (uncancelled : env.cancelAt = none) (delay : Delay)
    (session : Session) :
    session.wait env delay = (true, { session with elapsed := session.deadline delay }) := by
  simp [wait, uncancelled]

theorem wait_passed (passed : (session.wait env delay).1 = true) :
    (session.wait env delay).2 = { session with elapsed := session.deadline delay } := by
  revert passed
  unfold wait
  cases env.cancelAt with
  | none => intro _; rfl
  | some moment =>
      dsimp only
      split
      · intro passed
        cases passed
      · intro _
        rfl

@[simp] theorem wait_sent (env : Environment) (delay : Delay) (session : Session) :
    (session.wait env delay).2.sent = session.sent := by
  unfold wait
  cases env.cancelAt with
  | none => rfl
  | some moment =>
      dsimp only
      split <;> rfl

/-- An exchange that is not cut short ends with the reply of the server, when the server gives
it. -/
theorem exchange_some (answered : session.exchange env request = (some outcome, later)) :
    let reply := env.respond (session.sent.map (·.2)) request
    outcome = reply.outcome ∧
      later = { session with
        sent := session.sent ++ [(session.elapsed, request)]
        elapsed := session.deadline reply.delay } := by
  intro reply
  unfold exchange at answered
  dsimp only at answered
  split at answered
  · rename_i passed
    cases answered
    exact ⟨rfl, wait_passed passed⟩
  · cases answered

/-! ## Cancellation -/

/-- A wait that is cut short ends with the cancellation. -/
theorem wait_cut (cut : session.wait env delay = (false, later)) :
    ∃ moment, env.cancelAt = some moment ∧ moment ≤ session.deadline delay ∧
      later = { session with elapsed := session.elapsed.atLeast moment } := by
  unfold wait at cut
  cases planned : env.cancelAt with
  | none =>
      rw [planned] at cut
      cases cut
  | some moment =>
      simp only [planned] at cut
      split at cut
      · rename_i due
        cases cut
        exact ⟨moment, rfl, due, rfl⟩
      · cases cut

/-- An exchange that is cut short ends with the cancellation, before the server has answered. -/
theorem exchange_cut (cut : session.exchange env request = (none, later)) :
    ∃ moment, env.cancelAt = some moment ∧
      moment ≤ session.deadline (env.respond (session.sent.map (·.2)) request).delay ∧
      later = { session with
        sent := session.sent ++ [(session.elapsed, request)]
        elapsed := session.elapsed.atLeast moment } := by
  unfold exchange at cut
  dsimp only at cut
  split at cut
  · cases cut
  · rename_i notPassed
    cases cut
    exact wait_cut (Prod.ext (Bool.eq_false_iff.mpr notPassed) rfl)

/-- A session is not cancelled exactly if the cancellation is still to come. -/
theorem isCancelled_eq_false_iff :
    session.isCancelled env = false ↔
      ∀ moment, env.cancelAt = some moment → session.elapsed < moment := by
  unfold isCancelled
  cases planned : env.cancelAt with
  | none => exact iff_of_true rfl nofun
  | some moment =>
      constructor
      · intro uncancelled other same
        cases same
        exact Nat.not_le.mp (of_decide_eq_false uncancelled)
      · intro before
        exact decide_eq_false (Nat.not_le.mpr (before moment rfl))

theorem wait_uncancelled (passed : session.wait env delay = (true, later)) :
    later.isCancelled env = false := by
  rw [isCancelled_eq_false_iff]
  intro moment planned
  unfold wait at passed
  simp only [planned] at passed
  split at passed
  · cases passed
  · rename_i due
    cases passed
    exact Nat.not_le.mp due

theorem exchange_uncancelled (answered : session.exchange env request = (some outcome, later)) :
    later.isCancelled env = false := by
  unfold exchange at answered
  dsimp only at answered
  split at answered
  · rename_i passed
    cases answered
    exact wait_uncancelled (Prod.ext passed rfl)
  · cases answered

/-! ## Requests that were sent -/

def sentAt? (session : Session) (position : Nat) : Option Delay :=
  session.sent[position]?.map (·.1)

/-- The reply to the request at a position, which depends on those before it. -/
def reply? (env : Environment) (session : Session) (position : Nat) : Option Reply :=
  session.sent[position]?.map fun entry =>
    env.respond ((session.sent.take position).map (·.2)) entry.2

theorem sentAt?_of_grows (earlier : session.sent <+: later.sent) {position : Nat}
    (inside : position < session.sent.length) :
    later.sentAt? position = session.sentAt? position := by
  obtain ⟨rest, whole⟩ := earlier
  rw [sentAt?, sentAt?, ← whole, List.getElem?_append_left inside]

theorem reply?_of_grows (earlier : session.sent <+: later.sent) {position : Nat}
    (inside : position < session.sent.length) :
    later.reply? env position = session.reply? env position := by
  obtain ⟨rest, whole⟩ := earlier
  rw [reply?, reply?, ← whole, List.getElem?_append_left inside,
    List.take_append_of_le_length (Nat.le_of_lt inside)]

theorem sentAt?_of_append {entry : Delay × Request}
    (sent : later.sent = session.sent ++ [entry]) :
    later.sentAt? session.sent.length = some entry.1 := by
  simp [sentAt?, sent]

theorem reply?_of_append {entry : Delay × Request}
    (sent : later.sent = session.sent ++ [entry]) :
    later.reply? env session.sent.length =
      some (env.respond (session.sent.map (·.2)) entry.2) := by
  simp [reply?, sent]

theorem lt_of_reply? {reply : Reply} {position : Nat}
    (replied : session.reply? env position = some reply) : position < session.sent.length := by
  obtain ⟨entry, placed, _⟩ := Option.map_eq_some_iff.mp replied
  exact (List.getElem?_eq_some_iff.mp placed).1

end Session

end KeyBound
