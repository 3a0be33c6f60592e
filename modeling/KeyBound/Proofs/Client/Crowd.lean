import KeyBound.Client.Crowd
import KeyBound.Proofs.Client.TokenUse
import Mathlib.Algebra.BigOperators.Fin
import Mathlib.Logic.Relation

/-!
# Steps of callers that share a client

Every way in which a caller goes on, and what it does to the session. Whoever acquires a token has
the turn, and nobody else has it then. A caller that moves alone does what it does in a session of
its own.
-/

set_option autoImplicit false

namespace KeyBound

open Acquisition

variable {env : Environment} {config : ClientConfig}

/-! ## Steps of one caller -/

namespace Stand

/-- Whether a caller acquires a token, or has one that it has not kept yet. -/
def isBusy : Stand → Bool
  | acquiring _ | granted _ => true
  | _ => false

theorem isBusy_of_isAcquiring {stand : Stand} (acquiring : stand.isAcquiring = true) :
    stand.isBusy = true := by
  cases stand with
  | acquiring roundsLeft => rfl
  | _ => cases acquiring

theorem holdsTurn_of_isBusy {stand : Stand} (busy : stand.isBusy = true) :
    stand.holdsTurn = true := by
  cases stand with
  | acquiring roundsLeft | granted token => rfl
  | _ => cases busy

def granted? : Stand → Option AccessToken
  | granted token => some token
  | _ => none

variable {again : Bool} {stand : Stand} {token : AccessToken} {answer : Except Error Response}

theorem eq_granted_of_granted? (acquired : stand.granted? = some token) :
    stand = .granted token := by
  cases stand with
  | granted other =>
      cases acquired
      rfl
  | _ => cases acquired

theorem answered_of_refuses (first : again = false) (refuses : Api.Refuses answer) :
    answered again token answer = .refused token := by
  obtain ⟨response, rfl, status⟩ := refuses
  simp [answered, first, status]

theorem answered_of_final (final : again = true ∨ ¬ Api.Refuses answer) :
    answered again token answer = .settled (answer.bind Api.accepted) := by
  cases answer with
  | error error => rfl
  | ok response =>
      rcases final with rfl | accepts
      · simp [answered, Except.bind]
      · have other : response.status ≠ Api.unauthorized := fun status =>
          accepts ⟨response, rfl, status⟩
        simp [answered, Except.bind, other]

end Stand

namespace Caller

@[simp] theorem standing_stand (caller : Caller) (stand : Stand) :
    (caller.standing stand).stand = stand := rfl

@[simp] theorem standing_errand (caller : Caller) (stand : Stand) :
    (caller.standing stand).errand = caller.errand := rfl

@[simp] theorem standing_again (caller : Caller) (stand : Stand) :
    (caller.standing stand).again = caller.again := rfl

@[simp] theorem standing_standing (caller : Caller) (first second : Stand) :
    (caller.standing first).standing second = caller.standing second := rfl

@[simp] theorem around_standing (caller : Caller) (stand : Stand) (env : Environment) :
    (caller.standing stand).around env = caller.around env := rfl

inductive Steps (env : Environment) (config : ClientConfig) (free : Bool) (caller : Caller)
    (session : Session) : Caller → Session → Prop where
  | missed :
      caller.stand = .arriving → (fresh env config session).1 = .ok none →
      Steps env config free caller session (caller.standing .waiting) (session.look env).2
  | found (answer : Except Error AccessToken) :
      caller.stand = .arriving → (fresh env config session).1 = answer.map some →
      Steps env config free caller session (caller.standing (.supplied answer)) (session.look env).2
  | entered :
      caller.stand = .waiting → free = true →
      Steps env config free caller session (caller.standing .admitted) session
  | missedAgain :
      caller.stand = .admitted → (fresh env config session).1 = .ok none →
      Steps env config free caller session (caller.standing .lacking) (session.look env).2
  | foundAgain (answer : Except Error AccessToken) :
      caller.stand = .admitted → (fresh env config session).1 = answer.map some →
      Steps env config free caller session (caller.standing (.leaving answer)) (session.look env).2
  | began :
      caller.stand = .lacking →
      Steps env config free caller session (caller.standing (.acquiring maxRounds))
        (session.tell [.span .token .clientCredentials])
  | advanced {roundsLeft : Nat} :
      caller.stand = .acquiring (roundsLeft + 1) →
      (exchange (caller.around env) config session).1 = .ok none →
      Steps env config free caller session (caller.standing (.acquiring roundsLeft))
        (exchange (caller.around env) config session).2
  | granted {roundsLeft : Nat} {token : AccessToken} :
      caller.stand = .acquiring roundsLeft →
      (exchange (caller.around env) config session).1 = .ok (some token) →
      Steps env config free caller session (caller.standing (.granted token))
        (exchange (caller.around env) config session).2
  | failed {roundsLeft : Nat} {error : Error} :
      caller.stand = .acquiring roundsLeft →
      (∀ token, (exchange (caller.around env) config session).1 ≠ .ok (some token)) →
      Steps env config free caller session (caller.standing (.leaving (.error error)))
        (exchange (caller.around env) config session).2
  | kept {token : AccessToken} :
      caller.stand = .granted token →
      Steps env config free caller session (caller.standing (.leaving (.ok token)))
        { session with cached := some token }
  | left {answer : Except Error AccessToken} :
      caller.stand = .leaving answer →
      Steps env config free caller session (caller.standing (.supplied answer)) session
  | unequipped {answer : Except Error AccessToken} {request : Request} {error : Error} :
      caller.stand = .supplied answer → caller.errand = .send request →
      Steps env config free caller session (caller.standing (.settled (.error error))) session
  | presents {token : AccessToken} {request : Request} {value : HeaderValue} :
      caller.stand = .supplied (.ok token) → caller.errand = .send request →
      token.authorization? = some value →
      Steps env config free caller session
        (caller.standing (.presenting token (request.withHeader "authorization" value))) session
  | refusedFirst {token : AccessToken} {request : Request} :
      caller.stand = .presenting token request → caller.again = false →
      Api.Refuses (Pipeline.run (caller.around env) config.retry .resource request session).1 →
      Steps env config free caller session (caller.standing (.refused token))
        (Pipeline.run (caller.around env) config.retry .resource request session).2
  | settles {token : AccessToken} {request : Request} :
      caller.stand = .presenting token request →
      Steps env config free caller session
        (caller.standing (.settled ((Pipeline.run (caller.around env) config.retry .resource request
          session).1.bind Api.accepted)))
        (Pipeline.run (caller.around env) config.retry .resource request session).2
  | dropped {token : AccessToken} :
      caller.stand = .refused token →
      Steps env config free caller session { caller with again := true, stand := .arriving }
        session.invalidate

variable {free : Bool} {caller next : Caller} {session later : Session}

@[simp] theorem fresh_around (caller : Caller) (env : Environment) (config : ClientConfig)
    (session : Session) : fresh (caller.around env) config session = fresh env config session := rfl

theorem step?_arriving (stand : caller.stand = .arriving) :
    caller.step? env config free session =
      some (caller.standing (.checked .waiting .supplied (fresh env config session).1),
        (session.look env).2) := by
  rw [← fresh_session env config session]
  simp only [step?, stand, fresh_around]

theorem step?_waiting (stand : caller.stand = .waiting) :
    caller.step? env config free session =
      if free then some (caller.standing .admitted, session) else none := by
  simp only [step?, stand]

theorem step?_admitted (stand : caller.stand = .admitted) :
    caller.step? env config free session =
      some (caller.standing (.checked .lacking .leaving (fresh env config session).1),
        (session.look env).2) := by
  rw [← fresh_session env config session]
  simp only [step?, stand, fresh_around]

theorem step?_lacking (stand : caller.stand = .lacking) :
    caller.step? env config free session =
      some (caller.standing (.acquiring maxRounds),
        session.tell [.span .token .clientCredentials]) := by
  simp only [step?, stand]

theorem step?_acquiring {roundsLeft : Nat} (stand : caller.stand = .acquiring roundsLeft) :
    caller.step? env config free session =
      some (caller.standing (.exchanged roundsLeft (exchange (caller.around env) config session).1),
        (exchange (caller.around env) config session).2) := by
  simp only [step?, stand]

theorem step?_granted {token : AccessToken} (stand : caller.stand = .granted token) :
    caller.step? env config free session =
      some (caller.standing (.leaving (.ok token)), { session with cached := some token }) := by
  simp only [step?, stand]

theorem step?_leaving {answer : Except Error AccessToken} (stand : caller.stand = .leaving answer) :
    caller.step? env config free session = some (caller.standing (.supplied answer), session) := by
  simp only [step?, stand]

theorem step?_supplied {answer : Except Error AccessToken}
    (stand : caller.stand = .supplied answer) :
    caller.step? env config free session =
      match caller.errand with
      | .token => none
      | .send request => some (caller.standing (.equipped request answer), session) := by
  cases errand : caller.errand <;> simp only [step?, stand, errand]

theorem step?_presenting {token : AccessToken} {request : Request}
    (stand : caller.stand = .presenting token request) :
    caller.step? env config free session =
      some (caller.standing (.answered caller.again token
          (Pipeline.run (caller.around env) config.retry .resource request session).1),
        (Pipeline.run (caller.around env) config.retry .resource request session).2) := by
  simp only [step?, stand]

theorem step?_refused {token : AccessToken} (stand : caller.stand = .refused token) :
    caller.step? env config free session =
      some ({ caller with again := true, stand := .arriving }, session.invalidate) := by
  simp only [step?, stand]

theorem step?_settled {answer : Except Error Response} (stand : caller.stand = .settled answer) :
    caller.step? env config free session = none := by
  simp only [step?, stand]

/-- Whether the turn is free counts only for a caller that waits for it. -/
theorem step?_of_free (unclaimed : caller.stand = .waiting → free = true) :
    caller.step? env config free session = caller.step? env config true session := by
  unfold step?
  split
  case h_2 stand => rw [unclaimed stand]
  all_goals rfl

private theorem pair_of_some {α β : Type} {first next : α} {second later : β}
    (same : some (first, second) = some (next, later)) : next = first ∧ later = second := by
  cases same
  exact ⟨rfl, rfl⟩

/-- Every step of a caller follows the rules. -/
theorem steps_of_step? (stepped : caller.step? env config free session = some (next, later)) :
    Steps env config free caller session next later := by
  cases stand : caller.stand with
  | arriving =>
      rw [step?_arriving stand] at stepped
      obtain ⟨rfl, rfl⟩ := pair_of_some stepped
      rcases checked : (fresh env config session).1 with error | (_ | token)
      · exact .found (.error error) stand checked
      · exact .missed stand checked
      · exact .found (.ok token) stand checked
  | waiting =>
      rw [step?_waiting stand] at stepped
      split at stepped
      · rename_i unclaimed
        obtain ⟨rfl, rfl⟩ := pair_of_some stepped
        exact .entered stand unclaimed
      · cases stepped
  | admitted =>
      rw [step?_admitted stand] at stepped
      obtain ⟨rfl, rfl⟩ := pair_of_some stepped
      rcases checked : (fresh env config session).1 with error | (_ | token)
      · exact .foundAgain (.error error) stand checked
      · exact .missedAgain stand checked
      · exact .foundAgain (.ok token) stand checked
  | lacking =>
      rw [step?_lacking stand] at stepped
      obtain ⟨rfl, rfl⟩ := pair_of_some stepped
      exact .began stand
  | acquiring roundsLeft =>
      rw [step?_acquiring stand] at stepped
      obtain ⟨rfl, rfl⟩ := pair_of_some stepped
      rcases ended : (exchange (caller.around env) config session).1 with error | (_ | token)
      · exact .failed stand fun token same => by cases ended.symm.trans same
      · cases roundsLeft with
        | zero => exact .failed stand fun token same => by cases ended.symm.trans same
        | succ roundsLeft => exact .advanced stand ended
      · exact .granted stand ended
  | granted token =>
      rw [step?_granted stand] at stepped
      obtain ⟨rfl, rfl⟩ := pair_of_some stepped
      exact .kept stand
  | leaving answer =>
      rw [step?_leaving stand] at stepped
      obtain ⟨rfl, rfl⟩ := pair_of_some stepped
      exact .left stand
  | supplied answer =>
      rw [step?_supplied stand] at stepped
      split at stepped
      · cases stepped
      · rename_i request errand
        obtain ⟨rfl, rfl⟩ := pair_of_some stepped
        cases answer with
        | error error => exact .unequipped stand errand
        | ok token =>
            unfold Stand.equipped
            dsimp only
            split
            · exact .unequipped stand errand
            · rename_i written
              exact .presents stand errand written
  | presenting token request =>
      rw [step?_presenting stand] at stepped
      obtain ⟨rfl, rfl⟩ := pair_of_some stepped
      cases again : caller.again with
      | true =>
          rw [Stand.answered_of_final (.inl rfl)]
          exact .settles stand
      | false =>
          by_cases refuses : Api.Refuses (Pipeline.run (caller.around env) config.retry .resource
              request session).1
          · rw [Stand.answered_of_refuses rfl refuses]
            exact .refusedFirst stand again refuses
          · rw [Stand.answered_of_final (.inr refuses)]
            exact .settles stand
  | refused token =>
      rw [step?_refused stand] at stepped
      obtain ⟨rfl, rfl⟩ := pair_of_some stepped
      exact .dropped stand
  | settled answer =>
      rw [step?_settled stand] at stepped
      cases stepped

namespace Steps

/-- A caller that has the turn had it before, or has taken it while nobody had it. -/
theorem holdsTurn (steps : Steps env config free caller session next later)
    (holds : next.stand.holdsTurn = true) :
    caller.stand.holdsTurn = true ∨ free = true := by
  cases steps with
  | entered _ unclaimed => exact .inr unclaimed
  | missedAgain stand | foundAgain _ stand | began stand | advanced stand | granted stand
  | failed stand | kept stand =>
      rw [stand]
      exact .inl rfl
  | _ => cases holds

/-- An acquisition begins where both checks found nothing, and nowhere else. -/
theorem acquisitions (steps : Steps env config free caller session next later) :
    (caller.stand = .lacking ∧ next.stand = .acquiring maxRounds ∧
        later.acquisitions = session.acquisitions + 1 ∧ later.cached = session.cached) ∨
      (caller.stand ≠ .lacking ∧ later.acquisitions = session.acquisitions) := by
  cases steps with
  | began stand => exact .inl ⟨stand, rfl, List.count_append, rfl⟩
  | advanced stand | granted stand | failed stand =>
      refine .inr ⟨?_, exchange_acquisitions _ config session⟩
      rw [stand]
      nofun
  | refusedFirst stand | settles stand =>
      refine .inr ⟨?_, Pipeline.run_acquisitions _ config.retry .resource _ session⟩
      rw [stand]
      nofun
  | missed stand | found _ stand | entered stand | missedAgain stand | foundAgain _ stand
  | kept stand
  | left stand | unequipped stand | presents stand | dropped stand =>
      refine .inr ⟨?_, rfl⟩
      rw [stand]
      nofun

theorem acquisitions_of_idle (steps : Steps env config free caller session next later)
    (idle : caller.stand ≠ .lacking) : later.acquisitions = session.acquisitions := by
  rcases steps.acquisitions with ⟨lacking, _⟩ | ⟨_, same⟩
  · exact absurd lacking idle
  · exact same

theorem of_granted {token : AccessToken} (steps : Steps env config free caller session next later)
    (granted : caller.stand = .granted token) :
    next = caller.standing (.leaving (.ok token)) ∧
      later = { session with cached := some token } := by
  cases steps with
  | kept stand =>
      obtain rfl := Stand.granted.inj (granted.symm.trans stand)
      exact ⟨rfl, rfl⟩
  | found _ stand | foundAgain _ stand => cases granted.symm.trans stand
  | _ stand => cases granted.symm.trans stand

/-- The kept token changes where an acquired one is kept and where a refused one is dropped, and
nowhere else. -/
theorem cached (steps : Steps env config free caller session next later) :
    later.cached = session.cached ∨
      (∃ token, caller.stand = .granted token ∧ next.stand = .leaving (.ok token) ∧
        later.cached = some token) ∨
      ∃ token, caller.stand = .refused token ∧ later.cached = none := by
  cases steps with
  | kept stand => exact .inr (.inl ⟨_, stand, rfl, rfl⟩)
  | dropped stand => exact .inr (.inr ⟨_, stand, rfl⟩)
  | advanced | granted | failed => exact .inl (exchange_cached _ config session)
  | refusedFirst | settles =>
      exact .inl (Pipeline.run_cached _ config.retry .resource _ session)
  | _ => exact .inl rfl

theorem first_of_isRefused (steps : Steps env config free caller session next later)
    (refused : next.stand.isRefused = true) : next.again = false := by
  cases steps with
  | refusedFirst _ first => exact first
  | _ => cases refused

end Steps

/-- How many steps a caller takes at most until its request is settled, but for a second try. -/
def rank : Stand → Nat
  | .arriving => maxRounds + 10
  | .waiting => maxRounds + 9
  | .admitted => maxRounds + 8
  | .lacking => maxRounds + 7
  | .acquiring roundsLeft => roundsLeft + 6
  | .granted _ => 5
  | .leaving _ => 4
  | .supplied _ => 3
  | .presenting _ _ => 2
  | .refused _ => 1
  | .settled _ => 0

def stepsLeft (caller : Caller) : Nat :=
  rank caller.stand + (!caller.again).toNat * (maxRounds + 10)

theorem Steps.stepsLeft_lt (steps : Steps env config free caller session next later)
    (first : caller.stand.isRefused = true → caller.again = false) :
    next.stepsLeft < caller.stepsLeft := by
  cases steps with
  | dropped stand =>
      have again := first (by rw [stand]; rfl)
      simp [stepsLeft, rank, stand, again]
  | missed stand | found _ stand | entered stand | missedAgain stand | foundAgain _ stand
  | began stand
  | advanced stand | granted stand | failed stand | kept stand | left stand | unequipped stand
  | presents stand | refusedFirst stand | settles stand =>
      simp only [stepsLeft, rank, standing_stand, standing_again, stand]
      apply Nat.add_lt_add_right
      omega

def isFinished (caller : Caller) : Bool :=
  match caller.stand, caller.errand with
  | .settled _, _ | .supplied _, .token => true
  | _, _ => false

/-- A caller goes on unless it is finished, or waits while another one has the turn. -/
theorem exists_step? (busy : caller.isFinished = false)
    (unclaimed : caller.stand = .waiting → free = true) (session : Session) :
    ∃ step, caller.step? env config free session = some step := by
  unfold isFinished at busy
  cases stand : caller.stand with
  | arriving => exact ⟨_, step?_arriving stand⟩
  | waiting =>
      rw [step?_waiting stand, if_pos (unclaimed stand)]
      exact ⟨_, rfl⟩
  | admitted => exact ⟨_, step?_admitted stand⟩
  | lacking => exact ⟨_, step?_lacking stand⟩
  | acquiring roundsLeft => exact ⟨_, step?_acquiring stand⟩
  | granted token => exact ⟨_, step?_granted stand⟩
  | leaving answer => exact ⟨_, step?_leaving stand⟩
  | supplied answer =>
      rw [step?_supplied stand]
      cases errand : caller.errand with
      | token =>
          rw [stand, errand] at busy
          cases busy
      | send request => exact ⟨_, rfl⟩
  | presenting token request => exact ⟨_, step?_presenting stand⟩
  | refused token => exact ⟨_, step?_refused stand⟩
  | settled answer =>
      rw [stand] at busy
      cases busy

theorem isFinished_of_holdsTurn (holds : caller.stand.holdsTurn = true) :
    caller.isFinished = false := by
  unfold isFinished
  cases stand : caller.stand <;> first | rfl | (rw [stand] at holds; cases holds)

end Caller

/-! ## Moves -/

namespace Crowd

variable {n : Nat} {crowd next final : Crowd n} {move : Move n} {moves : List (Move n)}
  {i j : Fin n}

@[simp] theorem after_session (crowd : Crowd n) (i : Fin n) (caller : Caller) (session : Session) :
    (crowd.after i caller session).session = session := rfl

@[simp] theorem after_turn (crowd : Crowd n) (i : Fin n) (caller : Caller) (session : Session) :
    (crowd.after i caller session).turn = crowd.turnAfter i caller.stand := rfl

@[simp] theorem after_callers_self (crowd : Crowd n) (i : Fin n) (caller : Caller)
    (session : Session) : (crowd.after i caller session).callers i = caller :=
  Function.update_self _ _ _

theorem after_callers_of_ne (crowd : Crowd n) (caller : Caller) (session : Session)
    (other : j ≠ i) : (crowd.after i caller session).callers j = crowd.callers j :=
  Function.update_of_ne other _ _

/-- What holds of the caller that has made a step, and of all others before it, holds of all. -/
theorem forall_after (P : Fin n → Caller → Prop) {caller : Caller} {session : Session}
    (here : P i caller) (others : ∀ j, j ≠ i → P j (crowd.callers j)) (j : Fin n) :
    P j ((crowd.after i caller session).callers j) := by
  by_cases same : j = i
  · subst same
    rw [after_callers_self]
    exact here
  · rw [after_callers_of_ne _ _ _ same]
    exact others j same

/-- What a step adds to a sum over the callers is what its caller has more after it. -/
theorem sum_after (weight : Caller → Nat) (crowd : Crowd n) (i : Fin n) (caller : Caller)
    (session : Session) :
    ∑ j, weight ((crowd.after i caller session).callers j) + weight (crowd.callers i) =
      ∑ j, weight (crowd.callers j) + weight caller := by
  have others : ∑ j ∈ Finset.univ.erase i, weight ((crowd.after i caller session).callers j) =
      ∑ j ∈ Finset.univ.erase i, weight (crowd.callers j) := by
    refine Finset.sum_congr rfl fun j member => ?_
    rw [after_callers_of_ne _ _ _ (Finset.ne_of_mem_erase member)]
  rw [← Finset.add_sum_erase _ _ (Finset.mem_univ i),
    ← Finset.add_sum_erase _ _ (Finset.mem_univ i), others, after_callers_self]
  omega

inductive Moves (env : Environment) (config : ClientConfig) (crowd : Crowd n) :
    Move n → Crowd n → Prop where
  | caller {i : Fin n} {caller : Caller} {session : Session} :
      Caller.Steps env config crowd.turn.isNone (crowd.callers i) crowd.session caller session →
      Moves env config crowd (.caller i) (crowd.after i caller session)
  | invalidate :
      Moves env config crowd .invalidate { crowd with session := crowd.session.invalidate }

theorem moves_of_step? (stepped : step? env config crowd move = some next) :
    Moves env config crowd move next := by
  cases move with
  | caller i =>
      obtain ⟨⟨caller, session⟩, made, rfl⟩ := Option.map_eq_some_iff.mp stepped
      exact .caller (Caller.steps_of_step? made)
  | invalidate =>
      cases stepped
      exact .invalidate

/-- A condition on the moves of a run holds at each of them. -/
def Along (env : Environment) (config : ClientConfig) (allowed : Crowd n → Move n → Prop) :
    List (Move n) → Crowd n → Prop
  | [], _ => True
  | move :: moves, crowd =>
    allowed crowd move ∧
      ∀ next, step? env config crowd move = some next → Along env config allowed moves next

/-- The kept token is not dropped from outside, and a check that meets this token does not find it
due. -/
def Spares (env : Environment) (config : ClientConfig) (token : AccessToken) (crowd : Crowd n) :
    Move n → Prop
  | .caller i =>
    (crowd.callers i).stand.isChecking = true → crowd.session.cached = some token →
      token.needsRenewal? config.refreshWindow (crowd.session.now env) = some false
  | .invalidate => False

instance decidableAlong {allowed : Crowd n → Move n → Prop}
    [∀ crowd move, Decidable (allowed crowd move)] :
    (moves : List (Move n)) → (crowd : Crowd n) → Decidable (Along env config allowed moves crowd)
  | [], _ => .isTrue trivial
  | move :: moves, crowd =>
    have : Decidable (∀ next, step? env config crowd move = some next →
        Along env config allowed moves next) :=
      match step? env config crowd move with
      | none => .isTrue fun _ same => nomatch same
      | some next =>
        match decidableAlong moves next with
        | .isTrue along => .isTrue fun _ same => Option.some.inj same ▸ along
        | .isFalse strays => .isFalse fun all => strays (all next rfl)
    inferInstanceAs (Decidable (allowed crowd move ∧ _))

instance decidableSpares (token : AccessToken) (crowd : Crowd n) :
    (move : Move n) → Decidable (Spares env config token crowd move)
  | .caller i =>
    inferInstanceAs (Decidable ((crowd.callers i).stand.isChecking = true →
      crowd.session.cached = some token →
        token.needsRenewal? config.refreshWindow (crowd.session.now env) = some false))
  | .invalidate => .isFalse id

/-- What every allowed move preserves holds at the end of a run of them. -/
theorem run?_along {P : Crowd n → Prop} {allowed : Crowd n → Move n → Prop}
    (preserved : ∀ {crowd move next}, allowed crowd move → P crowd →
      Moves env config crowd move next → P next)
    (along : Along env config allowed moves crowd) (held : P crowd)
    (ran : run? env config moves crowd = some final) : P final := by
  induction moves generalizing crowd with
  | nil =>
      cases ran
      exact held
  | cons move moves ih =>
      obtain ⟨allowedHere, ahead⟩ := along
      obtain ⟨next, stepped, rest⟩ := Option.bind_eq_some_iff.mp ran
      exact ih (ahead next stepped) (preserved allowedHere held (moves_of_step? stepped)) rest

theorem along_true : Along env config (fun _ _ => True) moves crowd := by
  induction moves generalizing crowd with
  | nil => trivial
  | cons move moves ih => exact ⟨trivial, fun _ _ => ih⟩

theorem run?_invariant {P : Crowd n → Prop}
    (preserved : ∀ {crowd move next}, P crowd → Moves env config crowd move next → P next)
    (held : P crowd) (ran : run? env config moves crowd = some final) : P final :=
  run?_along (fun _ => preserved) along_true held ran

theorem run?_append (moves more : List (Move n)) (crowd : Crowd n) :
    run? env config (moves ++ more) crowd =
      (run? env config moves crowd).bind (run? env config more) := by
  induction moves generalizing crowd with
  | nil => rfl
  | cons move moves ih =>
      simp only [List.cons_append, run?, Option.bind_assoc]
      exact congrArg _ (funext ih)

theorem run?_eq_getD (possible : (run? env config moves crowd).isSome = true) (other : Crowd n) :
    run? env config moves crowd = some ((run? env config moves crowd).getD other) := by
  obtain ⟨final, ran⟩ := Option.isSome_iff_exists.mp possible
  rw [ran]
  rfl

/-! ## The turn -/

/-- The turn is with whoever stands as if it had it. -/
def Ordered (crowd : Crowd n) : Prop :=
  ∀ i, (crowd.callers i).stand.holdsTurn = true ↔ crowd.turn = some i

theorem gather_ordered (session : Session) (callers : Fin n → Errand × Option Delay) :
    Ordered (gather session callers) := by
  intro i
  constructor <;> nofun

theorem Ordered.exclusive (ordered : Ordered crowd)
    (first : (crowd.callers i).stand.holdsTurn = true)
    (second : (crowd.callers j).stand.holdsTurn = true) : i = j :=
  Option.some.inj (((ordered i).mp first).symm.trans ((ordered j).mp second))

theorem Ordered.taken (ordered : Ordered crowd) (holds : (crowd.callers i).stand.holdsTurn = true) :
    crowd.turn.isNone = false := by
  rw [(ordered i).mp holds]
  rfl

theorem Ordered.onward (ordered : Ordered crowd) (moved : Moves env config crowd move next) :
    Ordered next := by
  cases moved with
  | invalidate => exact ordered
  | @caller i caller session steps =>
      intro j
      by_cases same : j = i
      · subst same
        rw [after_callers_self, after_turn, turnAfter]
        cases now : caller.stand.holdsTurn with
        | true => simp
        | false =>
            cases before : (crowd.callers j).stand.holdsTurn with
            | true => simp
            | false =>
                have absent := mt (ordered j).mpr (by rw [before]; nofun)
                simpa using absent
      · rw [after_callers_of_ne _ _ _ same, after_turn, turnAfter, ordered j]
        have other : some i ≠ some j := fun equal => same (Option.some.inj equal).symm
        cases now : caller.stand.holdsTurn with
        | true =>
            -- The turn was with this caller before, or with nobody.
            have absent : crowd.turn ≠ some j := by
              rcases steps.holdsTurn now with before | unclaimed
              · rw [(ordered i).mp before]
                exact other
              · intro taken
                rw [taken] at unclaimed
                cases unclaimed
            simp [absent, other]
        | false =>
            cases before : (crowd.callers i).stand.holdsTurn with
            | true => simp [(ordered i).mp before, other]
            | false => simp

/-- As long as some caller is not finished, some caller can go on. -/
theorem Ordered.exists_step? (env : Environment) (config : ClientConfig) (ordered : Ordered crowd)
    (busy : (crowd.callers i).isFinished = false) :
    ∃ j next, step? env config crowd (.caller j) = some next := by
  have onward (j : Fin n) (busy : (crowd.callers j).isFinished = false)
      (unclaimed : (crowd.callers j).stand = .waiting → crowd.turn.isNone = true) :
      ∃ j next, step? env config crowd (.caller j) = some next := by
    obtain ⟨⟨caller, session⟩, made⟩ := Caller.exists_step? busy unclaimed crowd.session
    exact ⟨j, crowd.after j caller session, Option.map_eq_some_iff.mpr ⟨_, made, rfl⟩⟩
  cases turn : crowd.turn with
  | none => exact onward i busy fun _ => by rw [turn]; rfl
  | some j =>
      have holds := (ordered j).mpr turn
      refine onward j (Caller.isFinished_of_holdsTurn holds) fun stand => ?_
      rw [stand] at holds
      cases holds

theorem run?_ordered (ordered : Ordered crowd) (ran : run? env config moves crowd = some final) :
    Ordered final :=
  run?_invariant Ordered.onward ordered ran

/-! ## The number of steps -/

/-- Callers are about to drop a kept token only after a first refusal. -/
def RefusedFirst (crowd : Crowd n) : Prop :=
  ∀ i, (crowd.callers i).stand.isRefused = true → (crowd.callers i).again = false

theorem gather_refusedFirst (session : Session) (callers : Fin n → Errand × Option Delay) :
    RefusedFirst (gather session callers) := fun _ _ => rfl

theorem RefusedFirst.onward (first : RefusedFirst crowd)
    (moved : Moves env config crowd move next) : RefusedFirst next := by
  cases moved with
  | invalidate => exact first
  | caller steps =>
      exact forall_after (fun _ caller => caller.stand.isRefused = true → caller.again = false)
        steps.first_of_isRefused fun j _ => first j

/-- Each step of a caller is one of those that it had left. -/
theorem run?_steps (first : RefusedFirst crowd) (ran : run? env config moves crowd = some final) :
    moves.countP Move.isStep + ∑ i, (final.callers i).stepsLeft ≤
      ∑ i, (crowd.callers i).stepsLeft := by
  -- A step lowers what its own caller has left, and leaves what all others have.
  induction moves generalizing crowd with
  | nil =>
      cases ran
      simp
  | cons move moves ih =>
      obtain ⟨next, stepped, rest⟩ := Option.bind_eq_some_iff.mp ran
      have moved := moves_of_step? stepped
      have few := ih (first.onward moved) rest
      cases moved with
      | invalidate =>
          rw [List.countP_cons_of_neg (by simp [Move.isStep])]
          exact few
      | @caller i caller session steps =>
          have less := steps.stepsLeft_lt (first i)
          have whole := sum_after Caller.stepsLeft crowd i caller session
          rw [List.countP_cons_of_pos rfl]
          omega

/-- No order of the steps of some callers goes on for ever. -/
theorem run?_gather_steps {session : Session} {callers : Fin n → Errand × Option Delay}
    (ran : run? env config moves (gather session callers) = some final) :
    moves.countP Move.isStep ≤ 24 * n := by
  have few := run?_steps (gather_refusedFirst session callers) ran
  have whole : ∑ i, ((gather session callers).callers i).stepsLeft = 24 * n := by
    have each (i : Fin n) : ((gather session callers).callers i).stepsLeft = 24 := rfl
    simp only [each, Finset.sum_const, Finset.card_univ, Fintype.card_fin, smul_eq_mul]
    omega
  omega

end Crowd

/-! ## A caller that moves alone -/

namespace Caller

/-- Steps of one caller after another, while nobody else has the turn. -/
def Walks (env : Environment) (config : ClientConfig) :
    Caller × Session → Caller × Session → Prop :=
  Relation.ReflTransGen fun before after => before.1.step? env config true before.2 = some after

namespace Walks

variable {caller : Caller} {session : Session}

theorem step {before after : Caller × Session}
    (stepped : before.1.step? env config true before.2 = some after) :
    Walks env config before after :=
  Relation.ReflTransGen.single stepped

theorem trans {first second third : Caller × Session} (before : Walks env config first second)
    (after : Walks env config second third) : Walks env config first third :=
  Relation.ReflTransGen.trans before after

def keeping : Except Error AccessToken × Session → Session
  | (.ok token, session) => { session with cached := some token }
  | (.error _, session) => session

theorem renew_eq (env : Environment) (config : ClientConfig) (session : Session) :
    renew env config session =
      ((fetch env config session).1, keeping (fetch env config session)) := by
  unfold renew
  cases fetch env config session with
  | mk result later => cases result <;> rfl

theorem exchanges (caller : Caller) (roundsLeft : Nat) (session : Session) :
    Walks env config (caller.standing (.acquiring roundsLeft), session)
      (caller.standing (.leaving
          (Acquisition.exchanges (caller.around env) config roundsLeft session).1),
        keeping (Acquisition.exchanges (caller.around env) config roundsLeft session)) := by
  -- The loop of an acquisition and the stand of its caller count the same demands down.
  induction roundsLeft generalizing session with
  | zero =>
      have first : Walks env config (caller.standing (.acquiring 0), session) _ :=
        step (step?_acquiring rfl)
      rw [Acquisition.exchanges]
      simp only [around_standing, standing_standing] at first
      rcases ended : exchange (caller.around env) config session with ⟨error | (_ | token), later⟩
      · rw [ended] at first
        exact first
      · rw [ended] at first
        exact first
      · rw [ended] at first
        exact first.trans (step (step?_granted rfl))
  | succ roundsLeft ih =>
      have first : Walks env config (caller.standing (.acquiring (roundsLeft + 1)), session) _ :=
        step (step?_acquiring rfl)
      rw [Acquisition.exchanges]
      simp only [around_standing, standing_standing] at first
      rcases ended : exchange (caller.around env) config session with ⟨error | (_ | token), later⟩
      · rw [ended] at first
        exact first
      · rw [ended] at first
        exact first.trans (ih later)
      · rw [ended] at first
        exact first.trans (step (step?_granted rfl))

/-- A caller comes by a token for use as it does in a session of its own. -/
theorem accessToken (env : Environment) (config : ClientConfig) (caller : Caller)
    (session : Session) :
    Walks env config (caller.standing .arriving, session)
      (caller.standing (.supplied (Acquisition.accessToken (caller.around env) config session).1),
        (Acquisition.accessToken (caller.around env) config session).2) := by
  have first : Walks env config (caller.standing .arriving, session) _ := step (step?_arriving rfl)
  have looked := fresh_session env config session
  unfold Acquisition.accessToken
  simp only [fresh_around]
  rcases checked : fresh env config session with ⟨error | (_ | token), later⟩
  · rw [checked] at first looked
    subst looked
    exact first
  · rw [checked] at first looked
    subst looked
    refine first.trans ((step (step?_waiting rfl)).trans ?_)
    have second : Walks env config (caller.standing .admitted, (session.look env).2) _ :=
      step (step?_admitted rfl)
    have lookedAgain := fresh_session env config (session.look env).2
    dsimp only
    rcases checkedAgain : fresh env config (session.look env).2 with ⟨error | (_ | token), later⟩
    · rw [checkedAgain] at second lookedAgain
      subst lookedAgain
      exact second.trans (step (step?_leaving rfl))
    · rw [checkedAgain] at second lookedAgain
      subst lookedAgain
      refine second.trans ((step (step?_lacking rfl)).trans ?_)
      dsimp only
      rw [renew_eq]
      exact (exchanges caller maxRounds _).trans (step (step?_leaving rfl))
    · rw [checkedAgain] at second lookedAgain
      subst lookedAgain
      exact second.trans (step (step?_leaving rfl))
  · rw [checked] at first looked
    subst looked
    exact first

variable {request : Request}

/-- A caller that has the answer to its request makes of it what its first or its second try
does. -/
theorem attempt (env : Environment) (config : ClientConfig) (session : Session)
    (errand : caller.errand = .send request) :
    let tried := Api.attempt (caller.around env) config request session
    (caller.again = false → Api.Refuses tried.1 → ∃ token,
      Walks env config (caller.standing .arriving, session)
        (caller.standing (.refused token), tried.2)) ∧
    (caller.again = true ∨ ¬ Api.Refuses tried.1 →
      Walks env config (caller.standing .arriving, session)
        (caller.standing (.settled (tried.1.bind Api.accepted)), tried.2)) := by
  have access := accessToken env config caller session
  unfold Api.attempt
  rcases taken : Acquisition.accessToken (caller.around env) config session with
    ⟨error | token, between⟩
  · rw [taken] at access
    have equips : Walks env config (caller.standing (.supplied (.error error)), between)
        (caller.standing (.settled (.error error)), between) := by
      apply step
      rw [step?_supplied rfl]
      simp only [standing_errand, errand]
      rfl
    constructor
    · rintro _ ⟨_, same, _⟩
      cases same
    · exact fun _ => access.trans equips
  · rw [taken] at access
    have equips : Walks env config (caller.standing (.supplied (.ok token)), between)
        (caller.standing (.equipped request (.ok token)), between) := by
      apply step
      rw [step?_supplied rfl]
      simp only [standing_errand, errand]
      rfl
    have ready := access.trans equips
    unfold Stand.equipped at ready
    cases written : token.authorization? with
    | none =>
        simp only [written] at ready ⊢
        constructor
        · rintro _ ⟨_, same, _⟩
          cases same
        · exact fun _ => ready
    | some value =>
        simp only [written] at ready ⊢
        have answers : Walks env config
            (caller.standing (.presenting token (request.withHeader "authorization" value)),
              between) _ :=
          step (step?_presenting rfl)
        have whole := ready.trans answers
        simp only [around_standing, standing_standing, standing_again] at whole
        constructor
        · intro first refuses
          rw [Stand.answered_of_refuses first refuses] at whole
          exact ⟨token, whole⟩
        · intro final
          rw [Stand.answered_of_final final] at whole
          exact whole

/-- A caller sends its request as it does in a session of its own. -/
theorem send (env : Environment) (config : ClientConfig) (session : Session)
    (errand : caller.errand = .send request) (first : caller.again = false) :
    let sent := Api.send (caller.around env) config request session
    ∃ again, Walks env config (caller.standing .arriving, session)
      ({ caller with again, stand := .settled sent.1 }, sent.2) := by
  intro sent
  have tried := attempt env config session errand
  by_cases refuses : Api.Refuses (Api.attempt (caller.around env) config request session).1
  · obtain ⟨token, refused⟩ := tried.1 first refuses
    let second : Caller := { caller with again := true }
    have dropped : Walks env config (caller.standing (.refused token), _)
        (second.standing .arriving,
          (Api.attempt (caller.around env) config request session).2.invalidate) :=
      step (step?_refused rfl)
    have errandToo : second.errand = .send request := errand
    have triedAgain := attempt env config
      (Api.attempt (caller.around env) config request session).2.invalidate errandToo
    have whole := (refused.trans dropped).trans (triedAgain.2 (.inl rfl))
    refine ⟨true, ?_⟩
    simp only [sent, Api.send_of_refused rfl refuses]
    exact whole
  · refine ⟨caller.again, ?_⟩
    simp only [sent, Api.send_of_granted rfl refuses]
    exact tried.2 (.inr refuses)

end Walks

end Caller

namespace Crowd

variable {n : Nat} {crowd : Crowd n} {i : Fin n} {caller : Caller} {session : Session}

theorem after_self (apart : crowd.turn = none)
    (outside : (crowd.callers i).stand.holdsTurn = false) :
    crowd.after i (crowd.callers i) crowd.session = crowd := by
  obtain ⟨session, turn, callers⟩ := crowd
  cases apart
  simp [after, turnAfter, outside]

theorem after_after (apart : crowd.turn = none)
    (outside : (crowd.callers i).stand.holdsTurn = false) (caller next : Caller)
    (session later : Session) :
    (crowd.after i caller session).after i next later = crowd.after i next later := by
  simp only [after, turnAfter, Function.update_idem, Function.update_self, apart, outside]
  cases caller.stand.holdsTurn <;> cases next.stand.holdsTurn <;> rfl

/-- The moves of one caller, while nobody else has the turn. -/
theorem run?_of_walks (apart : crowd.turn = none)
    (outside : (crowd.callers i).stand.holdsTurn = false)
    (walks : Caller.Walks env config (crowd.callers i, crowd.session) (caller, session)) :
    ∃ count, run? env config (List.replicate count (.caller i)) crowd =
      some (crowd.after i caller session) := by
  generalize reached : (caller, session) = pair at walks
  induction walks generalizing caller session with
  | refl =>
      cases reached
      exact ⟨0, congrArg some (after_self apart outside).symm⟩
  | @tail before pair _ stepped ih =>
      cases reached
      obtain ⟨count, ran⟩ := ih rfl
      refine ⟨count + 1, ?_⟩
      have unclaimed : before.1.stand = .waiting →
          (crowd.after i before.1 before.2).turn.isNone = true := by
        intro stand
        simp [turnAfter, stand, Stand.holdsTurn, apart]
      rw [List.replicate_succ', run?_append, ran]
      simp only [Option.bind_some, run?, step?, after_callers_self, after_session]
      rw [Caller.step?_of_free unclaimed, stepped]
      simp only [Option.map_some, Option.bind_some, after_after apart outside]

/-- While nobody else has the turn, a caller comes by a token for use as it does in a session of its
own. -/
theorem alone_accessToken (apart : crowd.turn = none)
    (arriving : (crowd.callers i).stand = .arriving) :
    let access := accessToken ((crowd.callers i).around env) config crowd.session
    ∃ count, run? env config (List.replicate count (.caller i)) crowd =
      some (crowd.after i ((crowd.callers i).standing (.supplied access.1)) access.2) := by
  have walks := Caller.Walks.accessToken env config (crowd.callers i) crowd.session
  have same : (crowd.callers i).standing .arriving = crowd.callers i := by
    rw [← arriving]
    rfl
  rw [same] at walks
  exact run?_of_walks apart (by rw [arriving]; rfl) walks

/-- While nobody else has the turn, a caller sends its request as it does in a session of its
own. -/
theorem alone_send {request : Request} (apart : crowd.turn = none)
    (arriving : (crowd.callers i).stand = .arriving)
    (errand : (crowd.callers i).errand = .send request)
    (first : (crowd.callers i).again = false) :
    let sent := Api.send ((crowd.callers i).around env) config request crowd.session
    ∃ count again, run? env config (List.replicate count (.caller i)) crowd =
      some (crowd.after i { crowd.callers i with again, stand := .settled sent.1 } sent.2) := by
  intro sent
  obtain ⟨again, walks⟩ := Caller.Walks.send env config crowd.session errand first
  have same : (crowd.callers i).standing .arriving = crowd.callers i := by
    rw [← arriving]
    rfl
  rw [same] at walks
  obtain ⟨count, ran⟩ := run?_of_walks apart (by rw [arriving]; rfl) walks
  exact ⟨count, again, ran⟩

end Crowd

end KeyBound
