import KeyBound.Proofs.Client.Crowd
import KeyBound.Proofs.Client.TokenCache

/-!
# One acquisition for all callers

Whatever the order of their steps, no two callers acquire a token at the same time. Callers that
come upon a client without a token share the first one that is acquired, as long as it is neither
dropped nor due.
-/

set_option autoImplicit false

namespace KeyBound

open Acquisition

variable {env : Environment} {config : ClientConfig}

namespace Stand

/-- Whether a caller has neither found a token nor begun to acquire one. -/
def isEarly : Stand → Bool
  | arriving | waiting | admitted | lacking => true
  | _ => false

/-- Whether a caller has not had its turn yet. -/
def isQueued : Stand → Bool
  | arriving | waiting => true
  | _ => false

theorem isQueued_of_isEarly {stand : Stand} (early : stand.isEarly = true)
    (outside : stand.holdsTurn = false) : stand.isQueued = true := by
  cases stand with
  | arriving | waiting => rfl
  | admitted | lacking => cases outside
  | _ => cases early

theorem isEarly_of_isQueued {stand : Stand} (queued : stand.isQueued = true) :
    stand.isEarly = true := by
  cases stand with
  | arriving | waiting => rfl
  | _ => cases queued

theorem not_holdsTurn_of_isQueued {stand : Stand} (queued : stand.isQueued = true) :
    stand.holdsTurn = false := by
  cases stand with
  | arriving | waiting => rfl
  | _ => cases queued

theorem not_isBusy_of_isEarly {stand : Stand} (early : stand.isEarly = true) :
    stand.isBusy = false := by
  cases stand with
  | acquiring roundsLeft | granted token => cases early
  | _ => rfl

/-- A caller finds the shared token, or has been handed it. -/
inductive Served (token : AccessToken) : Stand → Prop where
  | arriving : Served token .arriving
  | waiting : Served token .waiting
  | admitted : Served token .admitted
  | leaving : Served token (.leaving (.ok token))
  | supplied : Served token (.supplied (.ok token))

theorem Served.of_isQueued {token : AccessToken} {stand : Stand} (queued : stand.isQueued = true) :
    Served token stand := by
  cases stand with
  | arriving => exact .arriving
  | waiting => exact .waiting
  | _ => cases queued

theorem Served.ne_lacking {token : AccessToken} {stand : Stand} (served : Served token stand) :
    stand ≠ .lacking := by
  cases served <;> nofun

end Stand

namespace Caller.Steps

variable {free : Bool} {caller next : Caller} {session later : Session} {token : AccessToken}

theorem errand (steps : Steps env config free caller session next later) :
    next.errand = caller.errand := by
  cases steps <;> rfl

theorem of_empty (steps : Steps env config free caller session next later)
    (empty : session.cached = none) (early : caller.stand.isEarly = true)
    (idle : caller.stand ≠ .lacking) : next.stand.isEarly = true ∧ later.cached = none := by
  have missed : (fresh env config session).1 = .ok none := congrArg Prod.fst (fresh_of_empty empty)
  cases steps with
  | missed | entered | missedAgain => exact ⟨rfl, empty⟩
  | found answer _ checked | foundAgain answer _ checked =>
      rw [missed] at checked
      cases answer <;> cases checked
  | began stand => exact absurd stand idle
  | advanced stand | granted stand | failed stand | kept stand | left stand | unequipped stand
  | presents stand | refusedFirst stand | settles stand | dropped stand =>
      rw [stand] at early
      cases early

/-- Who acquires a token has begun to before, unless it begins now. -/
theorem of_busy (steps : Steps env config free caller session next later)
    (idle : caller.stand ≠ .lacking) (busy : next.stand.isBusy = true) :
    caller.stand.isBusy = true ∧ later.cached = session.cached := by
  cases steps with
  | began stand => exact absurd stand idle
  | advanced stand | granted stand =>
      rw [stand]
      exact ⟨rfl, exchange_cached _ config session⟩
  | _ => cases busy

/-- A caller that is queued stays so while another one has the turn and no token is kept. -/
theorem of_queued (steps : Steps env config free caller session next later)
    (empty : session.cached = none) (queued : caller.stand.isQueued = true)
    (taken : free = false) : next.stand.isQueued = true ∧ later.cached = none := by
  have outside := Stand.not_holdsTurn_of_isQueued queued
  have idle : caller.stand ≠ .lacking := by
    intro same
    rw [same] at queued
    cases queued
  obtain ⟨early, empty⟩ := steps.of_empty empty (Stand.isEarly_of_isQueued queued) idle
  refine ⟨Stand.isQueued_of_isEarly early ?_, empty⟩
  cases holds : next.stand.holdsTurn with
  | false => rfl
  | true =>
      rcases steps.holdsTurn holds with before | unclaimed
      · rw [outside] at before
        cases before
      · rw [taken] at unclaimed
        cases unclaimed

/-- A caller whose checks find the kept token gets no other one. -/
theorem of_served (steps : Steps env config free caller session next later)
    (held : session.cached = some token) (wants : caller.errand = .token)
    (spared : caller.stand.isChecking = true →
      token.needsRenewal? config.refreshWindow (session.now env) = some false)
    (served : caller.stand.Served token) :
    next.stand.Served token ∧ later.cached = some token := by
  have found (checking : caller.stand.isChecking = true) :
      (fresh env config session).1 = .ok (some token) := by
    rw [fresh_of_held held, spared checking]
  cases steps with
  | missed stand checked =>
      rw [found (by rw [stand]; rfl)] at checked
      cases checked
  | found answer stand checked =>
      rw [found (by rw [stand]; rfl)] at checked
      cases answer <;> cases checked
      exact ⟨.supplied, held⟩
  | entered => exact ⟨.admitted, held⟩
  | missedAgain stand checked =>
      rw [found (by rw [stand]; rfl)] at checked
      cases checked
  | foundAgain answer stand checked =>
      rw [found (by rw [stand]; rfl)] at checked
      cases answer <;> cases checked
      exact ⟨.leaving, held⟩
  | left stand =>
      rw [stand] at served
      cases served
      exact ⟨.supplied, held⟩
  | unequipped _ errand | presents _ errand =>
      rw [wants] at errand
      cases errand
  | began stand | advanced stand | granted stand | failed stand | kept stand | refusedFirst stand
  | settles stand | dropped stand =>
      rw [stand] at served
      cases served

end Caller.Steps

namespace Crowd

variable {n : Nat} {crowd next final : Crowd n} {move : Move n} {moves : List (Move n)}
  {i j : Fin n}
  {token : AccessToken} {start : Nat}

/-! ## One at a time -/

theorem Ordered.acquires_alone (ordered : Ordered crowd)
    (first : (crowd.callers i).stand.isAcquiring = true)
    (second : (crowd.callers j).stand.isAcquiring = true) : i = j :=
  ordered.exclusive (Stand.holdsTurn_of_isBusy (Stand.isBusy_of_isAcquiring first))
    (Stand.holdsTurn_of_isBusy (Stand.isBusy_of_isAcquiring second))

/-! ## Up to the end of the first acquisition -/

/-- Before any acquisition nobody has a token; and during the first one, nobody but the caller that
makes it has had its turn. -/
structure Early (start : Nat) (crowd : Crowd n) : Prop where
  ordered : Ordered crowd
  since : start ≤ crowd.session.acquisitions
  before : crowd.session.acquisitions = start →
    crowd.session.cached = none ∧ ∀ j, (crowd.callers j).stand.isEarly = true
  during : crowd.session.acquisitions = start + 1 →
    ∀ i, (crowd.callers i).stand.isBusy = true →
      crowd.session.cached = none ∧ ∀ j, j ≠ i → (crowd.callers j).stand.isQueued = true

theorem gather_early {session : Session} (empty : session.cached = none)
    (callers : Fin n → Errand × Option Delay) :
    Early session.acquisitions (gather session callers) where
  ordered := gather_ordered session callers
  since := Nat.le_refl _
  before _ := ⟨empty, fun _ => rfl⟩
  during began := absurd began (Nat.succ_ne_self _).symm

theorem Ordered.isQueued_of_isEarly (ordered : Ordered crowd)
    (all : ∀ j, (crowd.callers j).stand.isEarly = true)
    (holds : (crowd.callers i).stand.holdsTurn = true) (other : j ≠ i) :
    (crowd.callers j).stand.isQueued = true := by
  apply Stand.isQueued_of_isEarly (all j)
  cases turn : (crowd.callers j).stand.holdsTurn with
  | false => rfl
  | true => exact absurd (ordered.exclusive turn holds) other

variable {caller : Caller} {session : Session}

theorem Early.onward_of_lacking (early : Early start crowd)
    (ordered : Ordered (crowd.after i caller session))
    (lacking : (crowd.callers i).stand = .lacking)
    (more : session.acquisitions = crowd.session.acquisitions + 1)
    (kept : session.cached = crowd.session.cached) :
    Early start (crowd.after i caller session) := by
  refine ⟨ordered, ?_, ?_, ?_⟩
  · rw [after_session, more]
    exact Nat.le_succ_of_le early.since
  · intro none
    have since := early.since
    rw [after_session, more] at none
    omega
  · intro one k busy
    rw [after_session, more] at one
    obtain ⟨empty, all⟩ := early.before (Nat.succ.inj one)
    -- Nobody else is busy: all were early up to now.
    obtain rfl : k = i := by
      by_contra other
      rw [after_callers_of_ne _ _ _ other, Stand.not_isBusy_of_isEarly (all k)] at busy
      cases busy
    refine ⟨kept.trans empty, fun j other => ?_⟩
    rw [after_callers_of_ne _ _ _ other]
    exact early.ordered.isQueued_of_isEarly all (by rw [lacking]; rfl) other

theorem Early.onward_of_idle (early : Early start crowd)
    (ordered : Ordered (crowd.after i caller session)) (idle : (crowd.callers i).stand ≠ .lacking)
    (steps : Caller.Steps env config crowd.turn.isNone (crowd.callers i) crowd.session caller
      session) : Early start (crowd.after i caller session) := by
  have same := steps.acquisitions_of_idle idle
  refine ⟨ordered, ?_, ?_, ?_⟩
  · rw [after_session, same]
    exact early.since
  · intro none
    rw [after_session, same] at none
    obtain ⟨empty, all⟩ := early.before none
    obtain ⟨now, emptyStill⟩ := steps.of_empty empty (all i) idle
    exact ⟨emptyStill, forall_after (fun _ caller => caller.stand.isEarly = true) now
      fun j _ => all j⟩
  · intro one k busy
    rw [after_session, same] at one
    by_cases self : k = i
    · subst self
      rw [after_callers_self] at busy
      obtain ⟨busyBefore, kept⟩ := steps.of_busy idle busy
      obtain ⟨empty, others⟩ := early.during one k busyBefore
      refine ⟨kept.trans empty, fun j other => ?_⟩
      rw [after_callers_of_ne _ _ _ other]
      exact others j other
    · -- Another caller moves while this one is busy, so that the turn is taken.
      rw [after_callers_of_ne _ _ _ self] at busy
      obtain ⟨empty, others⟩ := early.during one k busy
      have taken := early.ordered.taken (Stand.holdsTurn_of_isBusy busy)
      obtain ⟨now, emptyStill⟩ := steps.of_queued empty (others i (Ne.symm self)) taken
      exact ⟨emptyStill, forall_after (fun j caller => j ≠ k → caller.stand.isQueued = true)
        (fun _ => now) fun j _ => others j⟩

theorem Early.onward (early : Early start crowd) (moved : Moves env config crowd move next) :
    Early start next := by
  have ordered := early.ordered.onward moved
  cases moved with
  | invalidate =>
      refine ⟨ordered, early.since, ?_, ?_⟩
      · exact fun none => ⟨rfl, (early.before none).2⟩
      · exact fun one i busy => ⟨rfl, (early.during one i busy).2⟩
  | caller steps =>
      rcases steps.acquisitions with ⟨lacking, _, more, kept⟩ | ⟨idle, _⟩
      · exact early.onward_of_lacking ordered lacking more kept
      · exact early.onward_of_idle ordered idle steps

/-! ## After the first acquisition -/

/-- One token for everybody: it was just granted, or it is kept and whoever has come by a token has
this one. -/
inductive Shares (token : AccessToken) (crowd : Crowd n) : Prop where
  | granted {i : Fin n} :
      crowd.session.cached = none → (crowd.callers i).stand = .granted token →
      (∀ j, j ≠ i → (crowd.callers j).stand.isQueued = true) → Shares token crowd
  | kept :
      crowd.session.cached = some token → (∀ j, (crowd.callers j).stand.Served token) →
      Shares token crowd

/-- The first acquisition was the last one, and its token is shared. -/
structure Late (start : Nat) (token : AccessToken) (crowd : Crowd n) : Prop where
  ordered : Ordered crowd
  once : crowd.session.acquisitions = start + 1
  wants : ∀ j, (crowd.callers j).errand = .token
  shares : Shares token crowd

theorem Late.onward (late : Late start token crowd) (spared : Spares env config token crowd move)
    (moved : Moves env config crowd move next) : Late start token next := by
  have ordered := late.ordered.onward moved
  cases moved with
  | invalidate => exact spared.elim
  | @caller i caller session steps =>
      have wants (j : Fin n) : ((crowd.after i caller session).callers j).errand = .token :=
        forall_after (fun _ caller => caller.errand = .token) (steps.errand.trans (late.wants i))
          (fun j _ => late.wants j) j
      have once (idle : (crowd.callers i).stand ≠ .lacking) :
          (crowd.after i caller session).session.acquisitions = start + 1 :=
        (steps.acquisitions_of_idle idle).trans late.once
      cases late.shares with
      | @granted k empty granted others =>
          by_cases self : i = k
          · subst self
            refine ⟨ordered, once (by rw [granted]; nofun), wants, ?_⟩
            have rest (j : Fin n) (other : j ≠ i) :
                Stand.Served token (crowd.callers j).stand := .of_isQueued (others j other)
            obtain ⟨rfl, rfl⟩ := steps.of_granted granted
            exact .kept rfl (forall_after (fun _ caller => caller.stand.Served token) .leaving rest)
          · have queued := others i self
            have taken := late.ordered.taken (i := k) (by rw [granted]; rfl)
            obtain ⟨now, emptyStill⟩ := steps.of_queued empty queued taken
            have idle : (crowd.callers i).stand ≠ .lacking := by
              intro same
              rw [same] at queued
              cases queued
            refine ⟨ordered, once idle, wants, .granted (i := k) emptyStill ?_ ?_⟩
            · rw [after_callers_of_ne _ _ _ (Ne.symm self)]
              exact granted
            · exact forall_after (fun j caller => j ≠ k → caller.stand.isQueued = true)
                (fun _ => now) fun j _ => others j
      | kept held served =>
          obtain ⟨now, heldStill⟩ := steps.of_served held (late.wants i)
            (fun checking => spared checking held) (served i)
          refine ⟨ordered, once (served i).ne_lacking, wants, .kept heldStill ?_⟩
          exact forall_after (fun _ caller => caller.stand.Served token) now fun j _ => served j

theorem Early.granted (early : Early start crowd) (wants : ∀ j, (crowd.callers j).errand = .token)
    (one : crowd.session.acquisitions = start + 1)
    (granted : (crowd.callers i).stand = .granted token) : Late start token crowd := by
  obtain ⟨empty, others⟩ := early.during one i (by rw [granted]; rfl)
  exact ⟨early.ordered, one, wants, .granted empty granted others⟩

theorem run?_wants (wants : ∀ j, (crowd.callers j).errand = .token)
    (ran : run? env config moves crowd = some final) (j : Fin n) :
    (final.callers j).errand = .token := by
  refine run?_invariant (P := fun crowd : Crowd n => ∀ j, (crowd.callers j).errand = .token)
    ?_ wants ran j
  intro crowd move next wants moved
  cases moved with
  | invalidate => exact wants
  | @caller i caller session steps =>
      exact forall_after (fun _ caller => caller.errand = .token)
        (steps.errand.trans (wants i)) fun j _ => wants j

theorem Late.answer (late : Late start token crowd) {answer : Except Error AccessToken}
    (supplied : (crowd.callers j).stand = .supplied answer) : answer = .ok token := by
  cases late.shares with
  | @granted i _ granted others =>
      by_cases same : j = i
      · subst same
        cases granted.symm.trans supplied
      · have queued := others j same
        rw [supplied] at queued
        cases queued
  | kept _ served =>
      have here := served j
      rw [supplied] at here
      cases here
      rfl

theorem Late.supplied (late : Late start token crowd)
    (still : ∀ j, step? env config crowd (.caller j) = none) (j : Fin n) :
    (crowd.callers j).stand = .supplied (.ok token) := by
  have finished : (crowd.callers j).isFinished = true := by
    cases busy : (crowd.callers j).isFinished with
    | true => rfl
    | false =>
        obtain ⟨k, next, stepped⟩ := late.ordered.exists_step? env config busy
        cases (still k).symm.trans stepped
  unfold Caller.isFinished at finished
  rw [late.wants j] at finished
  cases stand : (crowd.callers j).stand with
  | supplied answer => rw [late.answer stand]
  | settled answer =>
      cases late.shares with
      | @granted i _ granted others =>
          by_cases same : j = i
          · subst same
            cases granted.symm.trans stand
          · have queued := others j same
            rw [stand] at queued
            cases queued
      | kept _ served =>
          have here := served j
          rw [stand] at here
          cases here
  | _ =>
      rw [stand] at finished
      cases finished

/-- In every order of their steps, with invalidations in between, no two callers acquire a token at
the same time; each of them is finished after some number of its steps, and as long as one is not,
some caller can go on. Where no token is kept at first, the first acquisition ends with a token, and
this token is neither dropped nor found due from then on, there is no other acquisition and nobody
gets anything but this token. -/
theorem callers_share_acquisition (env : Environment) (config : ClientConfig) {n : Nat}
    (session : Session) :
    (∀ (callers : Fin n → Errand × Option Delay) (moves : List (Move n)) (crowd : Crowd n),
      run? env config moves (gather session callers) = some crowd →
        (∀ i j, (crowd.callers i).stand.isAcquiring = true →
          (crowd.callers j).stand.isAcquiring = true → i = j) ∧
        moves.countP Move.isStep ≤ 24 * n ∧
        ∀ i, (crowd.callers i).isFinished = false →
          ∃ j next, step? env config crowd (.caller j) = some next) ∧
    (session.cached = none →
      ∀ (cancels : Fin n → Option Delay) (before after : List (Move n)) (i : Fin n)
        (token : AccessToken) (first final : Crowd n),
        run? env config before (gather session fun j => (.token, cancels j)) = some first →
        first.session.acquisitions = session.acquisitions + 1 →
        (first.callers i).stand = .granted token →
        Along env config (Spares env config token) after first →
        run? env config after first = some final →
          final.session.acquisitions = session.acquisitions + 1 ∧
          (∀ j answer, (final.callers j).stand = .supplied answer → answer = .ok token) ∧
          ((∀ j, step? env config final (.caller j) = none) →
            ∀ j, (final.callers j).stand = .supplied (.ok token))) := by
  constructor
  · intro callers moves crowd ran
    have ordered := run?_ordered (gather_ordered session callers) ran
    exact ⟨fun i j => ordered.acquires_alone, run?_gather_steps ran,
      fun i => ordered.exists_step? env config⟩
  · intro empty cancels before after i token first final ranBefore one granted along ranAfter
    have early := run?_invariant Early.onward (gather_early empty _) ranBefore
    have wants := run?_wants (fun _ => rfl) ranBefore
    have late := early.granted wants one granted
    have late := run?_along (fun spared late => late.onward spared) along late ranAfter
    exact ⟨late.once, fun j answer => late.answer, late.supplied⟩

private def granting : Environment := .ofScript ⟨[.granting "at-1", .granting "at-2"], none⟩

/-- Two callers find no token, and a third one arrives while the first one acquires it. -/
private def upToGrant : List (Move 3) := ([0, 1, 0, 0, 0, 2, 0] : List (Fin 3)).map .caller

private def afterGrant : List (Move 3) := ([0, 0, 1, 1, 1, 2, 2, 2] : List (Fin 3)).map .caller

private def trio : Crowd 3 := gather (.start ⟨0⟩) fun _ => (.token, none)

private def atGrant : Crowd 3 := (run? granting .sample upToGrant trio).getD trio

private def atEnd : Crowd 3 := (run? granting .sample afterGrant atGrant).getD trio

private theorem inCalendar_trio : inCalendar 7 ∧ inCalendar 3600000000007 := by decide

private def shared : AccessToken :=
  ⟨⟨"at-1"⟩, "Bearer", ⟨7, inCalendar_trio.1⟩, ⟨3600000000007, inCalendar_trio.2⟩, none, none⟩

private theorem trio_course :
    (run? granting .sample upToGrant trio).isSome = true ∧ atGrant.session.acquisitions = 1 ∧
      (atGrant.callers 0).stand.granted? = some shared ∧
      Along granting .sample (Spares granting .sample shared) afterGrant atGrant ∧
      (run? granting .sample afterGrant atGrant).isSome = true ∧
      ∀ j, (step? granting .sample atEnd (.caller j)).isNone = true := by
  decide +kernel

theorem callers_share_acquisition_trio :
    run? granting .sample (upToGrant ++ afterGrant) trio = some atEnd ∧
      atEnd.session.acquisitions = 1 ∧
      ∀ j, (atEnd.callers j).stand = .supplied (.ok shared) := by
  obtain ⟨ran, one, acquired, along, ranOn, still⟩ := trio_course
  have first : run? granting .sample upToGrant trio = some atGrant := run?_eq_getD ran trio
  have second : run? granting .sample afterGrant atGrant = some atEnd := run?_eq_getD ranOn trio
  obtain ⟨once, _, supplied⟩ := (callers_share_acquisition granting .sample (.start ⟨0⟩)).2 rfl
    (fun _ => none) upToGrant afterGrant 0 shared atGrant atEnd first one
    (Stand.eq_granted_of_granted? acquired) along second
  have whole := (run?_append upToGrant afterGrant trio).trans
    (Option.bind_eq_some_iff.mpr ⟨atGrant, first, second⟩)
  exact ⟨whole, once, supplied fun j => Option.isNone_iff_eq_none.mp (still j)⟩

end Crowd

end KeyBound
