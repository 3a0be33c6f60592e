import KeyBound.Proofs.Client.Crowd
import KeyBound.Proofs.Client.TokenCache
import Mathlib.Algebra.Order.BigOperators.Group.Finset

/-!
# Refused tokens among callers

A caller whose token is refused drops whatever token is kept by then, be it the refused one or one
that another caller has acquired since. That costs one acquisition more at most, because each
caller does so once: callers that share a token which is refused to all of them acquire as many
tokens as they drop, and only one if none of them is late.
-/

set_option autoImplicit false

namespace KeyBound

open Acquisition

variable {env : Environment} {config : ClientConfig}

namespace Stand

/-- Whether a caller has an error in place of a token or of a response. -/
def hasFailed : Stand → Bool
  | leaving (.error _) | supplied (.error _) | settled (.error _) => true
  | _ => false

/-- Whether a caller has found no token at its second check, up to where it keeps another one. -/
def isSeeking : Stand → Bool
  | lacking | acquiring _ | granted _ => true
  | _ => false

theorem holdsTurn_of_isSeeking {stand : Stand} (seeking : stand.isSeeking = true) :
    stand.holdsTurn = true := by
  cases stand with
  | lacking | acquiring roundsLeft | granted token => rfl
  | _ => cases seeking

theorem isSeeking_of_isBusy {stand : Stand} (busy : stand.isBusy = true) :
    stand.isSeeking = true := by
  cases stand with
  | acquiring roundsLeft | granted token => rfl
  | _ => cases busy

end Stand

namespace Caller

/-- What a caller accounts for: its drop, its error, or the acquisition that it makes. -/
def debt (caller : Caller) : Nat :=
  caller.again.toNat + caller.stand.hasFailed.toNat + caller.stand.isBusy.toNat

namespace Steps

variable {free : Bool} {caller next : Caller} {session later : Session}

/-- No token is kept while another one is sought. -/
theorem of_isSeeking (steps : Steps env config free caller session next later)
    (spared : caller.stand.isChecking = true → ∀ token, session.cached = some token →
      token.needsRenewal? config.refreshWindow (session.now env) = some false)
    (bare : caller.stand.isSeeking = true → session.cached = none)
    (seeking : next.stand.isSeeking = true) : later.cached = none := by
  cases steps with
  | missedAgain stand checked =>
      change session.cached = none
      cases held : session.cached with
      | none => rfl
      | some token =>
          rw [fresh_of_held held, spared (by rw [stand]; rfl) token held] at checked
          cases checked
  | began stand => exact bare (by rw [stand]; rfl)
  | advanced stand | granted stand =>
      exact (exchange_cached _ config session).trans (bare (by rw [stand]; rfl))
  | _ => cases seeking

/-- A caller that does not seek a token does not begin to while it finds one. -/
theorem of_settled {token : AccessToken}
    (steps : Steps env config free caller session next later) (held : session.cached = some token)
    (settled : caller.stand.isSeeking = false) (unrefused : caller.stand.isRefused = false)
    (spared : caller.stand.isChecking = true →
      token.needsRenewal? config.refreshWindow (session.now env) = some false) :
    next.stand.isSeeking = false ∧ later.cached = some token := by
  have heldStill : later.cached = some token := by
    rcases steps.cached with same | ⟨_, granted, _⟩ | ⟨_, refused, _⟩
    · exact same.trans held
    · rw [granted] at settled
      cases settled
    · rw [refused] at unrefused
      cases unrefused
  refine ⟨?_, heldStill⟩
  cases seeking : next.stand.isSeeking with
  | false => rfl
  | true =>
      have sparedAll (checking : caller.stand.isChecking = true) (other : AccessToken)
          (same : session.cached = some other) :
          other.needsRenewal? config.refreshWindow (session.now env) = some false := by
        obtain rfl := Option.some.inj (held.symm.trans same)
        exact spared checking
      have empty := steps.of_isSeeking sparedAll (fun now => by rw [settled] at now; cases now)
        seeking
      rw [heldStill] at empty
      cases empty

/-- What a step costs is what its caller accounts for afterwards, beside the token that is kept. -/
theorem acquisitions_le (steps : Steps env config free caller session next later)
    (first : caller.stand.isRefused = true → caller.again = false)
    (bare : caller.stand.isSeeking = true → session.cached = none) :
    later.acquisitions + (session.cached.isSome.toNat + caller.debt) ≤
      session.acquisitions + (later.cached.isSome.toNat + next.debt) := by
  unfold debt
  cases steps with
  | began stand =>
      have more : (session.tell [.span .token .clientCredentials]).acquisitions =
          session.acquisitions + 1 := List.count_append
      rw [more, stand]
      simp only [Stand.hasFailed, Stand.isBusy, Session.tell, standing_again, standing_stand,
        Bool.toNat_false, Bool.toNat_true]
      omega
  | advanced stand | granted stand | failed stand =>
      rw [exchange_acquisitions, exchange_cached, stand]
      simp [Stand.hasFailed, Stand.isBusy]
  | kept stand =>
      -- The acquisition is no longer this caller's, and its token is kept instead.
      rw [bare (by rw [stand]; rfl), stand]
      simp only [Session.acquisitions, Stand.hasFailed, Stand.isBusy, standing_again,
        standing_stand, Option.isSome_none, Option.isSome_some, Bool.toNat_false, Bool.toNat_true]
      omega
  | dropped stand =>
      -- A drop counts whether or not there was a token to drop.
      rw [first (by rw [stand]; rfl), stand]
      simp only [Session.acquisitions, Session.invalidate, Stand.hasFailed, Stand.isBusy,
        Option.isSome_none, Bool.toNat_false, Bool.toNat_true]
      have few := Bool.toNat_le session.cached.isSome
      omega
  | refusedFirst stand | settles stand =>
      rw [Pipeline.run_acquisitions, Pipeline.run_cached, stand]
      simp [Stand.hasFailed, Stand.isBusy]
  | missed stand | found _ stand | entered stand | missedAgain stand | foundAgain _ stand
  | presents stand =>
      rw [stand]
      simp [Stand.hasFailed, Stand.isBusy, Session.acquisitions, Session.look]
  | @left answer stand | @unequipped answer _ _ stand =>
      rw [stand]
      cases answer <;> simp [Stand.hasFailed, Stand.isBusy]

theorem again (steps : Steps env config free caller session next later)
    (again : caller.again = true) : next.again = true := by
  cases steps with
  | dropped => rfl
  | _ => exact again

end Steps

end Caller

namespace Crowd

variable {n : Nat} {crowd next final : Crowd n} {move : Move n} {moves : List (Move n)} {i : Fin n}
  {token : AccessToken} {start : Nat}

def drops (crowd : Crowd n) : Nat := ∑ i, (crowd.callers i).again.toNat

def failures (crowd : Crowd n) : Nat := ∑ i, (crowd.callers i).stand.hasFailed.toNat

theorem drops_le (crowd : Crowd n) : crowd.drops ≤ n := by
  have each : ∀ i ∈ Finset.univ, (crowd.callers i).again.toNat ≤ 1 := fun i _ => Bool.toNat_le _
  have few := Finset.sum_le_card_nsmul Finset.univ _ 1 each
  simpa [drops] using few

/-! ## The kept token -/

theorem Moves.cached (moved : Moves env config crowd move next) :
    next.session.cached = crowd.session.cached ∨
      (∃ i token, move = .caller i ∧ (crowd.callers i).stand = .granted token ∧
        next.session.cached = some token) ∨
      (move = .invalidate ∨ ∃ i token, move = .caller i ∧
          (crowd.callers i).stand = .refused token) ∧ next.session.cached = none := by
  cases moved with
  | invalidate => exact .inr (.inr ⟨.inl rfl, rfl⟩)
  | @caller i caller session steps =>
      rcases steps.cached with same | ⟨token, granted, _, kept⟩ | ⟨token, refused, dropped⟩
      · exact .inl same
      · exact .inr (.inl ⟨i, token, rfl, granted, kept⟩)
      · exact .inr (.inr ⟨.inr ⟨i, token, rfl, refused⟩, dropped⟩)

theorem Moves.again (moved : Moves env config crowd move next)
    (again : (crowd.callers i).again = true) : (next.callers i).again = true := by
  cases moved with
  | invalidate => exact again
  | @caller k caller session steps =>
      exact forall_after (fun j caller => (crowd.callers j).again = true → caller.again = true)
        steps.again (fun _ _ same => same) i again

/-- Whatever token is kept, a caller whose token was refused leaves none. -/
theorem step?_of_refused (refused : (crowd.callers i).stand = .refused token)
    (stepped : step? env config crowd (.caller i) = some next) :
    next.session.cached = none ∧ (next.callers i).again = true ∧
      (next.callers i).stand = .arriving := by
  obtain ⟨step, made, rfl⟩ := Option.map_eq_some_iff.mp stepped
  rw [Caller.step?_refused refused] at made
  cases made
  rw [after_callers_self]
  exact ⟨rfl, rfl, rfl⟩

/-! ## The number of acquisitions -/

/-- The acquisitions so far are accounted for by what the callers have done, beside the token that
was kept at first. -/
structure Paid (start : Nat) (crowd : Crowd n) : Prop where
  ordered : Ordered crowd
  first : RefusedFirst crowd
  bare : ∀ i, (crowd.callers i).stand.isSeeking = true → crowd.session.cached = none
  paid : crowd.session.acquisitions + 1 ≤
    start + ∑ i, (crowd.callers i).debt + crowd.session.cached.isSome.toNat

theorem gather_paid {session : Session} (held : session.cached = some token)
    (callers : Fin n → Errand × Option Delay) :
    Paid session.acquisitions (gather session callers) where
  ordered := gather_ordered session callers
  first := gather_refusedFirst session callers
  bare _ seeking := by cases seeking
  paid := by
    change session.acquisitions + 1 ≤ _ + _ + session.cached.isSome.toNat
    rw [held]
    exact Nat.add_le_add_right (Nat.le_add_right _ _) 1

/-- A move is a step of a caller, and if it is a check, it does not find the kept token due. -/
def SparesAll (env : Environment) (config : ClientConfig) (crowd : Crowd n) (move : Move n) :
    Prop :=
  move.isStep = true ∧ ∀ token, Spares env config token crowd move

instance decidableSparesAll (crowd : Crowd n) :
    (move : Move n) → Decidable (SparesAll env config crowd move)
  | .invalidate => .isFalse fun spared => nomatch spared.1
  | .caller i =>
    match held : crowd.session.cached with
    | none => .isTrue ⟨rfl, fun _ _ same => nomatch held.symm.trans same⟩
    | some token =>
      decidable_of_iff (Spares env config token crowd (.caller i))
        ⟨fun spared => ⟨rfl, fun _ checking same =>
          Option.some.inj (held.symm.trans same) ▸ spared checking held⟩,
          fun spared => spared.2 token⟩

theorem Paid.onward (paid : Paid start crowd) (spared : SparesAll env config crowd move)
    (moved : Moves env config crowd move next) : Paid start next := by
  have ordered := paid.ordered.onward moved
  have first := paid.first.onward moved
  cases moved with
  | invalidate => cases spared.1
  | @caller i caller session steps =>
      refine ⟨ordered, first, ?_, ?_⟩
      · refine forall_after (fun _ caller => caller.stand.isSeeking = true → session.cached = none)
          (steps.of_isSeeking (fun checking token held => spared.2 token checking held)
            (paid.bare i)) ?_
        intro j other seeking
        -- The caller that seeks has the turn, so that it is not this one that keeps a token.
        have empty := paid.bare j seeking
        rcases steps.cached with same | ⟨token, granted, _⟩ | ⟨_, _, dropped⟩
        · exact same.trans empty
        · have holds : (crowd.callers i).stand.holdsTurn = true := by
            rw [granted]
            rfl
          exact absurd (paid.ordered.exclusive (Stand.holdsTurn_of_isSeeking seeking) holds) other
        · exact dropped
      · have cost := steps.acquisitions_le (paid.first i) (paid.bare i)
        have whole := sum_after Caller.debt crowd i caller session
        have before := paid.paid
        rw [after_session]
        omega

/-- One caller acquires a token, or none does. -/
theorem Ordered.sum_isBusy (ordered : Ordered crowd) :
    (∃ i, (crowd.callers i).stand.isBusy = true ∧
        ∑ j, (crowd.callers j).stand.isBusy.toNat = 1) ∨
      ∑ j, (crowd.callers j).stand.isBusy.toNat = 0 := by
  by_cases busy : ∃ i, (crowd.callers i).stand.isBusy = true
  · obtain ⟨i, busy⟩ := busy
    have others (j : Fin n) (other : j ≠ i) : (crowd.callers j).stand.isBusy.toNat = 0 := by
      cases busyToo : (crowd.callers j).stand.isBusy with
      | false => rfl
      | true =>
          exact absurd (ordered.exclusive (Stand.holdsTurn_of_isBusy busyToo)
            (Stand.holdsTurn_of_isBusy busy)) other
    refine .inl ⟨i, busy, ?_⟩
    rw [Fintype.sum_eq_single i others, busy]
    rfl
  · refine .inr (Finset.sum_eq_zero fun j _ => ?_)
    cases busyToo : (crowd.callers j).stand.isBusy with
    | false => rfl
    | true => exact absurd ⟨j, busyToo⟩ busy

theorem Paid.acquisitions_le (paid : Paid start crowd) :
    crowd.session.acquisitions ≤ start + crowd.drops + crowd.failures := by
  have whole : ∑ i, (crowd.callers i).debt =
      crowd.drops + crowd.failures + ∑ i, (crowd.callers i).stand.isBusy.toNat := by
    simp only [Caller.debt, drops, failures, Finset.sum_add_distrib]
  have enough := paid.paid
  rw [whole] at enough
  rcases paid.ordered.sum_isBusy with ⟨i, busy, one⟩ | none
  · rw [paid.bare i (Stand.isSeeking_of_isBusy busy), one] at enough
    simp only [Option.isSome_none, Bool.toNat_false] at enough
    omega
  · have one := Bool.toNat_le crowd.session.cached.isSome
    omega

/-! ## After an acquisition -/

/-- A token was granted or is kept, and nobody seeks another one. -/
structure Content (start : Nat) (token : AccessToken) (crowd : Crowd n) : Prop where
  ordered : Ordered crowd
  acquisitions : crowd.session.acquisitions = start
  content : (∃ i, (crowd.callers i).stand = .granted token) ∨
    crowd.session.cached = some token ∧ ∀ i, (crowd.callers i).stand.isSeeking = false

/-- If this token is kept, a move neither drops it nor finds it due. -/
def Leaves (env : Environment) (config : ClientConfig) (token : AccessToken) (crowd : Crowd n)
    (move : Move n) : Prop :=
  Spares env config token crowd move ∧
    ∀ i, move = .caller i → crowd.session.cached = some token →
      (crowd.callers i).stand.isRefused = false

instance decidableLeaves (token : AccessToken) (crowd : Crowd n) (move : Move n) :
    Decidable (Leaves env config token crowd move) :=
  inferInstanceAs (Decidable (Spares env config token crowd move ∧ ∀ _, _ → _ → _ = _))

theorem Ordered.not_isSeeking (ordered : Ordered crowd) {j : Fin n}
    (holds : (crowd.callers i).stand.holdsTurn = true) (other : j ≠ i) :
    (crowd.callers j).stand.isSeeking = false := by
  cases seeking : (crowd.callers j).stand.isSeeking with
  | false => rfl
  | true => exact absurd (ordered.exclusive (Stand.holdsTurn_of_isSeeking seeking) holds) other

theorem Content.onward (content : Content start token crowd)
    (left : Leaves env config token crowd move) (moved : Moves env config crowd move next) :
    Content start token next := by
  have ordered := content.ordered.onward moved
  cases moved with
  | invalidate => exact left.1.elim
  | @caller i caller session steps =>
      have quiet (idle : (crowd.callers i).stand ≠ .lacking) : session.acquisitions = start :=
        (steps.acquisitions_of_idle idle).trans content.acquisitions
      have idle (settled : (crowd.callers i).stand.isSeeking = false) :
          (crowd.callers i).stand ≠ .lacking := by
        intro same
        rw [same] at settled
        cases settled
      rcases content.content with ⟨k, granted⟩ | ⟨held, satisfied⟩
      · have others (j : Fin n) (other : j ≠ k) : (crowd.callers j).stand.isSeeking = false :=
          content.ordered.not_isSeeking (by rw [granted]; rfl) other
        by_cases self : i = k
        · subst self
          obtain ⟨rfl, rfl⟩ := steps.of_granted granted
          exact ⟨ordered, quiet (by rw [granted]; nofun), .inr ⟨rfl,
            forall_after (fun _ caller => caller.stand.isSeeking = false) rfl others⟩⟩
        · refine ⟨ordered, quiet (idle (others i self)), .inl ⟨k, ?_⟩⟩
          rw [after_callers_of_ne _ _ _ (Ne.symm self)]
          exact granted
      · obtain ⟨settled, heldStill⟩ := steps.of_settled held (satisfied i) (left.2 i rfl held)
          fun checking => left.1 checking held
        exact ⟨ordered, quiet (idle (satisfied i)), .inr ⟨heldStill,
          forall_after (fun _ caller => caller.stand.isSeeking = false) settled
            fun j _ => satisfied j⟩⟩

/-! ## Late refusals -/

def revoking : Script where
  replies :=
    [.granting "at-1", ⟨.zero, .ok ⟨401, [], []⟩⟩, ⟨.zero, .ok ⟨401, [], []⟩⟩, .granting "at-2",
      ⟨.zero, .ok ⟨200, [], []⟩⟩, .granting "at-3", ⟨.zero, .ok ⟨200, [], []⟩⟩]
  tokenReplies := none

def pair : Crowd 2 :=
  gather (.start ⟨0⟩) fun _ => (.send (Request.plain "GET" (.sample ["api"])), none)

/-- Both callers present the first token and are refused. The first one has its request answered
with a second token, before the other one goes on. -/
def overtaking : List (Move 2) :=
  ([0, 0, 0, 0, 0, 0, 0, 1, 0, 1, 0, 1, 0, 0, 0, 0, 0, 0, 0, 0, 0, 0] : List (Fin 2)).map .caller

/-- The token whose refusal a caller is about to answer. -/
def refusedBy? (crowd : Crowd n) (i : Fin n) : Option AccessToken :=
  match (crowd.callers i).stand with
  | .refused token => some token
  | _ => none

/-- The second caller, whose first token was refused, drops a token that was issued after it, so
that there are two further acquisitions instead of one. -/
theorem late_refusal_drops_newer :
    let issued (token : AccessToken) : String × Int := (token.secret.text, token.issuedAt.nanos)
    let run := fun moves => run? (.ofScript revoking) .sample moves pair
    (run overtaking).map (fun crowd =>
        ((crowd.refusedBy? 1).map issued, crowd.session.cached.map issued)) =
      some (some ("at-1", 5), some ("at-2", 14)) ∧
    (run (overtaking ++ [.caller 1])).map (fun crowd => crowd.session.cached.map issued) =
      some none ∧
    (run (overtaking ++ List.replicate 10 (.caller 1))).map (fun crowd =>
        (crowd.session.acquisitions, List.ofFn fun i => (crowd.callers i).isFinished)) =
      some (3, [true, true]) := by
  decide +kernel

/-- In every order of the steps of some callers: a caller whose token was refused leaves no token,
whichever is kept by then, and does so once; beside that the kept token changes only where an
acquired one is kept, or by an invalidation from outside. Callers that begin with a kept token make
no more acquisitions than they drop tokens and have errors, as long as no check finds a kept token
due. There is one acquisition only if its token is neither dropped nor found due. -/
theorem callers_drop_what_is_kept (env : Environment) (config : ClientConfig) {n : Nat}
    (session : Session) (callers : Fin n → Errand × Option Delay) :
    (∀ moves crowd move next, run? env config moves (gather session callers) = some crowd →
      step? env config crowd move = some next →
        (∀ i token, move = .caller i → (crowd.callers i).stand = .refused token →
          next.session.cached = none ∧ (crowd.callers i).again = false ∧
            (next.callers i).again = true) ∧
        (∀ i, (crowd.callers i).again = true → (next.callers i).again = true) ∧
        (next.session.cached = crowd.session.cached ∨
          (∃ i token, move = .caller i ∧ (crowd.callers i).stand = .granted token ∧
            next.session.cached = some token) ∨
          (move = .invalidate ∨ ∃ i token, move = .caller i ∧
              (crowd.callers i).stand = .refused token) ∧ next.session.cached = none)) ∧
    (session.cached ≠ none →
      ∀ moves crowd, run? env config moves (gather session callers) = some crowd →
        Along env config (SparesAll env config) moves (gather session callers) →
          crowd.session.acquisitions ≤ session.acquisitions + crowd.drops + crowd.failures ∧
            crowd.drops ≤ n) ∧
    (∀ before after i token first final,
      run? env config before (gather session callers) = some first →
      first.session.acquisitions = session.acquisitions + 1 →
      (first.callers i).stand = .granted token →
      Along env config (Leaves env config token) after first →
      run? env config after first = some final →
        final.session.acquisitions = session.acquisitions + 1) := by
  refine ⟨?_, ?_, ?_⟩
  · intro moves crowd move next ran stepped
    have first := run?_invariant RefusedFirst.onward (gather_refusedFirst session callers) ran
    have moved := moves_of_step? stepped
    refine ⟨?_, fun i => moved.again, moved.cached⟩
    rintro i token rfl refused
    obtain ⟨dropped, again, _⟩ := step?_of_refused refused stepped
    exact ⟨dropped, first i (by rw [refused]; rfl), again⟩
  · intro kept moves crowd ran along
    obtain ⟨token, held⟩ := Option.ne_none_iff_exists'.mp kept
    have paid := run?_along (fun spared paid => paid.onward spared) along
      (gather_paid held callers) ran
    exact ⟨paid.acquisitions_le, crowd.drops_le⟩
  · intro before after i token first final ranBefore one granted along ranAfter
    have ordered := run?_ordered (gather_ordered session callers) ranBefore
    have content : Content (session.acquisitions + 1) token first :=
      ⟨ordered, one, .inl ⟨i, granted⟩⟩
    exact (run?_along (fun left content => content.onward left) along content ranAfter).acquisitions

private theorem inCalendar_pair :
    inCalendar 1 ∧ inCalendar 9 ∧ inCalendar 3600000000001 ∧ inCalendar 3600000000009 := by
  decide

private def revoked : AccessToken :=
  ⟨⟨"at-0"⟩, "Bearer", ⟨1, inCalendar_pair.1⟩, ⟨3600000000001, inCalendar_pair.2.2.1⟩, none, none⟩

private def replacement : AccessToken :=
  ⟨⟨"at-1"⟩, "Bearer", ⟨9, inCalendar_pair.2.1⟩, ⟨3600000000009, inCalendar_pair.2.2.2⟩, none, none⟩

private def replacing : Environment :=
  .ofScript ⟨[⟨.zero, .ok ⟨401, [], []⟩⟩, ⟨.zero, .ok ⟨401, [], []⟩⟩, .granting "at-1",
    ⟨.zero, .ok ⟨200, [], []⟩⟩, ⟨.zero, .ok ⟨200, [], []⟩⟩], none⟩

private def holding : Session := { Session.start ⟨0⟩ with cached := some revoked }

private def sharing : Crowd 2 :=
  gather holding fun _ => (.send (Request.plain "GET" (.sample ["api"])), none)

/-- Both callers drop the kept token before either of them acquires another one. -/
private def upToReplacement : List (Move 2) :=
  ([0, 0, 0, 1, 1, 1, 0, 1, 0, 0, 0, 0, 0] : List (Fin 2)).map .caller

private def afterReplacement : List (Move 2) := ([0, 0, 1, 0, 0, 1, 1] : List (Fin 2)).map .caller

private def atReplacement : Crowd 2 := (run? replacing .sample upToReplacement sharing).getD sharing

private def replaced : Crowd 2 :=
  (run? replacing .sample afterReplacement atReplacement).getD sharing

private theorem sharing_course :
    (run? replacing .sample upToReplacement sharing).isSome = true ∧
      atReplacement.session.acquisitions = 1 ∧
      (atReplacement.callers 0).stand.granted? = some replacement ∧
      Along replacing .sample (SparesAll replacing .sample) (upToReplacement ++ afterReplacement)
        sharing ∧
      Along replacing .sample (Leaves replacing .sample replacement) afterReplacement
        atReplacement ∧
      (run? replacing .sample afterReplacement atReplacement).isSome = true ∧
      replaced.drops = 2 := by
  decide +kernel

theorem callers_drop_what_is_kept_pair :
    run? replacing .sample (upToReplacement ++ afterReplacement) sharing = some replaced ∧
      replaced.session.acquisitions = 1 ∧ replaced.drops = 2 ∧
      replaced.session.acquisitions ≤
        holding.acquisitions + replaced.drops + replaced.failures := by
  obtain ⟨ran, one, acquired, spared, left, ranOn, dropped⟩ := sharing_course
  have first : run? replacing .sample upToReplacement sharing = some atReplacement :=
    run?_eq_getD ran sharing
  have second : run? replacing .sample afterReplacement atReplacement = some replaced :=
    run?_eq_getD ranOn sharing
  have whole := (run?_append upToReplacement afterReplacement sharing).trans
    (Option.bind_eq_some_iff.mpr ⟨atReplacement, first, second⟩)
  obtain ⟨_, paid, once⟩ := callers_drop_what_is_kept replacing .sample holding
    fun _ : Fin 2 => (.send (Request.plain "GET" (.sample ["api"])), none)
  have few := (paid nofun (upToReplacement ++ afterReplacement) replaced whole spared).1
  have only := once upToReplacement afterReplacement 0 replacement atReplacement replaced first one
    (Stand.eq_granted_of_granted? acquired) left second
  exact ⟨whole, only, dropped, few⟩

end Crowd

end KeyBound
