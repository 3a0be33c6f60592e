import KeyBound.Paging.Shelf
import KeyBound.Proofs.Paging.Traversal

/-!
# How a traversal ends

A page that names no next one closes a traversal. After it calls return its items, then the defect
of its headers if they have one, and then the end for ever, without a fetch. No traversal ends in
another way, and a cursor that says that it is exhausted is at that end.
-/

set_option autoImplicit false

namespace KeyBound

variable {σ α : Type}

open Occurrence Cursor

/-! ## What is left without a fetch -/

/-- What calls return before the end, with some items buffered and no page to fetch any more. -/
def lastAnswers (items : List α) : NextPage → Option (List (Except Error (Option α)))
  | .unfetched | .url _ => none
  | .invalid defect => some (items.map (.ok ∘ some) ++ [.error (.pagination defect)])
  | .exhausted => some (items.map (.ok ∘ some))

@[simp] theorem lastAnswers_pointer (items : List α) (target : Option String) :
    lastAnswers items (pointer target) = none := by
  cases target <;> rfl

@[simp] theorem lastAnswers_cons (value : α) (rest : List α) (next : NextPage) :
    lastAnswers (value :: rest) next = (lastAnswers rest next).map (.ok (some value) :: ·) := by
  cases next <;> rfl

theorem lastAnswers_eq_nil_iff {items : List α} {next : NextPage} :
    lastAnswers items next = some [] ↔ items = [] ∧ next = .exhausted := by
  cases next <;> simp [lastAnswers]

/-- Such answers after a page are its items and the defect of its headers, if they have one. -/
theorem lastAnswers_nextOf {items : List α} {headers : Headers}
    {told : List (Except Error (Option α))} :
    lastAnswers items (nextOf headers) = some told ↔
      Link.next? headers = .ok none ∧ told = items.map (.ok ∘ some) ∨
        ∃ defect, Link.next? headers = .error defect ∧
          told = items.map (.ok ∘ some) ++ [.error (.pagination defect)] := by
  unfold nextOf
  cases Link.next? headers with
  | error defect => simp [lastAnswers, eq_comm]
  | ok found => cases found <;> simp [lastAnswers, eq_comm]

theorem Cursor.isExhausted_iff {cursor : Cursor α} :
    cursor.isExhausted = true ↔ cursor.buffered = [] ∧ cursor.next = .exhausted := by
  simp [isExhausted]

/-- A cursor ends where it is at the end, and stays there. -/
theorem Cursor.isExhausted_of_finished {cursor later : Cursor α}
    (turned : cursor.turn = .finished later) : cursor.isExhausted = true ∧ later = cursor := by
  obtain ⟨buffered, next, fetched⟩ := cursor
  cases buffered <;> cases next <;> cases turned
  exact ⟨rfl, rfl⟩

namespace Occurrence

/-- The first of some answers, which the end follows for ever. -/
def answers (told : List (Except Error (Option α))) (count : Nat) : List (Occurrence α) :=
  (List.range count).map fun place => .answered (told[place]?.getD (.ok none))

theorem answers_succ (told : List (Except Error (Option α))) (count : Nat) :
    answers told (count + 1) =
      answers told count ++ [.answered (told[count]?.getD (.ok none))] := by
  simp [answers, List.range_succ]

/-- Whatever is to be told is told by as many answers. -/
theorem answered_mem_answers {told : List (Except Error (Option α))} {count : Nat}
    {answer : Except Error (Option α)} (member : answer ∈ told) (enough : told.length ≤ count) :
    .answered answer ∈ answers told count := by
  obtain ⟨place, inside, rfl⟩ := List.mem_iff_getElem.mp member
  refine List.mem_map.mpr ⟨place, List.mem_range.mpr (Nat.lt_of_lt_of_le inside enough), ?_⟩
  simp [inside]

/-- Calls have returned some answers one by one, or all of them and then the end, and the others are
left. -/
def Returned (told : List (Except Error (Option α))) (after : List (Occurrence α))
    (left : List (Except Error (Option α))) : Prop :=
  after = answers told after.length ∧ told.drop after.length = left

theorem Returned.none (told : List (Except Error (Option α))) : Returned told [] told := ⟨rfl, rfl⟩

/-- The first answer that is left is returned next, or the end if there is none. -/
theorem Returned.one_more {told left : List (Except Error (Option α))}
    {after : List (Occurrence α)} (returned : Returned told after left) :
    Returned told (after ++ [.answered (left.headD (.ok .none))]) left.tail := by
  obtain ⟨sofar, rfl⟩ := returned
  refine ⟨?_, by simp⟩
  rw [List.length_append, List.length_singleton, answers_succ, ← sofar]
  simp

/-- The last page that was fetched names no next one, and if its headers are defective, then that
was told. -/
def Closed (history : List (Occurrence α)) : Prop :=
  ∃ before target page after,
    history = before ++ .fetched target (.ok page) :: after ∧ pages after = [] ∧
      (Link.next? page.headers = .ok none ∨
        ∃ defect, Link.next? page.headers = .error defect ∧
          .answered (.error (.pagination defect)) ∈ after)

end Occurrence

namespace Traversal

variable {fetch : Fetcher σ α} {first : σ} {t : Traversal σ α}

namespace Reached

/-- A cursor that has no page to fetch has fetched one that names no next one, and none since. -/
theorem exists_last_page (reached : Reached fetch first t)
    (closed : (lastAnswers t.cursor.buffered t.cursor.next).isSome) :
    ∃ before target page after,
      t.history = before ++ .fetched target (.ok page) :: after ∧ pages after = [] ∧
        (lastAnswers page.items (nextOf page.headers)).isSome := by
  induction reached with
  | start => cases closed
  | item _ ih =>
      obtain ⟨before, target, page, after, rfl, unfetched, last⟩ := ih (by simpa using closed)
      exact ⟨before, target, page, _, List.append_assoc .., by simp [unfetched], last⟩
  | finished _ ih | failed _ ih =>
      obtain ⟨before, target, page, after, rfl, unfetched, last⟩ := ih rfl
      exact ⟨before, target, page, _, List.append_assoc .., by simp [unfetched], last⟩
  | received => exact ⟨_, _, _, [], rfl, rfl, closed⟩
  | refused => simp at closed

/-- All that happens after a page that names no next one is that its answers are returned one by
one, and the cursor has the rest of them left. -/
theorem after_last_page (reached : Reached fetch first t) {before after : List (Occurrence α)}
    {target : Option String} {page : Page α} {told : List (Except Error (Option α))}
    (split : t.history = before ++ .fetched target (.ok page) :: after)
    (last : lastAnswers page.items (nextOf page.headers) = some told) :
    ∃ left, lastAnswers t.cursor.buffered t.cursor.next = some left ∧ Returned told after left := by
  induction reached generalizing after with
  | start => simp [Traversal.start] at split
  | item _ ih =>
      rcases split_append split with ⟨rest, rfl, inside⟩ | ⟨middle, _, added⟩
      · obtain ⟨_, closes, returned⟩ := ih inside
        obtain ⟨left, rest, rfl⟩ := Option.map_eq_some_iff.mp (lastAnswers_cons _ _ _ ▸ closes)
        exact ⟨left, rest, returned.one_more⟩
      · simp [List.singleton_eq_append_iff] at added
  | finished _ ih | failed _ ih =>
      rcases split_append split with ⟨rest, rfl, inside⟩ | ⟨middle, _, added⟩
      · obtain ⟨_, closes, returned⟩ := ih inside
        cases closes
        exact ⟨[], rfl, returned.one_more⟩
      · simp [List.singleton_eq_append_iff] at added
  | received _ _ ih =>
      rcases split_append split with ⟨rest, rfl, inside⟩ | ⟨middle, _, added⟩
      · -- The cursor has a page to fetch, so it has fetched none that names no next one.
        simpa using ih inside
      · cases middle with
        | nil =>
            cases added
            exact ⟨told, last, .none told⟩
        | cons top middle => simp at added
  | refused _ _ ih =>
      rcases split_append split with ⟨rest, rfl, inside⟩ | ⟨middle, _, added⟩
      · simpa using ih inside
      · simp [List.cons_eq_append_iff] at added

/-- At its end a traversal has fetched a page that names no next one and has told its defect. -/
theorem closed (reached : Reached fetch first t) (ended : t.cursor.isExhausted = true) :
    Closed t.history := by
  have left := lastAnswers_eq_nil_iff.mpr (Cursor.isExhausted_iff.mp ended)
  obtain ⟨before, target, page, after, split, unfetched, last⟩ :=
    reached.exists_last_page (by rw [left]; rfl)
  obtain ⟨told, last⟩ := Option.isSome_iff_exists.mp last
  obtain ⟨rest, closes, sofar, rfl⟩ := reached.after_last_page split last
  have enough : told.length ≤ after.length :=
    List.drop_eq_nil_iff.mp (Option.some.inj (closes.symm.trans left))
  refine ⟨before, target, page, after, split, unfetched, ?_⟩
  rcases lastAnswers_nextOf.mp last with ⟨unlinked, _⟩ | ⟨defect, defective, rfl⟩
  · exact .inl unlinked
  · refine .inr ⟨defect, defective, ?_⟩
    rw [sofar]
    exact answered_mem_answers (by simp) enough

end Reached

/-! ## Calls at the end -/

/-- A turn of a cursor that has no page to fetch returns what it has left, or that it is at the
end. -/
theorem turn_of_lastAnswers (fetch : Fetcher σ α) {left : List (Except Error (Option α))}
    (closed : lastAnswers t.cursor.buffered t.cursor.next = some left) :
    ∃ cursor, t.turn fetch = (some (left.headD (.ok none)),
      ⟨cursor, t.fetcher, t.history ++ [.answered (left.headD (.ok none))]⟩) := by
  obtain ⟨⟨buffered, next, fetched⟩, s, history⟩ := t
  cases buffered with
  | cons value rest =>
      obtain ⟨left, _, rfl⟩ := Option.map_eq_some_iff.mp (lastAnswers_cons _ _ _ ▸ closed)
      exact ⟨_, rfl⟩
  | nil => cases next <;> cases closed <;> exact ⟨_, rfl⟩

theorem turn_of_isExhausted (fetch : Fetcher σ α) (ended : t.cursor.isExhausted = true) :
    t.turn fetch =
      (some (.ok none), { t with history := t.history ++ [.answered (.ok none)] }) := by
  obtain ⟨⟨buffered, next, fetched⟩, s, history⟩ := t
  obtain ⟨rfl, rfl⟩ := Cursor.isExhausted_iff.mp ended
  rfl

theorem call_of_turn {answer : Except Error (Option α)} {later : Traversal σ α} (fuel : Nat)
    (turned : t.turn fetch = (some answer, later)) :
    t.call fetch (fuel + 1) = (some answer, later) := by
  rw [call, turned]

/-- The end is fused: calls at the end do nothing but return that it is there. -/
theorem calls_of_isExhausted (ended : t.cursor.isExhausted = true) (fuels : List Nat) :
    t.calls fetch fuels =
      { t with
        history := t.history ++ List.replicate (fuels.countP (0 < ·)) (.answered (.ok none)) } := by
  induction fuels generalizing t with
  | nil => simp [calls]
  | cons fuel fuels ih =>
      cases fuel with
      | zero => simpa [calls, call] using ih ended
      | succ fuel =>
          have called := call_of_turn fuel (turn_of_isExhausted fetch ended)
          have still : (t.call fetch (fuel + 1)).2.cursor.isExhausted = true := by
            rw [called]
            exact ended
          calc
            t.calls fetch ((fuel + 1) :: fuels)
              = (t.call fetch (fuel + 1)).2.calls fetch fuels := rfl
            _ = _ := ih still
            _ = _ := by simp [called, List.replicate_succ]

theorem settle_ne_end (target : Option String) (waiting : Cursor α)
    (history : List (Occurrence α)) (reply : Except Error (Page α) × σ) :
    (settle target waiting history reply).1 ≠ some (.ok none) := by
  obtain ⟨outcome, s⟩ := reply
  cases outcome <;> simp [settle]

/-- A turn that returns the end leaves a cursor that is at the end. -/
theorem turn_isExhausted (answered : (t.turn fetch).1 = some (.ok none)) :
    (t.turn fetch).2.cursor.isExhausted = true := by
  rw [turn] at answered ⊢
  cases turned : t.cursor.turn with
  | item value cursor => simp [turned] at answered
  | failed error cursor => simp [turned] at answered
  | fetch target waiting =>
      simp only [turned] at answered
      exact absurd answered (settle_ne_end _ _ _ _)
  | finished cursor =>
      obtain ⟨ended, rfl⟩ := Cursor.isExhausted_of_finished turned
      exact ended

theorem call_isExhausted {fuel : Nat} (answered : (t.call fetch fuel).1 = some (.ok none)) :
    (t.call fetch fuel).2.cursor.isExhausted = true := by
  induction fuel generalizing t with
  | zero => cases answered
  | succ fuel ih =>
      rcases call_cases fetch fuel t with ⟨answer, later, turned, called⟩ | ⟨later, _, called⟩
      · rw [called, ← turned] at answered ⊢
        exact turn_isExhausted answered
      · rw [called] at answered ⊢
        exact ih answered

/-- A turn of a cursor that is not at the end fetches a page, returns an item or tells an error. -/
theorem turn_of_not_isExhausted (fetch : Fetcher σ α) (going : t.cursor.isExhausted = false) :
    ∃ occurrence rest, (t.turn fetch).2.history = t.history ++ occurrence :: rest ∧
      occurrence ≠ .answered (.ok none) := by
  rw [turn]
  cases turned : t.cursor.turn with
  | item value cursor => exact ⟨_, [], rfl, by simp⟩
  | failed error cursor => exact ⟨_, [], rfl, by simp⟩
  | finished cursor =>
      have ended := (Cursor.isExhausted_of_finished turned).1
      cases going.symm.trans ended
  | fetch target waiting =>
      dsimp only
      cases fetch t.fetcher target with
      | mk outcome s => cases outcome <;> exact ⟨_, _, rfl, by simp⟩

theorem call_of_not_isExhausted (fetch : Fetcher σ α) (going : t.cursor.isExhausted = false)
    (fuel : Nat) :
    ∃ occurrence rest, (t.call fetch (fuel + 1)).2.history = t.history ++ occurrence :: rest ∧
      occurrence ≠ .answered (.ok none) := by
  obtain ⟨occurrence, rest, grown, other⟩ := turn_of_not_isExhausted fetch going
  rcases call_cases fetch fuel t with ⟨answer, later, turned, called⟩ | ⟨later, turned, called⟩
  · rw [turned] at grown
    rw [called]
    exact ⟨occurrence, rest, grown, other⟩
  · rw [turned] at grown
    obtain ⟨fetches, whole⟩ := call_goesOn fetch fuel later
    rw [called, whole, grown, List.append_assoc, List.append_assoc]
    exact ⟨occurrence, _, rfl, other⟩

/-- A traversal is at its end for good: nothing is buffered and nothing is untold, the cursor says
so, and whatever calls are made, they return the end without a fetch. -/
structure Ended (fetch : Fetcher σ α) (t : Traversal σ α) : Prop where
  buffered : t.cursor.buffered = []
  closed : Closed t.history
  exhausted : t.cursor.isExhausted = true
  answers (fuel : Nat) :
    Cursor.nextItem fetch (fuel + 1) t.cursor t.fetcher = some (.ok none, t.cursor, t.fetcher)
  lasts (fuels : List Nat) :
    t.calls fetch fuels =
      { t with
        history := t.history ++ List.replicate (fuels.countP (0 < ·)) (.answered (.ok none)) }

theorem Reached.ended (reached : Reached fetch first t)
    (exhausted : t.cursor.isExhausted = true) : Ended fetch t where
  buffered := (Cursor.isExhausted_iff.mp exhausted).1
  closed := reached.closed exhausted
  exhausted := exhausted
  answers fuel := by
    rw [nextItem_eq_call, call_of_turn fuel (turn_of_isExhausted fetch exhausted)]
    rfl
  lasts := calls_of_isExhausted exhausted

/-- Whatever the fetcher does, after any calls, the last of which may still be on its way: a call
that returns the end leaves a traversal that is at its end for good, and so is every one whose
cursor says that it is exhausted; a call of any other fetches a page, returns an item or tells an
error; and after a page with defective headers calls have returned its items one by one, the defect
once, and then nothing but the end, and the next one goes on so without a fetch. -/
theorem calls_end (fetch : Fetcher σ α) (fetcher : σ) (fuels : List Nat) :
    let t := (Traversal.start fetcher).calls fetch fuels
    (∀ fuel, (t.call fetch fuel).1 = some (.ok none) → Ended fetch (t.call fetch fuel).2) ∧
    (t.cursor.isExhausted = true → Ended fetch t) ∧
    (t.cursor.isExhausted = false → ∀ fuel, ∃ occurrence rest,
      (t.call fetch (fuel + 1)).2.history = t.history ++ occurrence :: rest ∧
        occurrence ≠ .answered (.ok none)) ∧
    (∀ before target page after defect,
      t.history = before ++ .fetched target (.ok page) :: after →
      Link.next? page.headers = .error defect →
      let told := page.items.map (.ok ∘ some) ++ [.error (.pagination defect)]
      let answer := told[after.length]?.getD (.ok none)
      after = answers told after.length ∧
      ∀ fuel, ∃ cursor, t.call fetch (fuel + 1) =
        (some answer, ⟨cursor, t.fetcher, t.history ++ [.answered answer]⟩)) := by
  intro t
  have reached : Reached fetch fetcher t := calls_reached fuels .start
  refine ⟨fun fuel answered => (call_reached fuel reached).ended (call_isExhausted answered),
    reached.ended, call_of_not_isExhausted fetch, ?_⟩
  intro before target page after defect split defective told answer
  have last : lastAnswers page.items (nextOf page.headers) = some told :=
    lastAnswers_nextOf.mpr (.inr ⟨defect, defective, rfl⟩)
  obtain ⟨left, closes, sofar, rest⟩ := reached.after_last_page split last
  have first : left.headD (.ok none) = answer := by simp [answer, ← rest]
  refine ⟨sofar, fun fuel => ?_⟩
  obtain ⟨cursor, turned⟩ := turn_of_lastAnswers fetch closes
  rw [first] at turned
  exact ⟨cursor, call_of_turn fuel turned⟩

/-- A page whose link is not text: its item, the defect, the end, and the end again. -/
example :
    let page : Page Nat := ⟨[7], [("link", ⟨[0xFF], false⟩)]⟩
    ((start ⟨[.ok page], []⟩).calls Shelf.fetch [2, 1, 1, 1]).history =
      [.fetched none (.ok page), .answered (.ok (some 7)),
        .answered (.error (.pagination .nonText)), .answered (.ok none),
        .answered (.ok none)] := rfl

end Traversal

end KeyBound
