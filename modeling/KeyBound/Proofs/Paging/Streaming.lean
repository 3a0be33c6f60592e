import KeyBound.Paging.Shelf

/-!
# Streams and the calls of their cursors

A stream hands on what the calls of its cursor return, up to the first error or the end. The cursor
alone would go on after an error; the stream lets go of it there, so that nothing is fetched any
more and nothing comes after.
-/

set_option autoImplicit false

namespace KeyBound.Cursor

variable {σ α : Type}

/-! ## Calls and polls, after however many fetches -/

/-- A call returns an answer and leaves a cursor and what fetches its pages. -/
def Returns (fetch : Fetcher σ α) (cursor : Cursor α) (s : σ) (answer : Except Error (Option α))
    (later : Cursor α) (after : σ) : Prop :=
  ∃ fuel, nextItem fetch fuel cursor s = some (answer, later, after)

/-- A poll of a stream returns an entry, or that there is none. -/
def Yields (fetch : Fetcher σ α) (stream : Option (Cursor α)) (s : σ)
    (entry : Option (Except Error α)) (later : Option (Cursor α)) (after : σ) : Prop :=
  ∃ fuel, streamNext fetch fuel stream s = some (entry, later, after)

inductive Calls (fetch : Fetcher σ α) :
    Cursor α → σ → List (Except Error (Option α)) → Cursor α → σ → Prop where
  | none {cursor : Cursor α} {s : σ} : Calls fetch cursor s [] cursor s
  | call {cursor middle last : Cursor α} {s between after : σ} {answer : Except Error (Option α)}
      {answers : List (Except Error (Option α))} :
      Returns fetch cursor s answer middle between →
      Calls fetch middle between answers last after →
      Calls fetch cursor s (answer :: answers) last after

inductive Polls (fetch : Fetcher σ α) : Option (Cursor α) → σ →
    List (Option (Except Error α)) → Option (Cursor α) → σ → Prop where
  | none {stream : Option (Cursor α)} {s : σ} : Polls fetch stream s [] stream s
  | poll {stream middle last : Option (Cursor α)} {s between after : σ}
      {entry : Option (Except Error α)} {entries : List (Option (Except Error α))} :
      Yields fetch stream s entry middle between →
      Polls fetch middle between entries last after →
      Polls fetch stream s (entry :: entries) last after

/-- What a stream makes of one answer of its cursor. -/
inductive Passed : Except Error (Option α) → Cursor α → Option (Except Error α) →
    Option (Cursor α) → Prop where
  | item (value : α) (cursor : Cursor α) :
      Passed (.ok (some value)) cursor (some (.ok value)) (some cursor)
  | finished (cursor : Cursor α) : Passed (.ok none) cursor none none
  | failed (error : Error) (cursor : Cursor α) :
      Passed (.error error) cursor (some (.error error)) none

/-- What polls return and what is left of a stream, where calls of its cursor return some answers
and leave a cursor: items as long as there is nothing else, and an error or the end at last, after
which polls return nothing. -/
inductive Streamed : List (Except Error (Option α)) → Cursor α → List (Option (Except Error α)) →
    Option (Cursor α) → Prop where
  | going (items : List α) (cursor : Cursor α) :
      Streamed (items.map (.ok ∘ some)) cursor (items.map (some ∘ .ok)) (some cursor)
  | finished (items : List α) (cursor : Cursor α) (more : Nat) :
      Streamed (items.map (.ok ∘ some) ++ [.ok none]) cursor
        (items.map (some ∘ .ok) ++ List.replicate (more + 1) none) none
  | failed (items : List α) (error : Error) (cursor : Cursor α) (more : Nat) :
      Streamed (items.map (.ok ∘ some) ++ [.error error]) cursor
        (items.map (some ∘ .ok) ++ some (.error error) :: List.replicate more none) none

/-- What a consumer of at most some entries polls for them: it stops at its limit, or where a poll
returns nothing. -/
def Takes (limit : Nat) (entries : List (Except Error α))
    (results : List (Option (Except Error α))) : Prop :=
  entries.length = limit ∧ results = entries.map some ∨
    entries.length < limit ∧ results = entries.map some ++ [none]

variable {fetch : Fetcher σ α} {cursor last : Cursor α} {stream later : Option (Cursor α)}
  {s after : σ}

/-! ## One poll -/

theorem yields_none_iff {entry : Option (Except Error α)} :
    Yields fetch none s entry later after ↔ entry = none ∧ later = none ∧ after = s := by
  constructor
  · rintro ⟨fuel, returned⟩
    cases returned
    exact ⟨rfl, rfl, rfl⟩
  · rintro ⟨rfl, rfl, rfl⟩
    exact ⟨0, rfl⟩

/-- A poll of a stream that has a cursor is a call of that cursor. -/
theorem yields_some_iff {entry : Option (Except Error α)} :
    Yields fetch (some cursor) s entry later after ↔
      ∃ answer last, Returns fetch cursor s answer last after ∧ Passed answer last entry later := by
  constructor
  · rintro ⟨fuel, returned⟩
    obtain ⟨⟨answer, last, between⟩, called, same⟩ := Option.map_eq_some_iff.mp returned
    match answer with
    | .ok (some value) =>
        cases same
        exact ⟨_, _, ⟨fuel, called⟩, .item value last⟩
    | .ok none =>
        cases same
        exact ⟨_, _, ⟨fuel, called⟩, .finished last⟩
    | .error error =>
        cases same
        exact ⟨_, _, ⟨fuel, called⟩, .failed error last⟩
  · rintro ⟨answer, last, ⟨fuel, called⟩, passed⟩
    refine ⟨fuel, ?_⟩
    rw [streamNext, called]
    cases passed <;> rfl

/-! ## Polls and calls -/

theorem Streamed.item (value : α) {answers : List (Except Error (Option α))}
    {results : List (Option (Except Error α))} (streamed : Streamed answers last results later) :
    Streamed (.ok (some value) :: answers) last (some (.ok value) :: results) later := by
  cases streamed with
  | going items => exact .going (value :: items) last
  | finished items _ more => exact .finished (value :: items) last more
  | failed items error _ more => exact .failed (value :: items) error last more

/-- A stream without a cursor returns nothing and fetches nothing. -/
theorem polls_none_iff {results : List (Option (Except Error α))} :
    Polls fetch none s results later after ↔
      results = List.replicate results.length none ∧ later = none ∧ after = s := by
  induction results with
  | nil =>
      constructor
      · rintro ⟨⟩
        exact ⟨rfl, rfl, rfl⟩
      · rintro ⟨-, rfl, rfl⟩
        exact .none
  | cons entry rest ih =>
      constructor
      · rintro (_ | ⟨yields, polls⟩)
        obtain ⟨rfl, rfl, rfl⟩ := yields_none_iff.mp yields
        obtain ⟨nothing, rfl, rfl⟩ := ih.mp polls
        exact ⟨congrArg _ nothing, rfl, rfl⟩
      · rintro ⟨nothing, rfl, rfl⟩
        obtain ⟨rfl, none⟩ := List.cons.inj nothing
        exact .poll (yields_none_iff.mpr ⟨rfl, rfl, rfl⟩) (ih.mpr ⟨none, rfl, rfl⟩)

theorem exists_calls {results : List (Option (Except Error α))}
    (polls : Polls fetch (some cursor) s results later after) :
    ∃ answers last, Calls fetch cursor s answers last after ∧
      Streamed answers last results later := by
  induction results generalizing cursor s with
  | nil =>
      cases polls
      exact ⟨[], cursor, .none, .going [] cursor⟩
  | cons entry rest ih =>
      rcases polls with _ | ⟨yields, polls⟩
      obtain ⟨answer, middle, returns, passed⟩ := yields_some_iff.mp yields
      cases passed with
      | item value =>
          obtain ⟨answers, last, calls, streamed⟩ := ih polls
          exact ⟨_, last, .call returns calls, streamed.item value⟩
      | finished =>
          obtain ⟨nothing, rfl, rfl⟩ := polls_none_iff.mp polls
          rw [nothing]
          exact ⟨_, middle, .call returns .none, .finished [] middle rest.length⟩
      | failed error =>
          obtain ⟨nothing, rfl, rfl⟩ := polls_none_iff.mp polls
          rw [nothing]
          exact ⟨_, middle, .call returns .none, .failed [] error middle rest.length⟩

/-- Polls return the items of calls, and go on where the calls have led to. -/
theorem polls_of_items {items : List α} {answers : List (Except Error (Option α))}
    (calls : Calls fetch cursor s (items.map (.ok ∘ some) ++ answers) last after) :
    ∃ middle between, Calls fetch middle between answers last after ∧
      ∀ results later, Polls fetch (some middle) between results later after →
        Polls fetch (some cursor) s (items.map (some ∘ .ok) ++ results) later after := by
  induction items generalizing cursor s with
  | nil => exact ⟨cursor, s, calls, fun _ _ polls => polls⟩
  | cons value items ih =>
      rcases calls with _ | ⟨returns, calls⟩
      obtain ⟨middle, between, rest, polled⟩ := ih calls
      refine ⟨middle, between, rest, ?_⟩
      intro results later polls
      exact .poll (yields_some_iff.mpr ⟨_, _, returns, .item value _⟩) (polled results later polls)

theorem polls_of_calls {answers : List (Except Error (Option α))}
    {results : List (Option (Except Error α))} (calls : Calls fetch cursor s answers last after)
    (streamed : Streamed answers last results later) :
    Polls fetch (some cursor) s results later after := by
  cases streamed with
  | going items =>
      rw [← List.append_nil (items.map _)] at calls
      obtain ⟨middle, between, rest, polled⟩ := polls_of_items calls
      cases rest
      simpa using polled [] _ .none
  | finished items _ more =>
      obtain ⟨middle, between, rest, polled⟩ := polls_of_items calls
      rcases rest with _ | ⟨returns, ⟨⟩⟩
      refine polled _ _ (.poll (yields_some_iff.mpr ⟨_, _, returns, .finished _⟩) ?_)
      exact polls_none_iff.mpr ⟨by simp, rfl, rfl⟩
  | failed items error _ more =>
      obtain ⟨middle, between, rest, polled⟩ := polls_of_items calls
      rcases rest with _ | ⟨returns, ⟨⟩⟩
      refine polled _ _ (.poll (yields_some_iff.mpr ⟨_, _, returns, .failed error _⟩) ?_)
      exact polls_none_iff.mpr ⟨by simp, rfl, rfl⟩

/-! ## Entries that are collected -/

theorem nextItem_of_le {fuel more : Nat} {answer : Except Error (Option α)}
    (returned : nextItem fetch fuel cursor s = some (answer, last, after)) (enough : fuel ≤ more) :
    nextItem fetch more cursor s = some (answer, last, after) := by
  induction fuel generalizing cursor s more with
  | zero => cases returned
  | succ fuel ih =>
      obtain ⟨more, rfl⟩ : ∃ rest, more = rest + 1 := ⟨more - 1, by omega⟩
      rw [nextItem] at returned ⊢
      cases turned : cursor.turn with
      | item value cursor => simpa [turned] using returned
      | finished cursor => simpa [turned] using returned
      | failed error cursor => simpa [turned] using returned
      | fetch target waiting =>
          simp only [turned] at returned ⊢
          cases reply : fetch s target with
          | mk outcome between =>
              cases outcome with
              | error error => simpa [reply] using returned
              | ok page =>
                  simp only [reply] at returned ⊢
                  exact ih returned (Nat.le_of_succ_le_succ enough)

theorem streamNext_of_le {fuel more : Nat} {entry : Option (Except Error α)}
    (returned : streamNext fetch fuel stream s = some (entry, later, after))
    (enough : fuel ≤ more) : streamNext fetch more stream s = some (entry, later, after) := by
  cases stream with
  | none => exact returned
  | some cursor =>
      obtain ⟨⟨answer, last, between⟩, called, same⟩ := Option.map_eq_some_iff.mp returned
      rw [streamNext, nextItem_of_le called enough]
      exact congrArg some same

theorem collect_of_le {fuel more limit : Nat} {entries : List (Except Error α)}
    (collected : collect fetch fuel limit stream s = some (entries, after))
    (enough : fuel ≤ more) : collect fetch more limit stream s = some (entries, after) := by
  induction limit generalizing stream s entries with
  | zero => exact collected
  | succ limit ih =>
      rw [collect] at collected ⊢
      cases polled : streamNext fetch fuel stream s with
      | none => simp [polled] at collected
      | some result =>
          obtain ⟨entry, middle, between⟩ := result
          rw [streamNext_of_le polled enough]
          cases entry with
          | none => simpa [polled] using collected
          | some entry =>
              simp only [polled] at collected ⊢
              obtain ⟨⟨rest, last⟩, later, same⟩ := Option.map_eq_some_iff.mp collected
              cases same
              rw [ih later]
              rfl

theorem exists_polls_of_collect {fuel limit : Nat} {entries : List (Except Error α)}
    (collected : collect fetch fuel limit stream s = some (entries, after)) :
    ∃ results later, Polls fetch stream s results later after ∧ Takes limit entries results := by
  induction limit generalizing stream s entries with
  | zero =>
      cases collected
      exact ⟨[], stream, .none, .inl ⟨rfl, rfl⟩⟩
  | succ limit ih =>
      rw [collect] at collected
      cases polled : streamNext fetch fuel stream s with
      | none => simp [polled] at collected
      | some result =>
          obtain ⟨entry, middle, between⟩ := result
          simp only [polled] at collected
          cases entry with
          | none =>
              cases collected
              exact ⟨[none], middle, .poll ⟨fuel, polled⟩ .none, .inr ⟨Nat.succ_pos _, rfl⟩⟩
          | some entry =>
              obtain ⟨⟨rest, last⟩, rested, same⟩ := Option.map_eq_some_iff.mp collected
              cases same
              obtain ⟨results, later, polls, takes⟩ := ih rested
              refine ⟨some entry :: results, later, .poll ⟨fuel, polled⟩ polls, ?_⟩
              rcases takes with ⟨length, rfl⟩ | ⟨length, rfl⟩
              · exact .inl ⟨congrArg Nat.succ length, rfl⟩
              · exact .inr ⟨Nat.succ_lt_succ length, rfl⟩

theorem exists_collect_of_polls {limit : Nat} {entries : List (Except Error α)}
    {results : List (Option (Except Error α))} (polls : Polls fetch stream s results later after)
    (takes : Takes limit entries results) :
    ∃ fuel, collect fetch fuel limit stream s = some (entries, after) := by
  induction entries generalizing stream s limit results with
  | nil =>
      rcases takes with ⟨rfl, rfl⟩ | ⟨some, rfl⟩
      · cases polls
        exact ⟨0, rfl⟩
      · rcases polls with _ | ⟨⟨fuel, polled⟩, ⟨⟩⟩
        obtain ⟨limit, rfl⟩ := Nat.exists_eq_succ_of_ne_zero (Nat.ne_of_gt some)
        exact ⟨fuel, by rw [collect, polled]⟩
  | cons entry entries ih =>
      obtain ⟨limit, rest, rfl, rfl, restTakes⟩ : ∃ before rest, limit = before + 1 ∧
          results = some entry :: rest ∧ Takes before entries rest := by
        rcases takes with ⟨rfl, rfl⟩ | ⟨length, rfl⟩
        · exact ⟨_, _, rfl, rfl, .inl ⟨rfl, rfl⟩⟩
        · rw [List.length_cons] at length
          exact ⟨limit - 1, _, by omega, rfl, .inr ⟨by omega, rfl⟩⟩
      rcases polls with _ | ⟨⟨fuel, polled⟩, polls⟩
      obtain ⟨more, collected⟩ := ih polls restTakes
      refine ⟨max fuel more, ?_⟩
      rw [collect, streamNext_of_le polled (Nat.le_max_left ..)]
      simp only [collect_of_le collected (Nat.le_max_right ..), Option.map_some]

/-- Whatever the fetcher does and whatever cursor a stream was made of: polls of the stream return
some results and leave a stream exactly if calls of the cursor return answers that stream as they
do: the items, then the first error or the end, and then nothing, with what fetches the pages left
as the last of these calls has left it. What a consumer collects from the stream is what its polls
return up to the limit of the consumer or the first that returns nothing. -/
theorem polls_iff_calls (fetch : Fetcher σ α) (cursor : Cursor α) (s : σ) :
    (∀ results later after, Polls fetch (some cursor) s results later after ↔
      ∃ answers last, Calls fetch cursor s answers last after ∧
        Streamed answers last results later) ∧
    ∀ limit entries after,
      (∃ fuel, collect fetch fuel limit (some cursor) s = some (entries, after)) ↔
        ∃ results later, Polls fetch (some cursor) s results later after ∧
          Takes limit entries results := by
  constructor
  · intro results later after
    constructor
    · exact exists_calls
    · rintro ⟨answers, last, calls, streamed⟩
      exact polls_of_calls calls streamed
  · intro limit entries after
    constructor
    · rintro ⟨fuel, collected⟩
      exact exists_polls_of_collect collected
    · rintro ⟨results, later, polls, takes⟩
      exact exists_collect_of_polls polls takes

/-- The first fetch fails and ends the stream, with a page left that the cursor would fetch. -/
example :
    let page : Page Nat := ⟨[8], []⟩
    let shelf : Shelf Nat := ⟨[.error .cancelled, .ok page], []⟩
    collect Shelf.fetch 2 5 (some .start) shelf =
        some ([.error .cancelled], ⟨[.ok page], [none]⟩) ∧
      nextItem Shelf.fetch 2 .start ⟨[.ok page], [none]⟩ =
        some (.ok (some 8), ⟨[], .exhausted, 1⟩, ⟨[], [none, none]⟩) := ⟨rfl, rfl⟩

end KeyBound.Cursor
