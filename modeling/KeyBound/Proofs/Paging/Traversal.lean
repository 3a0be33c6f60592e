import KeyBound.Paging.Cursor
import Mathlib.Data.List.Infix

/-!
# Traversals

What the calls of a cursor fetch and hand out, whatever the fetcher does. A traversal is followed
through its history: calls lead from one traversal to the next by one of six rules, and what always
holds is read off the rules.
-/

set_option autoImplicit false

namespace KeyBound

variable {σ α : Type}

inductive Occurrence (α : Type) where
  | fetched (target : Option String) (outcome : Except Error (Page α))
  | answered (result : Except Error (Option α))

namespace Occurrence

def pages (history : List (Occurrence α)) : List (Page α) :=
  history.filterMap fun
    | .fetched _ (.ok page) => some page
    | _ => none

def handedOut (history : List (Occurrence α)) : List α :=
  history.filterMap fun
    | .answered (.ok item) => item
    | _ => none

@[simp] theorem pages_append (before after : List (Occurrence α)) :
    pages (before ++ after) = pages before ++ pages after := List.filterMap_append

@[simp] theorem pages_nil : pages ([] : List (Occurrence α)) = [] := rfl

@[simp] theorem pages_fetched_ok (target : Option String) (page : Page α)
    (rest : List (Occurrence α)) :
    pages (.fetched target (.ok page) :: rest) = page :: pages rest := rfl

@[simp] theorem pages_fetched_error (target : Option String) (error : Error)
    (rest : List (Occurrence α)) :
    pages (.fetched target (.error error) :: rest) = pages rest := rfl

@[simp] theorem pages_answered (result : Except Error (Option α)) (rest : List (Occurrence α)) :
    pages (.answered result :: rest) = pages rest := rfl

@[simp] theorem handedOut_append (before after : List (Occurrence α)) :
    handedOut (before ++ after) = handedOut before ++ handedOut after := List.filterMap_append

@[simp] theorem handedOut_nil : handedOut ([] : List (Occurrence α)) = [] := rfl

@[simp] theorem handedOut_fetched (target : Option String) (outcome : Except Error (Page α))
    (rest : List (Occurrence α)) :
    handedOut (.fetched target outcome :: rest) = handedOut rest := rfl

@[simp] theorem handedOut_item (item : α) (rest : List (Occurrence α)) :
    handedOut (.answered (.ok (some item)) :: rest) = item :: handedOut rest := rfl

@[simp] theorem handedOut_end (rest : List (Occurrence α)) :
    handedOut (.answered (.ok none) :: rest) = handedOut rest := rfl

@[simp] theorem handedOut_error (error : Error) (rest : List (Occurrence α)) :
    handedOut (.answered (.error error) :: rest) = handedOut rest := rfl

end Occurrence

open Occurrence

/-! ## Calls with their history -/

structure Traversal (σ α : Type) where
  cursor : Cursor α
  fetcher : σ
  history : List (Occurrence α)

namespace Traversal

def start (fetcher : σ) : Traversal σ α := ⟨.start, fetcher, []⟩

/-- What a fetch comes to: its page is buffered, or the call ends with its error. -/
def settle (target : Option String) (waiting : Cursor α) (history : List (Occurrence α)) :
    Except Error (Page α) × σ → Option (Except Error (Option α)) × Traversal σ α
  | (.ok page, s) =>
    (none, ⟨waiting.receive page, s, history ++ [.fetched target (.ok page)]⟩)
  | (.error error, s) =>
    (some (.error error), ⟨waiting.restore target, s,
      history ++ [.fetched target (.error error), .answered (.error error)]⟩)

/-- One turn of a cursor, after which the call ends or goes on. -/
def turn (fetch : Fetcher σ α) (t : Traversal σ α) :
    Option (Except Error (Option α)) × Traversal σ α :=
  match t.cursor.turn with
  | .item value cursor =>
    (some (.ok (some value)),
      ⟨cursor, t.fetcher, t.history ++ [.answered (.ok (some value))]⟩)
  | .finished cursor =>
    (some (.ok none), ⟨cursor, t.fetcher, t.history ++ [.answered (.ok none)]⟩)
  | .failed error cursor =>
    (some (.error error), ⟨cursor, t.fetcher, t.history ++ [.answered (.error error)]⟩)
  | .fetch target waiting => settle target waiting t.history (fetch t.fetcher target)

/-- One call, which is turns until it ends. A call that has spent its fuel is still on its way;
another one takes it up where it is. -/
def call (fetch : Fetcher σ α) :
    (fuel : Nat) → Traversal σ α → Option (Except Error (Option α)) × Traversal σ α
  | 0, t => (none, t)
  | fuel + 1, t =>
    match t.turn fetch with
    | (none, t) => call fetch fuel t
    | (some result, t) => (some result, t)

/-- A call ends with its first turn, or the rest of it goes on from there. -/
theorem call_cases (fetch : Fetcher σ α) (fuel : Nat) (t : Traversal σ α) :
    (∃ answer later, t.turn fetch = (some answer, later) ∧
      t.call fetch (fuel + 1) = (some answer, later)) ∨
    ∃ later, t.turn fetch = (none, later) ∧
      t.call fetch (fuel + 1) = later.call fetch fuel := by
  rw [call]
  cases t.turn fetch with
  | mk answer later =>
      cases answer with
      | some answer => exact .inl ⟨answer, later, rfl, rfl⟩
      | none => exact .inr ⟨later, rfl, rfl⟩

def calls (fetch : Fetcher σ α) (t : Traversal σ α) (fuels : List Nat) : Traversal σ α :=
  fuels.foldl (fun t fuel => (t.call fetch fuel).2) t

/-- A call is what the cursor makes of it; its history changes nothing. -/
theorem nextItem_eq_call (fetch : Fetcher σ α) (fuel : Nat) (t : Traversal σ α) :
    Cursor.nextItem fetch fuel t.cursor t.fetcher =
      (t.call fetch fuel).1.map fun result =>
        (result, (t.call fetch fuel).2.cursor, (t.call fetch fuel).2.fetcher) := by
  induction fuel generalizing t with
  | zero => rfl
  | succ fuel ih =>
      rw [Cursor.nextItem, call, turn]
      cases t.cursor.turn with
      | item value cursor => rfl
      | finished cursor => rfl
      | failed error cursor => rfl
      | fetch target waiting =>
          dsimp only
          cases fetch t.fetcher target with
          | mk outcome s =>
              cases outcome with
              | ok page => exact ih ⟨waiting.receive page, s, _⟩
              | error error => rfl

/-- Some history goes on with fetches, and then with the answer of a call if it has one. -/
def GoesOn (earlier later : List (Occurrence α)) (answer : Option (Except Error (Option α))) :
    Prop :=
  ∃ fetches : List (Option String × Except Error (Page α)),
    later = earlier ++ fetches.map (fun made => .fetched made.1 made.2) ++
      (answer.map .answered).toList

theorem turn_goesOn (fetch : Fetcher σ α) (t : Traversal σ α) :
    GoesOn t.history (t.turn fetch).2.history (t.turn fetch).1 := by
  rw [turn]
  cases t.cursor.turn with
  | item value cursor => exact ⟨[], by simp⟩
  | finished cursor => exact ⟨[], by simp⟩
  | failed error cursor => exact ⟨[], by simp⟩
  | fetch target waiting =>
      dsimp only
      cases fetch t.fetcher target with
      | mk outcome s =>
          refine ⟨[(target, outcome)], ?_⟩
          cases outcome <;> simp [settle]

/-- A call fetches some pages and then ends, unless it is still on its way. -/
theorem call_goesOn (fetch : Fetcher σ α) (fuel : Nat) (t : Traversal σ α) :
    GoesOn t.history (t.call fetch fuel).2.history (t.call fetch fuel).1 := by
  induction fuel generalizing t with
  | zero => exact ⟨[], by simp [call]⟩
  | succ fuel ih =>
      obtain ⟨first, turned⟩ := turn_goesOn fetch t
      rcases call_cases fetch fuel t with ⟨answer, later, turn, called⟩ | ⟨later, turn, called⟩
      · rw [turn] at turned
        rw [called]
        exact ⟨first, turned⟩
      · rw [turn] at turned
        rw [called]
        obtain ⟨rest, whole⟩ := ih later
        refine ⟨first ++ rest, ?_⟩
        rw [whole, turned]
        simp

end Traversal

/-! ## Reachable traversals -/

namespace Cursor

def pointer : Option String → NextPage
  | none => .unfetched
  | some url => .url url

theorem pointer_injective {first second : Option String} (same : pointer first = pointer second) :
    first = second := by
  cases first <;> cases second <;> cases same <;> rfl

/-- A cursor is about to fetch a page exactly if nothing is buffered and it points to that page. -/
theorem turn_eq_fetch_iff {cursor waiting : Cursor α} {target : Option String} :
    cursor.turn = .fetch target waiting ↔
      cursor.buffered = [] ∧ cursor.next = pointer target ∧
        waiting = { cursor with next := .exhausted } := by
  obtain ⟨buffered, next, fetched⟩ := cursor
  cases buffered with
  | cons value rest => simp [turn]
  | nil =>
      cases next <;> cases target <;> simp [turn, pointer, eq_comm]

theorem restore_waiting (target : Option String) (fetched : Nat) :
    restore (⟨[], .exhausted, fetched⟩ : Cursor α) target = ⟨[], pointer target, fetched⟩ := by
  cases target <;> rfl

end Cursor

open Cursor

namespace Traversal

/-- The traversals that calls lead to. A page is fetched when nothing is buffered, and the pointer
to a page outlasts the failures to fetch it. -/
inductive Reached (fetch : Fetcher σ α) (first : σ) : Traversal σ α → Prop where
  | start : Reached fetch first (start first)
  | item {value : α} {rest : List α} {next : NextPage} {fetched : Nat} {s : σ}
      {history : List (Occurrence α)} :
      Reached fetch first ⟨⟨value :: rest, next, fetched⟩, s, history⟩ →
      Reached fetch first
        ⟨⟨rest, next, fetched⟩, s, history ++ [.answered (.ok (some value))]⟩
  | finished {fetched : Nat} {s : σ} {history : List (Occurrence α)} :
      Reached fetch first ⟨⟨[], .exhausted, fetched⟩, s, history⟩ →
      Reached fetch first ⟨⟨[], .exhausted, fetched⟩, s, history ++ [.answered (.ok none)]⟩
  | failed {defect : LinkDefect} {fetched : Nat} {s : σ} {history : List (Occurrence α)} :
      Reached fetch first ⟨⟨[], .invalid defect, fetched⟩, s, history⟩ →
      Reached fetch first
        ⟨⟨[], .exhausted, fetched⟩, s, history ++ [.answered (.error (.pagination defect))]⟩
  | received {target : Option String} {page : Page α} {fetched : Nat} {s later : σ}
      {history : List (Occurrence α)} :
      Reached fetch first ⟨⟨[], pointer target, fetched⟩, s, history⟩ →
      fetch s target = (.ok page, later) →
      Reached fetch first
        ⟨⟨page.items, nextOf page.headers, fetched + 1⟩, later,
          history ++ [.fetched target (.ok page)]⟩
  | refused {target : Option String} {error : Error} {fetched : Nat} {s later : σ}
      {history : List (Occurrence α)} :
      Reached fetch first ⟨⟨[], pointer target, fetched⟩, s, history⟩ →
      fetch s target = (.error error, later) →
      Reached fetch first
        ⟨⟨[], pointer target, fetched⟩, later,
          history ++ [.fetched target (.error error), .answered (.error error)]⟩

variable {fetch : Fetcher σ α} {first : σ} {t : Traversal σ α}

private theorem settle_reached {target : Option String} {fetched : Nat} {s : σ}
    {history : List (Occurrence α)}
    (reached : Reached fetch first ⟨⟨[], pointer target, fetched⟩, s, history⟩) :
    Reached fetch first (settle target ⟨[], .exhausted, fetched⟩ history (fetch s target)).2 := by
  cases reply : fetch s target with
  | mk outcome later =>
      cases outcome with
      | ok page => exact .received reached reply
      | error error =>
          have refused := Reached.refused reached reply
          rw [← restore_waiting] at refused
          exact refused

/-- A turn follows the rules. -/
theorem turn_reached (reached : Reached fetch first t) : Reached fetch first (t.turn fetch).2 := by
  obtain ⟨⟨buffered, next, fetched⟩, s, history⟩ := t
  cases buffered with
  | cons value rest => exact .item reached
  | nil =>
      cases next with
      | unfetched =>
          have pointed : Reached fetch first ⟨⟨[], pointer none, fetched⟩, s, history⟩ := reached
          exact settle_reached pointed
      | url target =>
          have pointed :
              Reached fetch first ⟨⟨[], pointer (some target), fetched⟩, s, history⟩ := reached
          exact settle_reached pointed
      | invalid defect => exact .failed reached
      | exhausted => exact .finished reached

theorem call_reached (fuel : Nat) (reached : Reached fetch first t) :
    Reached fetch first (t.call fetch fuel).2 := by
  induction fuel generalizing t with
  | zero => exact reached
  | succ fuel ih =>
      have turned := turn_reached reached
      rcases call_cases fetch fuel t with ⟨answer, later, turn, called⟩ | ⟨later, turn, called⟩
      · rw [turn] at turned
        rw [called]
        exact turned
      · rw [turn] at turned
        rw [called]
        exact ih turned

theorem calls_reached (fuels : List Nat) (reached : Reached fetch first t) :
    Reached fetch first (t.calls fetch fuels) := by
  induction fuels generalizing t with
  | nil => exact reached
  | cons fuel fuels ih => exact ih (call_reached fuel reached)

end Traversal

/-! ## What always holds -/

/-- What a fetch after some pages asks for: the first page, or the one that the last of them
names. -/
inductive Due : List (Page α) → Option String → Prop where
  | first : Due [] none
  | next {before : List (Page α)} {page : Page α} {link : List Char} :
      Link.next? page.headers = .ok (some link) →
      Due (before ++ [page]) (some (String.ofList link))

namespace Traversal.Reached

variable {fetch : Fetcher σ α} {first : σ} {t : Traversal σ α}

/-- Nothing is lost, repeated or put into another order. -/
theorem handedOut_append_buffered (reached : Reached fetch first t) :
    handedOut t.history ++ t.cursor.buffered = (pages t.history).flatMap Page.items := by
  induction reached with
  | start => rfl
  | item _ ih => simpa using ih
  | finished _ ih => simpa using ih
  | failed _ ih => simpa using ih
  | received _ _ ih =>
      rw [List.append_nil] at ih
      simp [ih]
  | refused _ _ ih => simpa using ih

theorem pagesFetched_eq (reached : Reached fetch first t) :
    t.cursor.pagesFetched = (pages t.history).length := by
  induction reached with
  | start => rfl
  | item _ ih => simpa using ih
  | finished _ ih => simpa using ih
  | failed _ ih => simpa using ih
  | received _ _ ih => simpa using ih
  | refused _ _ ih => simpa using ih

private theorem due_of_nextOf {before : List (Page α)} {page : Page α} {target : Option String}
    (points : nextOf page.headers = pointer target) : Due (before ++ [page]) target := by
  unfold nextOf at points
  cases link : Link.next? page.headers with
  | error defect =>
      rw [link] at points
      cases target <;> cases points
  | ok found =>
      rw [link] at points
      cases found with
      | none => cases target <;> cases points
      | some found =>
          cases target with
          | none => cases points
          | some url =>
              cases points
              exact .next link

theorem due (reached : Reached fetch first t) {target : Option String}
    (points : t.cursor.next = pointer target) : Due (pages t.history) target := by
  induction reached with
  | start =>
      cases target with
      | none => exact .first
      | some url => cases points
  | item _ ih => simpa using ih points
  | finished _ ih => simpa using ih points
  | failed => cases target <;> cases points
  | received => simpa using due_of_nextOf points
  | refused _ _ ih => simpa using ih points

/-- A place in a history stands in its earlier part or in what was added to it. -/
theorem split_append {β : Type} {earlier added before after : List β} {x : β}
    (split : earlier ++ added = before ++ x :: after) :
    (∃ rest, after = rest ++ added ∧ earlier = before ++ x :: rest) ∨
      ∃ middle, before = earlier ++ middle ∧ added = middle ++ x :: after := by
  rcases List.append_eq_append_iff.mp split with ⟨middle, front, last⟩ | ⟨rest, front, last⟩
  · exact .inr ⟨middle, front, last⟩
  · cases rest with
    | nil => exact .inr ⟨[], by simpa using front.symm, by simpa using last.symm⟩
    | cons y rest =>
        cases last
        exact .inl ⟨rest, rfl, front⟩

/-- When a page was fetched, nothing was buffered and the cursor pointed to that page. -/
theorem at_fetch (reached : Reached fetch first t) {before after : List (Occurrence α)}
    {target : Option String} {outcome : Except Error (Page α)}
    (split : t.history = before ++ .fetched target outcome :: after) :
    ∃ fetched s, Reached fetch first ⟨⟨[], pointer target, fetched⟩, s, before⟩ := by
  induction reached generalizing after with
  | start => simp [Traversal.start] at split
  | item _ ih | finished _ ih | failed _ ih =>
      rcases split_append split with ⟨rest, rfl, inside⟩ | ⟨middle, _, added⟩
      · exact ih inside
      · simp [List.singleton_eq_append_iff] at added
  | received earlier _ ih | refused earlier _ ih =>
      rcases split_append split with ⟨rest, rfl, inside⟩ | ⟨middle, rfl, added⟩
      · exact ih inside
      · cases middle with
        | nil =>
            cases added
            exact ⟨_, _, by simpa using earlier⟩
        | cons top middle => simp [List.singleton_eq_append_iff] at added

/-- After a failure to fetch a page the call ends, and whatever comes next is that the same page is
fetched again. -/
theorem after_failure (reached : Reached fetch first t) {before after : List (Occurrence α)}
    {target : Option String} {error : Error}
    (split : t.history = before ++ .fetched target (.error error) :: after) :
    ∃ later, after = .answered (.error error) :: later ∧
      (later = [] ∧ t.cursor.buffered = [] ∧ t.cursor.next = pointer target ∨
        ∃ outcome rest, later = .fetched target outcome :: rest) := by
  induction reached generalizing after with
  | start => simp [Traversal.start] at split
  | item _ ih =>
      rcases split_append split with ⟨rest, rfl, inside⟩ | ⟨middle, _, added⟩
      · obtain ⟨later, rfl, ⟨_, buffered, _⟩ | ⟨outcome, rest, rfl⟩⟩ := ih inside
        · cases buffered
        · exact ⟨_, rfl, .inr ⟨outcome, _, rfl⟩⟩
      · simp [List.singleton_eq_append_iff] at added
  | finished _ ih | failed _ ih =>
      rcases split_append split with ⟨rest, rfl, inside⟩ | ⟨middle, _, added⟩
      · obtain ⟨later, rfl, ⟨_, _, points⟩ | ⟨outcome, rest, rfl⟩⟩ := ih inside
        · cases target <;> cases points
        · exact ⟨_, rfl, .inr ⟨outcome, _, rfl⟩⟩
      · simp [List.singleton_eq_append_iff] at added
  | received _ _ ih =>
      rcases split_append split with ⟨rest, rfl, inside⟩ | ⟨middle, _, added⟩
      · obtain ⟨later, rfl, ⟨rfl, _, points⟩ | ⟨outcome, rest, rfl⟩⟩ := ih inside
        · obtain rfl := pointer_injective points
          exact ⟨_, rfl, .inr ⟨_, _, rfl⟩⟩
        · exact ⟨_, rfl, .inr ⟨outcome, _, rfl⟩⟩
      · simp [List.cons_eq_append_iff] at added
  | refused _ _ ih =>
      rcases split_append split with ⟨rest, rfl, inside⟩ | ⟨middle, rfl, added⟩
      · obtain ⟨later, rfl, ⟨rfl, _, points⟩ | ⟨outcome, rest, rfl⟩⟩ := ih inside
        · obtain rfl := pointer_injective points
          exact ⟨_, rfl, .inr ⟨_, _, rfl⟩⟩
        · exact ⟨_, rfl, .inr ⟨outcome, _, rfl⟩⟩
      · cases middle with
        | nil =>
            cases added
            exact ⟨[], rfl, .inl ⟨rfl, rfl, rfl⟩⟩
        | cons top middle => simp [List.singleton_eq_append_iff] at added

end Traversal.Reached

/-- Whatever the fetcher does, after any calls, the last of which may still be on its way: a call
fetches pages and then returns an answer; the items that were returned and those that are buffered
are the items of the pages that were fetched, in order; pages are counted; a page is fetched when
nothing is buffered, and it is the one that is due; and a failure to fetch it ends the call, after
which it is fetched again before anything else happens. -/
theorem Traversal.calls_spec (fetch : Fetcher σ α) (fetcher : σ) (fuels : List Nat) :
    let t := (Traversal.start fetcher).calls fetch fuels
    (∀ fuel, Cursor.nextItem fetch fuel t.cursor t.fetcher =
      (t.call fetch fuel).1.map fun result =>
        (result, (t.call fetch fuel).2.cursor, (t.call fetch fuel).2.fetcher)) ∧
    (∀ fuel, GoesOn t.history (t.call fetch fuel).2.history (t.call fetch fuel).1) ∧
    handedOut t.history ++ t.cursor.buffered = (pages t.history).flatMap Page.items ∧
    t.cursor.pagesFetched = (pages t.history).length ∧
    (∀ target waiting, t.cursor.turn = .fetch target waiting → t.cursor.buffered = []) ∧
    (∀ before target outcome after, t.history = before ++ .fetched target outcome :: after →
      handedOut before = (pages before).flatMap Page.items ∧ Due (pages before) target) ∧
    (∀ before target error after,
      t.history = before ++ .fetched target (.error error) :: after →
      ∃ later, after = .answered (.error error) :: later ∧
        (later = [] ∧ (∃ waiting, t.cursor.turn = .fetch target waiting) ∨
          ∃ outcome rest, later = .fetched target outcome :: rest)) := by
  intro t
  have reached : Reached fetch fetcher t := calls_reached fuels .start
  refine ⟨fun fuel => nextItem_eq_call fetch fuel t, fun fuel => call_goesOn fetch fuel t,
    reached.handedOut_append_buffered, reached.pagesFetched_eq, ?_, ?_, ?_⟩
  · intro target waiting fetching
    exact (turn_eq_fetch_iff.mp fetching).1
  · intro before target outcome after split
    obtain ⟨_, _, earlier⟩ := reached.at_fetch split
    have handed := earlier.handedOut_append_buffered
    rw [List.append_nil] at handed
    exact ⟨handed, earlier.due rfl⟩
  · intro before target error after split
    obtain ⟨later, rfl, ⟨rfl, buffered, points⟩ | again⟩ := reached.after_failure split
    · exact ⟨[], rfl, .inl ⟨rfl, _, turn_eq_fetch_iff.mpr ⟨buffered, points, rfl⟩⟩⟩
    · exact ⟨later, rfl, .inr again⟩

end KeyBound
