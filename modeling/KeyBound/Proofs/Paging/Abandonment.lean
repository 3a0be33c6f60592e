import KeyBound.Proofs.Paging.Ending

/-!
# Calls that are dropped

A call waits only while it fetches a page, with the pointer to that page taken out of the cursor. A
call that is dropped there takes the pointer with it: nothing else ever puts one back, so the cursor
is at its end from then on, whatever pages are left.
-/

set_option autoImplicit false

namespace KeyBound

variable {σ α : Type}

open Occurrence Cursor

/-- A call that waits for a page: what it asked for, its cursor meanwhile, and what happened
before. -/
structure Fetching (σ α : Type) where
  target : Option String
  cursor : Cursor α
  fetcher : σ
  history : List (Occurrence α)

namespace Fetching

def complete (fetch : Fetcher σ α) (fetching : Fetching σ α) :
    Option (Except Error (Option α)) × Traversal σ α :=
  Traversal.settle fetching.target fetching.cursor fetching.history
    (fetch fetching.fetcher fetching.target)

/-- The call is dropped; the fetcher may have got anywhere with its page. -/
def drop (fetching : Fetching σ α) (left : σ) : Traversal σ α :=
  ⟨fetching.cursor, left, fetching.history⟩

end Fetching

/-- What is done with the calls of a cursor: one goes on for some turns, or is dropped while it
waits. -/
inductive Handling (σ : Type) where
  | call (fuel : Nat)
  | drop (left : σ)

namespace Handling

/-- The turns of the calls, without those that are dropped. -/
def fuels (handlings : List (Handling σ)) : List Nat :=
  handlings.filterMap fun
    | .call fuel => some fuel
    | .drop _ => none

def calls (handlings : List (Handling σ)) : Nat := (fuels handlings).countP (0 < ·)

end Handling

namespace Traversal

/-- The fetch that the next turn starts, if it starts one. -/
def fetching? (t : Traversal σ α) : Option (Fetching σ α) :=
  match t.cursor.turn with
  | .fetch target waiting => some ⟨target, waiting, t.fetcher, t.history⟩
  | _ => none

/-- A drop finds a call that waits, or changes nothing. -/
def handle (fetch : Fetcher σ α) (t : Traversal σ α) : Handling σ → Traversal σ α
  | .call fuel => (t.call fetch fuel).2
  | .drop left =>
    match t.fetching? with
    | some fetching => fetching.drop left
    | none => t

def handleAll (fetch : Fetcher σ α) (t : Traversal σ α) (handlings : List (Handling σ)) :
    Traversal σ α :=
  handlings.foldl (handle fetch) t

/-- Every drop finds no call that waits. -/
def DropsNoFetch (fetch : Fetcher σ α) (t : Traversal σ α) (handlings : List (Handling σ)) :
    Prop :=
  ∀ before left after, handlings = before ++ .drop left :: after →
    (t.handleAll fetch before).fetching? = none

variable {fetch : Fetcher σ α} {first : σ} {t : Traversal σ α} {fetching : Fetching σ α}

theorem fetching?_eq_some_iff :
    t.fetching? = some fetching ↔
      t.cursor.turn = .fetch fetching.target fetching.cursor ∧
        fetching.fetcher = t.fetcher ∧ fetching.history = t.history := by
  obtain ⟨target, waiting, s, history⟩ := fetching
  unfold fetching?
  cases t.cursor.turn <;> simp [eq_comm, and_assoc]

/-- A turn that starts a fetch goes on to its end. -/
theorem turn_of_fetching (fetch : Fetcher σ α) (waits : t.fetching? = some fetching) :
    t.turn fetch = fetching.complete fetch := by
  obtain ⟨fetches, sameFetcher, sameHistory⟩ := fetching?_eq_some_iff.mp waits
  rw [turn, fetches, Fetching.complete, sameFetcher, sameHistory]

/-- A cursor that is at its end starts no fetch. -/
theorem fetching?_of_isExhausted (ended : t.cursor.isExhausted = true) : t.fetching? = none := by
  obtain ⟨⟨buffered, next, fetched⟩, s, history⟩ := t
  obtain ⟨rfl, rfl⟩ := Cursor.isExhausted_iff.mp ended
  rfl

/-- A dropped fetch leaves a cursor that is at its end. -/
theorem isExhausted_drop (waits : t.fetching? = some fetching) (left : σ) :
    (fetching.drop left).cursor.isExhausted = true := by
  obtain ⟨fetches, -, -⟩ := fetching?_eq_some_iff.mp waits
  obtain ⟨buffered, -, waiting⟩ := turn_eq_fetch_iff.mp fetches
  rw [Fetching.drop, waiting]
  exact Cursor.isExhausted_iff.mpr ⟨buffered, rfl⟩

theorem handleAll_append (fetch : Fetcher σ α) (t : Traversal σ α)
    (before after : List (Handling σ)) :
    t.handleAll fetch (before ++ after) = (t.handleAll fetch before).handleAll fetch after :=
  List.foldl_append

/-- At the end drops change nothing, and calls return that it is there. -/
theorem handleAll_of_isExhausted (ended : t.cursor.isExhausted = true)
    (handlings : List (Handling σ)) :
    t.handleAll fetch handlings =
      { t with
        history := t.history ++
          List.replicate (Handling.calls handlings) (.answered (.ok none)) } := by
  suffices same : t.handleAll fetch handlings = t.calls fetch (Handling.fuels handlings) by
    rw [same]
    exact calls_of_isExhausted ended (Handling.fuels handlings)
  induction handlings generalizing t with
  | nil => rfl
  | cons handling rest ih =>
      cases handling with
      | drop left =>
          have still : t.handle fetch (.drop left) = t := by
            rw [handle, fetching?_of_isExhausted ended]
          rw [handleAll, List.foldl_cons, still]
          exact ih ended
      | call fuel =>
          have called : t.calls fetch [fuel] = _ := calls_of_isExhausted ended [fuel]
          have stays : (t.call fetch fuel).2.cursor.isExhausted = true := by
            rw [show (t.call fetch fuel).2 = t.calls fetch [fuel] from rfl, called]
            exact ended
          exact ih stays

/-- Drops that find no call that waits change nothing. -/
theorem handleAll_of_dropsNoFetch {handlings : List (Handling σ)}
    (spares : t.DropsNoFetch fetch handlings) :
    t.handleAll fetch handlings = t.calls fetch (Handling.fuels handlings) := by
  induction handlings generalizing t with
  | nil => rfl
  | cons handling rest ih =>
      have later : (t.handle fetch handling).DropsNoFetch fetch rest := by
        intro before left after split
        exact spares (handling :: before) left after (by rw [split, List.cons_append])
      cases handling with
      | call fuel => exact ih later
      | drop left =>
          have idle : t.fetching? = none := spares [] left rest rfl
          have still : t.handle fetch (.drop left) = t := by rw [handle, idle]
          rw [still] at later
          rw [handleAll, List.foldl_cons, still]
          exact ih later

/-- Before a fetch is dropped none was. -/
theorem dropsNoFetch_of_fetching {handlings : List (Handling σ)}
    (waits : (t.handleAll fetch handlings).fetching? = some fetching) :
    t.DropsNoFetch fetch handlings := by
  rintro before left after rfl
  rw [Option.eq_none_iff_forall_ne_some]
  intro earlier dropped
  have ended := isExhausted_drop dropped left
  rw [handleAll_append, handleAll, List.foldl_cons, handle, dropped, ← handleAll,
    handleAll_of_isExhausted ended] at waits
  cases waits.symm.trans (fetching?_of_isExhausted ended)

/-- A turn that starts a fetch and ends it, with whatever comes back, is one turn of a call; a drop
that finds no call that waits changes nothing. But from the first fetch that is dropped on,
the cursor of a traversal is at its end: the page that was due is not asked for again, and calls
return nothing but the end, whatever the fetcher does and has left. -/
theorem handleAll_drop (fetch : Fetcher σ α) (fetcher : σ) (handlings : List (Handling σ)) :
    (∀ t fetching, Traversal.fetching? t = some fetching →
      t.turn fetch = fetching.complete fetch) ∧
    ((start fetcher).DropsNoFetch fetch handlings →
      (start fetcher).handleAll fetch handlings =
        (start fetcher).calls fetch (Handling.fuels handlings)) ∧
    ∀ before left after fetching, handlings = before ++ .drop left :: after →
      ((start fetcher).handleAll fetch before).fetching? = some fetching →
      handedOut fetching.history = (pages fetching.history).flatMap Page.items ∧
      Due (pages fetching.history) fetching.target ∧
      fetching.cursor.isExhausted = true ∧
      (start fetcher).handleAll fetch handlings =
        ⟨fetching.cursor, left, fetching.history ++
          List.replicate (Handling.calls after) (.answered (.ok none))⟩ := by
  refine ⟨fun t fetching waits => turn_of_fetching fetch waits, handleAll_of_dropsNoFetch, ?_⟩
  rintro before left after fetching rfl waits
  have ended := isExhausted_drop waits left
  have plain := handleAll_of_dropsNoFetch (dropsNoFetch_of_fetching waits)
  have reached : Reached fetch fetcher ((start fetcher).handleAll fetch before) := by
    rw [plain]
    exact calls_reached _ .start
  obtain ⟨fetches, -, sameHistory⟩ := fetching?_eq_some_iff.mp waits
  obtain ⟨buffered, points, -⟩ := turn_eq_fetch_iff.mp fetches
  have handed := reached.handedOut_append_buffered
  rw [buffered, List.append_nil] at handed
  rw [sameHistory]
  refine ⟨handed, reached.due points, ended, ?_⟩
  rw [handleAll_append, handleAll, List.foldl_cons, handle, waits, ← sameHistory]
  exact handleAll_of_isExhausted ended after

/-- The only page of a collection is lost with the call that was dropped while it fetched it, though
it is still there; a drop after the call has ended loses nothing. -/
theorem handleAll_drop_single :
    let page : Page Nat := ⟨[7], []⟩
    let shelf : Shelf Nat := ⟨[.ok page], []⟩
    let waiting : Cursor Nat := ⟨[], .exhausted, 0⟩
    (start (α := Nat) shelf).fetching? = some ⟨none, waiting, shelf, []⟩ ∧
    (start shelf).handleAll Shelf.fetch [.drop shelf, .call 2, .call 2] =
      ⟨waiting, shelf, [.answered (.ok none), .answered (.ok none)]⟩ ∧
    ((start shelf).handleAll Shelf.fetch [.call 2, .drop shelf, .call 2]).history =
      [.fetched none (.ok page), .answered (.ok (some 7)), .answered (.ok none)] := by
  intro page shelf waiting
  obtain ⟨-, -, lost⟩ := handleAll_drop Shelf.fetch shelf [.drop shelf, .call 2, .call 2]
  obtain ⟨-, -, -, whole⟩ := lost [] shelf [.call 2, .call 2] ⟨none, waiting, shelf, []⟩ rfl rfl
  exact ⟨rfl, whole, rfl⟩

end Traversal

end KeyBound
