import KeyBound.Text.Blank
import KeyBound.Text.Quoted

/-!
# Scopes

The set of scopes that a token is requested for. A set is kept in ascending order without
repetitions, so that equal sets have equal texts.
-/

set_option autoImplicit false

namespace KeyBound

inductive ScopeDefect where
  | empty
  | blank (scope : String)
  deriving DecidableEq, Repr

def ScopeDefect.message : ScopeDefect → String
  | .empty => "Scope entries cannot be empty."
  | .blank scope => "Scope contains whitespace: " ++ scope ++ "."

/-- A set of scopes in ascending order. -/
structure ScopeSet where
  list : List String
  deriving DecidableEq, Repr

namespace ScopeSet

def insert (scope : String) : List String → List String
  | [] => [scope]
  | first :: rest =>
    if scope = first then first :: rest
    else if scope < first then scope :: first :: rest
    else first :: insert scope rest

/-- Why a text is no scope: it is empty, or holds a blank. -/
def defect? (scope : String) : Option ScopeDefect :=
  if scope.isEmpty then some .empty
  else if scope.toList.any isBlank then some (.blank scope)
  else none

def ofList : List String → Except ScopeDefect ScopeSet
  | [] => .ok ⟨[]⟩
  | scope :: rest =>
    match defect? scope with
    | some defect => .error defect
    | none => (ofList rest).map fun set => ⟨insert scope set.list⟩

def size (set : ScopeSet) : Nat := set.list.length

def isEmpty (set : ScopeSet) : Bool := set.list.isEmpty

/-- Looks for a scope among ascending ones: in the middle, and then in the half where it can be. -/
def search (scope : String) (scopes : List String) : Bool :=
  match upper : scopes.drop (scopes.length / 2) with
  | [] => false
  | middle :: after =>
    if scope = middle then true
    else if scope < middle then search scope (scopes.take (scopes.length / 2))
    else search scope after
termination_by scopes.length
decreasing_by
  all_goals
    have length := congrArg List.length upper
    simp only [List.length_drop, List.length_cons, List.length_take] at length ⊢
    omega

def contains (set : ScopeSet) (scope : String) : Bool := search scope set.list

def joined (set : ScopeSet) : String :=
  String.ofList (Text.join ' ' (set.list.map String.toList))

def debugText (set : ScopeSet) : String :=
  "ScopeSet([" ++ String.intercalate ", " (set.list.map Quoted.display) ++ "])"

end ScopeSet

end KeyBound
