import KeyBound.Client.Config

/-!
# URLs that were read

What every URL has that was read from a text, on its own or against another one: with a special
scheme its path consists of segments. A path from the root takes the place of everything that stands
behind the authority of such a URL.
-/

set_option autoImplicit false

namespace KeyBound.Url

variable {base url : Url} {scheme rest : List Char} {list : List (List Char)} {cut : Parts}
  {reference : String}

/-- A URL that was read, from a text alone or against one that was read before. -/
inductive IsRead : Url → Prop where
  | parsed {text : String} {url : Url} : parse? text = some url → IsRead url
  | joined {base url : Url} {reference : String} :
      IsRead base → base.join? reference = some url → IsRead url

/-- The path of a URL consists of segments, unless the scheme is none of the special ones. -/
def IsHierarchical (url : Url) : Prop :=
  (special? url.scheme).isSome → ∃ list, url.path = .segments list

theorem IsHierarchical.of_segments (path : url.path = .segments list) : url.IsHierarchical :=
  fun _ => ⟨list, path⟩

theorem IsHierarchical.of_plain (plain : special? url.scheme = none) : url.IsHierarchical := by
  intro special
  rw [plain] at special
  cases special

theorem afterSlashes?_isHierarchical (read : afterSlashes? scheme rest cut = some url) :
    url.IsHierarchical := by
  unfold afterSlashes? at read
  simp only [bind] at read
  split at read
  · cases read
  · split at read
    all_goals
      obtain ⟨host, _, read⟩ := Option.bind_eq_some_iff.mp read
      obtain ⟨port, _, read⟩ := Option.bind_eq_some_iff.mp read
      cases read
      exact .of_segments rfl

theorem file?_isHierarchical (read : file? rest cut = some url) : url.IsHierarchical := by
  have made (host : Option Host) (segments : List (List Char)) :
      (fileUrl host segments cut).IsHierarchical := .of_segments rfl
  unfold file? at read
  dsimp only at read
  split at read
  · unfold fileAfterSlashes? at read
    dsimp only at read
    split at read
    · cases read
      exact made _ _
    · split at read
      · cases read
        exact made _ _
      · obtain ⟨host, _, read⟩ := Option.bind_eq_some_iff.mp read
        split at read
        all_goals
          cases read
          exact made _ _
  · cases read
    exact made _ _

theorem plain?_isHierarchical (plain : special? scheme = none)
    (read : plain? scheme rest cut = some url) : url.IsHierarchical := by
  unfold plain? at read
  dsimp only at read
  split at read
  · exact afterSlashes?_isHierarchical read
  · cases read
    exact .of_plain plain
  · cases read
    exact .of_plain plain

theorem relativeTo?_isHierarchical (path : base.path = .segments list)
    (read : relativeTo? base list rest cut = some url) : url.IsHierarchical := by
  unfold relativeTo? at read
  split at read
  · cases read
    exact .of_segments path
  · dsimp only at read
    split at read
    · exact afterSlashes?_isHierarchical read
    · split at read
      all_goals
        cases read
        exact .of_segments rfl

theorem absolute?_isHierarchical {base : Option Url}
    (read : absolute? base scheme rest cut = some url) : url.IsHierarchical := by
  unfold absolute? at read
  split at read
  · rename_i plain
    exact plain?_isHierarchical plain read
  · exact file?_isHierarchical read
  · dsimp only at read
    split at read
    · exact afterSlashes?_isHierarchical read
    · split at read
      · split at read
        · rename_i path
          exact relativeTo?_isHierarchical path read
        · exact afterSlashes?_isHierarchical read
      · exact afterSlashes?_isHierarchical read

/-- What a reference is resolved to is as hierarchical as the URL that it was resolved against. -/
theorem resolve?_isHierarchical {base : Option Url} {text : List Char}
    (above : ∀ url, base = some url → url.IsHierarchical)
    (read : resolve? base text = some url) : url.IsHierarchical := by
  unfold resolve? at read
  dsimp only [bind] at read
  split at read
  · exact absolute?_isHierarchical read
  · obtain ⟨base, present, read⟩ := Option.bind_eq_some_iff.mp read
    split at read
    · rename_i verbatim
      split at read
      · cases read
        intro special
        obtain ⟨list, path⟩ := above base present special
        exact ⟨list, path⟩
      · cases read
    · rename_i path
      exact relativeTo?_isHierarchical path read

theorem IsRead.isHierarchical (read : url.IsRead) : url.IsHierarchical := by
  induction read with
  | parsed read =>
      refine resolve?_isHierarchical ?_ read
      intro _ absent
      cases absent
  | joined _ read ih =>
      refine resolve?_isHierarchical ?_ read
      intro _ same
      cases same
      exact ih

/-! ## The token endpoint -/

/-- The segments of the path of the token endpoint. -/
def tokenSegments : List (List Char) := ["oauth2".toList, "v1".toList, "token".toList]

private theorem walk_tokenPath (special : Option Special) :
    walk special [] (splitPath special "oauth2/v1/token".toList) = tokenSegments := by
  cases special with
  | none => decide
  | some special => cases special <;> decide

private theorem tokenPath_hostless (special : Option Special) :
    startsWithSlashes special "/oauth2/v1/token".toList = false := by
  cases special <;> rfl

/-- The path of the token endpoint takes the place of path, query and fragment of a URL, whatever
these are. -/
theorem join?_tokenPath (path : base.path = .segments list) :
    base.join? ClientConfig.tokenPath =
      some { base with path := .segments tokenSegments, query := none, fragment := none } := by
  have cut : parts (trim ClientConfig.tokenPath.toList) =
      ⟨"/oauth2/v1/token".toList, "/oauth2/v1/token".toList, none, none⟩ := rfl
  have schemeless : splitScheme? "/oauth2/v1/token".toList = none := by decide
  have rooted : isSlash (special? base.scheme) '/' = true := rfl
  have written : "/oauth2/v1/token".toList = '/' :: "oauth2/v1/token".toList := by decide
  have hostless := tokenPath_hostless (special? base.scheme)
  have walked := walk_tokenPath (special? base.scheme)
  unfold join? resolve?
  simp only [cut, schemeless, path, relativeTo?, bind, Option.bind_some]
  rw [written] at hostless ⊢
  simp only [hostless, rooted, walked, if_true]
  rfl

end KeyBound.Url
