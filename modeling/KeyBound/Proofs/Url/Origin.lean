import KeyBound.Client.Config

/-!
# Where references lead

Scheme and host of the URL that a reference is resolved to. A reference leaves the endpoints that a
client may use only if it says so itself: by a scheme of its own, or by a host where the base does
not have a secure channel.
-/

set_option autoImplicit false

namespace KeyBound.Url

variable {base url : Url} {scheme rest : List Char} {list : List (List Char)} {cut : Parts}
  {reference : String}

theorem afterSlashes?_scheme (read : afterSlashes? scheme rest cut = some url) :
    url.scheme = scheme := by
  unfold afterSlashes? at read
  simp only [bind] at read
  split at read
  · cases read
  · split at read
    all_goals
      obtain ⟨host, _, read⟩ := Option.bind_eq_some_iff.mp read
      obtain ⟨port, _, read⟩ := Option.bind_eq_some_iff.mp read
      cases read
      rfl

theorem relativeTo?_scheme (read : relativeTo? base list rest cut = some url) :
    url.scheme = base.scheme := by
  unfold relativeTo? at read
  split at read
  · cases read
    rfl
  · dsimp only at read
    split at read
    · exact afterSlashes?_scheme read
    · split at read
      all_goals
        cases read
        rfl

/-- What is resolved within a scheme keeps the host, unless it starts with two slashes. -/
theorem relativeTo?_host (hostless : startsWithSlashes (special? base.scheme) rest = false)
    (read : relativeTo? base list rest cut = some url) : url.host = base.host := by
  unfold relativeTo? at read
  split at read
  · cases read
    rfl
  · dsimp only at read
    rw [hostless] at read
    split at read
    · contradiction
    · split at read
      all_goals
        cases read
        rfl

theorem absolute?_https {base : Option Url}
    (read : absolute? base "https".toList rest cut = some url) : url.scheme = "https".toList := by
  have secure : special? "https".toList = some .https := rfl
  rw [absolute?, secure] at read
  cases base with
  | none => exact afterSlashes?_scheme read
  | some base =>
      dsimp only at read
      split at read
      · rename_i same
        split at read
        · exact (relativeTo?_scheme read).trans same.1
        · exact afterSlashes?_scheme read
      · exact afterSlashes?_scheme read

def namedScheme? (reference : String) : Option (List Char) :=
  (splitScheme? (parts (trim reference.toList)).head).map (·.1)

/-- Whether a reference without a scheme names a host, if it is resolved against a base. -/
def namesHost (base : Url) (reference : String) : Bool :=
  startsWithSlashes (special? base.scheme) (parts (trim reference.toList)).head

/-- A reference is a path, with a query or a fragment if it likes: it names neither scheme nor
host. -/
structure IsPath (base : Url) (reference : String) : Prop where
  schemeless : namedScheme? reference = none
  hostless : namesHost base reference = false

/-- A reference names a scheme other than the secure one, or a host where the base does not have the
secure scheme. -/
def Strays (base : Url) (reference : String) : Prop :=
  match namedScheme? reference with
  | some scheme => scheme ≠ "https".toList
  | none => base.scheme ≠ "https".toList ∧ namesHost base reference = true

theorem IsPath.not_strays (path : IsPath base reference) : ¬ Strays base reference := by
  rw [Strays, path.schemeless]
  rintro ⟨_, host⟩
  rw [path.hostless] at host
  cases host

/-- A reference that does not stray leads to the secure scheme, or to the scheme and the host of the
base. -/
theorem join?_of_not_strays (kept : ¬ Strays base reference)
    (joined : base.join? reference = some url) :
    url.scheme = "https".toList ∨ url.scheme = base.scheme ∧ url.host = base.host := by
  unfold join? resolve? at joined
  unfold Strays namedScheme? namesHost at kept
  dsimp only [bind] at joined
  generalize parts (trim reference.toList) = cut at kept joined
  cases named : splitScheme? cut.head with
  | some found =>
      obtain ⟨scheme, rest⟩ := found
      rw [named] at kept joined
      obtain rfl : scheme = "https".toList := Decidable.of_not_not kept
      exact .inl (absolute?_https joined)
  | none =>
      rw [named] at kept joined
      dsimp only [Option.map_none, Option.bind_some] at kept joined
      split at joined
      · split at joined
        · cases joined
          exact .inr ⟨rfl, rfl⟩
        · cases joined
      · rename_i list _
        by_cases secure : base.scheme = "https".toList
        · exact .inl ((relativeTo?_scheme joined).trans secure)
        · have hostless : startsWithSlashes (special? base.scheme) cut.head = false :=
            Bool.eq_false_iff.mpr fun host => kept ⟨secure, host⟩
          exact .inr ⟨relativeTo?_scheme joined, relativeTo?_host hostless joined⟩

end KeyBound.Url

namespace KeyBound.ClientConfig

open Url

/-- The token endpoint is named by a path, whatever the endpoint of the organization is. -/
private theorem tokenPath_isPath (base : Url) : IsPath base tokenPath where
  schemeless := rfl
  hostless := by
    unfold namesHost
    cases special? base.scheme <;> rfl

/-- References that do not stray lead from a safe endpoint to safe endpoints. -/
theorem isSafeEndpoint_of_join? {base url : Url} {reference : String}
    (safe : isSafeEndpoint base = true) (kept : ¬ Strays base reference)
    (joined : base.join? reference = some url) : isSafeEndpoint url = true := by
  unfold isSafeEndpoint hasScheme at safe ⊢
  rcases join?_of_not_strays kept joined with secure | ⟨scheme, host⟩
  · simp [secure]
  · rwa [scheme, host]

/-- A configuration that was built has the URL that was supplied, which is a safe endpoint, and the
token endpoint that its path leads to from there. -/
theorem build_joins {setup : ClientSetup} {config : ClientConfig}
    (built : build setup = .ok config) :
    setup.orgUrl = some config.orgUrl ∧ isSafeEndpoint config.orgUrl = true ∧
      config.orgUrl.join? tokenPath = some config.tokenEndpoint := by
  unfold build at built
  split at built
  · cases built
  · rename_i orgUrl supplied
    split at built
    · cases built
    · rename_i notUnsafe
      have safe : isSafeEndpoint orgUrl = true := by simpa using notUnsafe
      split at built
      · cases built
      · split at built
        · cases built
        · split at built
          · cases built
          · split at built
            · cases built
            · rename_i tokenEndpoint joined
              cases built
              exact ⟨supplied, safe, joined⟩

/-- A configuration is built for a safe endpoint only, and its token endpoint is one as well. -/
theorem build_safe {setup : ClientSetup} {config : ClientConfig}
    (built : build setup = .ok config) :
    isSafeEndpoint config.orgUrl = true ∧ isSafeEndpoint config.tokenEndpoint = true := by
  obtain ⟨_, safe, joined⟩ := build_joins built
  exact ⟨safe, isSafeEndpoint_of_join? safe (tokenPath_isPath _).not_strays joined⟩

end KeyBound.ClientConfig
