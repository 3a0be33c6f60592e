import KeyBound.Crypto.Sample
import KeyBound.Proofs.Client.Frame
import KeyBound.Proofs.Url.Origin
import KeyBound.Proofs.Url.Parsed

/-!
# Configurations that are built

Which setups are a configuration, why others are none, and where the token endpoint of a
configuration is. The rule for the endpoint of the organization then holds for the token endpoint
too, and so for everything that a client sends on its own account.
-/

set_option autoImplicit false

namespace KeyBound

/-! ## The rule for endpoints -/

/-- An endpoint is reached over a secure channel, or without one on the machine itself. -/
inductive Url.IsSafe (url : Url) : Prop where
  | secure : url.scheme = "https".toList → IsSafe url
  | localhost {name : List Char} :
      url.scheme = "http".toList → url.host = some (.domain name) →
      name.map Char.toLower = "localhost".toList → IsSafe url
  | ipv4 {address : Nat} :
      url.scheme = "http".toList → url.host = some (.ipv4 address) →
      127 * Nat.pow 2 24 ≤ address → address < 128 * Nat.pow 2 24 → IsSafe url
  | ipv6 :
      url.scheme = "http".toList → url.host = some (.ipv6 [0, 0, 0, 0, 0, 0, 0, 1]) → IsSafe url

theorem Host.isLoopback_ipv4_iff {address : Nat} :
    (Host.ipv4 address).isLoopback = true ↔
      127 * Nat.pow 2 24 ≤ address ∧ address < 128 * Nat.pow 2 24 := by
  have whole : Nat.pow 2 24 = 16777216 := rfl
  simp only [isLoopback, beq_iff_eq, whole]
  omega

theorem Url.isSafe_iff {url : Url} :
    url.IsSafe ↔ ClientConfig.isSafeEndpoint url = true := by
  unfold ClientConfig.isSafeEndpoint hasScheme
  constructor
  · intro safe
    cases safe with
    | secure scheme => simp [scheme]
    | localhost scheme host same =>
        simp [scheme, host, Host.isLoopback, Text.sameIgnoringCase, same]
    | ipv4 scheme host low high =>
        simp [scheme, host, Host.isLoopback_ipv4_iff.mpr ⟨low, high⟩]
    | ipv6 scheme host => simp [scheme, host, Host.isLoopback]
  · intro safe
    rcases (Bool.or_eq_true _ _).mp safe with secure | plain
    · exact .secure (beq_iff_eq.mp secure)
    · obtain ⟨scheme, loopback⟩ := (Bool.and_eq_true _ _).mp plain
      have scheme := beq_iff_eq.mp scheme
      cases host : url.host with
      | none =>
          rw [host] at loopback
          cases loopback
      | some found =>
          rw [host] at loopback
          change found.isLoopback = true at loopback
          cases found with
          | domain name =>
              refine .localhost scheme host ?_
              rw [Host.isLoopback, Text.sameIgnoringCase, beq_iff_eq] at loopback
              exact loopback
          | ipv4 address =>
              obtain ⟨low, high⟩ := Host.isLoopback_ipv4_iff.mp loopback
              exact .ipv4 scheme host low high
          | ipv6 pieces =>
              rw [Host.isLoopback, beq_iff_eq] at loopback
              exact .ipv6 scheme (loopback ▸ host)
          | verbatim text => cases loopback

theorem Url.IsSafe.special {url : Url} (safe : url.IsSafe) :
    (Url.special? url.scheme).isSome = true := by
  cases safe with
  | secure scheme => rw [scheme]; rfl
  | localhost scheme | ipv4 scheme | ipv6 scheme => rw [scheme]; rfl

/-! ## Setups -/

namespace ClientSetup

variable {setup : ClientSetup}

def HasEndpoint (setup : ClientSetup) : Prop := ∃ url, setup.orgUrl = some url ∧ url.IsSafe

def HasClientId (setup : ClientSetup) : Prop :=
  ∃ id, setup.clientId = some id ∧ ∃ c ∈ id.toList, isBlank c = false

structure IsComplete (setup : ClientSetup) : Prop where
  endpoint : setup.HasEndpoint
  clientId : setup.HasClientId
  key : ∃ key, setup.key = some key
  scopes : setup.scopes.list ≠ []

/-- The first of the checks that a setup fails, by the defect that it stands for. -/
inductive FirstLacks (setup : ClientSetup) : ConfigDefect → Prop where
  | orgUrl : setup.orgUrl = none → FirstLacks setup .orgUrlMissing
  | endpoint {url : Url} :
      setup.orgUrl = some url → ¬ url.IsSafe → FirstLacks setup (.insecureEndpoint url.toText)
  | clientId :
      setup.HasEndpoint → ¬ setup.HasClientId → FirstLacks setup .clientIdMissing
  | key :
      setup.HasEndpoint → setup.HasClientId → setup.key = none →
      FirstLacks setup .privateKeyMissing
  | scopes {key : PrivateKey} :
      setup.HasEndpoint → setup.HasClientId → setup.key = some key → setup.scopes.list = [] →
      FirstLacks setup .scopesMissing

theorem isComplete_or_firstLacks (setup : ClientSetup) :
    setup.IsComplete ∨ ∃ defect, setup.FirstLacks defect := by
  cases present : setup.orgUrl with
  | none => exact .inr ⟨_, .orgUrl present⟩
  | some url =>
      by_cases safe : url.IsSafe
      · have endpoint : setup.HasEndpoint := ⟨url, present, safe⟩
        by_cases named : setup.HasClientId
        · cases held : setup.key with
          | none => exact .inr ⟨_, .key endpoint named held⟩
          | some key =>
              by_cases scopeless : setup.scopes.list = []
              · exact .inr ⟨_, .scopes endpoint named held scopeless⟩
              · exact .inl ⟨endpoint, named, ⟨key, held⟩, scopeless⟩
        · exact .inr ⟨_, .clientId endpoint named⟩
      · exact .inr ⟨_, .endpoint present safe⟩

private theorem named_of_hasClientId (named : setup.HasClientId) :
    ∃ id, (setup.clientId.filter fun id => !Text.isAllBlank id.toList) = some id := by
  obtain ⟨id, present, c, member, notBlank⟩ := named
  have kept : Text.isAllBlank id.toList = false := by
    rw [Text.isAllBlank, List.all_eq_false]
    exact ⟨c, member, by simp [notBlank]⟩
  exact ⟨id, by simp [present, kept]⟩

private theorem unnamed_of_not_hasClientId (unnamed : ¬ setup.HasClientId) :
    (setup.clientId.filter fun id => !Text.isAllBlank id.toList) = none := by
  cases present : setup.clientId with
  | none => rfl
  | some id =>
      have blank : Text.isAllBlank id.toList = true := by
        rw [Text.isAllBlank, List.all_eq_true]
        intro c member
        by_contra notBlank
        exact unnamed ⟨id, present, c, member, Bool.eq_false_iff.mpr notBlank⟩
      simp [blank]

end ClientSetup

namespace ClientConfig

variable {setup : ClientSetup} {config : ClientConfig}

/-! ## Building -/

private theorem safe_of_hasEndpoint (endpoint : setup.HasEndpoint) :
    ∃ url, setup.orgUrl = some url ∧ isSafeEndpoint url = true := by
  obtain ⟨url, present, safe⟩ := endpoint
  exact ⟨url, present, Url.isSafe_iff.mp safe⟩

/-- A setup that fails a check is refused for the first one. -/
theorem build_of_firstLacks {defect : ConfigDefect} (lacks : setup.FirstLacks defect) :
    build setup = .error defect := by
  unfold build
  cases lacks with
  | orgUrl absent => simp [absent]
  | endpoint present notSafe =>
      have refused := Bool.eq_false_iff.mpr (mt Url.isSafe_iff.mpr notSafe)
      simp [present, refused]
  | clientId endpoint unnamed =>
      obtain ⟨url, present, safe⟩ := safe_of_hasEndpoint endpoint
      simp [present, safe, ClientSetup.unnamed_of_not_hasClientId unnamed]
  | key endpoint named absent =>
      obtain ⟨url, present, safe⟩ := safe_of_hasEndpoint endpoint
      obtain ⟨id, identified⟩ := ClientSetup.named_of_hasClientId named
      simp [present, safe, identified, absent]
  | scopes endpoint named held scopeless =>
      obtain ⟨url, present, safe⟩ := safe_of_hasEndpoint endpoint
      obtain ⟨id, identified⟩ := ClientSetup.named_of_hasClientId named
      simp [present, safe, identified, held, ScopeSet.isEmpty, scopeless]

structure DerivesEndpoint (config : ClientConfig) : Prop where
  scheme : config.tokenEndpoint.scheme = config.orgUrl.scheme
  host : config.tokenEndpoint.host = config.orgUrl.host
  port : config.tokenEndpoint.port = config.orgUrl.port
  path : config.tokenEndpoint.pathText = tokenPath.toList
  query : config.tokenEndpoint.query = none
  fragment : config.tokenEndpoint.fragment = none
  safe : config.tokenEndpoint.IsSafe

/-- A complete setup is a configuration, if the URL of the organization was read. -/
theorem build_of_isComplete (complete : setup.IsComplete)
    (read : ∀ url, setup.orgUrl = some url → url.IsRead) :
    ∃ config, build setup = .ok config := by
  obtain ⟨url, present, safe⟩ := safe_of_hasEndpoint complete.endpoint
  obtain ⟨id, identified⟩ := ClientSetup.named_of_hasClientId complete.clientId
  obtain ⟨key, held⟩ := complete.key
  have asked : setup.scopes.isEmpty = false := by
    rw [ScopeSet.isEmpty, List.isEmpty_eq_false_iff]
    exact complete.scopes
  obtain ⟨list, path⟩ := (read url present).isHierarchical (Url.isSafe_iff.mpr safe).special
  unfold build
  simp [present, safe, identified, held, asked, Url.join?_tokenPath path]

theorem build_derivesEndpoint (read : ∀ url, setup.orgUrl = some url → url.IsRead)
    (built : build setup = .ok config) : config.DerivesEndpoint := by
  obtain ⟨supplied, _, joined⟩ := build_joins built
  obtain ⟨safe, safeToken⟩ := build_safe built
  obtain ⟨list, path⟩ :=
    (read config.orgUrl supplied).isHierarchical (Url.isSafe_iff.mpr safe).special
  rw [Url.join?_tokenPath path, Option.some.injEq] at joined
  refine ⟨?_, ?_, ?_, ?path, ?_, ?_, Url.isSafe_iff.mpr safeToken⟩
  case path =>
    rw [← joined]
    simp [Url.pathText, Url.tokenSegments, tokenPath]
  all_goals rw [← joined]

/-- Wherever a client sends anything but what its caller asked it to send is a safe endpoint. -/
structure KeepsToSafety (config : ClientConfig) : Prop where
  fetch : ∀ env session,
    Session.SendsTo Url.IsSafe session (Acquisition.fetch env config session).2
  send : ∀ env request session,
    Session.SendsOnly (fun sent => sent.url.IsSafe ∨ sent.IsCopyOf request) session
      (Api.send env config request session).2

theorem DerivesEndpoint.keepsToSafety (derives : config.DerivesEndpoint) :
    config.KeepsToSafety where
  fetch env session := by
    refine (Acquisition.fetch_sendsTo env config session).mono ?_
    rintro _ rfl
    exact derives.safe
  send env request session := by
    refine (Api.send_sendsOnly env config request session).mono ?_
    rintro sent (token | copy)
    · exact .inl (token ▸ derives.safe)
    · exact .inr copy

/-- A setup whose URL was read is a configuration exactly if it is complete; otherwise the first
check that it fails is the error. The token endpoint of a configuration is the path of tokens where
the organization is, and all that a client sends on its own account goes to an endpoint that the
rule allows. -/
theorem build_spec (read : ∀ url, setup.orgUrl = some url → url.IsRead) :
    ((∃ config, build setup = .ok config) ↔ setup.IsComplete) ∧
      (∀ defect, build setup = .error defect ↔ setup.FirstLacks defect) ∧
      ∀ config, build setup = .ok config →
        setup.orgUrl = some config.orgUrl ∧ config.DerivesEndpoint ∧ config.KeepsToSafety := by
  refine ⟨⟨?_, fun complete => build_of_isComplete complete read⟩, fun defect =>
    ⟨?_, build_of_firstLacks⟩, ?_⟩
  · rintro ⟨config, built⟩
    rcases setup.isComplete_or_firstLacks with complete | ⟨defect, lacks⟩
    · exact complete
    · rw [build_of_firstLacks lacks] at built
      cases built
  · intro refused
    rcases setup.isComplete_or_firstLacks with complete | ⟨first, lacks⟩
    · obtain ⟨config, built⟩ := build_of_isComplete complete read
      rw [built] at refused
      cases refused
    · rw [build_of_firstLacks lacks] at refused
      cases refused
      exact lacks
  · intro config built
    have derives := build_derivesEndpoint read built
    exact ⟨(build_joins built).1, derives, derives.keepsToSafety⟩

private def localUrl : Url :=
  ⟨"http".toList, [], [], some (.domain "localhost".toList), some 8080,
    .segments ["b".toList], some "x=1".toList, some "top".toList⟩

private theorem localUrl_read : localUrl.IsRead :=
  .parsed (show Url.parse? "HTTP://LocalHost:8080/a/../b?x=1#top" = some localUrl by
    decide +kernel)

private def localSetup : ClientSetup :=
  ⟨some localUrl, some "courier", some .sampleCurve, none, ⟨["okta.users.read"]⟩, .standard, none,
    none⟩

private def remoteUrl : Url := { localUrl with host := some (.domain "acme.okta.com".toList) }

private theorem remoteUrl_read : remoteUrl.IsRead :=
  .parsed (show Url.parse? "http://acme.okta.com:8080/b?x=1#top" = some remoteUrl by
    decide +kernel)

private def remoteSetup : ClientSetup :=
  { localSetup with orgUrl := some remoteUrl, clientId := some " " }

theorem build_spec_local :
    (∀ url, localSetup.orgUrl = some url → url.IsRead) ∧
      (∃ config, build localSetup = .ok config ∧ config.DerivesEndpoint ∧ config.KeepsToSafety) ∧
      (∀ url, remoteSetup.orgUrl = some url → url.IsRead) ∧
      build remoteSetup = .error (.insecureEndpoint "http://acme.okta.com:8080/b?x=1#top") := by
  have read : ∀ url, localSetup.orgUrl = some url → url.IsRead := by
    intro url supplied
    cases supplied
    exact localUrl_read
  have remoteRead : ∀ url, remoteSetup.orgUrl = some url → url.IsRead := by
    intro url supplied
    cases supplied
    exact remoteUrl_read
  obtain ⟨accepted, _, derived⟩ := build_spec read
  have complete : localSetup.IsComplete :=
    ⟨⟨localUrl, rfl, .localhost rfl rfl (by decide)⟩, ⟨"courier", rfl, 'c', by decide, by decide⟩,
      ⟨_, rfl⟩, by decide⟩
  obtain ⟨config, built⟩ := accepted.mpr complete
  have refused := ((build_spec remoteRead).2.1 _).mpr
    (.endpoint rfl (mt Url.isSafe_iff.mp (by decide)))
  have shown : remoteUrl.toText = "http://acme.okta.com:8080/b?x=1#top" := by decide +kernel
  rw [shown] at refused
  exact ⟨read, ⟨config, built, (derived config built).2⟩, remoteRead, refused⟩

end ClientConfig

end KeyBound
