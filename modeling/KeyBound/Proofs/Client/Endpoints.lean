import KeyBound.Crypto.Sample
import KeyBound.Proofs.Client.Frame
import KeyBound.Proofs.Paging.Traversal
import KeyBound.Proofs.Url.Origin

/-!
# Endpoints of a traversal

Where the requests of a traversal go. The endpoint of the organization is checked when a client is
configured, and so are those that paths lead to; links of the server are not checked, so that one
that names a scheme or a host of its own is followed with the token.
-/

set_option autoImplicit false

namespace KeyBound.Api

open Occurrence Session ClientConfig

variable {α : Type} {decoder : Json.Decoder α} {env : Environment} {config : ClientConfig}
  {first : Url} {session : Session} {t : Traversal Session α}

/-- Every request of a traversal goes to the token endpoint or fetches a page that was asked for. -/
theorem reached_sendsTo
    (reached : Traversal.Reached (pages decoder env config first) session t) :
    SendsTo (fun url => url = config.tokenEndpoint ∨ ∃ target outcome,
        .fetched target outcome ∈ t.history ∧ pageUrl config first target = .ok url)
      session t.fetcher := by
  induction reached with
  | start => exact .of_sent rfl
  | item _ ih | finished _ ih | failed _ ih =>
      refine ih.mono fun url => Or.imp_right ?_
      rintro ⟨target, outcome, asked, leads⟩
      exact ⟨target, outcome, List.mem_append_left _ asked, leads⟩
  | @received target page _ s later _ _ reply ih | @refused target _ _ s later _ _ reply ih =>
      have sends := pages_sendsTo decoder env config first s target
      rw [reply] at sends
      refine (ih.mono fun url => Or.imp_right ?_).trans (sends.mono fun url => Or.imp_right ?_)
      · rintro ⟨target, outcome, asked, leads⟩
        exact ⟨target, outcome, List.mem_append_left _ asked, leads⟩
      · intro leads
        exact ⟨target, _, List.mem_append_right _ List.mem_cons_self, leads⟩

/-- A link of a page leads away from the endpoints that a client may use, because it names a scheme
or a host of its own. -/
def LedAway (config : ClientConfig) (pages : List (Page α)) (url : Url) : Prop :=
  ∃ page ∈ pages, ∃ link, Link.next? page.headers = .ok (some link) ∧
    config.orgUrl.Strays (String.ofList link) ∧ config.resolve (String.ofList link) = .ok url

theorem join?_of_resolve {reference : String} {url : Url}
    (resolved : config.resolve reference = .ok url) :
    config.orgUrl.join? reference = some url := by
  unfold resolve at resolved
  split at resolved
  · rename_i joined
    cases resolved
    exact joined
  · cases resolved

/-- Whatever the server answers, each request of a traversal that begins at a path goes to a safe
endpoint, or to where a link of an earlier page leads that names a scheme other than the secure one,
or a host although the organization is not reached over a secure channel. -/
theorem traversal_safe {setup : ClientSetup} (built : build setup = .ok config) {path : String}
    (isPath : config.orgUrl.IsPath path) (resolved : config.resolve path = .ok first)
    (decoder : Json.Decoder α) (env : Environment) (session : Session) (fuels : List Nat) :
    let t := (Traversal.start session).calls (pages decoder env config first) fuels
    SendsTo (fun url => isSafeEndpoint url = true ∨ LedAway config (Occurrence.pages t.history) url)
      session t.fetcher := by
  intro t
  have reached : Traversal.Reached (pages decoder env config first) session t :=
    Traversal.calls_reached fuels .start
  obtain ⟨safeOrg, safeToken⟩ := build_safe built
  refine (reached_sendsTo reached).mono ?_
  rintro url (rfl | ⟨target, outcome, asked, leads⟩)
  · exact .inl safeToken
  · obtain ⟨before, after, split⟩ := List.append_of_mem asked
    obtain ⟨_, _, earlier⟩ := reached.at_fetch split
    have due := earlier.due rfl
    generalize fetched : Occurrence.pages before = pages at due
    cases due with
    | first =>
        rw [pageUrl_none] at leads
        cases leads
        exact .inl (isSafeEndpoint_of_join? safeOrg isPath.not_strays (join?_of_resolve resolved))
    | @next previous page link named =>
        rw [pageUrl_some] at leads
        by_cases strays : config.orgUrl.Strays (String.ofList link)
        · refine .inr ⟨page, ?_, link, named, strays, leads⟩
          rw [split, pages_append, fetched]
          simp
        · exact .inl (isSafeEndpoint_of_join? safeOrg strays (join?_of_resolve leads))

/-! ## A server that links elsewhere -/

private def organization : Url :=
  ⟨"https".toList, [], [], some (.domain "acme.okta.com".toList), none, .segments [[]], none, none⟩

private def organizationSetup : ClientSetup :=
  ⟨some organization, some "courier", some .sampleCurve, none, ⟨["okta.users.read"]⟩, .standard,
    none, none⟩

private def organizationConfig : ClientConfig where
  orgUrl := organization
  tokenEndpoint :=
    { organization with path := .segments ["oauth2".toList, "v1".toList, "token".toList] }
  clientId := "courier"
  key := .sampleCurve
  keyId := none
  scopes := ⟨["okta.users.read"]⟩
  retry := .standard
  nonceValidity := standardNonceValidity
  refreshWindow := standardRefreshWindow

private def userList : Url :=
  { organization with path := .segments ["api".toList, "v1".toList, "users".toList] }

private theorem organization_built : build organizationSetup = .ok organizationConfig := by
  have safe : isSafeEndpoint organization = true := by decide
  have joined : organization.join? tokenPath = some organizationConfig.tokenEndpoint := by
    decide +kernel
  have named : Text.isAllBlank "courier".toList = false := by decide
  simp only [build, organizationSetup, safe, named, joined, Option.filter]
  rfl

private theorem userList_isPath : organization.IsPath "/api/v1/users" := ⟨rfl, rfl⟩

private theorem userList_resolved : organizationConfig.resolve "/api/v1/users" = .ok userList := by
  have joined : organization.join? "/api/v1/users" = some userList := by decide +kernel
  simp only [resolve, organizationConfig, joined]

private def linking (link : String) : Script where
  replies :=
    [⟨.zero, .ok ⟨200, [], utf8 ("\x7b\"token_type\":\"Bearer\",\"expires_in\":3600," ++
      "\"access_token\":\"at-1\"\x7d")⟩⟩,
    ⟨.zero, .ok ⟨200, [("link", .ofAscii ("<" ++ link ++ ">; rel=\"next\""))], utf8 "[]"⟩⟩,
    ⟨.zero, .ok ⟨200, [], utf8 "[]"⟩⟩]
  tokenReplies := none

private def userTraversal (link : String) : Traversal Session String :=
  (Traversal.start (.start organizationConfig.nonceValidity)).calls
    (pages Json.decodeText (.ofScript (linking link)) organizationConfig userList) [3]

theorem traversal_safe_users :
    build organizationSetup = .ok organizationConfig ∧
    organizationConfig.orgUrl.IsPath "/api/v1/users" ∧
    organizationConfig.resolve "/api/v1/users" = .ok userList ∧
    SendsTo (fun url => isSafeEndpoint url = true ∨
        LedAway organizationConfig
          (Occurrence.pages (userTraversal "/api/v1/users?page=2").history) url)
      (.start organizationConfig.nonceValidity) (userTraversal "/api/v1/users?page=2").fetcher :=
  ⟨organization_built, userList_isPath, userList_resolved,
    traversal_safe organization_built userList_isPath userList_resolved Json.decodeText
      (.ofScript (linking "/api/v1/users?page=2")) _ [3]⟩

/-- A link that names another scheme is followed with the token. -/
theorem traversal_led_away :
    build organizationSetup = .ok organizationConfig ∧
    organizationConfig.orgUrl.IsPath "/api/v1/users" ∧
    organizationConfig.resolve "/api/v1/users" = .ok userList ∧
    ∃ entry ∈ (userTraversal "http://evil.example/p2").fetcher.sent,
      entry.2.headers.chars? "authorization" = some "Bearer at-1".toList ∧
        entry.2.url.toText = "http://evil.example/p2" ∧ isSafeEndpoint entry.2.url = false := by
  refine ⟨organization_built, userList_isPath, userList_resolved, ?_⟩
  decide +kernel

end KeyBound.Api
