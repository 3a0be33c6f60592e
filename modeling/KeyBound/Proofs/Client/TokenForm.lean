import KeyBound.Proofs.Client.Frame
import KeyBound.Proofs.Text.Form
import KeyBound.Proofs.Time.Instant
import KeyBound.Proofs.Token.Scope
import KeyBound.Proofs.Url.Parsed

/-!
# The form of a token request

A form is read back from the body of a request, pair by pair. So a token endpoint reads four pairs
from the body of every token request, and finds the scopes of the configuration in the second of
them, whatever characters the scopes and the identifier of the client hold.
-/

set_option autoImplicit false

namespace KeyBound

open Session

theorem Request.decode_withForm (request : Request) (pairs : List (String × String)) :
    Form.decode (request.withForm pairs).body = pairs :=
  Form.decode_encode pairs

/-- A configuration has the scopes of its setup, of which there are some. -/
theorem ClientConfig.build_scopes {setup : ClientSetup} {config : ClientConfig}
    (built : build setup = .ok config) :
    config.scopes = setup.scopes ∧ config.scopes.list ≠ [] := by
  unfold build at built
  split at built
  · cases built
  · split at built
    · cases built
    · split at built
      · cases built
      · split at built
        · cases built
        · split at built
          · cases built
          · rename_i asked
            split at built
            · cases built
            · cases built
              refine ⟨rfl, ?_⟩
              rwa [Bool.not_eq_true, ScopeSet.isEmpty, List.isEmpty_eq_false_iff] at asked

namespace Acquisition

variable {config : ClientConfig} {now : Instant} {draw : Draw} {made : Request}

/-- A body asks for a token of a client that identifies itself by an assertion: it holds four pairs
and no others, and the parts of the second value are the scopes of the client. -/
structure AsksFor (config : ClientConfig) (assertion : String) (body : Bytes) : Prop where
  pairs : Form.decode body =
    [("grant_type", "client_credentials"), ("scope", config.scopes.joined),
      ("client_assertion_type", "urn:ietf:params:oauth:client-assertion-type:jwt-bearer"),
      ("client_assertion", assertion)]
  scopes : (Text.splitAt ' ' config.scopes.joined.toList).map String.ofList = config.scopes.list

theorem request_eq_ok_iff :
    (∃ made, request config now draw = .ok made) ↔
      config.key.canSign = true ∧ ∃ expiry, now.add? Assertion.lifetime = some expiry := by
  have asks := request_asks config now draw
  generalize request config now draw = answer at asks
  cases asks with
  | beyond later => simp [later]
  | unsignable _ unable => simp [unable]
  | made later able => simp [later, able]

theorem request_asksFor {texts : List String} (kept : config.scopes.Keeps texts)
    (something : config.scopes.list ≠ []) (requested : request config now draw = .ok made) :
    ∃ assertion, Assertion.sign config.clientId config.tokenEndpoint config.key config.keyId now
        draw.identifier draw.signature = .ok assertion ∧ AsksFor config assertion made.body := by
  have asks := request_asks config now draw
  rw [requested] at asks
  cases asks with
  | made later able signed =>
      exact ⟨_, signed ▸ sign_of_canSign later able draw, Request.decode_withForm _ _,
        kept.splitAt_joined something⟩

/-- What a form states is read back from the body of any request. A client that is configured with
some scopes makes a token request exactly if its key can sign and the assertion expires within the
calendar. The body of the request asks for a token with these scopes and nothing else, and so does
that of every request which an acquisition sends. -/
theorem request_form :
    (∀ (request : Request) (pairs : List (String × String)),
      Form.decode (request.withForm pairs).body = pairs) ∧
    ∀ (setup : ClientSetup) (config : ClientConfig) (texts : List String),
      ScopeSet.ofList texts = .ok setup.scopes → ClientConfig.build setup = .ok config →
      (∀ scope, scope ∈ config.scopes.list ↔ scope ∈ texts) ∧
      (∀ now draw, (∃ made, request config now draw = .ok made) ↔
        config.key.canSign = true ∧ ∃ expiry, now.add? Assertion.lifetime = some expiry) ∧
      (∀ now draw made, request config now draw = .ok made →
        ∃ assertion, Assertion.sign config.clientId config.tokenEndpoint config.key config.keyId
            now draw.identifier draw.signature = .ok assertion ∧
          AsksFor config assertion made.body) ∧
      ∀ env session, SendsOnly (fun sent => ∃ assertion, AsksFor config assertion sent.body) session
        (fetch env config session).2 := by
  refine ⟨Request.decode_withForm, fun setup config texts admitted built => ?_⟩
  obtain ⟨same, something⟩ := ClientConfig.build_scopes built
  have kept : config.scopes.Keeps texts := same ▸ ScopeSet.keeps_of_ofList admitted
  refine ⟨kept.mem_iff, fun _ _ => request_eq_ok_iff,
    fun _ _ _ requested => request_asksFor kept something requested, fun env session => ?_⟩
  refine fetch_sendsOnly (fun requested sent outgoing => ?_) env session
  obtain ⟨assertion, -, asks⟩ := request_asksFor kept something requested
  exact ⟨assertion, outgoing.isCopyOf.body ▸ asks⟩

private def formlikeSetup : ClientSetup :=
  ⟨some (.sample [""]), some "me&scope=all", some .sampleCurve, none,
    ⟨["a&grant_type=x", "b=%20", "c+d"]⟩, .standard, none, none⟩

private def formlikeConfig : ClientConfig :=
  { ClientConfig.sample with
    clientId := "me&scope=all"
    keyId := none
    scopes := formlikeSetup.scopes }

private theorem formlikeSetup_built : ClientConfig.build formlikeSetup = .ok formlikeConfig := by
  have safe : ClientConfig.isSafeEndpoint (.sample [""]) = true := by decide +kernel
  have identified :
      (some "me&scope=all").filter (fun id => !Text.isAllBlank id.toList) =
        some "me&scope=all" := by decide +kernel
  have joined : (Url.sample [""]).join? ClientConfig.tokenPath =
      some (.sample ["oauth2", "v1", "token"]) := by decide +kernel
  simp only [ClientConfig.build, formlikeSetup, safe, identified, joined]
  rfl

theorem request_form_formlike :
    ScopeSet.ofList ["b=%20", "a&grant_type=x", "c+d", "b=%20"] = .ok formlikeSetup.scopes ∧
      ClientConfig.build formlikeSetup = .ok formlikeConfig ∧
      ∃ made assertion,
        request formlikeConfig ⟨0, inCalendar_zero⟩ ⟨⟨"x", "y"⟩, "1", [0]⟩ = .ok made ∧
          AsksFor formlikeConfig assertion made.body := by
  have admitted : ScopeSet.ofList ["b=%20", "a&grant_type=x", "c+d", "b=%20"] =
      .ok formlikeSetup.scopes := by decide +kernel
  obtain ⟨-, makes, asks, -⟩ :=
    request_form.2 formlikeSetup formlikeConfig _ admitted formlikeSetup_built
  obtain ⟨made, requested⟩ :=
    (makes ⟨0, inCalendar_zero⟩ ⟨⟨"x", "y"⟩, "1", [0]⟩).mpr ⟨by decide +kernel, _, rfl⟩
  obtain ⟨assertion, -, stated⟩ := asks _ _ made requested
  exact ⟨admitted, formlikeSetup_built, made, assertion, requested, stated⟩

end Acquisition

end KeyBound
