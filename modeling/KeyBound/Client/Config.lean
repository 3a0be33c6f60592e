import KeyBound.Error
import KeyBound.Retry.Settings
import KeyBound.Url.Reference

/-!
# Client configuration

What a client is built from, and the conditions under which it is.
-/

set_option autoImplicit false

namespace KeyBound

structure ClientSetup where
  orgUrl : Option Url
  clientId : Option String
  key : Option PrivateKey
  keyId : Option String
  scopes : ScopeSet
  retry : RetrySettings
  nonceValidity : Option Span
  refreshWindow : Option Span

structure ClientConfig where
  orgUrl : Url
  tokenEndpoint : Url
  clientId : String
  key : PrivateKey
  keyId : Option String
  scopes : ScopeSet
  retry : RetrySettings
  /-- How long a nonce is held. -/
  nonceValidity : Span
  /-- How long before its expiry a token is replaced. -/
  refreshWindow : Span

namespace ClientConfig

def tokenPath : String := "/oauth2/v1/token"

def standardNonceValidity : Span := .ofHours 22

def standardRefreshWindow : Span := .ofMinutes 5

/-- Whether an endpoint is reached over a secure channel or on the machine itself. -/
def isSafeEndpoint (url : Url) : Bool :=
  url.hasScheme "https" || (url.hasScheme "http" && (url.host.map Host.isLoopback).getD false)

/-- The configuration that an application supplies; of several defects the first in the order of the
fields counts. -/
def build (setup : ClientSetup) : Except ConfigDefect ClientConfig :=
  match setup.orgUrl with
  | none => .error .orgUrlMissing
  | some orgUrl =>
    if !isSafeEndpoint orgUrl then .error (.insecureEndpoint orgUrl.toText)
    else
      match setup.clientId.filter fun id => !Text.isAllBlank id.toList with
      | none => .error .clientIdMissing
      | some clientId =>
        match setup.key with
        | none => .error .privateKeyMissing
        | some key =>
          if setup.scopes.isEmpty then .error .scopesMissing
          else
            match orgUrl.join? tokenPath with
            | none => .error .urlInvalid
            | some tokenEndpoint => .ok {
                orgUrl
                tokenEndpoint
                clientId
                key
                keyId := setup.keyId
                scopes := setup.scopes
                retry := setup.retry
                nonceValidity := setup.nonceValidity.getD standardNonceValidity
                refreshWindow := setup.refreshWindow.getD standardRefreshWindow }

/-- Resolves a path or a URL against the URL of the organization. -/
def resolve (config : ClientConfig) (reference : String) : Except Error Url :=
  match config.orgUrl.join? reference with
  | some url => .ok url
  | none => .error (.config .urlInvalid)

end ClientConfig

end KeyBound
