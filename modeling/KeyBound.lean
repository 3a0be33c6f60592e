import KeyBound.Client.Api
import KeyBound.Client.Crowd
import KeyBound.Client.Script
import KeyBound.Crypto.Sample
import KeyBound.Paging.Shelf
import KeyBound.Proofs.Handshake.Claims
import KeyBound.Proofs.Handshake.Conformance
import KeyBound.Proofs.Handshake.Overlap
import KeyBound.Proofs.Handshake.Run
import KeyBound.Proofs.Client.Binding
import KeyBound.Proofs.Client.Cancellation
import KeyBound.Proofs.Client.Conformance
import KeyBound.Proofs.Client.Endpoints
import KeyBound.Proofs.Client.Reauthorization
import KeyBound.Proofs.Client.Refusals
import KeyBound.Proofs.Client.Repetition
import KeyBound.Proofs.Client.Retries
import KeyBound.Proofs.Client.Revocation
import KeyBound.Proofs.Client.Shutdown
import KeyBound.Proofs.Client.Singleflight
import KeyBound.Proofs.Client.TokenCache
import KeyBound.Proofs.Paging.Printing
import KeyBound.Proofs.Client.Crowd
import KeyBound.Proofs.Handshake.Ledger
import KeyBound.Proofs.Client.Counters
import KeyBound.Proofs.Client.Budget
import KeyBound.Proofs.Paging.Ending
import KeyBound.Proofs.Client.Building
import KeyBound.Proofs.Client.Calendar
import KeyBound.Proofs.Client.Assertions
import KeyBound.Proofs.Client.Secrecy
import KeyBound.Proofs.Handshake.Preparation
import KeyBound.Proofs.Time.Calendar
import KeyBound.Proofs.Time.MailDate
import KeyBound.Proofs.Retry.RateLimit
import KeyBound.Proofs.Json.Records
import KeyBound.Proofs.Token.Grants
import KeyBound.Proofs.Retry.Settings
import KeyBound.Proofs.Handshake.Address
import KeyBound.Proofs.Paging.Brackets
import KeyBound.Proofs.Json.Extent
import KeyBound.Proofs.Client.Bodies
import KeyBound.Proofs.Token.Demands
import KeyBound.Proofs.Retry.Backoff
import KeyBound.Proofs.Token.Scope
import KeyBound.Proofs.Handshake.Payload
import KeyBound.Proofs.Client.TokenForm
import KeyBound.Proofs.Paging.Cuts
import KeyBound.Proofs.Crypto.Armour
import KeyBound.Proofs.Paging.Abandonment
import KeyBound.Proofs.Paging.Streaming
import KeyBound.Proofs.Crypto.KeyText
