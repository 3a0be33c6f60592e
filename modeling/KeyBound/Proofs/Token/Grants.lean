import KeyBound.Proofs.Json.Records
import KeyBound.Proofs.Time.Instant
import KeyBound.Proofs.Token.Response

/-!
# Bodies of token responses

What the token endpoint has to write for a token, and what comes of anything else. The fields of a
grant may stand in any order, among others, and be written in any way that JSON allows.
-/

set_option autoImplicit false

namespace KeyBound.TokenResponse

open Json

/-! ## Stated grants -/

/-- The fields that a body states of a grant; those that are left out are missing. -/
structure Stated where
  tokenType : Option String
  expiresIn : Option Int
  accessToken : Option String
  idToken : Option String
  scope : Option String

namespace Stated

/-- The entries of an object state these fields. The optional ones may be null instead of being left
out, and the lifetime fits a signed number of 64 bits. -/
structure In (stated : Stated) (entries : List (String × Doc)) : Prop where
  tokenType : Gives entries "token_type" (stated.tokenType.map .text)
  expiresIn : GivesOptional entries "expires_in" (stated.expiresIn.map .ofInt)
  accessToken : Gives entries "access_token" (stated.accessToken.map .text)
  idToken : GivesOptional entries "id_token" (stated.idToken.map .text)
  scope : GivesOptional entries "scope" (stated.scope.map .text)
  short : ∀ seconds ∈ stated.expiresIn,
    -9223372036854775808 ≤ seconds ∧ seconds ≤ 9223372036854775807

def mix (stated : Stated) (seen : List String) : Grant where
  tokenType := if "token_type" ∈ seen then stated.tokenType.getD "" else ""
  expiresIn := if "expires_in" ∈ seen then stated.expiresIn else none
  accessToken := if "access_token" ∈ seen then stated.accessToken.getD "" else ""
  idToken := if "id_token" ∈ seen then stated.idToken else none
  scope := if "scope" ∈ seen then stated.scope else none

variable {stated : Stated} {entries : List (String × Doc)}

theorem fields_taken (states : stated.In entries) : ∀ field ∈ Grant.fields,
    ∃ given, Gives entries field.name given ∧
      ∀ value ∈ given, ∀ doc, Denotes doc value → field.Takes 127 stated.mix doc := by
  have textual {given : Option String} : ∀ text ∈ given, ∀ doc, Denotes doc (.text text) →
      decodeText 127 doc = .ok text := fun _ _ _ => decodeText_of_denotes
  simp only [Grant.fields, List.forall_mem_cons, List.not_mem_nil, false_imp_iff, implies_true,
    and_true]
  refine ⟨?tokenType, ?expiresIn, ?accessToken, ?idToken, ?scope⟩
  case tokenType =>
    apply Field.ofDecoder_given states.tokenType textual
    intro text held seen
    simp [mix, Option.mem_def.mp held]
  case expiresIn =>
    apply Field.ofDecoder_givenOptional states.expiresIn fun _ => Value.noConfusion
    · intro seconds held doc denotes
      obtain ⟨low, high⟩ := states.short seconds held
      exact decodeInt64_of_denotes denotes low high
    · intro seen
      simp [mix]
  case accessToken =>
    apply Field.ofDecoder_given states.accessToken textual
    intro text held seen
    simp [mix, Option.mem_def.mp held]
  case idToken =>
    apply Field.ofDecoder_givenOptional states.idToken (fun _ => Value.noConfusion) textual
    intro seen
    simp [mix]
  case scope =>
    apply Field.ofDecoder_givenOptional states.scope (fun _ => Value.noConfusion) textual
    intro seen
    simp [mix]

theorem decode_of_in {members : Members} (written : Entries members entries)
    (sound : members.defect? = none) (states : stated.In entries) :
    Grant.decoder depthLimit (.object members) =
      match stated.tokenType, stated.accessToken with
      | some tokenType, some accessToken =>
        .ok ⟨tokenType, stated.expiresIn, accessToken, stated.idToken, stated.scope⟩
      | _, _ => .error (.here .mismatched) := by
  obtain ⟨seen, held, read⟩ := decodeRecord_of_entries written sound (fields_taken states)
  simp only [Grant.fields, Field.ofDecoder, List.forall_mem_cons] at held
  obtain ⟨heldType, heldLifetime, heldToken, heldIdentity, heldScope, -⟩ := held
  have ends : mayEnd Grant.fields seen =
      (seen.contains "token_type" && seen.contains "access_token") := by
    simp [mayEnd, Grant.fields, Field.ofDecoder]
  have whole {β γ : Type} {key : String} {given : Option β} {write : β → Value}
      (read : Option β → γ) (gives : GivesOptional entries key (given.map write))
      (held : key ∈ seen ↔ key ∈ entries.map (·.1)) :
      (if key ∈ seen then read given else read none) = read given := by
    split
    · rfl
    · rename_i absent
      rw [Option.map_eq_none_iff.mp (gives.eq_none (held.not.mp absent))]
  have record : stated.mix seen = ⟨stated.tokenType.getD "", stated.expiresIn,
      stated.accessToken.getD "", stated.idToken, stated.scope⟩ := by
    unfold mix
    congr 1
    · exact whole (·.getD "") (.inl states.tokenType) heldType
    · exact whole id states.expiresIn heldLifetime
    · exact whole (·.getD "") (.inl states.accessToken) heldToken
    · exact whole id states.idToken heldIdentity
    · exact whole id states.scope heldScope
  rw [states.tokenType.mem_iff] at heldType
  rw [states.accessToken.mem_iff] at heldToken
  refine Eq.trans read ?_
  rw [ends, record]
  cases type : stated.tokenType <;> cases token : stated.accessToken <;>
    simp [heldType, heldToken, type, token]

/-- What a success yields whose body states these fields. -/
structure Yields (stated : Stated) (status : Nat) (issuedAt : Instant)
    (result : Except TokenDefect AccessToken) : Prop where
  incomplete : stated.tokenType = none ∨ stated.accessToken = none →
    ∃ failure report, result = .error (.malformed failure report status)
  unlimited : ∀ tokenType accessToken, stated.tokenType = some tokenType →
    stated.accessToken = some accessToken → stated.expiresIn = none →
    result = .error .lifetimeMissing
  limited : ∀ tokenType accessToken seconds, stated.tokenType = some tokenType →
    stated.accessToken = some accessToken → stated.expiresIn = some seconds →
    (result = .error .lifetimeOutOfRange ↔
      seconds ≤ 0 ∨ ¬ inCalendar (issuedAt.nanos + seconds * 1000000000)) ∧
    (¬ (seconds ≤ 0 ∨ ¬ inCalendar (issuedAt.nanos + seconds * 1000000000)) →
      ∃ expiresAt, expiresAt.nanos = issuedAt.nanos + seconds * 1000000000 ∧
        issuedAt < expiresAt ∧ result = .ok ⟨⟨accessToken⟩, tokenType, issuedAt, expiresAt,
          stated.scope, stated.idToken.map Secret.mk⟩)

end Stated

/-! ## Tokens -/

/-- A token that lasts for a span, without a scope. The sum of its issue and its span is not
checked: where it is beyond the calendar, there is no outcome. -/
def unchecked? (secret tokenType : String) (issuedAt : Instant) (lifetime : Span) :
    Option AccessToken :=
  (issuedAt.add? lifetime).map fun expiresAt =>
    ⟨⟨secret⟩, tokenType, issuedAt, expiresAt, none, none⟩

def Grant.mint? (grant : Grant) (issuedAt : Instant) : Option (Except TokenDefect AccessToken) :=
  match grant.expiresIn with
  | none => some (.error .lifetimeMissing)
  | some seconds =>
    if seconds ≤ 0 then some (.error .lifetimeOutOfRange)
    else if (issuedAt.add? (.ofSeconds seconds)).isNone then some (.error .lifetimeOutOfRange)
    else do
      let token ← unchecked? grant.accessToken grant.tokenType issuedAt (.ofSeconds seconds)
      let token := match grant.scope with
        | some scope => { token with scope := some scope }
        | none => token
      let token := match grant.idToken with
        | some text => { token with idToken := some ⟨text⟩ }
        | none => token
      some (.ok token)

/-- The outcome of a response, as it is found step by step. -/
def mint? (explain : Bytes → Json.Report) (response : Response) (issuedAt : Instant) :
    Option (Except TokenDefect AccessToken) :=
  if !response.isSuccess then some (.error (refusal response))
  else if isBlankBody response.body then some (.error (.empty response.status))
  else
    match response.decode Grant.decoder with
    | .error failure =>
      some (.error (.malformed failure (explain (headText response.body)) response.status))
    | .ok grant => grant.mint? issuedAt

theorem Grant.mint?_eq (grant : Grant) (issuedAt : Instant) :
    grant.mint? issuedAt = some (grant.token issuedAt) := by
  obtain ⟨tokenType, lifetime, secret, idToken, scope⟩ := grant
  cases lifetime with
  | none => rfl
  | some seconds =>
      simp only [mint?, token, unchecked?]
      split
      · rfl
      · cases issuedAt.add? (.ofSeconds seconds) with
        | none => rfl
        | some expiresAt => cases scope <;> cases idToken <;> rfl

theorem mint?_eq (explain : Bytes → Json.Report) (response : Response) (issuedAt : Instant) :
    mint? explain response issuedAt = some (token explain response issuedAt) := by
  unfold mint? token
  split
  · rfl
  · split
    · rfl
    · cases response.decode Grant.decoder with
      | error failure => rfl
      | ok grant => exact grant.mint?_eq issuedAt

theorem refusal_cases (response : Response) :
    (∃ code description, refusal response = .refused code description response.status) ∨
      refusal response = .empty response.status := by
  unfold refusal
  split
  · exact .inl ⟨_, _, rfl⟩
  · exact .inr rfl

theorem Grant.token_limited {grant : Grant} {seconds : Int}
    (limited : grant.expiresIn = some seconds) (issuedAt : Instant) :
    (grant.token issuedAt = .error .lifetimeOutOfRange ↔
      seconds ≤ 0 ∨ ¬ inCalendar (issuedAt.nanos + seconds * 1000000000)) ∧
    (¬ (seconds ≤ 0 ∨ ¬ inCalendar (issuedAt.nanos + seconds * 1000000000)) →
      ∃ expiresAt, expiresAt.nanos = issuedAt.nanos + seconds * 1000000000 ∧
        issuedAt < expiresAt ∧ grant.token issuedAt = .ok ⟨⟨grant.accessToken⟩, grant.tokenType,
          issuedAt, expiresAt, grant.scope, grant.idToken.map Secret.mk⟩) := by
  have reach : (Span.ofSeconds seconds).nanos = seconds * 1000000000 := rfl
  have beyond := @Instant.add?_eq_none_iff issuedAt (.ofSeconds seconds)
  rw [reach] at beyond
  simp only [token, limited]
  by_cases past : seconds ≤ 0
  · simp [past]
  · rw [if_neg past]
    cases sum : issuedAt.add? (.ofSeconds seconds) with
    | none => simp [beyond.mp sum]
    | some expiresAt =>
        have later := Instant.add?_nanos sum
        rw [reach] at later
        have inside : inCalendar (issuedAt.nanos + seconds * 1000000000) := later ▸ expiresAt.valid
        refine ⟨by simp [past, inside], fun _ => ⟨expiresAt, later, ?_, rfl⟩⟩
        show issuedAt.nanos < expiresAt.nanos
        omega

theorem yields_of_in (explain : Bytes → Json.Report) {response : Response}
    (success : response.isSuccess = true)
    {entries : List (String × Doc)} (written : ObjectText response.body entries) {stated : Stated}
    (states : stated.In entries) (issuedAt : Instant) :
    stated.Yields response.status issuedAt (token explain response issuedAt) := by
  obtain ⟨members, whole, named⟩ := written
  obtain ⟨rest, read, -⟩ := read_of_text whole
  have something := isBlankBody_of_record (.inl ⟨members, congrArg Prod.fst read⟩)
  have decoded : response.decode Grant.decoder = _ :=
    (decodeHead_of_text whole Grant.decoder).trans (Stated.decode_of_in named whole.sound states)
  unfold token
  simp only [success, something, decoded, Bool.not_true, Bool.false_eq_true, ↓reduceIte]
  refine ⟨?incomplete, ?unlimited, ?limited⟩
  case incomplete =>
    rintro (missing | missing)
    · rw [missing]
      exact ⟨_, _, rfl⟩
    · rw [missing]
      cases stated.tokenType <;> exact ⟨_, _, rfl⟩
  case unlimited =>
    intro tokenType accessToken typed held left
    rw [typed, held]
    dsimp only
    rw [left]
    rfl
  case limited =>
    intro tokenType accessToken seconds typed held stays
    rw [typed, held]
    exact Grant.token_limited stays issuedAt

/-- Every response has an outcome, and the outcome is a token only for a success. -/
theorem token_spec (explain : Bytes → Json.Report) (response : Response) (issuedAt : Instant) :
    mint? explain response issuedAt = some (token explain response issuedAt) ∧
    (response.status < 200 ∨ 300 ≤ response.status →
      (∃ code description,
        token explain response issuedAt = .error (.refused code description response.status)) ∨
      token explain response issuedAt = .error (.empty response.status)) ∧
    (200 ≤ response.status → response.status < 300 →
      ((∀ b ∈ response.body, b ∈ [0x20, 0x09, 0x0A, 0x0C, 0x0D]) →
        token explain response issuedAt = .error (.empty response.status)) ∧
      ∀ entries, ObjectText response.body entries → ∀ stated : Stated, stated.In entries →
        stated.Yields response.status issuedAt (token explain response issuedAt)) := by
  refine ⟨mint?_eq explain response issuedAt, ?failure, fun low high => ⟨?blank, ?stated⟩⟩
  case failure =>
    intro outside
    have failed : response.isSuccess = false := by
      simp only [Response.isSuccess, Bool.and_eq_false_iff, decide_eq_false_iff_not]
      omega
    have refused : token explain response issuedAt = .error (refusal response) := by
      simp [token, failed]
    rw [refused]
    rcases refusal_cases response with ⟨code, description, same⟩ | same
    · exact .inl ⟨code, description, congrArg Except.error same⟩
    · exact .inr (congrArg Except.error same)
  case blank =>
    intro blank
    have success : response.isSuccess = true := by simp [Response.isSuccess, low, high]
    have nothing : isBlankBody response.body = true := by
      refine List.all_eq_true.mpr fun b member => ?_
      have white : ∀ b ∈ ([0x20, 0x09, 0x0A, 0x0C, 0x0D] : Bytes),
          isAsciiBlank (Char.ofNat b.toNat) = true := by decide +kernel
      exact white b (blank b member)
    simp [token, success, nothing]
  case stated =>
    intro entries written stated states
    exact yields_of_in explain (by simp [Response.isSuccess, low, high]) written states issuedAt

private def members : List (String × Value) :=
  [("scope", .null), ("expires_in", .ofInt 3600), ("levels", .array [.ofInt 1, .bool true]),
    ("access_token", .text "at-1"), ("token_type", .text "DPoP")]

private def granting : Response := ⟨200, [], utf8 (Value.object members).toText⟩

private def received : Instant := ⟨0, inCalendar_zero⟩

theorem token_spec_granting :
    let explain (_ : Bytes) : Json.Report := .silent
    ∃ expiresAt : Instant, expiresAt.nanos = 3600000000000 ∧
      token explain granting received =
        .ok ⟨⟨"at-1"⟩, "DPoP", received, expiresAt, none, none⟩ := by
  intro explain
  have each : ∀ member ∈ members, IsPrinted member.2 := by
    simp only [members, List.forall_mem_cons, List.not_mem_nil, false_imp_iff, implies_true,
      and_true]
    refine ⟨isPrinted_null, isPrinted_integer 3600, isPrinted_array ?_, isPrinted_text "at-1",
      isPrinted_text "DPoP"⟩
    simp only [List.forall_mem_cons, List.not_mem_nil, false_imp_iff, implies_true, and_true]
    exact ⟨isPrinted_integer 1, isPrinted_bool true⟩
  obtain ⟨entries, written, denote⟩ := objectText_printed each
  have gives := Denote.gives denote (by decide)
  have states : Stated.In ⟨some "DPoP", some 3600, some "at-1", none, none⟩ entries :=
    ⟨gives "token_type", .inl (gives "expires_in"), gives "access_token", .inl (gives "id_token"),
      .inr ⟨rfl, gives "scope"⟩, by rintro seconds ⟨⟩; decide⟩
  obtain ⟨-, -, success⟩ := token_spec explain granting received
  have yields := (success (by decide) (by decide)).2 entries written _ states
  have limited := (yields.limited "DPoP" "at-1" 3600 rfl rfl rfl).2 (by decide)
  obtain ⟨expiresAt, later, -, same⟩ := limited
  exact ⟨expiresAt, later, same⟩

end KeyBound.TokenResponse
