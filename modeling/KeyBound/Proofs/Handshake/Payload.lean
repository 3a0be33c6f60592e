import KeyBound.Proofs.Handshake.Claims

/-!
# What a signed proof says

The payload of a signed proof is a JSON object with one member for each claim that is there, from
which the claims are read again. Claims that were read from any text survive being signed.
-/

set_option autoImplicit false

namespace KeyBound

open Json

def Proof.payload? (token : String) : Option Bytes :=
  match Text.splitAt '.' token.toList with
  | [_, payload, _] => Base64.decode? Base64.urlSafe payload
  | _ => none

theorem Proof.payload?_sign (key : ProofKey) (claims : ProofClaims) (signature : Bytes) :
    payload? (sign key claims signature) = some (utf8 claims.payload) := by
  rw [payload?, sign, splitAt_compactToken]
  dsimp only
  rw [decode?_urlText, ProofClaims.payload]

namespace ProofClaims

variable {claims : ProofClaims}

structure IsTimed (claims : ProofClaims) : Prop where
  low : -(Nat.pow 2 63 : Nat) ≤ claims.issuedAt
  high : claims.issuedAt ≤ (Nat.pow 2 63 : Nat) - 1

def keys (claims : ProofClaims) : List String :=
  ["htm", "htu", "jti", "iat"] ++ claims.tokenHash.toList.map (fun _ => "ath") ++
    claims.nonce.toList.map fun _ => "nonce"

/-- A payload states some claims: they are what is read from it, and it is an object that has a
hash and a nonce exactly if the claims have. -/
structure StatedIn (claims : ProofClaims) (payload : Bytes) : Prop where
  read : decodeWhole decoder payload = .ok claims
  object : ∃ entries, ObjectText payload entries ∧ entries.map (·.1) = claims.keys ∧
    ("ath" ∈ entries.map (·.1) ↔ claims.tokenHash ≠ none) ∧
    ("nonce" ∈ entries.map (·.1) ↔ claims.nonce ≠ none)

theorem ath_mem_keys : "ath" ∈ claims.keys ↔ claims.tokenHash ≠ none := by
  unfold keys
  cases claims.tokenHash <;> cases claims.nonce <;> simp

theorem nonce_mem_keys : "nonce" ∈ claims.keys ↔ claims.nonce ≠ none := by
  unfold keys
  cases claims.tokenHash <;> cases claims.nonce <;> simp

theorem isPrinted_optionalMember (key : String) (value : Option String) :
    ∀ member ∈ optionalMember key value, IsPrinted member.2 := by
  cases value with
  | none => exact nofun
  | some text => exact List.forall_mem_singleton.mpr (isPrinted_text text)

theorem objectText_payload (claims : ProofClaims) :
    ∃ entries, ObjectText (utf8 claims.payload) entries ∧ entries.map (·.1) = claims.keys := by
  have each : ∀ member ∈ [("htm", .text claims.method), ("htu", .text claims.address),
      ("jti", .text claims.identifier), ("iat", Value.ofInt claims.issuedAt)] ++
        optionalMember "ath" claims.tokenHash ++ optionalMember "nonce" claims.nonce,
      IsPrinted member.2 := by
    simp only [List.forall_mem_append, List.forall_mem_cons]
    exact ⟨⟨⟨isPrinted_text _, isPrinted_text _, isPrinted_text _, isPrinted_integer _, nofun⟩,
      isPrinted_optionalMember "ath" _⟩, isPrinted_optionalMember "nonce" _⟩
  obtain ⟨entries, written, denote⟩ := objectText_printed each
  refine ⟨entries, written, denote.keys_eq.trans ?_⟩
  simp only [optionalMember, keys, List.map_append, List.map_map, List.map_cons, List.map_nil]
  rfl

/-- The claims of a proof are stated in its payload. -/
theorem IsTimed.statedIn (timed : claims.IsTimed) : claims.StatedIn (utf8 claims.payload) := by
  obtain ⟨entries, written, same⟩ := claims.objectText_payload
  refine ⟨decode_payload timed.low timed.high, entries, written, same, ?_, ?_⟩
  · rw [same, ath_mem_keys]
  · rw [same, nonce_mem_keys]

/-- Claims that have been read are those of some proof. -/
theorem isTimed_of_decodeWhole {text : Bytes} (read : decodeWhole decoder text = .ok claims) :
    claims.IsTimed := by
  have found := decode_of_decodeWhole read
  unfold decoder at found
  refine decodeRecord_keeps ?_ (⟨by decide, by decide⟩ : IsTimed ⟨"", "", "", 0, none, none⟩) found
  simp only [List.forall_mem_cons, List.not_mem_nil, false_imp_iff, implies_true, and_true]
  refine ⟨?method, ?address, ?identifier, ?issuedAt, ?tokenHash, ?nonce⟩ <;>
    intro depth doc update read claims timed <;>
    obtain ⟨value, found, rfl⟩ := Field.exists_of_update read
  case issuedAt =>
    obtain ⟨low, high⟩ := decodeInteger_bounds found
    exact ⟨low, high⟩
  all_goals exact ⟨timed.low, timed.high⟩

/-- The payload that is signed for some claims states them, whatever characters their texts hold and
whichever of the optional ones are there. So does the one that is signed for claims which were read
from a text. -/
theorem sign_states :
    (∀ claims : ProofClaims, claims.IsTimed → ∀ key signature,
      ∃ payload, Proof.payload? (Proof.sign key claims signature) = some payload ∧
        claims.StatedIn payload) ∧
    ∀ text claims, decodeWhole decoder text = .ok claims → ∀ key signature,
      ∃ payload, Proof.payload? (Proof.sign key claims signature) = some payload ∧
        claims.StatedIn payload :=
  ⟨fun claims timed key signature => ⟨_, Proof.payload?_sign key claims signature, timed.statedIn⟩,
    fun _ claims read key signature =>
      ⟨_, Proof.payload?_sign key claims signature, (isTimed_of_decodeWhole read).statedIn⟩⟩

private def escapedClaims : ProofClaims :=
  ⟨"GET", "https://acme.okta.com/\"\\\n", "π😀\x00", -9223372036854775808, none, some "n\x1f"⟩

private def spacedText : Bytes :=
  utf8 ("\x7b\"jti\": \"\\u0000\", \"x\": [], \"ath\": null, " ++
    "\"htm\": \"GET\", \"iat\": -1, \"htu\": \"\"\x7d")

private def spacedClaims : ProofClaims :=
  ⟨"GET", "", "\x00", -1, none, none⟩

theorem sign_states_escaped :
    escapedClaims.IsTimed ∧ decodeWhole decoder spacedText = .ok spacedClaims ∧
      ∀ claims ∈ [escapedClaims, spacedClaims], ∃ payload,
        Proof.payload? (Proof.sign ⟨"x", "y"⟩ claims [1]) = some payload ∧
          claims.StatedIn payload := by
  have timed : escapedClaims.IsTimed := ⟨by decide, by decide⟩
  have read : decodeWhole decoder spacedText = .ok spacedClaims := by decide +kernel
  refine ⟨timed, read, ?_⟩
  simp only [List.forall_mem_cons, List.not_mem_nil, false_imp_iff, implies_true, and_true]
  exact ⟨sign_states.1 escapedClaims timed ⟨"x", "y"⟩ [1],
    sign_states.2 spacedText spacedClaims read ⟨"x", "y"⟩ [1]⟩

end ProofClaims

end KeyBound
