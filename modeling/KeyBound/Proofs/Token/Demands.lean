import KeyBound.Handshake.Demand
import KeyBound.Proofs.Json.Extent
import KeyBound.Proofs.Json.Reading
import KeyBound.Token.Response

/-!
# Demands in refusals

Two readings of one body. The handshake takes the body for a value and looks for an error code in
it, the response is mapped to a refusal field by field. Both find the same code, but the handshake
finds it only in an object, and only if it can use the members that the refusal passes over.
-/

set_option autoImplicit false

namespace KeyBound

namespace TokenResponse

open Json

def Refusal.fields : List (Json.Field Refusal) :=
  [.ofDecoder "error" true decodeText fun x refusal => { refusal with code := x },
    .ofDecoder "error_description" false (decodeNullable decodeText) fun x refusal =>
      { refusal with description := x },
    .ofDecoder "error_uri" false (decodeNullable decodeText) fun x refusal =>
      { refusal with uri := x }]

theorem Refusal.supported : Supported Refusal.decoder := by
  refine .record _ ?_
  simp only [List.forall_mem_cons, List.not_mem_nil, false_imp_iff, implies_true, and_true]
  exact ⟨.map _ .text, .map _ (.nullable .text), .map _ (.nullable .text)⟩

variable {depth : Nat}

/-- A field of a refusal is the code, or another one that leaves the code as it is. -/
theorem Refusal.field_cases {field : Json.Field Refusal} (member : field ∈ Refusal.fields)
    {value : Doc} {update : Refusal → Refusal} (read : field.update depth value = .ok update) :
    Usable depth value ∧
      ((∃ pieces text, field.name = "error" ∧ value = .string pieces ∧ textOf pieces = .ok text ∧
        ∀ refusal, (update refusal).code = text) ∨
      field.name ≠ "error" ∧ ∀ refusal, (update refusal).code = refusal.code) := by
  have optional {found : Option String} (read : decodeNullable decodeText depth value = .ok found) :
      Usable depth value := by
    unfold decodeNullable at read
    split at read
    · exact .null
    · obtain ⟨text, inner, -⟩ := exists_of_map read
      obtain ⟨pieces, rfl, sound⟩ := exists_string_of_decodeText inner
      exact .string sound
  simp only [Refusal.fields, List.mem_cons, List.not_mem_nil, or_false] at member
  rcases member with rfl | rfl | rfl
  · obtain ⟨text, found, rfl⟩ := Field.exists_of_update read
    obtain ⟨pieces, rfl, sound⟩ := exists_string_of_decodeText found
    exact ⟨.string sound, .inl ⟨pieces, text, rfl, rfl, sound, fun _ => rfl⟩⟩
  · obtain ⟨text, found, rfl⟩ := Field.exists_of_update read
    exact ⟨optional found, .inr ⟨by decide, fun _ => rfl⟩⟩
  · obtain ⟨text, found, rfl⟩ := Field.exists_of_update read
    exact ⟨optional found, .inr ⟨by decide, fun _ => rfl⟩⟩

/-- The value of an object has the code that was read as a field, once the field has been seen. The
induction is on the members, and the values of those before are held against the record so far. -/
theorem member?_of_decodeMembers {seen : List String} {before refusal : Refusal} {members : Members}
    (read : decodeMembers Refusal.fields depth seen before members = .ok refusal)
    {earlier found : List (String × Value)}
    (values : decodeValueMembers depth earlier members = .ok found)
    (held : "error" ∈ seen → member? "error" earlier = some (.text before.code)) :
    member? "error" found = some (.text refusal.code) := by
  match members with
  | .closed =>
      cases values
      rw [decodeMembers] at read
      split at read
      · rename_i complete
        cases read
        exact held (by simpa [Refusal.fields, Field.ofDecoder] using complete)
      · cases read
  | .broken _ | .unkeyed _ | .brokenKey _ _ => cases values
  | .keyAlone key _ =>
      rw [decodeValueMembers] at values
      obtain ⟨name, -, values⟩ := exists_of_bind values
      cases values
  | .member key value rest =>
      rw [decodeValueMembers] at values
      obtain ⟨name, keyed, inner⟩ := exists_of_bind values
      obtain ⟨used, valued, others⟩ := exists_of_bind inner
      obtain ⟨name', keyed', step⟩ := decodeMembers_member read
      obtain rfl : name = name' := Except.ok.inj ((textOf_of_keyText keyed).symm.trans keyed')
      have kept (other : name ≠ "error") {seen' : List String}
          (held : "error" ∈ seen' → member? "error" earlier = some (.text before.code)) :
          "error" ∈ seen' → member? "error" (setMember name used earlier) =
            some (.text before.code) :=
        fun already => (member?_setMember_of_ne other used earlier).trans (held already)
      rcases step with ⟨field, update, known, updated, later⟩ | ⟨unknown, -, later⟩
      · obtain ⟨inside, rfl⟩ := field?_name known
        obtain ⟨-, ⟨pieces, text, named, rfl, sound, codes⟩ | ⟨other, keeps⟩⟩ :=
          Refusal.field_cases inside updated
        · refine member?_of_decodeMembers later others fun _ => ?_
          have same : used = .text text := by
            have read := eq_ok_of_within valued
            rw [decodeValue, sound] at read
            exact (Except.ok.inj read).symm
          rw [named, same, member?_setMember, codes]
        · refine member?_of_decodeMembers later others fun already => ?_
          rw [keeps]
          have already : "error" ∈ seen := (List.mem_cons.mp already).resolve_left other.symm
          exact kept other held already
      · have other : name ≠ "error" := by
          rintro rfl
          cases unknown
        exact member?_of_decodeMembers later others (kept other held)

/-- A document in which the handshake finds the code of a refusal: an object, and what the refusal
passes over in it can be used. -/
def Understood (doc : Doc) : Prop :=
  ∃ members, doc = .object members ∧ ∀ key value name, members.Holds key value →
    textOf key = .ok name → name ∉ ["error", "error_description", "error_uri"] → Usable 127 value

/-- The refusal in an object is understood exactly if all of the object can be used. -/
theorem understood_object {members : Members} {refusal : Refusal}
    (read : Refusal.decoder depthLimit (.object members) = .ok refusal) :
    Understood (.object members) ↔ UsableMembers 127 members := by
  have found : decodeMembers Refusal.fields 127 [] ⟨"", none, none⟩ members = .ok refusal := read
  constructor
  · rintro ⟨_, ⟨⟩, passedOver⟩
    refine usableMembers_of_decodeMembers ?_ found ?_
    · exact fun field member value update updated => (Refusal.field_cases member updated).1
    · intro key value name holds keyed unknown
      exact passedOver key value name holds keyed (field?_eq_none_iff.mp unknown)
  · intro usable
    exact ⟨members, rfl, fun key value name holds _ _ => usable.of_holds holds⟩

theorem errorCode?_of_refusal {body : Bytes} {doc : Doc} (whole : WholeText body doc)
    {refusal : Refusal} (read : Refusal.decoder depthLimit doc = .ok refusal) :
    (Understood doc → Demand.errorCode? body = some refusal.code) ∧
      (¬ Understood doc → Demand.errorCode? body = none) := by
  rw [Demand.errorCode?, decodeWhole_of_text whole]
  constructor
  · intro understood
    obtain ⟨members, rfl, -⟩ := id understood
    obtain ⟨found, values⟩ := ((understood_object read).mp understood).exists_members []
    have fields : decodeMembers Refusal.fields 127 [] ⟨"", none, none⟩ members = .ok refusal := read
    have code := member?_of_decodeMembers fields values nofun
    rw [show decodeValue depthLimit (.object members) = _ from decodeValue_object 126 members,
      values]
    simp only [Except.map, code]
  · intro hidden
    cases doc with
    | array items =>
        rw [show decodeValue depthLimit (.array items) = _ from decodeValue_array 126 items]
        cases decodeValueItems 127 0 items <;> rfl
    | object members =>
        have unusable := (understood_object read).not.mp hidden
        rw [show decodeValue depthLimit (.object members) = _ from decodeValue_object 126 members]
        cases values : decodeValueMembers 127 [] members with
        | error failure => rfl
        | ok found => exact absurd (usable_of_decodeValueMembers values) unusable
    | _ => cases read

theorem refusal_of_whole {response : Response} (failed : response.isSuccess = false) {doc : Doc}
    (whole : WholeText response.body doc) {refused : Refusal}
    (read : Refusal.decoder depthLimit doc = .ok refused) (explain : Bytes → Json.Report)
    (issuedAt : Instant) :
    token explain response issuedAt =
      .error (.refused refused.code refused.description response.status) := by
  have decoded := decodeWhole_of_text whole Refusal.decoder
  rw [read] at decoded
  simp only [token, failed, Bool.not_false, ↓reduceIte, refusal, decoded]

/-- A refusal is read from a body that is one document. -/
theorem exists_refusal {response : Response} {issuedAt : Instant} {code : String}
    {description : Option String} {status : Nat}
    {explain : Bytes → Json.Report}
    (mapped : token explain response issuedAt = .error (.refused code description status)) :
    ∃ doc refused, WholeText response.body doc ∧ Refusal.decoder depthLimit doc = .ok refused ∧
      refused.code = code := by
  have refused : refusal response = .refused code description status := by
    unfold token at mapped
    split at mapped
    · exact Except.error.inj mapped
    · split at mapped
      · cases mapped
      · split at mapped
        · cases mapped
        · rename_i grant _
          unfold Grant.token at mapped
          split at mapped
          · cases mapped
          · split at mapped
            · cases mapped
            · split at mapped <;> cases mapped
  unfold refusal at refused
  split at refused
  · rename_i found decoded
    obtain ⟨doc, whole, read⟩ := Refusal.supported.exists_whole decoded
    cases refused
    exact ⟨doc, found, whole, read, rfl⟩
  · cases refused

theorem decode_array {pieces : List Piece} {code : String} (spells : Spells pieces code.toList) :
    Refusal.decoder depthLimit (.array (.item (.string pieces) .closed)) =
      .ok ⟨code, none, none⟩ := by
  have read : decodeText 127 (.string pieces) = .ok code := decodeText_of_denotes (.text spells)
  change decodePositions 127 0 Refusal.fields _ _ = _
  rw [Refusal.fields, decodePositions, Field.ofDecoder_update read]
  rfl

theorem decode_object {key pieces other : List Piece} {code name : String} {value : Doc}
    (keyed : Spells key "error".toList) (spells : Spells pieces code.toList)
    (named : Spells other name.toList)
    (unknown : name ∉ ["error", "error_description", "error_uri"]) (sound : value.defect? = none) :
    Refusal.decoder depthLimit
      (.object (.member key (.string pieces) (.member other value .closed))) =
        .ok ⟨code, none, none⟩ := by
  have read : decodeText 127 (.string pieces) = .ok code := decodeText_of_denotes (.text spells)
  have passedOver : field? name Refusal.fields = none := field?_eq_none_iff.mpr unknown
  change decodeMembers Refusal.fields 127 [] _ _ = _
  rw [decodeMembers_of_known keyed rfl rfl (Field.ofDecoder_update read),
    decodeMembers_of_unknown named passedOver sound]
  rfl

/-- Where a response is mapped to a refusal, its body is one document, and the handshake reads the
same code in it if the document is understood, and none at all otherwise. Arrays are never
understood, nor are objects with a member that the refusal passes over and that cannot be used. -/
theorem refusal_demands (explain : Bytes → Json.Report) (response : Response) :
    (∀ issuedAt code description status,
      token explain response issuedAt = .error (.refused code description status) →
      ∃ doc, WholeText response.body doc ∧
        (Understood doc →
          ∃ demand, Demand.ofBody? response.body = some demand ∧ demand.code = code) ∧
        (¬ Understood doc → Demand.ofBody? response.body = none)) ∧
    ∀ (pieces : List Piece) (code : String), response.isSuccess = false →
      Spells pieces code.toList →
      WholeText response.body (.array (.item (.string pieces) .closed)) ∨
        (∃ key other name value, Spells key "error".toList ∧ Spells other name.toList ∧
          name ∉ ["error", "error_description", "error_uri"] ∧ ¬ Usable 127 value ∧
          WholeText response.body
            (.object (.member key (.string pieces) (.member other value .closed)))) →
      Demand.ofBody? response.body = none ∧
        ∀ issuedAt,
          token explain response issuedAt = .error (.refused code none response.status) := by
  have code_ofCode (code : String) : (Demand.ofCode code).code = code := by
    unfold Demand.ofCode
    split
    · exact Eq.symm ‹_›
    · split
      · exact Eq.symm ‹_›
      · rfl
  refine ⟨?agree, ?missed⟩
  case agree =>
    intro issuedAt code description status mapped
    obtain ⟨doc, refused, whole, read, rfl⟩ := exists_refusal mapped
    obtain ⟨heard, missed⟩ := errorCode?_of_refusal whole read
    refine ⟨doc, whole, fun understood => ?_, fun hidden => ?_⟩
    · refine ⟨.ofCode refused.code, ?_, code_ofCode refused.code⟩
      rw [Demand.ofBody?, heard understood]
      rfl
    · rw [Demand.ofBody?, missed hidden]
      rfl
  case missed =>
    intro pieces code failed spells written
    obtain ⟨doc, whole, read, hidden⟩ : ∃ doc, WholeText response.body doc ∧
        Refusal.decoder depthLimit doc = .ok ⟨code, none, none⟩ ∧ ¬ Understood doc := by
      rcases written with array | ⟨key, other, name, value, keyed, named, unknown, unusable, object⟩
      · exact ⟨_, array, decode_array spells, nofun⟩
      · have sound := object.sound
        simp only [Doc.defect?, Members.defect?, Option.or_eq_none_iff] at sound
        refine ⟨_, object, decode_object keyed spells named unknown sound.2.1, ?_⟩
        rintro ⟨_, ⟨⟩, usable⟩
        exact unusable (usable other value name (.later .here) (textOf_of_spells named) unknown)
    refine ⟨?_, refusal_of_whole failed whole read explain⟩
    rw [Demand.ofBody?, (errorCode?_of_refusal whole read).2 hidden]
    rfl

/-! ## A number beyond the doubles -/

private def hinting : Response :=
  ⟨400, [], utf8 "\x7b\"error\":\"invalid_dpop_proof\",\"hint\":1e999\x7d"⟩

private def hint : NumberLiteral := ⟨false, [1], [], some (false, [9, 9, 9])⟩

private theorem hinting_text : WholeText hinting.body
    (.object (.member (textPieces "error") (.string (textPieces "invalid_dpop_proof"))
      (.member (textPieces "hint") (.number hint) .closed))) := by
  have number : ValueText _ (.number hint) :=
    .positive (.parts ⟨by decide, by decide⟩ (by decide) .none
      (.power (.inl rfl) .none ⟨by decide, by decide⟩))
  have comma : Lead false [0x2C] := @Lead.comma [] [] blank_nil blank_nil
  obtain ⟨text, written, same⟩ : ∃ text, ValueText text _ ∧ hinting.body = [] ++ text ++ [] :=
    ⟨_, .object (.member (.first blank_nil) (stringText_textPieces "error") blank_nil blank_nil
      (prints_text "invalid_dpop_proof") (.member comma (stringText_textPieces "hint") blank_nil
        blank_nil number (.closed blank_nil))), by decide +kernel⟩
  rw [same]
  exact .value blank_nil written blank_nil

/-- The refusal is read although nothing looks at the hint, and the demand in it is missed. -/
theorem refusal_demands_hinting :
    hint.value? = none ∧ Demand.ofBody? hinting.body = none ∧
      ∀ issuedAt, token (fun _ => .silent) hinting issuedAt =
        .error (.refused "invalid_dpop_proof" none 400) := by
  have beyond : hint.value? = none := by decide +kernel
  have unusable : ¬ Usable 127 (.number hint) := by
    intro usable
    cases usable with
    | number read => cases beyond.symm.trans read
  exact ⟨beyond, (refusal_demands (fun _ => .silent) hinting).2 _ _ rfl (spells_textPieces _)
    (.inr ⟨_, _, _, _, spells_textPieces _, spells_textPieces "hint", by decide, unusable,
      hinting_text⟩)⟩

end TokenResponse

end KeyBound
