import KeyBound.Proofs.Json.Records

/-!
# Documents that can be used

The documents that have a value. To pass over a document it has to be complete; to be used, its
texts have to be sound as well, its numbers have to fit a double, and its nesting is limited.
-/

set_option autoImplicit false

namespace KeyBound.Json

mutual

/-- A document that can be used below some number of further levels of nesting. -/
inductive Usable : (depth : Nat) → Doc → Prop where
  | null {depth : Nat} : Usable depth .null
  | bool {depth : Nat} {b : Bool} : Usable depth (.bool b)
  | number {depth : Nat} {literal : NumberLiteral} {n : Number} :
      literal.value? = some n → Usable depth (.number literal)
  | string {depth : Nat} {pieces : List Piece} {text : String} :
      textOf pieces = .ok text → Usable depth (.string pieces)
  | array {depth : Nat} {items : Items} :
      UsableItems (depth + 1) items → Usable (depth + 2) (.array items)
  | object {depth : Nat} {members : Members} :
      UsableMembers (depth + 1) members → Usable (depth + 2) (.object members)

inductive UsableItems : (depth : Nat) → Items → Prop where
  | closed {depth : Nat} : UsableItems depth .closed
  | item {depth : Nat} {value : Doc} {rest : Items} :
      Usable depth value → UsableItems depth rest → UsableItems depth (.item value rest)

inductive UsableMembers : (depth : Nat) → Members → Prop where
  | closed {depth : Nat} : UsableMembers depth .closed
  | member {depth : Nat} {key : List Piece} {name : String} {value : Doc} {rest : Members} :
      textOf key = .ok name → Usable depth value → UsableMembers depth rest →
      UsableMembers depth (.member key value rest)

end

theorem keyText_of_textOf {key : List Piece} {name : String} (text : textOf key = .ok name) :
    keyText key = .ok name := by
  rw [keyText, text]
  rfl

theorem textOf_of_keyText {key : List Piece} {name : String} (text : keyText key = .ok name) :
    textOf key = .ok name := by
  unfold keyText at text
  cases found : textOf key with
  | error defect =>
      rw [found] at text
      cases text
  | ok other =>
      rw [found] at text
      rw [Except.ok.inj text]

theorem decodeValue_array (depth : Nat) (items : Items) :
    decodeValue (depth + 2) (.array items) =
      (decodeValueItems (depth + 1) 0 items).map .array := by
  rw [decodeValue]
  change (decodeValueItems (depth + 1) 0 items).bind _ = _
  cases decodeValueItems (depth + 1) 0 items <;> rfl

theorem decodeValue_object (depth : Nat) (members : Members) :
    decodeValue (depth + 2) (.object members) =
      (decodeValueMembers (depth + 1) [] members).map .object := by
  rw [decodeValue]
  change (decodeValueMembers (depth + 1) [] members).bind _ = _
  cases decodeValueMembers (depth + 1) [] members <;> rfl

mutual

theorem Usable.sound {depth : Nat} {doc : Doc} (usable : Usable depth doc) :
    doc.defect? = none := by
  cases usable with
  | array items => exact items.sound
  | object members => exact members.sound
  | _ => rfl

theorem UsableItems.sound {depth : Nat} {items : Items} (usable : UsableItems depth items) :
    items.defect? = none := by
  cases usable with
  | closed => rfl
  | item value rest => rw [Items.defect?, value.sound, rest.sound, Option.or_none]

theorem UsableMembers.sound {depth : Nat} {members : Members}
    (usable : UsableMembers depth members) : members.defect? = none := by
  cases usable with
  | closed => rfl
  | member _ value rest => rw [Members.defect?, value.sound, rest.sound, Option.or_none]

end

-- The converse fails: 1e999 can be passed over, but it is beyond the largest double.
example : (Doc.number ⟨false, [1], [], some (false, [9, 9, 9])⟩).defect? = none ∧
    (NumberLiteral.mk false [1] [] (some (false, [9, 9, 9]))).value? = none :=
  ⟨rfl, rfl⟩

mutual

theorem Usable.exists_value {depth : Nat} {doc : Doc} (usable : Usable depth doc) :
    ∃ value, decodeValue depth doc = .ok value := by
  cases usable with
  | null => exact ⟨_, rfl⟩
  | bool => exact ⟨_, rfl⟩
  | @number _ literal n value =>
      refine ⟨.number n, ?_⟩
      rw [decodeValue, value]
  | @string _ pieces text sound =>
      refine ⟨.text text, ?_⟩
      rw [decodeValue, sound]
  | array items =>
      obtain ⟨values, found⟩ := items.exists_values 0
      exact ⟨.array values, by rw [decodeValue_array, found]; rfl⟩
  | object members =>
      obtain ⟨found, read⟩ := members.exists_members []
      exact ⟨.object found, by rw [decodeValue_object, read]; rfl⟩

theorem UsableItems.exists_values {depth : Nat} {items : Items} (usable : UsableItems depth items)
    (index : Nat) : ∃ values, decodeValueItems depth index items = .ok values := by
  cases usable with
  | closed => exact ⟨_, rfl⟩
  | item value rest =>
      obtain ⟨first, found⟩ := value.exists_value
      obtain ⟨others, foundOthers⟩ := rest.exists_values (index + 1)
      refine ⟨first :: others, ?_⟩
      rw [decodeValueItems, found, foundOthers]
      rfl

theorem UsableMembers.exists_members {depth : Nat} {members : Members}
    (usable : UsableMembers depth members) (before : List (String × Value)) :
    ∃ found, decodeValueMembers depth before members = .ok found := by
  cases usable with
  | closed => exact ⟨_, rfl⟩
  | @member _ key name value rest keyed usable others =>
      obtain ⟨first, found⟩ := usable.exists_value
      obtain ⟨all, foundAll⟩ := others.exists_members (setMember name first before)
      refine ⟨all, ?_⟩
      rw [decodeValueMembers, keyText_of_textOf keyed]
      change (within (.key name) (decodeValue depth value)).bind _ = _
      rw [found]
      exact foundAll

end

mutual

theorem usable_of_decodeValue {depth : Nat} {doc : Doc} {value : Value}
    (read : decodeValue depth doc = .ok value) : Usable depth doc := by
  match doc with
  | .null => exact .null
  | .bool _ => exact .bool
  | .number literal =>
      rw [decodeValue] at read
      split at read
      · exact .number ‹_›
      · cases read
  | .string pieces =>
      rw [decodeValue] at read
      split at read
      · exact .string ‹_›
      · cases read
  | .array items =>
      rw [decodeValue] at read
      obtain ⟨below, deeper, read⟩ := exists_of_bind read
      obtain ⟨values, found, -⟩ := exists_of_bind read
      have usable := usable_of_decodeValueItems found
      match depth, deeper with
      | depth + 2, deeper =>
          cases deeper
          exact .array usable
  | .object members =>
      rw [decodeValue] at read
      obtain ⟨below, deeper, read⟩ := exists_of_bind read
      obtain ⟨values, found, -⟩ := exists_of_bind read
      have usable := usable_of_decodeValueMembers found
      match depth, deeper with
      | depth + 2, deeper =>
          cases deeper
          exact .object usable
  | .absent | .broken _ | .brokenNumber _ | .brokenString _ _ => cases read

theorem usable_of_decodeValueItems {depth index : Nat} {items : Items} {values : List Value}
    (read : decodeValueItems depth index items = .ok values) : UsableItems depth items := by
  match items with
  | .closed => exact .closed
  | .broken _ | .trailing _ => cases read
  | .item value rest =>
      rw [decodeValueItems] at read
      obtain ⟨first, found, read⟩ := exists_of_bind read
      obtain ⟨others, foundOthers, -⟩ := exists_of_bind read
      exact .item (usable_of_decodeValue (eq_ok_of_within found))
        (usable_of_decodeValueItems foundOthers)

theorem usable_of_decodeValueMembers {depth : Nat} {before found : List (String × Value)}
    {members : Members} (read : decodeValueMembers depth before members = .ok found) :
    UsableMembers depth members := by
  match members with
  | .closed => exact .closed
  | .broken _ | .unkeyed _ | .brokenKey _ _ => cases read
  | .keyAlone key _ =>
      rw [decodeValueMembers] at read
      obtain ⟨name, -, read⟩ := exists_of_bind read
      cases read
  | .member key value rest =>
      rw [decodeValueMembers] at read
      obtain ⟨name, keyed, read⟩ := exists_of_bind read
      obtain ⟨first, found, read⟩ := exists_of_bind read
      exact .member (textOf_of_keyText keyed) (usable_of_decodeValue (eq_ok_of_within found))
        (usable_of_decodeValueMembers read)

end

/-! ## Members of values -/

section Values

variable {α : Type} {key other : String}

theorem member?_setMember (key : String) (value : α) (members : List (String × α)) :
    member? key (setMember key value members) = some value := by
  induction members with
  | nil => simp [setMember, member?]
  | cons member rest ih =>
      rw [setMember]
      split
      · rename_i same
        exact if_pos same
      · rename_i different
        exact (if_neg different).trans ih

theorem member?_setMember_of_ne (different : other ≠ key) (value : α)
    (members : List (String × α)) :
    member? key (setMember other value members) = member? key members := by
  induction members with
  | nil => exact if_neg different
  | cons member rest ih =>
      obtain ⟨name, held⟩ := member
      rw [setMember]
      split
      · rename_i same
        rw [member?, member?, same, if_neg different, if_neg different]
      · rw [member?, member?, ih]

end Values

/-! ## Records -/

inductive Members.Holds : Members → List Piece → Doc → Prop where
  | here {key : List Piece} {value : Doc} {rest : Members} :
      Members.Holds (.member key value rest) key value
  | later {key other : List Piece} {value first : Doc} {rest : Members} :
      Members.Holds rest key value → Members.Holds (.member other first rest) key value

variable {α : Type} {fields : List (Field α)} {depth : Nat}

theorem field?_eq_none_iff {name : String} :
    field? name fields = none ↔ name ∉ fields.map (·.name) := by
  simp [field?]

/-- What becomes of one member of a record: a field is set that had not been seen, or the member is
passed over. -/
theorem decodeMembers_member {seen : List String} {before record : α} {key : List Piece}
    {value : Doc} {rest : Members}
    (read : decodeMembers fields depth seen before (.member key value rest) = .ok record) :
    ∃ name, textOf key = .ok name ∧
      ((∃ field update, field? name fields = some field ∧ field.update depth value = .ok update ∧
        decodeMembers fields depth (name :: seen) (update before) rest = .ok record) ∨
      field? name fields = none ∧ value.defect? = none ∧
        decodeMembers fields depth seen before rest = .ok record) := by
  rw [decodeMembers] at read
  obtain ⟨name, keyed, found⟩ := exists_of_bind read
  refine ⟨name, textOf_of_keyText keyed, ?_⟩
  split at found
  · rename_i field known
    split at found
    · cases found
    · obtain ⟨update, updated, later⟩ := exists_of_bind found
      exact .inl ⟨field, update, known, eq_ok_of_within updated, later⟩
  · rename_i unknown
    split at found
    · cases found
    · rename_i sound
      exact .inr ⟨unknown, sound, found⟩

/-- The members of a record can be used if those can that are passed over. -/
theorem usableMembers_of_decodeMembers
    (fieldsUsable : ∀ field ∈ fields, ∀ value update, field.update depth value = .ok update →
      Usable depth value)
    {seen : List String} {before record : α} {members : Members}
    (read : decodeMembers fields depth seen before members = .ok record)
    (passedOver : ∀ key value name, members.Holds key value → textOf key = .ok name →
      field? name fields = none → Usable depth value) : UsableMembers depth members := by
  match members with
  | .closed => exact .closed
  | .broken _ | .unkeyed _ | .brokenKey _ _ => cases read
  | .keyAlone key _ =>
      rw [decodeMembers] at read
      obtain ⟨name, -, found⟩ := exists_of_bind read
      cases found
  | .member key value rest =>
      have others : ∀ key value name, rest.Holds key value → textOf key = .ok name →
          field? name fields = none → Usable depth value :=
        fun key value name holds => passedOver key value name (.later holds)
      obtain ⟨name, keyed, ⟨field, update, known, updated, later⟩ | ⟨unknown, -, later⟩⟩ :=
        decodeMembers_member read
      · exact .member keyed (fieldsUsable field (field?_name known).1 value update updated)
          (usableMembers_of_decodeMembers fieldsUsable later others)
      · exact .member keyed (passedOver key value name .here keyed unknown)
          (usableMembers_of_decodeMembers fieldsUsable later others)

theorem UsableMembers.of_holds {members : Members} (usable : UsableMembers depth members)
    {key : List Piece} {value : Doc} (holds : members.Holds key value) : Usable depth value := by
  induction holds with
  | here =>
      cases usable with
      | member _ here _ => exact here
  | later _ ih =>
      cases usable with
      | member _ _ later => exact ih later

theorem exists_string_of_decodeText {doc : Doc} {text : String}
    (read : decodeText depth doc = .ok text) :
    ∃ pieces, doc = .string pieces ∧ textOf pieces = .ok text := by
  cases doc with
  | string pieces =>
      refine ⟨pieces, rfl, ?_⟩
      unfold decodeText at read
      cases found : textOf pieces with
      | error defect =>
          simp only [found] at read
          cases read
      | ok other =>
          simp only [found] at read
          rw [Except.ok.inj read]
  | _ => cases read

end KeyBound.Json
