import KeyBound.Proofs.Json.Likeness
import KeyBound.Proofs.Json.Reading
import Mathlib.Data.List.Nodup

/-!
# Records in objects

Objects whose members stand for the fields of a record, in any order and with others among them.
What is read of such an object depends only on what it gives for each field.
-/

set_option autoImplicit false

namespace KeyBound.Json

/-! ## Entries -/

/-- The members of a complete object, by the texts of their keys. -/
inductive Entries : Members → List (String × Doc) → Prop where
  | nil : Entries .closed []
  | cons {pieces : List Piece} {key : String} {doc : Doc} {members : Members}
      {entries : List (String × Doc)} :
      Spells pieces key.toList → Entries members entries →
      Entries (.member pieces doc members) ((key, doc) :: entries)

/-- A text that holds one object with these entries and white space. -/
def ObjectText (bytes : Bytes) (entries : List (String × Doc)) : Prop :=
  ∃ members, WholeText bytes (.object members) ∧ Entries members entries

/-- What the entries give for a key: nothing, or in a single place a value. -/
inductive Gives (entries : List (String × Doc)) (key : String) : Option Value → Prop where
  | nothing : entries.filter (·.1 == key) = [] → Gives entries key none
  | once {doc : Doc} {value : Value} :
      entries.filter (·.1 == key) = [(key, doc)] → Denotes doc value →
      Gives entries key (some value)

/-- What the entries give for a key whose value may be null instead of being left out. -/
def GivesOptional (entries : List (String × Doc)) (key : String) (given : Option Value) : Prop :=
  Gives entries key given ∨ given = none ∧ Gives entries key (some .null)

variable {entries : List (String × Doc)} {key : String}

theorem Entries.sound {members : Members} (written : Entries members entries)
    (sound : members.defect? = none) : ∀ entry ∈ entries, entry.2.defect? = none := by
  induction written with
  | nil => exact nofun
  | cons _ _ ih =>
      rw [Members.defect?, Option.or_eq_none_iff] at sound
      exact List.forall_mem_cons.mpr ⟨sound.1, ih sound.2⟩

theorem Gives.count_le {given : Option Value} (gives : Gives entries key given) :
    (entries.map (·.1)).count key ≤ 1 := by
  rw [List.count, List.countP_map, List.countP_eq_length_filter]
  change (entries.filter (·.1 == key)).length ≤ 1
  cases gives with
  | nothing alone => rw [alone]; exact Nat.zero_le 1
  | once alone _ => rw [alone]; exact Nat.le_refl 1

theorem Gives.denotes {given : Option Value} (gives : Gives entries key given) {doc : Doc}
    (member : (key, doc) ∈ entries) : ∃ value, given = some value ∧ Denotes doc value := by
  have found : (key, doc) ∈ entries.filter (·.1 == key) := List.mem_filter.mpr ⟨member, by simp⟩
  cases gives with
  | nothing alone =>
      rw [alone] at found
      cases found
  | once alone denotes =>
      rw [alone, List.mem_singleton] at found
      cases found
      exact ⟨_, rfl, denotes⟩

theorem Gives.mem_iff {given : Option Value} (gives : Gives entries key given) :
    key ∈ entries.map (·.1) ↔ given ≠ none := by
  constructor
  · intro member
    obtain ⟨⟨_, doc⟩, inside, rfl⟩ := List.mem_map.mp member
    obtain ⟨value, rfl, -⟩ := gives.denotes inside
    exact Option.some_ne_none value
  · intro given
    cases gives with
    | nothing _ => exact absurd rfl given
    | @once doc value alone _ =>
        have found : (key, doc) ∈ entries.filter (·.1 == key) := by rw [alone]; exact .head _
        exact List.mem_map_of_mem (List.mem_filter.mp found).1

theorem GivesOptional.eq_none {given : Option Value} (gives : GivesOptional entries key given)
    (absent : key ∉ entries.map (·.1)) : given = none := by
  rcases gives with gives | ⟨missing, _⟩
  · exact Decidable.not_not.mp (gives.mem_iff.not.mp absent)
  · exact missing

theorem GivesOptional.exists_given {β : Type} {write : β → Value} {stated : Option β}
    {decoder : Decoder β} (depth : Nat) (gives : GivesOptional entries key (stated.map write))
    (present : ∀ b, write b ≠ .null)
    (read : ∀ b ∈ stated, ∀ doc, Denotes doc (write b) → decoder depth doc = .ok b) :
    ∃ given, Gives entries key given ∧
      ∀ value ∈ given, ∀ doc, Denotes doc value →
        decodeNullable decoder depth doc = .ok stated := by
  rcases gives with gives | ⟨missing, gives⟩
  · refine ⟨_, gives, ?_⟩
    intro value given doc denotes
    obtain ⟨b, rfl, rfl⟩ := Option.map_eq_some_iff.mp given
    exact decodeNullable_of_ne_null (denotes.ne_null (present b)) (read b rfl doc denotes)
  · obtain rfl := Option.map_eq_none_iff.mp missing
    refine ⟨some .null, gives, ?_⟩
    rintro value ⟨⟩ doc denotes
    cases denotes with
    | null => rfl

/-! ## Fields -/

variable {α : Type} {fields : List (Field α)} {depth : Nat}

/-- A field takes its value from a document into records that hold some fields already. -/
def Field.Takes (field : Field α) (depth : Nat) (mix : List String → α) (doc : Doc) : Prop :=
  ∃ update, field.update depth doc = .ok update ∧
    ∀ seen, update (mix seen) = mix (field.name :: seen)

/-- The keys of fields, in the order of the entries. -/
def knownKeys (fields : List (Field α)) (entries : List (String × Doc)) : List String :=
  (entries.map (·.1)).filter fun key => (field? key fields).isSome

theorem field?_name {field : Field α} (known : field? key fields = some field) :
    field ∈ fields ∧ field.name = key :=
  ⟨List.mem_of_find?_eq_some known, by simpa using List.find?_some known⟩

theorem knownKeys_cons (fields : List (Field α)) (key : String) (doc : Doc)
    (entries : List (String × Doc)) :
    knownKeys fields ((key, doc) :: entries) =
      if (field? key fields).isSome then key :: knownKeys fields entries
      else knownKeys fields entries :=
  List.filter_cons

/-- Whether a record can end with the fields that have been seen. -/
def mayEnd (fields : List (Field α)) (seen : List String) : Bool :=
  fields.all fun field => !field.required || seen.contains field.name

theorem decodeMembers_of_known {field : Field α} {seen : List String} {record : α} {update : α → α}
    {pieces : List Piece} {doc : Doc} {members : Members} (spells : Spells pieces key.toList)
    (known : field? key fields = some field) (unseen : seen.contains key = false)
    (read : field.update depth doc = .ok update) :
    decodeMembers fields depth seen record (.member pieces doc members) =
      decodeMembers fields depth (key :: seen) (update record) members := by
  conv => lhs; unfold decodeMembers
  simp only [keyText, textOf_of_spells spells, Except.mapError, bind, Except.bind, known, unseen,
    within, read]
  rfl

theorem decodeMembers_of_unknown {seen : List String} {record : α} {pieces : List Piece} {doc : Doc}
    {members : Members} (spells : Spells pieces key.toList) (unknown : field? key fields = none)
    (sound : doc.defect? = none) :
    decodeMembers fields depth seen record (.member pieces doc members) =
      decodeMembers fields depth seen record members := by
  conv => lhs; unfold decodeMembers
  simp only [keyText, textOf_of_spells spells, Except.mapError, bind, Except.bind, unknown, sound]

/-- The entries put their fields into a record one by one. The induction is on the entries, and the
record is known at each of them from the fields that have been seen. -/
theorem decodeMembers_of_entries {mix : List String → α} {members : Members}
    (written : Entries members entries) (sound : ∀ entry ∈ entries, entry.2.defect? = none)
    (takes : ∀ entry ∈ entries, ∀ field, field? entry.1 fields = some field →
      field.Takes depth mix entry.2) (seen : List String)
    (once : ((knownKeys fields entries).reverse ++ seen).Nodup) :
    decodeMembers fields depth seen (mix seen) members =
      if mayEnd fields ((knownKeys fields entries).reverse ++ seen) then
        .ok (mix ((knownKeys fields entries).reverse ++ seen))
      else .error (.here .mismatched) := by
  induction written generalizing seen with
  | nil => rfl
  | @cons pieces key doc members entries spells _ ih =>
      obtain ⟨soundHere, soundLater⟩ := List.forall_mem_cons.mp sound
      obtain ⟨takesHere, takesLater⟩ := List.forall_mem_cons.mp takes
      rw [knownKeys_cons] at once ⊢
      cases known : field? key fields with
      | none =>
          simp only [known, Option.isSome_none, Bool.false_eq_true, ↓reduceIte] at once ⊢
          rw [decodeMembers_of_unknown spells known soundHere, ih soundLater takesLater seen once]
      | some field =>
          simp only [known, Option.isSome_some, ↓reduceIte, List.reverse_cons, List.append_assoc,
            List.singleton_append] at once ⊢
          obtain ⟨update, read, mixed⟩ := takesHere field known
          have unseen : key ∉ seen := (List.nodup_cons.mp (List.nodup_append.mp once).2.1).1
          rw [decodeMembers_of_known spells known (by simpa using unseen) read, mixed,
            (field?_name known).2, ih soundLater takesLater (key :: seen) once]

theorem mem_knownKeys {field : Field α} (member : field ∈ fields) :
    field.name ∈ knownKeys fields entries ↔ field.name ∈ entries.map (·.1) := by
  have known : (field? field.name fields).isSome = true :=
    List.find?_isSome.mpr ⟨field, member, by simp⟩
  rw [knownKeys, List.mem_filter]
  exact and_iff_left known

theorem knownKeys_nodup
    (gives : ∀ field ∈ fields, ∃ given, Gives entries field.name given) :
    (knownKeys fields entries).Nodup := by
  refine List.nodup_iff_count_le_one.mpr fun key => ?_
  by_cases known : (field? key fields).isSome = true
  · obtain ⟨field, found⟩ := Option.isSome_iff_exists.mp known
    obtain ⟨member, rfl⟩ := field?_name found
    obtain ⟨given, gives⟩ := gives field member
    exact Nat.le_trans (List.filter_sublist.count_le field.name) gives.count_le
  · have absent : key ∉ knownKeys fields entries := fun inside =>
      known (List.mem_filter.mp inside).2
    rw [List.count_eq_zero_of_not_mem absent]
    exact Nat.zero_le 1

/-- A record is read from the entries of an object in any order, with others among them. It holds
the values that the entries give for its fields, if none of the required ones is missing. -/
theorem decodeRecord_of_entries {members : Members} {mix : List String → α}
    (written : Entries members entries) (sound : members.defect? = none)
    (gives : ∀ field ∈ fields, ∃ given, Gives entries field.name given ∧
      ∀ value ∈ given, ∀ doc, Denotes doc value → field.Takes (depth + 1) mix doc) :
    ∃ seen, (∀ field ∈ fields, field.name ∈ seen ↔ field.name ∈ entries.map (·.1)) ∧
      decodeRecord (mix []) fields (depth + 2) (.object members) =
        if mayEnd fields seen then .ok (mix seen) else .error (.here .mismatched) := by
  refine ⟨(knownKeys fields entries).reverse, ?_, ?_⟩
  · intro field member
    rw [List.mem_reverse, mem_knownKeys member]
  · have once : ((knownKeys fields entries).reverse ++ []).Nodup := by
      rw [List.append_nil, List.nodup_reverse]
      exact knownKeys_nodup fun field member => (gives field member).imp fun _ => And.left
    have takes : ∀ entry ∈ entries, ∀ field, field? entry.1 fields = some field →
        field.Takes (depth + 1) mix entry.2 := by
      rintro ⟨key, doc⟩ inside field known
      obtain ⟨member, rfl⟩ := field?_name known
      obtain ⟨given, gives, takes⟩ := gives field member
      obtain ⟨value, rfl, denotes⟩ := gives.denotes inside
      exact takes value rfl doc denotes
    have read := decodeMembers_of_entries written (written.sound sound) takes [] once
    rw [List.append_nil] at read
    exact read

theorem Field.ofDecoder_update {β : Type} {name : String} {required : Bool} {value : Decoder β}
    {put : β → α → α} {doc : Doc} {b : β} (read : value depth doc = .ok b) :
    (Field.ofDecoder name required value put).update depth doc = .ok (put b) := by
  simp [Field.ofDecoder, read, Except.map]

theorem Field.ofDecoder_takes {β : Type} {name : String} {required : Bool} {value : Decoder β}
    {put : β → α → α} {mix : List String → α} {doc : Doc} {b : β} (read : value depth doc = .ok b)
    (mixed : ∀ seen, put b (mix seen) = mix (name :: seen)) :
    (Field.ofDecoder name required value put).Takes depth mix doc :=
  ⟨put b, Field.ofDecoder_update read, mixed⟩

section Given

variable {β : Type} {name : String} {required : Bool} {decoder : Decoder β} {write : β → Value}
  {stated : Option β} {mix : List String → α}

theorem Field.ofDecoder_given {put : β → α → α} (gives : Gives entries name (stated.map write))
    (read : ∀ b ∈ stated, ∀ doc, Denotes doc (write b) → decoder depth doc = .ok b)
    (mixed : ∀ b ∈ stated, ∀ seen, put b (mix seen) = mix (name :: seen)) :
    ∃ given, Gives entries name given ∧ ∀ value ∈ given, ∀ doc, Denotes doc value →
      (Field.ofDecoder name required decoder put).Takes depth mix doc := by
  refine ⟨_, gives, ?_⟩
  intro value found doc denotes
  obtain ⟨b, held, rfl⟩ := Option.map_eq_some_iff.mp found
  exact Field.ofDecoder_takes (read b held doc denotes) (mixed b held)

theorem Field.ofDecoder_givenOptional {put : Option β → α → α}
    (gives : GivesOptional entries name (stated.map write)) (present : ∀ b, write b ≠ .null)
    (read : ∀ b ∈ stated, ∀ doc, Denotes doc (write b) → decoder depth doc = .ok b)
    (mixed : ∀ seen, put stated (mix seen) = mix (name :: seen)) :
    ∃ given, Gives entries name given ∧ ∀ value ∈ given, ∀ doc, Denotes doc value →
      (Field.ofDecoder name required (decodeNullable decoder) put).Takes depth mix doc := by
  obtain ⟨given, gives, nullable⟩ := gives.exists_given depth present read
  refine ⟨given, gives, ?_⟩
  intro value found doc denotes
  exact Field.ofDecoder_takes (nullable value found doc denotes) mixed

end Given

/-! ## What has been read -/

theorem exists_of_map {ε β γ : Type} {result : Except ε β} {f : β → γ} {c : γ}
    (read : result.map f = .ok c) : ∃ b, result = .ok b ∧ f b = c := by
  cases result with
  | error error => cases read
  | ok b => exact ⟨b, rfl, Except.ok.inj read⟩

theorem exists_of_bind {ε β γ : Type} {result : Except ε β} {f : β → Except ε γ} {c : γ}
    (read : result >>= f = .ok c) : ∃ b, result = .ok b ∧ f b = .ok c := by
  cases result with
  | error error => cases read
  | ok b => exact ⟨b, rfl, read⟩

theorem decode_of_decodeWhole {decoder : Decoder α} {bytes : Bytes} {a : α}
    (decoded : decodeWhole decoder bytes = .ok a) :
    decoder depthLimit (Json.read bytes).1 = .ok a := by
  obtain ⟨b, found, ended⟩ := exists_of_bind decoded
  have same : b = a := by
    dsimp only at ended
    split at ended
    · split at ended
      · exact Except.ok.inj ended
      · cases ended
    · exact Except.ok.inj ended
  exact same ▸ found

theorem eq_ok_of_within {β : Type} {step : Step} {result : Except Failure β} {b : β}
    (read : Json.within step result = .ok b) : result = .ok b := by
  cases result with
  | error failure => cases read
  | ok b => exact read

theorem decodeInteger_bounds {low high n : Int} {doc : Doc}
    (read : decodeInteger low high depth doc = .ok n) : low ≤ n ∧ n ≤ high := by
  unfold decodeInteger at read
  split at read
  · split at read
    · split at read
      · rename_i inside
        cases read
        exact inside
      · cases read
    · cases read
    · cases read
  · cases read

theorem decodeNatBelow_lt {bound n : Nat} {doc : Doc}
    (read : decodeNatBelow bound depth doc = .ok n) : n < bound := by
  obtain ⟨m, found, rfl⟩ := exists_of_map read
  obtain ⟨low, high⟩ := decodeInteger_bounds found
  omega

theorem decodeNullable_some {β : Type} {value : Decoder β} {doc : Doc} {b : β}
    (read : decodeNullable value depth doc = .ok (some b)) : value depth doc = .ok b := by
  unfold decodeNullable at read
  split at read
  · cases read
  · obtain ⟨a, found, same⟩ := exists_of_map read
    rw [found, Option.some.inj same]

theorem decodeItems_mem {β : Type} {item : Decoder β} {index : Nat} {items : Items}
    {values : List β} (read : decodeItems item depth index items = .ok values) :
    ∀ b ∈ values, ∃ doc, item depth doc = .ok b := by
  match items with
  | .closed =>
      cases read
      exact List.forall_mem_nil _
  | .broken _ | .trailing _ => cases read
  | .item value rest =>
      rw [decodeItems] at read
      obtain ⟨first, found, read⟩ := exists_of_bind read
      obtain ⟨others, foundOthers, read⟩ := exists_of_bind read
      obtain rfl := Except.ok.inj read
      exact List.forall_mem_cons.mpr ⟨⟨value, eq_ok_of_within found⟩, decodeItems_mem foundOthers⟩

theorem decodeList_mem {β : Type} {item : Decoder β} {doc : Doc} {values : List β}
    (read : decodeList item depth doc = .ok values) :
    ∀ b ∈ values, ∃ inner doc, item inner doc = .ok b := by
  unfold decodeList at read
  split at read
  · obtain ⟨inner, -, read⟩ := exists_of_bind read
    exact fun b member => ⟨inner, decodeItems_mem read b member⟩
  · cases read

theorem Field.exists_of_update {β : Type} {name : String} {required : Bool} {value : Decoder β}
    {put : β → α → α} {doc : Doc} {update : α → α}
    (read : (Field.ofDecoder name required value put).update depth doc = .ok update) :
    ∃ b, value depth doc = .ok b ∧ put b = update :=
  exists_of_map read

theorem Members.alike_refl (allowed : String → String → String → Prop) (members : Members) :
    members.Alike allowed members := by
  match members with
  | .member key value rest => exact .same key value (Members.alike_refl allowed rest)
  | .closed | .broken _ | .unkeyed _ | .brokenKey _ _ | .keyAlone _ _ => exact .ended nofun

theorem Items.alike_refl (allowed : String → String → String → Prop) (names : List String)
    (items : Items) : items.Alike allowed names items := by
  match items with
  | .item value rest => exact .same value (Items.alike_refl allowed names.tail rest)
  | .closed | .broken _ | .trailing _ => exact .ended nofun

/-- A record that has been read is as the blank one was, in what every field keeps when it puts its
value into a record. -/
theorem decodeRecord_keeps {P : α → Prop}
    (keeps : ∀ field ∈ fields, ∀ depth doc update, field.update depth doc = .ok update →
      ∀ record, P record → P (update record))
    {blank result : α} (start : P blank) {doc : Doc}
    (read : decodeRecord blank fields depth doc = .ok result) : P result := by
  -- Two readings of one document are related in what the first of them holds.
  have kept : ∀ field ∈ fields, field.Keeps (fun first _ => P first) fun _ _ => False := by
    rintro field member depth doc _ (rfl | ⟨_, _, no⟩)
    · cases update : field.update depth doc with
      | error failure => exact .error rfl
      | ok change => exact .ok fun first _ => keeps field member depth doc change update first
    · cases no
  have holds (alike : doc.Alike (fun _ _ _ => False) (fields.map (·.name)) doc) : P result := by
    have agree := decodeRecord_alike kept alike depth start
    rw [read] at agree
    cases agree with
    | ok holds => exact holds
  cases doc with
  | object members => exact holds (.object (members.alike_refl _))
  | array items => exact holds (.array (items.alike_refl _ _))
  | _ => cases read

/-! ## Printed objects -/

/-- Entries that denote the members of an object one by one. -/
abbrev Denote (entries : List (String × Doc)) (members : List (String × Value)) : Prop :=
  List.Forall₂ (fun entry member => entry.1 = member.1 ∧ Denotes entry.2 member.2) entries members

theorem exists_printed {members : List (String × Value)}
    (each : ∀ member ∈ members, IsPrinted member.2) :
    ∃ docs entries, MembersPrint members docs ∧ Entries docs entries ∧ Denote entries members := by
  induction members with
  | nil => exact ⟨.closed, [], .nil, .nil, .nil⟩
  | cons member members ih =>
      obtain ⟨key, value⟩ := member
      obtain ⟨⟨doc, prints, denotes⟩, others⟩ := List.forall_mem_cons.mp each
      obtain ⟨docs, entries, print, written, denote⟩ := ih others
      exact ⟨.member (textPieces key) doc docs, (key, doc) :: entries, .cons prints print,
        .cons (spells_textPieces key) written, .cons ⟨rfl, denotes⟩ denote⟩

/-- An object is printed as a text with an entry for each of its members. -/
theorem objectText_printed {members : List (String × Value)}
    (each : ∀ member ∈ members, IsPrinted member.2) :
    ∃ entries, ObjectText (utf8 (Value.object members).toText) entries ∧
      Denote entries members := by
  obtain ⟨docs, entries, print, written, denote⟩ := exists_printed each
  exact ⟨entries, ⟨docs, print.prints.wholeText, written⟩, denote⟩

theorem Denote.keys_eq {members : List (String × Value)} (denote : Denote entries members) :
    entries.map (·.1) = members.map (·.1) := by
  induction denote with
  | nil => rfl
  | cons same _ ih => rw [List.map_cons, List.map_cons, same.1, ih]

/-- The entries give the member of each key, provided that no key stands twice. -/
theorem Denote.gives {members : List (String × Value)} (denote : Denote entries members)
    (distinct : (members.map (·.1)).Nodup) (key : String) :
    Gives entries key (member? key members) := by
  induction denote with
  | nil => exact .nothing rfl
  | @cons entry member entries members same denote ih =>
      obtain ⟨name, doc⟩ := entry
      obtain ⟨_, value⟩ := member
      obtain ⟨rfl, denotes⟩ := same
      obtain ⟨fresh, distinct⟩ := List.nodup_cons.mp distinct
      rw [member?]
      by_cases here : name = key
      · subst here
        rw [if_pos rfl]
        have others : entries.filter (·.1 == name) = [] := by
          refine List.filter_eq_nil_iff.mpr fun entry inside same => fresh ?_
          rw [← Denote.keys_eq denote]
          exact List.mem_map.mpr ⟨entry, inside, by simpa using same⟩
        exact .once (by rw [List.filter_cons_of_pos (by simp), others]) denotes
      · rw [if_neg here]
        have passed : ((name, doc) :: entries).filter (·.1 == key) =
            entries.filter (·.1 == key) := List.filter_cons_of_neg (by simpa using here)
        have gives := ih distinct
        generalize member? key members = given at gives ⊢
        cases gives with
        | nothing alone => exact .nothing (passed.trans alone)
        | once alone denotes => exact .once (passed.trans alone) denotes

end KeyBound.Json
