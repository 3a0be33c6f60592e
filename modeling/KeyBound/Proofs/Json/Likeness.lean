import KeyBound.Json.Decode

/-!
# Documents with other texts in some places

Documents of one record that are the same but for the texts of some of its fields. What is read
from them is the same but for these fields, and what is wrong with one of them is wrong with the
other.
-/

set_option autoImplicit false

namespace KeyBound

/-- Two results are alike: values that are related, or errors that are. -/
inductive Agree {ε β γ : Type} (E : ε → ε → Prop) (R : β → γ → Prop) :
    Except ε β → Except ε γ → Prop where
  | ok {first : β} {second : γ} : R first second → Agree E R (.ok first) (.ok second)
  | error {first second : ε} : E first second → Agree E R (.error first) (.error second)

theorem Agree.refl {ε β : Type} {E : ε → ε → Prop} {R : β → β → Prop}
    (errors : ∀ error, E error error) (values : ∀ value, R value value) (result : Except ε β) :
    Agree E R result result := by
  cases result with
  | ok value => exact .ok (values value)
  | error error => exact .error (errors error)

theorem Agree.mono {ε β γ : Type} {E F : ε → ε → Prop} {R S : β → γ → Prop} {first : Except ε β}
    {second : Except ε γ} (agree : Agree E R first second)
    (errors : ∀ error other, E error other → F error other)
    (values : ∀ value other, R value other → S value other) : Agree F S first second := by
  cases agree with
  | ok related => exact .ok (values _ _ related)
  | error related => exact .error (errors _ _ related)

namespace Json

/-- Two string literals, the text of one of which may stand for that of the other. -/
inductive Doc.Replaces (allowed : String → String → Prop) : Doc → Doc → Prop where
  | texts {pieces others : List Piece} {text other : String} :
      textOf pieces = .ok text → textOf others = .ok other → allowed text other →
      Replaces allowed (.string pieces) (.string others)

/-- Members of an object that are the same but for the texts of some keys. -/
inductive Members.Alike (allowed : String → String → String → Prop) :
    Members → Members → Prop where
  | ended {members : Members} :
      (∀ key value rest, members ≠ .member key value rest) → Alike allowed members members
  | same {rest others : Members} (key : List Piece) (value : Doc) :
      Alike allowed rest others →
      Alike allowed (.member key value rest) (.member key value others)
  | replaced {key : List Piece} {name : String} {value other : Doc} {rest others : Members} :
      textOf key = .ok name → Doc.Replaces (allowed name) value other →
      Alike allowed rest others →
      Alike allowed (.member key value rest) (.member key other others)

inductive Items.Alike (allowed : String → String → String → Prop) :
    List String → Items → Items → Prop where
  | ended {names : List String} {items : Items} :
      (∀ value rest, items ≠ .item value rest) → Alike allowed names items items
  | same {names : List String} {rest others : Items} (value : Doc) :
      Alike allowed names.tail rest others →
      Alike allowed names (.item value rest) (.item value others)
  | replaced {name : String} {names : List String} {value other : Doc} {rest others : Items} :
      Doc.Replaces (allowed name) value other → Alike allowed names rest others →
      Alike allowed (name :: names) (.item value rest) (.item other others)

/-- Documents of a record with fields of some names that are the same but for the texts of some
fields. -/
inductive Doc.Alike (allowed : String → String → String → Prop) (names : List String) :
    Doc → Doc → Prop where
  | object {members others : Members} :
      Members.Alike allowed members others → Alike allowed names (.object members) (.object others)
  | array {items others : Items} :
      Items.Alike allowed names items others → Alike allowed names (.array items) (.array others)

/-! ## Fields -/

variable {β γ : Type} {R : β → β → Prop} {allowed : String → String → String → Prop}

/-- What a field does to records that are related leaves them related, if its value is the same or a
text in the place of the other. -/
def Field.Keeps (R : β → β → Prop) (allowed : String → String → Prop) (field : Field β) : Prop :=
  ∀ depth value other, value = other ∨ Doc.Replaces allowed value other →
    Agree Eq
      (fun update change => ∀ first second, R first second → R (update first) (change second))
      (field.update depth value) (field.update depth other)

section

variable {name : String} {required : Bool} {value : Decoder γ} {put : γ → β → β}
  {allowed : String → String → Prop}

theorem Field.keeps_of_same (fixed : ∀ text other, ¬ allowed text other)
    (same : ∀ x first second, R first second → R (put x first) (put x second)) :
    (Field.ofDecoder name required value put).Keeps R allowed := by
  rintro depth doc _ (rfl | ⟨_, _, changed⟩)
  · simp only [Field.ofDecoder]
    cases value depth doc with
    | error failure => exact .error rfl
    | ok x => exact .ok (same x)
  · exact absurd changed (fixed _ _)

theorem Field.keeps_of_texts {ofText : String → γ}
    (read : ∀ depth pieces text, textOf pieces = .ok text →
      value depth (.string pieces) = .ok (ofText text))
    (same : ∀ x first second, R first second → R (put x first) (put x second))
    (changed : ∀ text other first second, allowed text other → R first second →
      R (put (ofText text) first) (put (ofText other) second)) :
    (Field.ofDecoder name required value put).Keeps R allowed := by
  rintro depth doc _ (rfl | ⟨text, other, fits⟩)
  · simp only [Field.ofDecoder]
    cases value depth doc with
    | error failure => exact .error rfl
    | ok x => exact .ok (same x)
  · simp only [Field.ofDecoder, read depth _ _ text, read depth _ _ other]
    exact .ok fun first second => changed _ _ first second fits

end

/-! ## Records -/

variable {fields : List (Field β)} {first second : β}

/-- Updates that keep records related do so from one step further out. -/
private theorem agree_within {U : β → β → Prop} (step : Step) {result other : Except Failure β}
    (agree : Agree Eq U result other) :
    Agree Eq U (Json.within step result) (Json.within step other) := by
  cases agree with
  | ok related => exact .ok related
  | error same => exact .error (congrArg _ same)

theorem Doc.Replaces.defect?_eq {allowed : String → String → Prop} {value other : Doc}
    (replaces : Replaces allowed value other) : value.defect? = other.defect? := by
  cases replaces
  rfl

private theorem decodeMember_alike {key : List Piece} {value other : Doc} {rest others : Members}
    (keeps : ∀ field ∈ fields, field.Keeps R (allowed field.name)) {depth : Nat}
    {seen : List String} (related : R first second)
    (values : ∀ name, textOf key = .ok name →
      value = other ∨ Doc.Replaces (allowed name) value other)
    (alike : ∀ seen first second, R first second →
      Agree Eq R (decodeMembers fields depth seen first rest)
        (decodeMembers fields depth seen second others)) :
    Agree Eq R (decodeMembers fields depth seen first (.member key value rest))
      (decodeMembers fields depth seen second (.member key other others)) := by
  unfold decodeMembers
  cases named : textOf key with
  | error defect =>
      simp only [keyText, named]
      exact .error rfl
  | ok name =>
      have values := values name named
      have key' : keyText key = .ok name := by rw [keyText, named]; rfl
      rw [key']
      simp only [bind, Except.bind]
      cases found : field? name fields with
      | none =>
          have defects : value.defect? = other.defect? := by
            rcases values with rfl | replaces
            · rfl
            · exact replaces.defect?_eq
          rw [defects]
          cases other.defect? with
          | some defect => exact .error rfl
          | none => exact alike seen first second related
      | some field =>
          have known : field.name = name := by simpa using List.find?_some found
          have kept := keeps field (List.mem_of_find?_eq_some found) depth value other
            (known ▸ values)
          dsimp only
          split
          · exact .error rfl
          · have updates := agree_within (.key name) kept
            generalize within (.key name) (field.update depth value) = update at updates
            generalize within (.key name) (field.update depth other) = change at updates
            cases updates with
            | error same => exact .error same
            | ok kept => exact alike _ _ _ (kept _ _ related)

theorem decodeMembers_alike {members others : Members}
    (keeps : ∀ field ∈ fields, field.Keeps R (allowed field.name))
    (alike : members.Alike allowed others) (depth : Nat) (seen : List String)
    (related : R first second) :
    Agree Eq R (decodeMembers fields depth seen first members)
      (decodeMembers fields depth seen second others) := by
  induction alike generalizing seen first second with
  | @ended members last =>
      cases members with
      | member key value rest => exact absurd rfl (last key value rest)
      | closed =>
          unfold decodeMembers
          split
          · exact .ok related
          · exact .error rfl
      | keyAlone key defect =>
          unfold decodeMembers
          cases keyText key <;> exact .error rfl
      | broken defect => exact .error rfl
      | unkeyed defect => exact .error rfl
      | brokenKey pieces defect => exact .error rfl
  | same key value _ ih =>
      exact decodeMember_alike keeps related (fun _ _ => .inl rfl) fun seen _ _ => ih seen
  | @replaced key name _ _ _ _ named replaces _ ih =>
      refine decodeMember_alike keeps related (fun other same => ?_) fun seen _ _ => ih seen
      obtain rfl : name = other := Except.ok.inj (named.symm.trans same)
      exact .inr replaces

theorem decodePositions_alike {items others : Items}
    (keeps : ∀ field ∈ fields, field.Keeps R (allowed field.name))
    (alike : items.Alike allowed (fields.map (·.name)) others) (depth index : Nat)
    (related : R first second) :
    Agree Eq R (decodePositions depth index fields first items)
      (decodePositions depth index fields second others) := by
  -- An item of a field, before items that are alike for the fields after it.
  have step {field : Field β} {fields : List (Field β)} {value other : Doc} {rest others : Items}
      {index : Nat} {first second : β} (kept : field.Keeps R (allowed field.name))
      (values : value = other ∨ Doc.Replaces (allowed field.name) value other)
      (related : R first second)
      (alike : ∀ first second, R first second →
        Agree Eq R (decodePositions depth (index + 1) fields first rest)
          (decodePositions depth (index + 1) fields second others)) :
      Agree Eq R (decodePositions depth index (field :: fields) first (.item value rest))
        (decodePositions depth index (field :: fields) second (.item other others)) := by
    have updates := agree_within (.index index) (kept depth value other values)
    simp only [decodePositions, bind, Except.bind]
    generalize within (.index index) (field.update depth value) = update at updates
    generalize within (.index index) (field.update depth other) = change at updates
    cases updates with
    | error same => exact .error same
    | ok kept => exact alike _ _ (kept _ _ related)
  generalize listed : fields.map (·.name) = names at alike
  induction alike generalizing fields index first second with
  | @ended names items last =>
      cases items with
      | item value rest => exact absurd rfl (last value rest)
      | closed =>
          cases fields with
          | nil => exact .ok related
          | cons field fields =>
              unfold decodePositions
              split
              · exact .ok related
              · exact .error rfl
      | broken defect => cases fields <;> exact .error rfl
      | trailing defect => cases fields <;> exact .error rfl
  | @same names rest others value _ ih =>
      cases fields with
      | nil => exact .error rfl
      | cons field fields =>
          obtain ⟨kept, keeps⟩ := List.forall_mem_cons.mp keeps
          subst listed
          exact step kept (.inl rfl) related fun _ _ related => ih keeps _ related rfl
  | @replaced name names value other rest others replaces _ ih =>
      cases fields with
      | nil => cases listed
      | cons field fields =>
          obtain ⟨kept, keeps⟩ := List.forall_mem_cons.mp keeps
          cases listed
          exact step kept (.inr replaces) related fun _ _ related => ih keeps _ related rfl

/-- What is read from documents of a record that are alike is related, if every field leaves related
records related. -/
theorem decodeRecord_alike {blank : β} {doc other : Doc}
    (keeps : ∀ field ∈ fields, field.Keeps R (allowed field.name))
    (alike : doc.Alike allowed (fields.map (·.name)) other) (depth : Nat)
    (related : R blank blank) :
    Agree Eq R (decodeRecord blank fields depth doc) (decodeRecord blank fields depth other) := by
  cases alike with
  | object alike =>
      simp only [decodeRecord, bind, Except.bind]
      cases descend depth with
      | error failure => exact .error rfl
      | ok depth => exact decodeMembers_alike keeps alike depth [] related
  | array alike =>
      simp only [decodeRecord, bind, Except.bind]
      cases descend depth with
      | error failure => exact .error rfl
      | ok depth => exact decodePositions_alike keeps alike depth 0 related

end Json

end KeyBound
