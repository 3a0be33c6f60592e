import KeyBound.Proofs.Json.Usable

/-!
# How far a document is read

What the reader has taken from a text when it stops. It stops behind a value of the grammar and
leaves the rest of the text as it is, or at a document that cannot be passed over. Decoders that
accept complete documents only have therefore read a value of the grammar wherever they succeed.
-/

set_option autoImplicit false

namespace KeyBound.Json

/-! ## Literals -/

theorem unitText_of_unit? {a b c d : UInt8} {n : Nat} (read : unit? a b c d = some n) :
    UnitText [a, b, c, d] n := by
  have digit {b : UInt8} {n : Nat} (value : Hex.byteValue? b = some n) : HexDigit b n := by
    have table : ∀ m < 256, ∀ n ∈ Hex.byteValue? (.ofNat m), HexDigit (.ofNat m) n := by
      unfold HexDigit
      decide +kernel
    have listed := table b.toNat b.toNat_lt n
    rw [UInt8.ofNat_toNat] at listed
    exact listed value
  simp only [unit?, Option.bind_eq_bind, Option.bind_eq_some_iff, Option.some.injEq] at read
  obtain ⟨k, first, l, second, m, third, n, fourth, rfl⟩ := read
  exact .digits (digit first) (digit second) (digit third) (digit fourth)

theorem mem_shortEscapes {letter : UInt8} {c : Char} (known : escaped? letter = some c) :
    (letter, c) ∈ shortEscapes := by
  unfold escaped? at known
  repeat' split at known
  all_goals cases known
  all_goals (rename_i same; subst same; decide)

/-- A string literal that is read ends at the first quote that is not escaped. -/
theorem stringText_of_read {bytes rest : Bytes} {pieces : List Piece}
    (read : readString bytes = (pieces, .ok rest)) :
    ∃ text, bytes = text ++ 0x22 :: rest ∧ StringText text pieces := by
  fun_induction readString bytes generalizing pieces with
  | case1 => cases read
  | case2 =>
      cases read
      exact ⟨[], rfl, .nil⟩
  | case3 => cases read
  | case4 a b c d more n known inner result readMore _ ih =>
      cases read
      obtain ⟨text, rfl, written⟩ := ih readMore
      exact ⟨0x5C :: 0x75 :: [a, b, c, d] ++ text, rfl, .unit (unitText_of_unit? known) written⟩
  | case5 => cases read
  | case6 => cases read
  | case7 letter more _ c known inner result readMore _ ih =>
      cases read
      obtain ⟨text, rfl, written⟩ := ih readMore
      exact ⟨0x5C :: letter :: text, rfl, .short (mem_shortEscapes known) written⟩
  | case8 => cases read
  | case9 => cases read
  | case10 b more noQuote noSlash visible inner result readMore ih =>
      cases read
      obtain ⟨text, rfl, written⟩ := ih readMore
      exact ⟨b :: text, rfl, .byte noQuote noSlash visible written⟩

variable {bytes rest : Bytes}

theorem digitBytes_of_read {digits : List Nat} (read : readSomeDigits bytes = .ok (digits, rest)) :
    IsDecimal digits ∧ bytes = digitBytes digits ++ rest := by
  have value {b : UInt8} (digit : isDigit b = true) :
      b.toNat - 48 < 10 ∧ UInt8.ofNat (0x30 + (b.toNat - 48)) = b := by
    have bounds : 48 ≤ b.toNat ∧ b.toNat ≤ 57 := by
      simpa [isDigit, UInt8.le_iff_toNat_le] using digit
    refine ⟨by omega, ?_⟩
    rw [show 0x30 + (b.toNat - 48) = b.toNat by omega, UInt8.ofNat_toNat]
  unfold readSomeDigits at read
  split at read
  · cases read
  · rename_i b more
    split at read
    · rename_i digit
      cases read
      have every : ∀ c ∈ (b :: more).takeWhile isDigit, isDigit c = true :=
        fun c => List.mem_takeWhile_imp
      have same : digitBytes (((b :: more).takeWhile isDigit).map (·.toNat - 48)) =
          (b :: more).takeWhile isDigit := by
        rw [digitBytes, List.map_map]
        conv => rhs; rw [← List.map_id ((b :: more).takeWhile isDigit)]
        exact List.map_congr_left fun c member => (value (every c member)).2
      refine ⟨⟨?_, ?_⟩, ?_⟩
      · simp [digit]
      · intro d member
        obtain ⟨c, inside, rfl⟩ := List.mem_map.mp member
        exact (value (every c inside)).1
      · rw [same, List.takeWhile_append_dropWhile]
    · cases read

theorem exponentText_of_read {exponent : Option (Bool × List Nat)}
    (read : readExponent bytes = .ok (exponent, rest)) :
    ∃ text, bytes = text ++ rest ∧ ExponentText text exponent := by
  have power {mark : UInt8} {sign after : Bytes} {negative : Bool}
      (marked : mark = 0x65 ∨ mark = 0x45) (signed : SignText sign negative)
      (read : (readSomeDigits after).map (fun read => (some (negative, read.1), read.2)) =
        .ok (exponent, rest)) :
      ∃ text, mark :: sign ++ after = text ++ rest ∧ ExponentText text exponent := by
    obtain ⟨⟨digits, left⟩, found, same⟩ := exists_of_map read
    cases same
    obtain ⟨decimal, rfl⟩ := digitBytes_of_read found
    exact ⟨_, (List.append_assoc ..).symm, .power marked signed decimal⟩
  unfold readExponent at read
  split at read
  · cases read
    exact ⟨[], rfl, .none⟩
  · split at read
    · rename_i marked
      dsimp only at read
      split at read
      · cases read
      · split at read
        · rename_i minus
          exact minus ▸ power marked .minus read
        · split at read
          · rename_i plus
            exact plus ▸ power marked .plus read
          · exact power marked .none read
    · cases read
      exact ⟨[], rfl, .none⟩

theorem fractionText_of_read {fraction : List Nat}
    (read : readFraction bytes = .ok (fraction, rest)) :
    ∃ text, bytes = text ++ rest ∧ FractionText text fraction := by
  unfold readFraction at read
  split at read
  · cases read
    exact ⟨[], rfl, .none⟩
  · split at read
    · rename_i point
      obtain ⟨decimal, rfl⟩ := digitBytes_of_read read
      exact ⟨_, point ▸ rfl, .point decimal⟩
    · cases read
      exact ⟨[], rfl, .none⟩

theorem whole_of_read {whole : List Nat} (read : readWhole bytes = .ok (whole, rest)) :
    IsDecimal whole ∧ (whole.head? = some 0 → whole = [0]) ∧ bytes = digitBytes whole ++ rest := by
  obtain ⟨⟨digits, left⟩, found, single⟩ := exists_of_bind read
  obtain ⟨decimal, split⟩ := digitBytes_of_read found
  dsimp only at single
  split at single
  · cases single
  · rename_i other
    cases single
    refine ⟨decimal, fun zero => ?_, split⟩
    match whole, zero, other with
    | [0], _, _ => rfl
    | 0 :: d :: more, _, other => exact absurd rfl (other d more)

/-- A number that is read ends behind its last digit. -/
theorem magnitudeText_of_read {negative : Bool} {literal : NumberLiteral}
    (read : readNumber negative bytes = .ok (literal, rest)) :
    ∃ text, bytes = text ++ rest ∧ MagnitudeText negative text literal := by
  obtain ⟨⟨whole, afterWhole⟩, readInteger, read⟩ := exists_of_bind read
  obtain ⟨⟨fraction, afterFraction⟩, readPoint, read⟩ := exists_of_bind read
  obtain ⟨⟨exponent, afterExponent⟩, readPower, read⟩ := exists_of_bind read
  cases read
  obtain ⟨decimal, alone, rfl⟩ := whole_of_read readInteger
  obtain ⟨point, rfl, pointed⟩ := fractionText_of_read readPoint
  obtain ⟨power, rfl, raised⟩ := exponentText_of_read readPower
  refine ⟨_, ?_, .parts decimal alone pointed raised⟩
  simp only [List.append_assoc]

theorem word_of_read {word : Bytes} (read : readWord word bytes = .ok rest) :
    bytes = word ++ rest := by
  fun_induction readWord word bytes with
  | case1 => exact Except.ok.inj read
  | case2 => cases read
  | case3 b word more ih => rw [ih read, List.cons_append]
  | case4 => cases read

/-! ## Values -/

/-- How far a text is read: behind a part that is written as the grammar says, or not to the end of
one, which leaves a defect behind. -/
inductive Extent {α : Type} (Written : Bytes → α → Prop) (defect? : α → Option Defect)
    (bytes : Bytes) : α × Option Bytes → Prop where
  | complete {a : α} {text rest : Bytes} :
      bytes = text ++ rest → Written text a → Extent Written defect? bytes (a, some rest)
  | broken {a : α} : defect? a ≠ none → Extent Written defect? bytes (a, none)

def SpacedText (bytes : Bytes) (doc : Doc) : Prop :=
  ∃ space text, bytes = space ++ text ∧ Blank space ∧ ValueText text doc

def ItemText (bytes : Bytes) (items : Items) : Prop :=
  ∀ first lead, Lead first lead → ItemsText first (lead ++ bytes) items

/-- A member after the opening quote of its key, and the members after it. -/
def MemberText (bytes : Bytes) (members : Members) : Prop :=
  ∀ first lead, Lead first lead → MembersText first (lead ++ 0x22 :: bytes) members

theorem Extent.map {α β : Type} {Written : Bytes → α → Prop} {Written' : Bytes → β → Prop}
    {defect? : α → Option Defect} {defect?' : β → Option Defect} {f : α → β}
    {result : α × Option Bytes} (extent : Extent Written defect? bytes result) (front : Bytes)
    (written : ∀ text a, Written text a → Written' (front ++ text) (f a))
    (kept : ∀ a, defect? a ≠ none → defect?' (f a) ≠ none) :
    Extent Written' defect?' (front ++ bytes) (f result.1, result.2) := by
  cases extent with
  | complete split inner => exact .complete (by rw [split, List.append_assoc]) (written _ _ inner)
  | broken defect => exact .broken (kept _ defect)

theorem Extent.after {α : Type} {Written Written' : Bytes → α → Prop} {defect? : α → Option Defect}
    {result : α × Option Bytes} (extent : Extent Written defect? bytes result) (front : Bytes)
    (written : ∀ text a, Written text a → Written' (front ++ text) a) :
    Extent Written' defect? (front ++ bytes) result :=
  extent.map (f := id) front written fun _ => id

theorem exists_space (bytes : Bytes) :
    ∃ space, bytes = space ++ skipSpace bytes ∧ Blank space :=
  ⟨bytes.takeWhile isSpace, List.takeWhile_append_dropWhile.symm, fun _ => List.mem_takeWhile_imp⟩

theorem Lead.append_blank {first : Bool} {lead space : Bytes} (leads : Lead first lead)
    (blank : Blank space) : Lead first (lead ++ space) := by
  cases leads with
  | first before => exact .first (List.forall_mem_append.mpr ⟨before, blank⟩)
  | comma before after =>
      rw [List.append_assoc, List.cons_append]
      exact .comma before (List.forall_mem_append.mpr ⟨after, blank⟩)

theorem Extent.items {first : Bool} {lead : Bytes} {result : Items × Option Bytes}
    (extent : Extent ItemText Items.defect? rest result) (leads : Lead first lead) :
    Extent (ItemsText first) Items.defect? (lead ++ rest) result :=
  extent.after lead fun _ _ written => written first lead leads

theorem Extent.members {first : Bool} {lead : Bytes} {result : Members × Option Bytes}
    (extent : Extent MemberText Members.defect? rest result) (leads : Lead first lead) :
    Extent (MembersText first) Members.defect? (lead ++ 0x22 :: rest) result := by
  rw [List.append_cons]
  refine extent.after _ fun text members written => ?_
  rw [← List.append_cons]
  exact written first lead leads

theorem wordNode_extent {word : Bytes} {value : Doc} {b : UInt8}
    (written : ValueText (b :: word) value) :
    Extent ValueText Doc.defect? (b :: bytes) (wordNode word value bytes) := by
  unfold wordNode
  split
  · rename_i rest read
    rw [word_of_read read]
    exact .complete rfl written
  · exact .broken (Option.some_ne_none _)

theorem numberNode_extent (negative : Bool) (bytes : Bytes) :
    Extent (fun text doc => ∃ literal, doc = .number literal ∧ MagnitudeText negative text literal)
      Doc.defect? bytes (numberNode negative bytes) := by
  unfold numberNode
  split
  · rename_i literal rest read
    obtain ⟨text, split, magnitude⟩ := magnitudeText_of_read read
    exact .complete split ⟨literal, rfl, magnitude⟩
  · exact .broken (Option.some_ne_none _)

mutual

/-- The reader stops behind a value of the grammar, or it has met a defect. -/
theorem readValue_extent (fuel : Nat) (bytes : Bytes) :
    Extent SpacedText Doc.defect? bytes (readValue fuel bytes) := by
  match fuel with
  | 0 => exact .broken (Option.some_ne_none _)
  | fuel + 1 =>
      obtain ⟨space, split, blank⟩ := exists_space bytes
      rw [readValue]
      cases left : skipSpace bytes with
      | nil => exact .broken (Option.some_ne_none _)
      | cons b rest =>
          rw [split, left]
          refine Extent.after ?_ space fun text doc written =>
            (⟨space, text, rfl, blank, written⟩ : SpacedText (space ++ text) doc)
          dsimp only
          split_ifs with quote bracket brace word word word minus
          · split
            · rename_i pieces after read
              obtain ⟨text, rfl, written⟩ := stringText_of_read read
              exact .complete (by simp [quote]) (.string written)
            · exact .broken (Option.some_ne_none _)
          · exact (readItems_extent fuel true rest).map [b]
              (fun text items written => bracket ▸ .array written) fun _ => id
          · exact (readMembers_extent fuel true rest).map [b]
              (fun text members written => brace ▸ .object written) fun _ => id
          · exact wordNode_extent (word ▸ .null)
          · exact wordNode_extent (word ▸ .trueWord)
          · exact wordNode_extent (word ▸ .falseWord)
          · refine (numberNode_extent true rest).after [b] ?_
            rintro text doc ⟨literal, rfl, magnitude⟩
            exact minus ▸ .negative magnitude
          · refine (numberNode_extent false (b :: rest)).after [] ?_
            rintro text doc ⟨literal, rfl, magnitude⟩
            exact .positive magnitude
          · exact .broken (Option.some_ne_none _)

theorem readItems_extent (fuel : Nat) (first : Bool) (bytes : Bytes) :
    Extent (ItemsText first) Items.defect? bytes (readItems fuel first bytes) := by
  match fuel with
  | 0 => exact .broken (Option.some_ne_none _)
  | fuel + 1 =>
      obtain ⟨space, split, blank⟩ := exists_space bytes
      rw [readItems]
      cases left : skipSpace bytes with
      | nil => exact .broken (Option.some_ne_none _)
      | cons b rest =>
          rw [split, left]
          dsimp only
          split
          case isTrue bracket =>
            exact .complete (by rw [bracket, List.append_cons]) (.closed blank)
          case isFalse =>
            cases first with
            | true =>
                exact (readItem_extent fuel (b :: rest)).items (.first blank)
            | false =>
                simp only [Bool.false_eq_true, ↓reduceIte]
                split
                case isTrue comma =>
                  obtain ⟨after, split, blankAfter⟩ := exists_space rest
                  cases left : skipSpace rest with
                  | nil => exact .broken (Option.some_ne_none _)
                  | cons c more =>
                      rw [split, left, comma, ← List.cons_append, ← List.append_assoc]
                      dsimp only
                      split
                      case isTrue => exact .broken (Option.some_ne_none _)
                      case isFalse =>
                        exact (readItem_extent fuel (c :: more)).items (.comma blank blankAfter)
                case isFalse => exact .broken (Option.some_ne_none _)

theorem readItem_extent (fuel : Nat) (bytes : Bytes) :
    Extent ItemText Items.defect? bytes (readItem fuel bytes) := by
  match fuel with
  | 0 => exact .broken (Option.some_ne_none _)
  | fuel + 1 =>
      have value := readValue_extent fuel bytes
      rw [readItem]
      generalize readValue fuel bytes = result at value
      cases value with
      | broken defect => exact .broken (by simp [Items.defect?])
      | @complete value text rest split written =>
          obtain ⟨space, text, rfl, blank, written⟩ := written
          subst split
          refine (readItems_extent fuel false rest).map _ ?_ ?_
          · intro more items others first lead leads
            have whole := ItemsText.item (leads.append_blank blank) written others
            simpa only [List.append_assoc] using whole
          · intro items defect
            simp [Items.defect?, defect]

theorem readMembers_extent (fuel : Nat) (first : Bool) (bytes : Bytes) :
    Extent (MembersText first) Members.defect? bytes (readMembers fuel first bytes) := by
  match fuel with
  | 0 => exact .broken (Option.some_ne_none _)
  | fuel + 1 =>
      obtain ⟨space, split, blank⟩ := exists_space bytes
      rw [readMembers]
      cases left : skipSpace bytes with
      | nil => exact .broken (Option.some_ne_none _)
      | cons b rest =>
          rw [split, left]
          dsimp only
          split
          case isTrue brace =>
            exact .complete (by rw [brace, List.append_cons]) (.closed blank)
          case isFalse =>
            cases first with
            | true =>
                simp only [↓reduceIte]
                split
                case isTrue quote =>
                  rw [quote]
                  exact (readMember_extent fuel rest).members (.first blank)
                case isFalse => exact .broken (Option.some_ne_none _)
            | false =>
                simp only [Bool.false_eq_true, ↓reduceIte]
                split
                case isTrue comma =>
                  obtain ⟨after, split, blankAfter⟩ := exists_space rest
                  cases left : skipSpace rest with
                  | nil => exact .broken (Option.some_ne_none _)
                  | cons c more =>
                      rw [split, left, comma, ← List.cons_append, ← List.append_assoc]
                      dsimp only
                      split
                      case isTrue quote =>
                        rw [quote]
                        exact (readMember_extent fuel more).members (.comma blank blankAfter)
                      case isFalse => exact .broken (Option.some_ne_none _)
                case isFalse => exact .broken (Option.some_ne_none _)

theorem readMember_extent (fuel : Nat) (bytes : Bytes) :
    Extent MemberText Members.defect? bytes (readMember fuel bytes) := by
  match fuel with
  | 0 => exact .broken (Option.some_ne_none _)
  | fuel + 1 =>
      rw [readMember]
      split
      · exact .broken (Option.some_ne_none _)
      · rename_i pieces afterKey read
        obtain ⟨key, rfl, keyed⟩ := stringText_of_read read
        obtain ⟨before, splitBefore, blankBefore⟩ := exists_space afterKey
        cases left : skipSpace afterKey with
        | nil => exact .broken (Option.some_ne_none _)
        | cons mark rest =>
            rw [left] at splitBefore
            dsimp only
            split
            case isFalse => exact .broken (Option.some_ne_none _)
            case isTrue colon =>
              have value := readValue_extent fuel rest
              generalize readValue fuel rest = result at value
              cases value with
              | broken defect => exact .broken (by simp [Members.defect?])
              | @complete value text more split written =>
                  obtain ⟨after, text, rfl, blankAfter, written⟩ := written
                  have whole : key ++ 0x22 :: afterKey =
                      key ++ 0x22 :: before ++ 0x3A :: after ++ text ++ more := by
                    simp [splitBefore, split, colon]
                  rw [whole]
                  refine (readMembers_extent fuel false more).map _ ?_ ?_
                  · intro others members later first lead leads
                    have whole :=
                      MembersText.member leads keyed blankBefore blankAfter written later
                    simpa only [List.append_assoc, List.cons_append] using whole
                  · intro members defect
                    simp [Members.defect?, defect]

end

/-! ## Decoders -/

/-- The decoders of the types that a body can be decoded as. -/
inductive Supported : {α : Type} → Decoder α → Prop where
  | bool : Supported decodeBool
  | integer (low high : Int) : Supported (decodeInteger low high)
  | text : Supported decodeText
  | value : Supported decodeValue
  | label {α : Type} (ofLabel? : String → Option α) : Supported (decodeLabel ofLabel?)
  | nullable {α : Type} {decoder : Decoder α} :
      Supported decoder → Supported (decodeNullable decoder)
  | list {α : Type} {decoder : Decoder α} : Supported decoder → Supported (decodeList decoder)
  | table {α : Type} {decoder : Decoder α} : Supported decoder → Supported (decodeTable decoder)
  | record {α : Type} (blank : α) {fields : List (Field α)} :
      (∀ field ∈ fields, Supported field.update) → Supported (decodeRecord blank fields)
  | map {α β : Type} {decoder : Decoder α} (f : α → β) :
      Supported decoder → Supported fun depth doc => (decoder depth doc).map f

/-- A decoder that accepts only documents that can be passed over. -/
def Decoder.IsStrict {α : Type} (decoder : Decoder α) : Prop :=
  ∀ depth doc a, decoder depth doc = .ok a → doc.defect? = none

section Strict

variable {α : Type} {decoder : Decoder α} {depth : Nat}

theorem decodeItems_strict (strict : decoder.IsStrict) {index : Nat} {items : Items}
    {values : List α} (read : decodeItems decoder depth index items = .ok values) :
    items.defect? = none := by
  match items with
  | .closed => rfl
  | .broken _ | .trailing _ => cases read
  | .item value rest =>
      rw [decodeItems] at read
      obtain ⟨first, found, read⟩ := exists_of_bind read
      obtain ⟨others, foundOthers, -⟩ := exists_of_bind read
      rw [Items.defect?, strict _ _ _ (eq_ok_of_within found),
        decodeItems_strict strict foundOthers, Option.or_none]

theorem decodeEntries_strict (strict : decoder.IsStrict) {entries found : List (String × α)}
    {members : Members} (read : decodeEntries decoder depth entries members = .ok found) :
    members.defect? = none := by
  match members with
  | .closed => rfl
  | .broken _ | .unkeyed _ | .brokenKey _ _ => cases read
  | .keyAlone key _ =>
      rw [decodeEntries] at read
      obtain ⟨name, -, read⟩ := exists_of_bind read
      cases read
  | .member key value rest =>
      rw [decodeEntries] at read
      obtain ⟨name, -, read⟩ := exists_of_bind read
      obtain ⟨first, found, read⟩ := exists_of_bind read
      rw [Members.defect?, strict _ _ _ (eq_ok_of_within found), decodeEntries_strict strict read,
        Option.or_none]

theorem decodeLabel_strict (ofLabel? : String → Option α) : (decodeLabel ofLabel?).IsStrict := by
  intro depth doc a read
  match doc with
  | .string _ => rfl
  | .object members =>
      obtain ⟨inner, -, inside⟩ := exists_of_bind read
      cases members with
      | member key value rest =>
          obtain ⟨text, -, labelled⟩ := exists_of_bind inside
          split at labelled
          · cases labelled
          · obtain ⟨nothing, tail, -⟩ := exists_of_bind labelled
            unfold decodeLabelTail at tail
            split at tail
            · split at tail
              · rfl
              · cases tail
              · cases tail
            · cases tail
      | keyAlone key defect =>
          obtain ⟨text, -, labelled⟩ := exists_of_bind inside
          cases labelled
      | _ => cases inside
  | .null | .bool _ | .number _ | .array _ | .absent | .broken _ | .brokenNumber _
  | .brokenString _ _ => cases read

theorem decodeMembers_strict {fields : List (Field α)}
    (strict : ∀ field ∈ fields, field.update.IsStrict) {seen : List String} {before record : α}
    {members : Members} (read : decodeMembers fields depth seen before members = .ok record) :
    members.defect? = none := by
  match members with
  | .closed => rfl
  | .broken _ | .unkeyed _ | .brokenKey _ _ => cases read
  | .keyAlone key _ =>
      rw [decodeMembers] at read
      obtain ⟨name, -, read⟩ := exists_of_bind read
      cases read
  | .member key value rest =>
      obtain ⟨name, -, ⟨field, update, known, updated, later⟩ | ⟨-, sound, later⟩⟩ :=
        decodeMembers_member read
      · have sound := strict field (field?_name known).1 _ _ _ updated
        rw [Members.defect?, sound, decodeMembers_strict strict later, Option.or_none]
      · rw [Members.defect?, sound, decodeMembers_strict strict later, Option.or_none]

theorem decodePositions_strict {fields : List (Field α)}
    (strict : ∀ field ∈ fields, field.update.IsStrict) {index : Nat} {before record : α}
    {items : Items} (read : decodePositions depth index fields before items = .ok record) :
    items.defect? = none := by
  match fields, items with
  | _, .closed => rfl
  | [], .broken _ | [], .trailing _ | [], .item _ _ => cases read
  | _ :: _, .broken _ | _ :: _, .trailing _ => cases read
  | field :: fields, .item value rest =>
      rw [decodePositions] at read
      obtain ⟨update, found, read⟩ := exists_of_bind read
      obtain ⟨here, later⟩ := List.forall_mem_cons.mp strict
      rw [Items.defect?, here _ _ _ (eq_ok_of_within found), decodePositions_strict later read,
        Option.or_none]

end Strict

theorem Supported.isStrict {α : Type} {decoder : Decoder α} (supported : Supported decoder) :
    decoder.IsStrict := by
  induction supported with
  | bool | integer _ _ | text =>
      intro depth doc a read
      cases doc <;> first | rfl | cases read
  | value => exact fun depth doc value read => (usable_of_decodeValue read).sound
  | label ofLabel? => exact decodeLabel_strict ofLabel?
  | nullable _ ih =>
      intro depth doc a read
      unfold decodeNullable at read
      split at read
      · rfl
      · obtain ⟨b, found, -⟩ := exists_of_map read
        exact ih _ _ b found
  | list _ ih =>
      intro depth doc a read
      cases doc with
      | array items =>
          obtain ⟨below, -, found⟩ := exists_of_bind read
          exact decodeItems_strict ih found
      | _ => cases read
  | table _ ih =>
      intro depth doc a read
      cases doc with
      | object members =>
          obtain ⟨below, -, found⟩ := exists_of_bind read
          exact decodeEntries_strict ih found
      | _ => cases read
  | record blank _ ih =>
      intro depth doc a read
      cases doc with
      | object members =>
          obtain ⟨below, -, found⟩ := exists_of_bind read
          exact decodeMembers_strict ih found
      | array items =>
          obtain ⟨below, -, found⟩ := exists_of_bind read
          exact decodePositions_strict ih found
      | _ => cases read
  | map f _ ih =>
      intro depth doc a read
      obtain ⟨b, found, -⟩ := exists_of_map read
      exact ih depth doc b found

/-! ## Texts -/

/-- A text with a value at its head, and what follows the value. -/
inductive HeadText : Bytes → Doc → Bytes → Prop where
  | value {before text after : Bytes} {doc : Doc} :
      Blank before → ValueText text doc → HeadText (before ++ text ++ after) doc after

variable {doc : Doc} {after : Bytes}

theorem HeadText.read (head : HeadText bytes doc after) (ends : Ends doc after) :
    Json.read bytes = (doc, some after) := by
  cases head with
  | value blank written =>
      refine readValue_of_text written blank ?_ ends
      simp only [List.length_append]
      omega

theorem HeadText.exists_taken (head : HeadText bytes doc after) :
    ∃ taken, bytes = taken ++ after := by
  cases head with
  | value => exact ⟨_, rfl⟩

theorem HeadText.wholeText (head : HeadText bytes doc after) (blank : Blank after) :
    WholeText bytes doc := by
  cases head with
  | value before written => exact .value before written blank

theorem WholeText.exists_head (whole : WholeText bytes doc) :
    ∃ after, HeadText bytes doc after ∧ Blank after := by
  cases whole with
  | value blank written behind => exact ⟨_, .value blank written, behind⟩

theorem HeadText.append (head : HeadText bytes doc after) (more : Bytes) :
    HeadText (bytes ++ more) doc (after ++ more) := by
  cases head with
  | value blank written =>
      rw [List.append_assoc]
      exact .value blank written

theorem skipSpace_eq_nil_iff {bytes : Bytes} : skipSpace bytes = [] ↔ Blank bytes :=
  List.dropWhile_eq_nil_iff

/-- A text that is read up to some place is one document only if white space follows. -/
theorem exists_wholeText_iff (read : read bytes = (doc, some after))
    (head : HeadText bytes doc after) : (∃ whole, WholeText bytes whole) ↔ Blank after := by
  constructor
  · rintro ⟨whole, written⟩
    obtain ⟨left, same, blank⟩ := read_of_text written
    cases read.symm.trans same
    exact skipSpace_eq_nil_iff.mp blank
  · intro blank
    exact ⟨doc, head.wholeText blank⟩

/-- Where a decoder accepts what has been read, that is a value at the head of the text. -/
theorem Supported.exists_read {α : Type} {decoder : Decoder α} (supported : Supported decoder)
    {a : α} (decoded : decoder depthLimit (read bytes).1 = .ok a) :
    ∃ doc after, read bytes = (doc, some after) ∧ HeadText bytes doc after := by
  have extent : Extent SpacedText Doc.defect? bytes (read bytes) := readValue_extent _ bytes
  have sound := supported.isStrict depthLimit _ a decoded
  generalize read bytes = result at extent sound
  cases extent with
  | broken defect => exact absurd sound defect
  | @complete doc _ rest split written =>
      obtain ⟨space, text, rfl, blank, written⟩ := written
      exact ⟨doc, rest, rfl, split ▸ .value blank written⟩

theorem Supported.exists_head {α : Type} {decoder : Decoder α} (supported : Supported decoder)
    {a : α} (decoded : decodeHead decoder bytes = .ok a) :
    ∃ doc after, HeadText bytes doc after ∧ decoder depthLimit doc = .ok a ∧
      ((∃ whole, WholeText bytes whole) ↔ Blank after) := by
  obtain ⟨doc, after, left, head⟩ := supported.exists_read decoded
  rw [decodeHead, left] at decoded
  exact ⟨doc, after, head, decoded, exists_wholeText_iff left head⟩

theorem Supported.exists_whole {α : Type} {decoder : Decoder α} (supported : Supported decoder)
    {a : α} (decoded : decodeWhole decoder bytes = .ok a) :
    ∃ doc, WholeText bytes doc ∧ decoder depthLimit doc = .ok a := by
  obtain ⟨b, accepted, -⟩ := exists_of_bind decoded
  obtain ⟨doc, after, left, head⟩ := supported.exists_read accepted
  rw [decodeWhole, left] at decoded
  obtain ⟨b, found, ended⟩ := exists_of_bind decoded
  dsimp only at ended
  split at ended
  · rename_i empty
    cases ended
    have blank : Blank after := skipSpace_eq_nil_iff.mp (List.isEmpty_iff.mp empty)
    exact ⟨doc, head.wholeText blank, found⟩
  · cases ended

end KeyBound.Json
