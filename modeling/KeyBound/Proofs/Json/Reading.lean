import KeyBound.Proofs.Json.Grammar
import KeyBound.Proofs.Json.Meaning

/-!
# Printed values are read back

The document of each kind of printed value. What is printed of a value is a text of the grammar, and
denotes the value.
-/

set_option autoImplicit false

namespace KeyBound.Json

/-! ## Literals of text -/

def charPieces (c : Char) : List Piece :=
  if c = '"' ∨ c = '\\' ∨ c = '\n' ∨ c = '\r' ∨ c = '\t' ∨ c = '\x08' ∨ c = '\x0c' then [.char c]
  else if c.toNat < 0x20 then [.unit c.toNat]
  else (Utf8.encodeChar c).map .byte

def textPieces (text : String) : List Piece := text.toList.flatMap charPieces

theorem spells_charPieces (c : Char) {pieces : List Piece} {chars : List Char}
    (spells : Spells pieces chars) : Spells (charPieces c ++ pieces) (c :: chars) := by
  unfold charPieces
  split
  · exact .escape spells
  · split
    · exact .unit (by omega) spells
    · exact .plain spells

theorem spells_textPieces (text : String) : Spells (textPieces text) text.toList := by
  unfold textPieces
  induction text.toList with
  | nil => exact .nil
  | cons c chars ih => exact spells_charPieces c ih

@[simp] theorem textOf_textPieces (text : String) : textOf (textPieces text) = .ok text :=
  textOf_of_spells (spells_textPieces text)

private theorem encodeChar_plain {c : Char} (quote : c ≠ '"') (slash : c ≠ '\\')
    (visible : ¬ c.toNat < 0x20) :
    ∀ b ∈ Utf8.encodeChar c, b ≠ 0x22 ∧ b ≠ 0x5C ∧ ¬ b < 0x20 := by
  intro b member
  by_cases ascii : c.toNat < 0x80
  · rw [Utf8.encodeChar_of_ascii ascii] at member
    obtain rfl := List.mem_singleton.mp member
    have byte : (UInt8.ofNat c.toNat).toNat = c.toNat :=
      UInt8.toNat_ofNat_of_lt (show c.toNat < 256 by omega)
    have noQuote : c.toNat ≠ 0x22 := fun same => quote (Char.toNat_inj.mp same)
    have noSlash : c.toNat ≠ 0x5C := fun same => slash (Char.toNat_inj.mp same)
    simp only [ne_eq, ← UInt8.toNat_inj, UInt8.lt_iff_toNat_lt, byte, UInt8.reduceToNat]
    exact ⟨noQuote, noSlash, visible⟩
  · have above := Utf8.encodeChar_of_wide (Nat.not_lt.mp ascii) b member
    simp only [ne_eq, ← UInt8.toNat_inj, UInt8.lt_iff_toNat_lt, UInt8.reduceToNat] at above ⊢
    omega

theorem StringText.plain {bytes text : Bytes} {pieces : List Piece}
    (plain : ∀ b ∈ bytes, b ≠ 0x22 ∧ b ≠ 0x5C ∧ ¬ b < 0x20) (written : StringText text pieces) :
    StringText (bytes ++ text) (bytes.map .byte ++ pieces) := by
  induction bytes with
  | nil => exact written
  | cons b bytes ih =>
      obtain ⟨⟨noQuote, noSlash, visible⟩, others⟩ := List.forall_mem_cons.mp plain
      exact .byte noQuote noSlash visible (ih others)

private theorem unitText_control {n : Nat} (control : n < 0x20) :
    UnitText (Utf8.encode ['0', '0', Hex.lowerDigit (n / 16), Hex.lowerDigit (n % 16)]) n := by
  have bytes : ∀ n < 0x20,
      Utf8.encode ['0', '0', Hex.lowerDigit (n / 16), Hex.lowerDigit (n % 16)] =
        [0x30, 0x30, .ofNat (Hex.lowerDigit (n / 16)).toNat,
          .ofNat (Hex.lowerDigit (n % 16)).toNat] := by
    decide
  have zero : HexDigit 0x30 0 := ⟨by decide, .inl rfl⟩
  have digits : ((0 * 16 + 0) * 16 + n / 16) * 16 + n % 16 = n := by omega
  have written : UnitText _ (((0 * 16 + 0) * 16 + n / 16) * 16 + n % 16) :=
    .digits zero zero ⟨by omega, .inl rfl⟩ ⟨by omega, .inl rfl⟩
  rwa [digits, ← bytes n control] at written

theorem StringText.escapeChar (c : Char) {text : Bytes} {pieces : List Piece}
    (written : StringText text pieces) :
    StringText (Utf8.encode (Json.escapeChar c) ++ text) (charPieces c ++ pieces) := by
  by_cases special :
      c = '"' ∨ c = '\\' ∨ c = '\n' ∨ c = '\r' ∨ c = '\t' ∨ c = '\x08' ∨ c = '\x0c'
  · rw [charPieces, if_pos special]
    rcases special with rfl | rfl | rfl | rfl | rfl | rfl | rfl
    all_goals exact .short (by decide) written
  · rw [charPieces, if_neg special]
    simp only [not_or] at special
    obtain ⟨quote, slash, feed, back, tab, erase, page⟩ := special
    simp only [Json.escapeChar, quote, slash, feed, back, tab, erase, page, ↓reduceIte]
    by_cases control : c.toNat < 0x20
    · rw [if_pos control, if_pos control]
      exact .unit (unitText_control control) written
    · rw [if_neg control, if_neg control, Utf8.encode_cons, Utf8.encode_nil, List.append_nil]
      exact .plain (encodeChar_plain quote slash control) written

theorem stringText_textPieces (text : String) :
    StringText (Utf8.encode (text.toList.flatMap escapeChar)) (textPieces text) := by
  unfold textPieces
  induction text.toList with
  | nil => exact .nil
  | cons c chars ih =>
      rw [List.flatMap_cons, Utf8.encode_append, List.flatMap_cons]
      exact ih.escapeChar c

/-! ## Literals of integers -/

/-- A natural number but zero is not written with a zero ahead. -/
private theorem natDigits_head {n : Nat} (positive : 0 < n) : ∀ d ∈ (natDigits n).head?, d ≠ 0 := by
  induction n using Nat.strongRecOn with
  | ind n ih =>
      rw [natDigits, natText, Nat.toDigits_eq_if (by decide)]
      split
      · rename_i single
        intro d first
        obtain rfl : (Nat.digitChar n).toNat - 48 = d := by simpa using first
        have digits : ∀ m < 10, 0 < m → (Nat.digitChar m).toNat - 48 ≠ 0 := by decide
        exact digits n single positive
      · rename_i more
        have earlier := ih (n / 10) (by omega) (by omega)
        rw [List.map_append, List.head?_append_of_ne_nil]
        · exact earlier
        · simp

private theorem encode_decimal {text : List Char}
    (decimal : ∀ c ∈ text, 48 ≤ c.toNat ∧ c.toNat ≤ 57) :
    digitBytes (text.map (·.toNat - 48)) = Utf8.encode text := by
  induction text with
  | nil => rfl
  | cons c text ih =>
      obtain ⟨bounds, rest⟩ := List.forall_mem_cons.mp decimal
      have value : 0x30 + (c.toNat - 48) = c.toNat := by omega
      have single : Utf8.encodeChar c = [.ofNat c.toNat] := Utf8.encodeChar_of_ascii (by omega)
      rw [Utf8.encode_cons, single, ← ih rest, digitBytes, List.map_cons, List.map_cons, value]
      rfl

theorem digitBytes_natDigits (n : Nat) :
    IsDecimal (natDigits n) ∧ digitBytes (natDigits n) = Utf8.encode (natText n) := by
  have bounds : ∀ c ∈ natText n, 48 ≤ c.toNat ∧ c.toNat ≤ 57 := by
    intro c member
    have digit : c.isDigit = true := Nat.isDigit_of_mem_toDigits (by decide) (by decide) member
    simpa [Char.isDigit, UInt32.le_iff_toNat_le] using digit
  refine ⟨⟨?_, ?_⟩, encode_decimal bounds⟩
  · exact List.map_eq_nil_iff.not.mpr Nat.toDigits_ne_nil
  · intro d member
    obtain ⟨c, inside, rfl⟩ := List.mem_map.mp member
    have := bounds c inside
    omega

theorem magnitudeText_natText (negative : Bool) (n : Nat) :
    MagnitudeText negative (Utf8.encode (natText n)) ⟨negative, natDigits n, [], none⟩ := by
  obtain ⟨decimal, bytes⟩ := digitBytes_natDigits n
  have alone : (natDigits n).head? = some 0 → natDigits n = [0] := by
    intro zero
    rcases Nat.eq_zero_or_pos n with rfl | positive
    · decide
    · exact absurd rfl (natDigits_head positive 0 zero)
  have written : MagnitudeText negative (digitBytes (natDigits n) ++ [] ++ []) _ :=
    .parts decimal alone .none .none
  rwa [List.append_nil, List.append_nil, bytes] at written

/-! ## Values -/

def Prints (value : Value) (doc : Doc) : Prop := ValueText (Utf8.encode value.render) doc

theorem encode_quote (text : String) (rest : Bytes) :
    Utf8.encode (quote text) ++ rest =
      0x22 :: (Utf8.encode (text.toList.flatMap escapeChar) ++ 0x22 :: rest) := by
  rw [quote, Utf8.encode_append, Utf8.encode_cons, List.append_assoc]
  rfl

theorem prints_text (text : String) : Prints (.text text) (.string (textPieces text)) := by
  have written := ValueText.string (stringText_textPieces text)
  have bytes := encode_quote text []
  rw [List.append_nil] at bytes
  rwa [List.cons_append, ← bytes] at written

theorem prints_integer (n : Int) : Prints (.ofInt n) (.number (integerLiteral n)) := by
  change ValueText (Utf8.encode (intText n)) (.number (integerLiteral n))
  unfold intText integerLiteral
  by_cases negative : n < 0
  · rw [if_pos negative, decide_eq_true negative]
    exact .negative (magnitudeText_natText true n.natAbs)
  · rw [if_neg negative, decide_eq_false negative]
    exact .positive (magnitudeText_natText false n.natAbs)

theorem prints_null : Prints .null .null := .null

theorem prints_bool (b : Bool) : Prints (.bool b) (.bool b) := by
  cases b with
  | true => exact .trueWord
  | false => exact .falseWord

/-- What is printed before an item or a member. -/
private def lead (first : Bool) : List Char := if first then [] else [',']

private theorem lead_printed (first : Bool) : Lead first (Utf8.encode (lead first)) := by
  cases first with
  | true => exact .first blank_nil
  | false => exact @Lead.comma [] [] blank_nil blank_nil

/-- A value of which a document is printed that denotes it. -/
def IsPrinted (value : Value) : Prop := ∃ doc, Prints value doc ∧ Denotes doc value

theorem isPrinted_null : IsPrinted .null := ⟨_, prints_null, .null⟩

theorem isPrinted_bool (b : Bool) : IsPrinted (.bool b) := ⟨_, prints_bool b, .bool⟩

theorem isPrinted_integer (n : Int) : IsPrinted (.ofInt n) := ⟨_, prints_integer n, .integer⟩

theorem isPrinted_text (text : String) : IsPrinted (.text text) :=
  ⟨_, prints_text text, .text (spells_textPieces text)⟩

theorem exists_items {values : List Value} (each : ∀ value ∈ values, IsPrinted value) :
    ∃ items, Denotes (.array items) (.array values) ∧ ∀ first,
      ItemsText first (Utf8.encode (renderItems first values) ++ [0x5D]) items := by
  induction values with
  | nil => exact ⟨.closed, .noItems, fun first => .closed blank_nil⟩
  | cons value values ih =>
      obtain ⟨⟨doc, prints, denotes⟩, others⟩ := List.forall_mem_cons.mp each
      obtain ⟨items, denotesItems, written⟩ := ih others
      refine ⟨.item doc items, .item denotes denotesItems, fun first => ?_⟩
      have whole := ItemsText.item (lead_printed first) prints (written false)
      rw [← List.append_assoc, ← Utf8.encode_append, ← Utf8.encode_append] at whole
      exact whole

theorem isPrinted_array {values : List Value} (each : ∀ value ∈ values, IsPrinted value) :
    IsPrinted (.array values) := by
  obtain ⟨items, denotes, written⟩ := exists_items each
  refine ⟨.array items, ?_, denotes⟩
  have whole := ValueText.array (written true)
  rw [← List.cons_append] at whole
  rw [Prints, Value.render, Utf8.encode_append]
  exact whole

/-! ## Objects -/

inductive MembersPrint : List (String × Value) → Members → Prop where
  | nil : MembersPrint [] .closed
  | cons {key : String} {value : Value} {doc : Doc} {members : List (String × Value)}
      {docs : Members} :
      Prints value doc → MembersPrint members docs →
      MembersPrint ((key, value) :: members) (.member (textPieces key) doc docs)

theorem MembersPrint.text {members : List (String × Value)} {docs : Members}
    (print : MembersPrint members docs) (first : Bool) :
    MembersText first (Utf8.encode (renderMembers first members) ++ [0x7D]) docs := by
  induction print generalizing first with
  | nil => exact .closed blank_nil
  | @cons key value doc members docs prints _ ih =>
      have whole := MembersText.member (lead_printed first) (stringText_textPieces key) blank_nil
        blank_nil prints (ih false)
      have quoted := encode_quote key []
      have colon : Utf8.encodeChar ':' = [0x3A] := rfl
      rw [List.append_nil] at quoted
      simp only [List.append_assoc, List.cons_append, List.nil_append] at whole
      simp only [renderMembers, Utf8.encode_append, Utf8.encode_cons, quoted, colon,
        List.append_assoc, List.cons_append, List.nil_append]
      exact whole

theorem MembersPrint.prints {members : List (String × Value)} {docs : Members}
    (print : MembersPrint members docs) : Prints (.object members) (.object docs) := by
  have whole := ValueText.object (print.text true)
  rw [← List.cons_append] at whole
  rw [Prints, Value.render, Utf8.encode_append]
  exact whole

/-! ## Whole texts -/

/-- What is printed of a value is read as its document, to the end. -/
theorem read_of_prints {value : Value} {doc : Doc} (prints : Prints value doc) :
    Json.read (utf8 value.toText) = (doc, some []) := by
  have whole := readValue_of_text prints blank_nil
    (show _ ≤ 3 * (Utf8.encode value.render).length + 3 by omega) (delimits_nil.ends doc)
  rw [List.append_nil, List.nil_append] at whole
  rw [Json.read, utf8, Value.toText, String.toList_ofList, whole]

theorem Prints.wholeText {value : Value} {doc : Doc} (prints : Prints value doc) :
    WholeText (utf8 value.toText) doc := by
  have whole := WholeText.value blank_nil prints blank_nil
  rw [List.append_nil, List.nil_append] at whole
  rwa [utf8, Value.toText, String.toList_ofList]

@[simp] theorem decodeText_textPieces (depth : Nat) (text : String) :
    decodeText depth (.string (textPieces text)) = .ok text := by
  simp [decodeText, Except.mapError]

theorem decodeInt64_integerLiteral (depth : Nat) {n : Int} (low : -(Nat.pow 2 63 : Nat) ≤ n)
    (high : n ≤ (Nat.pow 2 63 : Nat) - 1) :
    decodeInt64 depth (.number (integerLiteral n)) = .ok n := by
  have fits : n ≤ greatestUnsigned := by
    have wide : Nat.pow 2 63 - 1 ≤ greatestUnsigned := by decide
    omega
  simp only [decodeInt64, decodeInteger, value?_integerLiteral low fits]
  rw [if_pos ⟨low, high⟩]

end KeyBound.Json
