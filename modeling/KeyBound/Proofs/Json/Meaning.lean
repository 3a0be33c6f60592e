import KeyBound.Json.Decode
import KeyBound.Proofs.Json.Grammar
import KeyBound.Proofs.Text.Utf8
import Mathlib.Data.Nat.Digits.Defs

/-!
# What documents mean

The documents that denote a value. A character may be written as it is or by any of its escapes, an
integer as its decimal digits. Decoders arrive at the value from each of these documents.
-/

set_option autoImplicit false

namespace KeyBound.Json

/-! ## Texts -/

inductive Spells : List Piece → List Char → Prop where
  | nil : Spells [] []
  | plain {c : Char} {pieces : List Piece} {chars : List Char} :
      Spells pieces chars → Spells ((Utf8.encodeChar c).map .byte ++ pieces) (c :: chars)
  | escape {c : Char} {pieces : List Piece} {chars : List Char} :
      Spells pieces chars → Spells (.char c :: pieces) (c :: chars)
  | unit {c : Char} {pieces : List Piece} {chars : List Char} :
      c.toNat < 0x10000 → Spells pieces chars → Spells (.unit c.toNat :: pieces) (c :: chars)
  /-- Beyond the first plane a character takes two units. -/
  | pair {c : Char} {pieces : List Piece} {chars : List Char} :
      0x10000 ≤ c.toNat → Spells pieces chars →
      Spells (.unit (0xD800 + (c.toNat - 0x10000) / 0x400) ::
        .unit (0xDC00 + (c.toNat - 0x10000) % 0x400) :: pieces) (c :: chars)

theorem pieceBytes_bytes (bytes : Bytes) (rest : List Piece) :
    pieceBytes none (bytes.map .byte ++ rest) = (pieceBytes none rest).map (bytes ++ ·) := by
  induction bytes with
  | nil =>
      rw [List.map_nil, List.nil_append]
      cases pieceBytes none rest <;> rfl
  | cons b bytes ih =>
      rw [List.map_cons, List.cons_append, pieceBytes, ih]
      cases pieceBytes none rest <;> rfl

theorem toNat_valid (c : Char) : c.toNat < 0xD800 ∨ 0xDFFF < c.toNat ∧ c.toNat < 0x110000 :=
  c.valid

theorem pieceBytes_of_spells {pieces : List Piece} {chars : List Char}
    (spells : Spells pieces chars) : pieceBytes none pieces = .ok (Utf8.encode chars) := by
  induction spells with
  | nil => rfl
  | plain _ ih =>
      rw [pieceBytes_bytes, ih]
      rfl
  | escape _ ih =>
      rw [pieceBytes, ih]
      rfl
  | @unit c pieces chars low _ ih =>
      have valid := toNat_valid c
      have noTrailing : isTrailing c.toNat = false := by simp [isTrailing]; omega
      have noLeading : isLeading c.toNat = false := by simp [isLeading]; omega
      rw [pieceBytes.eq_def]
      simp only [noTrailing, noLeading, Bool.false_eq_true, ↓reduceIte, ih, Char.ofNat_toNat]
      rfl
  | @pair c pieces chars high _ ih =>
      have valid := toNat_valid c
      have noTrailing : isTrailing (0xD800 + (c.toNat - 0x10000) / 0x400) = false := by
        simp [isTrailing]; omega
      have leading : isLeading (0xD800 + (c.toNat - 0x10000) / 0x400) = true := by
        simp [isLeading]; omega
      have trailing : isTrailing (0xDC00 + (c.toNat - 0x10000) % 0x400) = true := by
        simp [isTrailing]; omega
      have joined : (0xD800 + (c.toNat - 0x10000) / 0x400 - 0xD800) * 0x400 +
          (0xDC00 + (c.toNat - 0x10000) % 0x400 - 0xDC00) + 0x10000 = c.toNat := by
        omega
      rw [pieceBytes.eq_def]
      simp only [noTrailing, leading, trailing, Bool.false_eq_true, ↓reduceIte, joined, ih,
        Char.ofNat_toNat]
      rfl

theorem textOf_of_spells {pieces : List Piece} {text : String}
    (spells : Spells pieces text.toList) : textOf pieces = .ok text := by
  have bytes : pieceBytes none pieces = .ok (utf8 text) := pieceBytes_of_spells spells
  simp [textOf, bytes, bind, Except.bind]

/-! ## Integers -/

def natDigits (n : Nat) : List Nat := (natText n).map (·.toNat - 48)

def integerLiteral (n : Int) : NumberLiteral := ⟨decide (n < 0), natDigits n.natAbs, [], none⟩

theorem ofDigits_natDigits (n : Nat) : ofDigits (natDigits n) = n := by
  have whole : Nat.ofDigitChars 10 (natText n) 0 = n := Nat.ofDigitChars_ten_toDigits
  rw [Nat.ofDigitChars] at whole
  rw [ofDigits, natDigits, List.foldl_map]
  have zero : '0'.toNat = 48 := rfl
  simpa only [Nat.mul_comm, zero] using whole

/-- An integer is that of its literal if it fits 64 bits, with or without sign. -/
theorem value?_integerLiteral {n : Int} (low : -(Nat.pow 2 63 : Nat) ≤ n)
    (high : n ≤ greatestUnsigned) : (integerLiteral n).value? = some (.integer n) := by
  simp only [integerLiteral, NumberLiteral.value?, ofDigits_natDigits]
  by_cases negative : n < 0
  · have fits : ¬ (n.natAbs = 0 ∨ Nat.pow 2 63 < n.natAbs) := by omega
    rw [if_pos (decide_eq_true negative), if_neg fits]
    congr 2
    omega
  · have fits : n.natAbs ≤ greatestUnsigned := by omega
    rw [if_neg (by simpa using negative), if_pos fits]
    congr 2
    omega

/-! ## Values -/

inductive Denotes : Doc → Value → Prop where
  | null : Denotes .null .null
  | bool {b : Bool} : Denotes (.bool b) (.bool b)
  | integer {n : Int} : Denotes (.number (integerLiteral n)) (.ofInt n)
  | text {pieces : List Piece} {text : String} :
      Spells pieces text.toList → Denotes (.string pieces) (.text text)
  | noItems : Denotes (.array .closed) (.array [])
  | item {doc : Doc} {items : Items} {value : Value} {values : List Value} :
      Denotes doc value → Denotes (.array items) (.array values) →
      Denotes (.array (.item doc items)) (.array (value :: values))

variable {doc : Doc} {depth : Nat}

theorem Denotes.ne_null {value : Value} (denotes : Denotes doc value) (present : value ≠ .null) :
    doc ≠ .null := by
  rintro rfl
  cases denotes with
  | null => exact present rfl

theorem decodeBool_of_denotes {b : Bool} (denotes : Denotes doc (.bool b)) :
    decodeBool depth doc = .ok b := by
  cases denotes with
  | bool => rfl

theorem decodeText_of_denotes {text : String} (denotes : Denotes doc (.text text)) :
    decodeText depth doc = .ok text := by
  cases denotes with
  | text spells => simp [decodeText, textOf_of_spells spells, Except.mapError]

theorem decodeInteger_of_denotes {low high n : Int} (denotes : Denotes doc (.ofInt n))
    (inside : low ≤ n ∧ n ≤ high) (least : -(Nat.pow 2 63 : Nat) ≤ low)
    (greatest : high ≤ greatestUnsigned) : decodeInteger low high depth doc = .ok n := by
  cases denotes with
  | integer =>
      have value := value?_integerLiteral (Int.le_trans least inside.1)
        (Int.le_trans inside.2 greatest)
      simp only [decodeInteger, value]
      rw [if_pos inside]

theorem decodeInt64_of_denotes {n : Int} (denotes : Denotes doc (.ofInt n))
    (low : -(Nat.pow 2 63 : Nat) ≤ n) (high : n ≤ (Nat.pow 2 63 : Nat) - 1) :
    decodeInt64 depth doc = .ok n :=
  decodeInteger_of_denotes denotes ⟨low, high⟩ (Int.le_refl _) (by decide)

theorem decodeNatBelow_of_denotes {bound n : Nat} (denotes : Denotes doc (.ofNat n))
    (below : n < bound) (fits : bound ≤ Nat.pow 2 64) :
    decodeNatBelow bound depth doc = .ok n := by
  have greatest : (bound : Int) - 1 ≤ greatestUnsigned := by
    unfold greatestUnsigned
    omega
  have read : decodeInteger 0 (bound - 1) depth doc = .ok (n : Int) :=
    decodeInteger_of_denotes denotes (by omega) (by decide) greatest
  simp [decodeNatBelow, read, Except.map]

theorem decodeNullable_of_ne_null {α : Type} {value : Decoder α} {a : α}
    (present : doc ≠ .null) (read : value depth doc = .ok a) :
    decodeNullable value depth doc = .ok (some a) := by
  cases doc <;> first | exact absurd rfl present | simp [decodeNullable, read, Except.map]

theorem decodeLabel_of_denotes {α : Type} {ofLabel? : String → Option α} {label : String} {a : α}
    (denotes : Denotes doc (.text label)) (known : ofLabel? label = some a) :
    decodeLabel ofLabel? depth doc = .ok a := by
  cases denotes with
  | text spells =>
      simp [decodeLabel, textOf_of_spells spells, Except.mapError, known, bind, Except.bind]

theorem decodeItems_of_denotes {α : Type} {item : Decoder α} {write : α → Value} {items : Items}
    {values : List α} (denotes : Denotes (.array items) (.array (values.map write)))
    (read : ∀ a ∈ values, ∀ doc, Denotes doc (write a) → item depth doc = .ok a) (index : Nat) :
    decodeItems item depth index items = .ok values := by
  induction values generalizing items index with
  | nil =>
      cases denotes with
      | noItems => rfl
  | cons a values ih =>
      cases denotes with
      | item first rest =>
          obtain ⟨readFirst, readRest⟩ := List.forall_mem_cons.mp read
          simp [decodeItems, readFirst _ first, ih rest readRest, within, Except.mapError, bind,
            Except.bind]

theorem decodeList_of_denotes {α : Type} {item : Decoder α} {write : α → Value} {values : List α}
    (denotes : Denotes doc (.array (values.map write)))
    (read : ∀ a ∈ values, ∀ doc, Denotes doc (write a) → item (depth + 1) doc = .ok a) :
    decodeList item (depth + 2) doc = .ok values := by
  obtain ⟨items, rfl⟩ : ∃ items, doc = .array items := by
    generalize values.map write = written at denotes
    cases denotes <;> exact ⟨_, rfl⟩
  exact decodeItems_of_denotes denotes read 0

/-! ## Whole texts -/

theorem decodeHead_of_text {α : Type} {bytes : Bytes} (written : WholeText bytes doc)
    (decoder : Decoder α) : decodeHead decoder bytes = decoder depthLimit doc := by
  obtain ⟨rest, read, -⟩ := read_of_text written
  rw [decodeHead, read]

theorem decodeWhole_of_text {α : Type} {bytes : Bytes} (written : WholeText bytes doc)
    (decoder : Decoder α) : decodeWhole decoder bytes = decoder depthLimit doc := by
  obtain ⟨rest, read, space⟩ := read_of_text written
  simp only [decodeWhole, read, space, List.isEmpty_nil, ↓reduceIte]
  cases decoder depthLimit doc <;> rfl

end KeyBound.Json
