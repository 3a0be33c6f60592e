import KeyBound.Json.Document
import Mathlib.Data.List.TakeWhile

/-!
# The grammar of JSON

Which bytes are a text of JSON, and the document that stands for it. The grammar says how a document
may be written: with white space around values and marks, and with escapes in either case. The
reader arrives at the document from every one of these texts.
-/

set_option autoImplicit false

namespace KeyBound.Json

/-! ## Literals of text -/

def HexDigit (b : UInt8) (n : Nat) : Prop :=
  n < 16 ∧ (b = .ofNat (Hex.lowerDigit n).toNat ∨ b = .ofNat (Hex.upperDigit n).toNat)

inductive UnitText : Bytes → Nat → Prop where
  | digits {a b c d : UInt8} {k l m n : Nat} :
      HexDigit a k → HexDigit b l → HexDigit c m → HexDigit d n →
      UnitText [a, b, c, d] (((k * 16 + l) * 16 + m) * 16 + n)

def shortEscapes : List (UInt8 × Char) :=
  [(0x22, '"'), (0x5C, '\\'), (0x2F, '/'), (0x62, '\x08'), (0x66, '\x0c'), (0x6E, '\n'),
    (0x72, '\r'), (0x74, '\t')]

/-- What stands between the quotes of a string literal. -/
inductive StringText : Bytes → List Piece → Prop where
  | nil : StringText [] []
  | byte {b : UInt8} {text : Bytes} {pieces : List Piece} :
      b ≠ 0x22 → b ≠ 0x5C → ¬ b < 0x20 → StringText text pieces →
      StringText (b :: text) (.byte b :: pieces)
  | short {letter : UInt8} {c : Char} {text : Bytes} {pieces : List Piece} :
      (letter, c) ∈ shortEscapes → StringText text pieces →
      StringText (0x5C :: letter :: text) (.char c :: pieces)
  | unit {digits text : Bytes} {n : Nat} {pieces : List Piece} :
      UnitText digits n → StringText text pieces →
      StringText (0x5C :: 0x75 :: digits ++ text) (.unit n :: pieces)

theorem unit?_of_text {digits : Bytes} {n : Nat} (written : UnitText digits n) :
    ∃ a b c d, digits = [a, b, c, d] ∧ unit? a b c d = some n := by
  have value {b : UInt8} {n : Nat} (digit : HexDigit b n) : Hex.byteValue? b = some n := by
    have table : ∀ n < 16, Hex.byteValue? (.ofNat (Hex.lowerDigit n).toNat) = some n ∧
        Hex.byteValue? (.ofNat (Hex.upperDigit n).toNat) = some n := by decide
    obtain ⟨small, rfl | rfl⟩ := digit
    · exact (table n small).1
    · exact (table n small).2
  cases written with
  | digits first second third fourth =>
      refine ⟨_, _, _, _, rfl, ?_⟩
      simp [unit?, value first, value second, value third, value fourth]

theorem readString_quote (rest : Bytes) : readString (0x22 :: rest) = ([], .ok rest) := by
  unfold readString
  rfl

theorem readString_of_text {text : Bytes} {pieces : List Piece} (written : StringText text pieces)
    (rest : Bytes) : readString (text ++ 0x22 :: rest) = (pieces, .ok rest) := by
  induction written with
  | nil => exact readString_quote rest
  | byte noQuote noSlash visible _ ih =>
      rw [List.cons_append]
      conv => lhs; unfold readString
      rw [if_neg noQuote, if_neg noSlash, if_neg visible, ih]
  | @short letter c text pieces listed _ ih =>
      have table : ∀ entry ∈ shortEscapes, escaped? entry.1 = some entry.2 ∧ entry.1 ≠ 0x75 := by
        decide
      obtain ⟨known, single⟩ := table (letter, c) listed
      rw [List.cons_append, List.cons_append]
      conv => lhs; unfold readString
      simp only [↓reduceIte, single, known, ih]
      rfl
  | unit digits _ ih =>
      obtain ⟨a, b, c, d, rfl, known⟩ := unit?_of_text digits
      simp only [List.cons_append, List.nil_append]
      conv => lhs; unfold readString
      simp only [↓reduceIte, known, ih]
      rfl

/-! ## Numbers -/

/-- What may follow a number: nothing that could belong to it. -/
def Delimits (rest : Bytes) : Prop :=
  ∀ b ∈ rest.head?, isDigit b = false ∧ b ≠ 0x2E ∧ b ≠ 0x65 ∧ b ≠ 0x45

theorem delimits_nil : Delimits [] := nofun

structure IsDecimal (digits : List Nat) : Prop where
  something : digits ≠ []
  small : ∀ d ∈ digits, d < 10

def digitBytes (digits : List Nat) : Bytes := digits.map fun d => .ofNat (0x30 + d)

inductive FractionText : Bytes → List Nat → Prop where
  | none : FractionText [] []
  | point {digits : List Nat} :
      IsDecimal digits → FractionText (0x2E :: digitBytes digits) digits

inductive SignText : Bytes → Bool → Prop where
  | none : SignText [] false
  | plus : SignText [0x2B] false
  | minus : SignText [0x2D] true

inductive ExponentText : Bytes → Option (Bool × List Nat) → Prop where
  | none : ExponentText [] none
  | power {mark : UInt8} {sign : Bytes} {negative : Bool} {digits : List Nat} :
      mark = 0x65 ∨ mark = 0x45 → SignText sign negative → IsDecimal digits →
      ExponentText (mark :: sign ++ digitBytes digits) (some (negative, digits))

/-- What follows the sign of a number. A zero in front stands alone. -/
inductive MagnitudeText (negative : Bool) : Bytes → NumberLiteral → Prop where
  | parts {whole fraction : List Nat} {exponent : Option (Bool × List Nat)}
      {fractionText exponentText : Bytes} :
      IsDecimal whole → (whole.head? = some 0 → whole = [0]) → FractionText fractionText fraction →
      ExponentText exponentText exponent →
      MagnitudeText negative (digitBytes whole ++ fractionText ++ exponentText)
        ⟨negative, whole, fraction, exponent⟩

theorem isDigit_ofNat :
    ∀ d < 10, isDigit (.ofNat (0x30 + d)) = true ∧ (UInt8.ofNat (0x30 + d)).toNat - 48 = d := by
  decide

theorem isDigit_of_mem {digits : List Nat} (decimal : IsDecimal digits) :
    ∀ b ∈ digitBytes digits, isDigit b = true := by
  intro b member
  obtain ⟨d, inside, rfl⟩ := List.mem_map.mp member
  exact (isDigit_ofNat d (decimal.small d inside)).1

theorem digitBytes_cons {digits : List Nat} (decimal : IsDecimal digits) :
    ∃ b bytes, digitBytes digits = b :: bytes ∧ isDigit b = true := by
  have digit := isDigit_of_mem decimal
  cases written : digitBytes digits with
  | nil => exact absurd (List.map_eq_nil_iff.mp written) decimal.something
  | cons b bytes => exact ⟨b, bytes, rfl, digit b (written ▸ List.mem_cons_self)⟩

theorem readSomeDigits_digitBytes {digits : List Nat} (decimal : IsDecimal digits) {rest : Bytes}
    (stop : ∀ b ∈ rest.head?, isDigit b = false) :
    readSomeDigits (digitBytes digits ++ rest) = .ok (digits, rest) := by
  have values : (digitBytes digits).map (·.toNat - 48) = digits := by
    rw [digitBytes, List.map_map]
    conv => rhs; rw [← List.map_id digits]
    exact List.map_congr_left fun d inside => (isDigit_ofNat d (decimal.small d inside)).2
  have ended : rest.takeWhile isDigit = [] ∧ rest.dropWhile isDigit = rest := by
    cases rest with
    | nil => exact ⟨rfl, rfl⟩
    | cons b rest => simp [stop b rfl]
  have read : readDigits (digitBytes digits ++ rest) = (digits, rest) := by
    rw [readDigits, List.takeWhile_append_of_pos (isDigit_of_mem decimal),
      List.dropWhile_append_of_pos (isDigit_of_mem decimal), ended.1, ended.2, List.append_nil,
      values]
  obtain ⟨b, bytes, written, digit⟩ := digitBytes_cons decimal
  rw [← read, written]
  exact if_pos digit

variable {rest : Bytes}

theorem readExponent_of_text {text : Bytes} {exponent : Option (Bool × List Nat)}
    (written : ExponentText text exponent) (ends : Delimits rest) :
    readExponent (text ++ rest) = .ok (exponent, rest) := by
  cases written with
  | none =>
      cases rest with
      | nil => rfl
      | cons b rest =>
          obtain ⟨_, _, small, great⟩ := ends b rfl
          simp [readExponent, small, great]
  | @power mark sign negative digits marked signed decimal =>
      have read := readSomeDigits_digitBytes decimal fun b first => (ends b first).1
      obtain ⟨b, bytes, same, digit⟩ := digitBytes_cons decimal
      have unsigned : b ≠ 0x2D ∧ b ≠ 0x2B := by
        constructor <;> (rintro rfl; cases digit)
      rw [same] at read ⊢
      rw [readExponent.eq_def]
      simp only [List.cons_append] at read ⊢
      rw [if_pos marked]
      cases signed with
      | none => simp [unsigned, read, Except.map]
      | plus => simp [read, Except.map]
      | minus => simp [read, Except.map]

/-- An exponent or the end of a number stops its digits. -/
theorem ExponentText.stop {text : Bytes} {exponent : Option (Bool × List Nat)}
    (written : ExponentText text exponent) (ends : Delimits rest) :
    ∀ b ∈ (text ++ rest).head?, isDigit b = false ∧ b ≠ 0x2E := by
  intro b first
  cases written with
  | none => exact ⟨(ends b first).1, (ends b first).2.1⟩
  | power marked _ _ =>
      cases first
      rcases marked with rfl | rfl <;> decide

theorem FractionText.stop {text more : Bytes} {fraction : List Nat}
    (written : FractionText text fraction) (stop : ∀ b ∈ more.head?, isDigit b = false) :
    ∀ b ∈ (text ++ more).head?, isDigit b = false := by
  intro b first
  cases written with
  | none => exact stop b first
  | point _ =>
      cases first
      decide

theorem readFraction_of_text {text more : Bytes} {fraction : List Nat}
    (written : FractionText text fraction)
    (stop : ∀ b ∈ more.head?, isDigit b = false ∧ b ≠ 0x2E) :
    readFraction (text ++ more) = .ok (fraction, more) := by
  cases written with
  | none =>
      cases more with
      | nil => rfl
      | cons b more => exact if_neg (stop b rfl).2
  | point decimal =>
      exact readSomeDigits_digitBytes decimal fun b first => (stop b first).1

theorem readNumber_of_text {negative : Bool} {text : Bytes} {literal : NumberLiteral}
    (written : MagnitudeText negative text literal) (ends : Delimits rest) :
    readNumber negative (text ++ rest) = .ok (literal, rest) := by
  cases written with
  | @parts whole fraction exponent fractionText exponentText decimal alone point power =>
      have stop := power.stop ends
      have digits := readSomeDigits_digitBytes decimal
        (point.stop fun b first => (stop b first).1)
      have integer : readWhole (digitBytes whole ++ (fractionText ++ (exponentText ++ rest))) =
          .ok (whole, fractionText ++ (exponentText ++ rest)) := by
        rw [readWhole, digits]
        dsimp only [bind, Except.bind]
        split
        · cases alone rfl
        · rfl
      rw [List.append_assoc, List.append_assoc]
      simp only [readNumber, integer, readFraction_of_text point stop,
        readExponent_of_text power ends, bind, Except.bind]

/-! ## Values -/

def Blank (bytes : Bytes) : Prop := ∀ b ∈ bytes, isSpace b = true

theorem blank_nil : Blank [] := List.forall_mem_nil _

inductive Lead : (first : Bool) → Bytes → Prop where
  | first {space : Bytes} : Blank space → Lead true space
  | comma {before after : Bytes} : Blank before → Blank after → Lead false (before ++ 0x2C :: after)

mutual

/-- A value without the white space around it. -/
inductive ValueText : Bytes → Doc → Prop where
  | null : ValueText [0x6E, 0x75, 0x6C, 0x6C] .null
  | trueWord : ValueText [0x74, 0x72, 0x75, 0x65] (.bool true)
  | falseWord : ValueText [0x66, 0x61, 0x6C, 0x73, 0x65] (.bool false)
  | positive {text : Bytes} {literal : NumberLiteral} :
      MagnitudeText false text literal → ValueText text (.number literal)
  | negative {text : Bytes} {literal : NumberLiteral} :
      MagnitudeText true text literal → ValueText (0x2D :: text) (.number literal)
  | string {text : Bytes} {pieces : List Piece} :
      StringText text pieces → ValueText (0x22 :: text ++ [0x22]) (.string pieces)
  | array {text : Bytes} {items : Items} :
      ItemsText true text items → ValueText (0x5B :: text) (.array items)
  | object {text : Bytes} {members : Members} :
      MembersText true text members → ValueText (0x7B :: text) (.object members)

/-- The items of an array from its opening bracket or the end of an item on. -/
inductive ItemsText : (first : Bool) → Bytes → Items → Prop where
  | closed {first : Bool} {space : Bytes} : Blank space → ItemsText first (space ++ [0x5D]) .closed
  | item {first : Bool} {lead text rest : Bytes} {value : Doc} {items : Items} :
      Lead first lead → ValueText text value → ItemsText false rest items →
      ItemsText first (lead ++ text ++ rest) (.item value items)

/-- The members of an object from its opening brace or the end of a member on. -/
inductive MembersText : (first : Bool) → Bytes → Members → Prop where
  | closed {first : Bool} {space : Bytes} :
      Blank space → MembersText first (space ++ [0x7D]) .closed
  | member {first : Bool} {lead key before after text rest : Bytes} {pieces : List Piece}
      {value : Doc} {members : Members} :
      Lead first lead → StringText key pieces → Blank before → Blank after →
      ValueText text value → MembersText false rest members →
      MembersText first
        (lead ++ 0x22 :: key ++ 0x22 :: before ++ 0x3A :: after ++ text ++ rest)
        (.member pieces value members)

end

theorem skipSpace_append {space : Bytes} (blank : Blank space) (text : Bytes) :
    skipSpace (space ++ text) = skipSpace text :=
  List.dropWhile_append_of_pos blank

theorem skipSpace_cons {b : UInt8} (solid : isSpace b = false) (text : Bytes) :
    skipSpace (b :: text) = b :: text :=
  List.dropWhile_cons_of_neg (by simp [solid])

theorem isSpace_of_isDigit {b : UInt8} (digit : isDigit b = true) : isSpace b = false := by
  have bounds : 48 ≤ b.toNat ∧ b.toNat ≤ 57 := by
    simpa [isDigit, UInt8.le_iff_toNat_le] using digit
  have other {n : UInt8} (outside : n.toNat < 48 ∨ 57 < n.toNat) : b ≠ n := by
    rintro rfl
    omega
  simp [isSpace, other (n := 0x20) (by decide), other (n := 0x09) (by decide),
    other (n := 0x0A) (by decide), other (n := 0x0D) (by decide)]

/-- A digit begins nothing but a number. -/
theorem readValue_digit {b : UInt8} (digit : isDigit b = true) (fuel : Nat) (bytes : Bytes) :
    readValue (fuel + 1) (b :: bytes) = numberNode false (b :: bytes) := by
  have other {n : UInt8} (outside : isDigit n = false) : b ≠ n := by
    rintro rfl
    rw [digit] at outside
    cases outside
  rw [readValue, skipSpace_cons (isSpace_of_isDigit digit)]
  dsimp only
  rw [if_neg (other (by decide)), if_neg (other (by decide)), if_neg (other (by decide)),
    if_neg (other (by decide)), if_neg (other (by decide)), if_neg (other (by decide)),
    if_neg (other (by decide)), if_pos digit]

theorem MagnitudeText.head {negative : Bool} {text : Bytes} {literal : NumberLiteral}
    (written : MagnitudeText negative text literal) :
    ∃ b bytes, text = b :: bytes ∧ isDigit b = true := by
  cases written with
  | parts decimal _ _ _ =>
      obtain ⟨b, bytes, same, digit⟩ := digitBytes_cons decimal
      rw [same]
      exact ⟨b, _, rfl, digit⟩

theorem ValueText.head {text : Bytes} {doc : Doc} (written : ValueText text doc) :
    ∃ b bytes, text = b :: bytes ∧ isSpace b = false ∧ b ≠ 0x5D := by
  cases written with
  | positive magnitude =>
      obtain ⟨b, bytes, rfl, digit⟩ := magnitude.head
      refine ⟨b, bytes, rfl, isSpace_of_isDigit digit, ?_⟩
      rintro rfl
      cases digit
  | _ => exact ⟨_, _, rfl, by decide, by decide⟩

theorem delimits_mark {space : Bytes} (blank : Blank space) {mark : UInt8} (rest : Bytes)
    (ends : mark = 0x2C ∨ mark = 0x5D ∨ mark = 0x7D) : Delimits (space ++ mark :: rest) := by
  intro b first
  cases space with
  | nil =>
      cases first
      rcases ends with rfl | rfl | rfl <;> decide
  | cons c space =>
      cases first
      have white : ((b = 0x20 ∨ b = 0x09) ∨ b = 0x0A) ∨ b = 0x0D := by
        simpa [isSpace] using blank b List.mem_cons_self
      rcases white with ((rfl | rfl) | rfl) | rfl <;> decide

theorem delimits_blank {space : Bytes} (blank : Blank space) : Delimits space := by
  intro b first
  have ends : Delimits (space ++ [0x2C]) := delimits_mark blank [] (.inl rfl)
  exact ends b (by rw [List.head?_append, first]; rfl)

theorem ItemsText.delimits {text : Bytes} {items : Items} (written : ItemsText false text items)
    (rest : Bytes) : Delimits (text ++ rest) := by
  cases written with
  | closed blank =>
      rw [List.append_assoc]
      exact delimits_mark blank rest (.inr (.inl rfl))
  | item lead _ _ =>
      cases lead with
      | comma before _ =>
          simp only [List.append_assoc, List.cons_append]
          exact delimits_mark before _ (.inl rfl)

theorem ItemsText.length_pos {first : Bool} {text : Bytes} {items : Items}
    (written : ItemsText first text items) : 0 < text.length := by
  cases written with
  | closed _ => simp
  | item _ value _ =>
      obtain ⟨b, bytes, rfl, -⟩ := value.head
      simp only [List.length_append, List.length_cons]
      omega

theorem MembersText.length_pos {first : Bool} {text : Bytes} {members : Members}
    (written : MembersText first text members) : 0 < text.length := by
  cases written <;> (simp only [List.length_append, List.length_cons]; omega)

theorem MembersText.delimits {text : Bytes} {members : Members}
    (written : MembersText false text members) (rest : Bytes) : Delimits (text ++ rest) := by
  cases written with
  | closed blank =>
      rw [List.append_assoc]
      exact delimits_mark blank rest (.inr (.inr rfl))
  | member lead _ _ _ _ _ =>
      cases lead with
      | comma before _ =>
          simp only [List.append_assoc, List.cons_append]
          exact delimits_mark before _ (.inl rfl)

/-! ## Reading values -/

/-- What may follow a document that is read: only a number has to be delimited. -/
def Ends (doc : Doc) (rest : Bytes) : Prop := ∀ literal, doc = .number literal → Delimits rest

theorem Delimits.ends (delimits : Delimits rest) (doc : Doc) : Ends doc rest := fun _ _ => delimits

theorem readItems_closed (first : Bool) (fuel : Nat) {space : Bytes} (blank : Blank space)
    (rest : Bytes) :
    readItems (fuel + 1) first (space ++ 0x5D :: rest) = (.closed, some rest) := by
  have solid : isSpace 0x5D = false := by decide
  rw [readItems, skipSpace_append blank, skipSpace_cons solid]
  rfl

theorem readItems_lead {first : Bool} {lead : Bytes} (leads : Lead first lead) (fuel : Nat)
    {b : UInt8} (bytes : Bytes) (solid : isSpace b = false) (other : b ≠ 0x5D) :
    readItems (fuel + 1) first (lead ++ b :: bytes) = readItem fuel (b :: bytes) := by
  cases leads with
  | first blank =>
      rw [readItems, skipSpace_append blank, skipSpace_cons solid]
      simp [other]
  | comma before after =>
      have mark : isSpace 0x2C = false := by decide
      rw [List.append_assoc, readItems, skipSpace_append before, List.cons_append,
        skipSpace_cons mark]
      simp [skipSpace_append after, skipSpace_cons solid, other]

theorem readMembers_closed (first : Bool) (fuel : Nat) {space : Bytes} (blank : Blank space)
    (rest : Bytes) :
    readMembers (fuel + 1) first (space ++ 0x7D :: rest) = (.closed, some rest) := by
  have solid : isSpace 0x7D = false := by decide
  rw [readMembers, skipSpace_append blank, skipSpace_cons solid]
  rfl

theorem readMembers_lead {first : Bool} {lead : Bytes} (leads : Lead first lead) (fuel : Nat)
    (bytes : Bytes) :
    readMembers (fuel + 1) first (lead ++ 0x22 :: bytes) = readMember fuel bytes := by
  have quote : isSpace 0x22 = false := by decide
  cases leads with
  | first blank =>
      rw [readMembers, skipSpace_append blank, skipSpace_cons quote]
      rfl
  | comma before after =>
      have mark : isSpace 0x2C = false := by decide
      rw [List.append_assoc, readMembers, skipSpace_append before, List.cons_append,
        skipSpace_cons mark]
      simp [skipSpace_append after, skipSpace_cons quote]

theorem readValue_blank {space : Bytes} (blank : Blank space) (fuel : Nat) (bytes : Bytes) :
    readValue (fuel + 1) (space ++ bytes) = readValue (fuel + 1) bytes := by
  rw [readValue, readValue, skipSpace_append blank]

theorem readValue_minus (fuel : Nat) (bytes : Bytes) :
    readValue (fuel + 1) (0x2D :: bytes) = numberNode true bytes := by
  rw [readValue, skipSpace_cons (by decide)]
  rfl

theorem readValue_quote {bytes rest : Bytes} {pieces : List Piece} (fuel : Nat)
    (read : readString bytes = (pieces, .ok rest)) :
    readValue (fuel + 1) (0x22 :: bytes) = (.string pieces, some rest) := by
  rw [readValue, skipSpace_cons (by decide)]
  simp [read]

theorem readValue_bracket (fuel : Nat) (bytes : Bytes) :
    readValue (fuel + 1) (0x5B :: bytes) =
      (.array (readItems fuel true bytes).1, (readItems fuel true bytes).2) := by
  rw [readValue, skipSpace_cons (by decide)]
  rfl

theorem readValue_brace (fuel : Nat) (bytes : Bytes) :
    readValue (fuel + 1) (0x7B :: bytes) =
      (.object (readMembers fuel true bytes).1, (readMembers fuel true bytes).2) := by
  rw [readValue, skipSpace_cons (by decide)]
  rfl

mutual

/-- A value of the grammar is read as its document, whatever white space stands before it. Twice as
much fuel as it has bytes is enough, as an item or a member takes two calls. -/
theorem readValue_of_text {text : Bytes} {doc : Doc} (written : ValueText text doc) {fuel : Nat}
    {space rest : Bytes} (blank : Blank space) (enough : 2 * text.length ≤ fuel)
    (ends : Ends doc rest) : readValue fuel (space ++ text ++ rest) = (doc, some rest) := by
  obtain ⟨b, bytes, head, -⟩ := written.head
  obtain ⟨fuel, rfl⟩ : ∃ less, fuel = less + 1 := by
    refine ⟨fuel - 1, ?_⟩
    rw [head, List.length_cons] at enough
    omega
  rw [List.append_assoc, readValue_blank blank]
  cases written with
  | null => rfl
  | trueWord => rfl
  | falseWord => rfl
  | positive magnitude =>
      obtain ⟨b, bytes, same, digit⟩ := magnitude.head
      have read := readNumber_of_text magnitude (ends _ rfl)
      rw [same, List.cons_append] at read ⊢
      rw [readValue_digit digit, numberNode, read]
  | negative magnitude =>
      rw [List.cons_append, readValue_minus, numberNode, readNumber_of_text magnitude (ends _ rfl)]
  | string pieces =>
      have read := readString_of_text pieces rest
      rw [List.append_assoc, List.cons_append]
      exact readValue_quote fuel read
  | array items =>
      rw [List.length_cons] at enough
      rw [List.cons_append, readValue_bracket, readItems_of_text items rest (by omega)]
  | object members =>
      rw [List.length_cons] at enough
      rw [List.cons_append, readValue_brace, readMembers_of_text members rest (by omega)]

theorem readItems_of_text {first : Bool} {text : Bytes} {items : Items}
    (written : ItemsText first text items) {fuel : Nat} (rest : Bytes)
    (enough : 2 * text.length ≤ fuel) :
    readItems fuel first (text ++ rest) = (items, some rest) := by
  cases written with
  | closed blank =>
      rw [List.length_append, List.length_singleton] at enough
      obtain ⟨fuel, rfl⟩ : ∃ less, fuel = less + 1 := ⟨fuel - 1, by omega⟩
      rw [List.append_assoc]
      exact readItems_closed first fuel blank rest
  | @item _ lead text more value items leads written others =>
      obtain ⟨b, bytes, head, solid, other⟩ := written.head
      have valuePositive : 0 < text.length := by simp [head]
      have restPositive := others.length_pos
      rw [List.length_append, List.length_append] at enough
      obtain ⟨fuel, rfl⟩ : ∃ less, fuel = less + 2 := ⟨fuel - 2, by omega⟩
      have inner := readValue_of_text written blank_nil (show _ ≤ fuel by omega)
        ((others.delimits rest).ends value)
      rw [List.append_assoc, List.append_assoc, head, List.cons_append,
        readItems_lead leads _ _ solid other, ← List.cons_append, ← head, readItem]
      rw [List.nil_append] at inner
      simp only [inner, readItems_of_text others rest (show _ ≤ fuel by omega)]

theorem readMembers_of_text {first : Bool} {text : Bytes} {members : Members}
    (written : MembersText first text members) {fuel : Nat} (rest : Bytes)
    (enough : 2 * text.length ≤ fuel) :
    readMembers fuel first (text ++ rest) = (members, some rest) := by
  cases written with
  | closed blank =>
      rw [List.length_append, List.length_singleton] at enough
      obtain ⟨fuel, rfl⟩ : ∃ less, fuel = less + 1 := ⟨fuel - 1, by omega⟩
      rw [List.append_assoc]
      exact readMembers_closed first fuel blank rest
  | @member _ lead key before after text more pieces value members leads keyed blankBefore
      blankAfter written others =>
      have restPositive := others.length_pos
      simp only [List.length_append, List.length_cons] at enough
      obtain ⟨fuel, rfl⟩ : ∃ less, fuel = less + 2 := ⟨fuel - 2, by omega⟩
      have name := readString_of_text keyed (before ++ 0x3A :: (after ++ (text ++ (more ++ rest))))
      have colon : skipSpace (before ++ 0x3A :: (after ++ (text ++ (more ++ rest)))) =
          0x3A :: (after ++ (text ++ (more ++ rest))) := by
        rw [skipSpace_append blankBefore, skipSpace_cons (by decide)]
      have inner := readValue_of_text written blankAfter (show _ ≤ fuel by omega)
        ((others.delimits rest).ends value)
      rw [List.append_assoc] at inner
      simp only [List.append_assoc, List.cons_append]
      rw [readMembers_lead leads, readMember]
      simp only [name, colon, ↓reduceIte, inner,
        readMembers_of_text others rest (show _ ≤ fuel by omega)]

end

/-! ## Whole texts -/

inductive WholeText : Bytes → Doc → Prop where
  | value {before text after : Bytes} {doc : Doc} :
      Blank before → ValueText text doc → Blank after → WholeText (before ++ text ++ after) doc

/-- A text of the grammar is read as its document, and only white space is left of it. -/
theorem read_of_text {bytes : Bytes} {doc : Doc} (written : WholeText bytes doc) :
    ∃ rest, read bytes = (doc, some rest) ∧ skipSpace rest = [] := by
  cases written with
  | value before value after =>
      have ended := skipSpace_append after []
      rw [List.append_nil] at ended
      refine ⟨_, readValue_of_text value before ?_ ((delimits_blank after).ends doc), ended⟩
      simp only [List.length_append]
      omega

mutual

theorem ValueText.sound {text : Bytes} {doc : Doc} (written : ValueText text doc) :
    doc.defect? = none := by
  cases written with
  | array items => exact items.sound
  | object members => exact members.sound
  | _ => rfl

theorem ItemsText.sound {first : Bool} {text : Bytes} {items : Items}
    (written : ItemsText first text items) : items.defect? = none := by
  cases written with
  | closed _ => rfl
  | item _ value rest => rw [Items.defect?, value.sound, rest.sound, Option.or_none]

theorem MembersText.sound {first : Bool} {text : Bytes} {members : Members}
    (written : MembersText first text members) : members.defect? = none := by
  cases written with
  | closed _ => rfl
  | member _ _ _ _ value rest => rw [Members.defect?, value.sound, rest.sound, Option.or_none]

end

theorem WholeText.sound {bytes : Bytes} {doc : Doc} (written : WholeText bytes doc) :
    doc.defect? = none := by
  cases written with
  | value _ value _ => exact value.sound

end KeyBound.Json
