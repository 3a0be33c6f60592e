import KeyBound.Http.Header
import KeyBound.Proofs.Text.Utf8
import Mathlib.Data.List.DropRight
import Mathlib.Data.List.TakeWhile

/-!
# Headers and their values

What a header that takes the place of others leaves, and when the first value of a header gives no
text after its blanks are removed.
-/

set_option autoImplicit false

namespace KeyBound

theorem Text.trim_eq_nil_iff {text : List Char} :
    trim text = [] ↔ ∀ c ∈ text, isBlank c = true := by
  change (text.dropWhile isBlank).rdropWhile isBlank = [] ↔ _
  rw [List.rdropWhile_eq_nil_iff]
  constructor
  · intro blank
    have nothing := List.dropWhile_eq_nil_iff.mpr blank
    rwa [List.dropWhile_idempotent, List.dropWhile_eq_nil_iff] at nothing
  · intro blank c member
    rw [List.dropWhile_eq_nil_iff.mpr blank] at member
    cases member

/-- Among the bytes that text consists of, only the space and the tab are blank. -/
theorem HeaderValue.isBlank_iff_of_isTextByte {b : UInt8} (textual : isTextByte b = true) :
    isBlank (Char.ofNat b.toNat) = true ↔ b = 0x20 ∨ b = 0x09 := by
  have point : (Char.ofNat b.toNat).toNat = b.toNat := by
    have bound : b.toNat < 256 := b.toNat_lt
    have valid : b.toNat.isValidChar := Or.inl (by omega)
    rw [Char.ofNat, dif_pos valid]
    rfl
  simp only [isTextByte, Bool.or_eq_true, decide_eq_true_eq, Bool.and_eq_true,
    UInt8.le_iff_toNat_le, ← UInt8.toNat_inj, UInt8.reduceToNat] at textual
  simp only [isBlank, point, Bool.or_eq_true, Bool.and_eq_true, decide_eq_true_eq, beq_iff_eq,
    ← UInt8.toNat_inj, UInt8.reduceToNat]
  omega

theorem HeaderValue.chars?_utf8 {text : String} {sensitive : Bool} {chars : List Char}
    (read : (⟨utf8 text, sensitive⟩ : HeaderValue).chars? = some chars) : chars = text.toList := by
  have inverse (text : List Char) (textual : ∀ b ∈ Utf8.encode text, isTextByte b = true) :
      (Utf8.encode text).map (fun b => Char.ofNat b.toNat) = text := by
    induction text with
    | nil => rfl
    | cons c rest ih =>
        rw [Utf8.encode_cons] at textual ⊢
        obtain ⟨textualHere, textualRest⟩ := List.forall_mem_append.mp textual
        have ascii : c.toNat < 0x80 := by
          by_contra wide
          obtain ⟨b, member⟩ := List.exists_mem_of_ne_nil _ (Utf8.encodeChar_ne_nil c)
          have outside := Utf8.encodeChar_of_wide (Nat.not_lt.mp wide) b member
          have inside := textualHere b member
          simp only [isTextByte, Bool.or_eq_true, decide_eq_true_eq, Bool.and_eq_true,
            UInt8.le_iff_toNat_le, ← UInt8.toNat_inj, UInt8.reduceToNat] at inside
          simp only [UInt8.lt_iff_toNat_lt, UInt8.reduceToNat] at outside
          omega
        have byte : (UInt8.ofNat c.toNat).toNat = c.toNat :=
          UInt8.toNat_ofNat_of_lt (show c.toNat < 256 by omega)
        rw [List.map_append, ih textualRest, Utf8.encodeChar_of_ascii ascii]
        simp only [List.map_cons, List.map_nil, byte, Char.ofNat_toNat, List.singleton_append]
  unfold chars? at read
  split at read
  · rename_i textual
    cases read
    exact inverse text.toList (List.all_eq_true.mp textual)
  · cases read

theorem HeaderValue.visible_of_chars? {value : HeaderValue} {text : List Char}
    (read : value.chars? = some text) :
    ∀ c ∈ text, c = '\t' ∨ 0x20 ≤ c.toNat ∧ c.toNat ≤ 0x7E := by
  unfold chars? at read
  split at read
  · rename_i textual
    cases read
    intro c member
    obtain ⟨b, inside, rfl⟩ := List.mem_map.mp member
    have byte := List.all_eq_true.mp textual b inside
    have table : ∀ n < 256, isTextByte (UInt8.ofNat n) = true →
        Char.ofNat n = '\t' ∨ 0x20 ≤ (Char.ofNat n).toNat ∧ (Char.ofNat n).toNat ≤ 0x7E := by
      decide +kernel
    have found := table b.toNat b.toNat_lt
    rw [UInt8.ofNat_toNat] at found
    exact found byte
  · cases read

/-- A text of visible characters, spaces and tabs is read as it was written. -/
theorem HeaderValue.chars?_ofAscii {text : String}
    (textual : ∀ c ∈ text.toList, c = '\t' ∨ 0x20 ≤ c.toNat ∧ c.toNat ≤ 0x7E) :
    (ofAscii text).chars? = some text.toList := by
  have inside : (ofAscii text).isText = true := by
    refine List.all_eq_true.mpr fun b member => ?_
    obtain ⟨c, inText, encoded⟩ := List.mem_flatMap.mp member
    have bounds : c.toNat = 9 ∨ 0x20 ≤ c.toNat ∧ c.toNat ≤ 0x7E := by
      rcases textual c inText with rfl | visible
      · exact .inl rfl
      · exact .inr visible
    rw [Utf8.encodeChar_of_ascii (by omega), List.mem_singleton] at encoded
    have byte : b.toNat = c.toNat :=
      encoded ▸ UInt8.toNat_ofNat_of_lt (show c.toNat < 256 by omega)
    simp only [isTextByte, Bool.or_eq_true, Bool.and_eq_true, decide_eq_true_eq,
      UInt8.le_iff_toNat_le, ← UInt8.toNat_inj, byte, UInt8.reduceToNat]
    exact bounds
  cases read : (ofAscii text).chars? with
  | none =>
      rw [chars?, if_pos inside] at read
      cases read
  | some chars => rw [chars?_utf8 read]

namespace Headers

theorem getAll_insert_of_ne {name other : String} (distinct : fold name ≠ fold other)
    (headers : Headers) (value : HeaderValue) :
    (headers.insert name value).getAll other = headers.getAll other := by
  change ((headers.remove name ++ [(fold name, value)]).filter _).map _ = _
  rw [List.filter_append, remove, List.filter_filter, getAll]
  have gone : [(fold name, value)].filter (fun entry => entry.1 == fold other) = [] := by
    simp [distinct]
  rw [gone, List.append_nil]
  congr 1
  apply List.filter_congr
  intro entry member
  by_cases named : entry.1 = fold other
  · simp [named, Ne.symm distinct]
  · simp [named]

theorem getAll_insert_self (headers : Headers) (name : String) (value : HeaderValue) :
    (headers.insert name value).getAll name = [value] := by
  change ((headers.remove name ++ [(fold name, value)]).filter _).map _ = _
  rw [List.filter_append, remove, List.filter_filter]
  simp

/-- The first value of a name is missing, is no text, or has nothing but spaces and tabs. -/
def LacksText (headers : Headers) (name : String) : Prop :=
  ∀ value, headers.get? name = some value →
    value.isText = false ∨ ∀ b ∈ value.bytes, b = 0x20 ∨ b = 0x09

theorem filter_trimmed?_eq_none_iff {headers : Headers} {name : String} :
    (headers.trimmed? name).filter (!·.isEmpty) = none ↔ headers.LacksText name := by
  unfold trimmed? chars? LacksText
  cases found : headers.get? name with
  | none => simp
  | some value =>
      cases textual : value.isText with
      | false => simp [HeaderValue.chars?, textual]
      | true =>
          have bytesTextual : ∀ b ∈ value.bytes, HeaderValue.isTextByte b = true := by
            simpa [HeaderValue.isText] using textual
          have blankIff :
              Text.trim (value.bytes.map fun b => Char.ofNat b.toNat) = [] ↔
                ∀ b ∈ value.bytes, b = 0x20 ∨ b = 0x09 := by
            rw [Text.trim_eq_nil_iff, List.forall_mem_map]
            exact forall₂_congr fun b member =>
              HeaderValue.isBlank_iff_of_isTextByte (bytesTextual b member)
          simpa [HeaderValue.chars?, textual] using blankIff

end Headers

end KeyBound
