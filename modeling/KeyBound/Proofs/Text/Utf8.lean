import KeyBound.Text.Utf8
import Mathlib.Data.List.Basic

/-!
# Text as bytes and back

The bytes of a text are read as that text. What follows the bytes of a character does not change how
they are read.
-/

set_option autoImplicit false

namespace KeyBound.Utf8

private theorem toNat_ofNat {n : Nat} (small : n < 256) : (UInt8.ofNat n).toNat = n :=
  UInt8.toNat_ofNat_of_lt small

theorem within_iff {low high b : UInt8} :
    within low high b = true ↔ low.toNat ≤ b.toNat ∧ b.toNat ≤ high.toNat := by
  simp only [within, Bool.and_eq_true, decide_eq_true_eq, UInt8.le_iff_toNat_le]

private theorem within_tail {n : Nat} (small : n < 64) :
    within 0x80 0xBF (UInt8.ofNat (0x80 + n)) = true ∧
      (UInt8.ofNat (0x80 + n)).toNat - 0x80 = n := by
  rw [within_iff, toNat_ofNat (by omega)]
  simp only [UInt8.reduceToNat]
  omega

private theorem follow_two {n : Nat} (low : 0x80 ≤ n) (high : n < 0x800) :
    follow (UInt8.ofNat (0xC0 + n / 64)) = some (1, n / 64, 0x80, 0xBF) := by
  have lead := toNat_ofNat (show 0xC0 + n / 64 < 256 by omega)
  simp only [follow, UInt8.lt_iff_toNat_lt, lead, UInt8.reduceToNat]
  rw [if_neg (by omega), if_pos (by omega), Nat.add_sub_cancel_left]

/-- The range of the second byte excludes surrogates and the forms of smaller characters. -/
private theorem follow_three {n : Nat} (low : 0x800 ≤ n) (high : n < 0x10000)
    (scalar : n < 0xD800 ∨ 0xDFFF < n) :
    ∃ first last, follow (UInt8.ofNat (0xE0 + n / 4096)) = some (2, n / 4096, first, last) ∧
      within first last (UInt8.ofNat (0x80 + n / 64 % 64)) = true := by
  have lead := toNat_ofNat (show 0xE0 + n / 4096 < 256 by omega)
  have second := toNat_ofNat (show 0x80 + n / 64 % 64 < 256 by omega)
  simp only [follow, within_iff, ← UInt8.toNat_inj, UInt8.lt_iff_toNat_lt, lead, second,
    UInt8.reduceToNat]
  rw [if_neg (by omega), if_neg (by omega)]
  split
  · rename_i zero
    refine ⟨_, _, by rw [show n / 4096 = 0 by omega], ?_⟩
    simp only [UInt8.reduceToNat]
    omega
  · split
    · rename_i surrogates
      refine ⟨_, _, by rw [show n / 4096 = 0xD by omega], ?_⟩
      simp only [UInt8.reduceToNat]
      omega
    · rw [if_pos (by omega), Nat.add_sub_cancel_left]
      refine ⟨_, _, rfl, ?_⟩
      simp only [UInt8.reduceToNat]
      omega

/-- The range of the second byte excludes the forms of smaller characters and all that are none. -/
private theorem follow_four {n : Nat} (low : 0x10000 ≤ n) (high : n < 0x110000) :
    ∃ first last, follow (UInt8.ofNat (0xF0 + n / 262144)) = some (3, n / 262144, first, last) ∧
      within first last (UInt8.ofNat (0x80 + n / 4096 % 64)) = true := by
  have lead := toNat_ofNat (show 0xF0 + n / 262144 < 256 by omega)
  have second := toNat_ofNat (show 0x80 + n / 4096 % 64 < 256 by omega)
  simp only [follow, within_iff, ← UInt8.toNat_inj, UInt8.lt_iff_toNat_lt, lead, second,
    UInt8.reduceToNat]
  rw [if_neg (by omega), if_neg (by omega), if_neg (by omega), if_neg (by omega),
    if_neg (by omega)]
  split
  · rename_i zero
    refine ⟨_, _, by rw [show n / 262144 = 0 by omega], ?_⟩
    simp only [UInt8.reduceToNat]
    omega
  · split
    · rw [Nat.add_sub_cancel_left]
      refine ⟨_, _, rfl, ?_⟩
      simp only [UInt8.reduceToNat]
      omega
    · rw [if_pos (by omega)]
      refine ⟨_, _, by rw [show n / 262144 = 4 by omega], ?_⟩
      simp only [UInt8.reduceToNat]
      omega

private theorem not_ascii {n : Nat} (low : 0x80 ≤ n) (small : n < 256) :
    ¬ UInt8.ofNat n < 0x80 := by
  rw [UInt8.lt_iff_toNat_lt, toNat_ofNat small]
  exact Nat.not_lt.mpr low

@[simp] theorem encode_nil : encode [] = [] := rfl

@[simp] theorem encode_cons (c : Char) (text : List Char) :
    encode (c :: text) = encodeChar c ++ encode text :=
  List.flatMap_cons

@[simp] theorem encode_append (first second : List Char) :
    encode (first ++ second) = encode first ++ encode second :=
  List.flatMap_append

theorem encodeChar_of_ascii {c : Char} (ascii : c.toNat < 0x80) :
    encodeChar c = [UInt8.ofNat c.toNat] :=
  if_pos ascii

/-- The bytes of a character from U+0080 on lie above those of the characters below. -/
theorem encodeChar_of_wide {c : Char} (wide : 0x80 ≤ c.toNat) :
    ∀ b ∈ encodeChar c, ¬ b < 0x80 := by
  have bound : c.toNat < 0x110000 := by
    have scalar : c.toNat < 0xD800 ∨ (0xDFFF < c.toNat ∧ c.toNat < 0x110000) := c.valid
    omega
  unfold encodeChar
  dsimp only
  rw [if_neg (Nat.not_lt.mpr wide)]
  split
  · simp only [List.forall_mem_cons]
    exact ⟨not_ascii (by omega) (by omega), not_ascii (by omega) (by omega), by simp⟩
  · split
    · simp only [List.forall_mem_cons]
      exact ⟨not_ascii (by omega) (by omega), not_ascii (by omega) (by omega),
        not_ascii (by omega) (by omega), by simp⟩
    · simp only [List.forall_mem_cons]
      exact ⟨not_ascii (by omega) (by omega), not_ascii (by omega) (by omega),
        not_ascii (by omega) (by omega), not_ascii (by omega) (by omega), by simp⟩

theorem encodeChar_ne_nil (c : Char) : encodeChar c ≠ [] := by
  unfold encodeChar
  dsimp only
  split
  · exact List.cons_ne_nil _ _
  · split
    · exact List.cons_ne_nil _ _
    · split <;> exact List.cons_ne_nil _ _

private theorem head_one {n : Nat} (ascii : n < 0x80) (rest : Bytes) :
    head (UInt8.ofNat n) rest = (some (Char.ofNat n), 0) := by
  have byte := toNat_ofNat (show n < 256 by omega)
  have below : UInt8.ofNat n < 0x80 := by
    rw [UInt8.lt_iff_toNat_lt, byte]
    exact ascii
  unfold head
  rw [if_pos below, byte]

private theorem head_two {n : Nat} (low : 0x80 ≤ n) (high : n < 0x800) (rest : Bytes) :
    head (UInt8.ofNat (0xC0 + n / 64)) (UInt8.ofNat (0x80 + n % 64) :: rest) =
      (some (Char.ofNat n), 1) := by
  obtain ⟨inside, bits⟩ := within_tail (show n % 64 < 64 by omega)
  have whole : n / 64 * 64 + n % 64 = n := by omega
  unfold head
  rw [if_neg (not_ascii (by omega) (by omega)), follow_two low high]
  simp only [inside, bits, whole, ↓reduceIte]

private theorem head_three {n : Nat} (low : 0x800 ≤ n) (high : n < 0x10000)
    (scalar : n < 0xD800 ∨ 0xDFFF < n) (rest : Bytes) :
    head (UInt8.ofNat (0xE0 + n / 4096)) (UInt8.ofNat (0x80 + n / 64 % 64) ::
      UInt8.ofNat (0x80 + n % 64) :: rest) = (some (Char.ofNat n), 2) := by
  obtain ⟨first, last, follows, second⟩ := follow_three low high scalar
  obtain ⟨_, bits⟩ := within_tail (show n / 64 % 64 < 64 by omega)
  obtain ⟨inside, bitsToo⟩ := within_tail (show n % 64 < 64 by omega)
  have whole : (n / 4096 * 64 + n / 64 % 64) * 64 + n % 64 = n := by omega
  unfold head
  rw [if_neg (not_ascii (by omega) (by omega)), follows]
  simp only [second, inside, bits, bitsToo, whole, Nat.reduceEqDiff, ↓reduceIte]

private theorem head_four {n : Nat} (low : 0x10000 ≤ n) (high : n < 0x110000) (rest : Bytes) :
    head (UInt8.ofNat (0xF0 + n / 262144)) (UInt8.ofNat (0x80 + n / 4096 % 64) ::
      UInt8.ofNat (0x80 + n / 64 % 64) :: UInt8.ofNat (0x80 + n % 64) :: rest) =
        (some (Char.ofNat n), 3) := by
  obtain ⟨first, last, follows, second⟩ := follow_four low high
  obtain ⟨_, bits⟩ := within_tail (show n / 4096 % 64 < 64 by omega)
  obtain ⟨inside, bitsToo⟩ := within_tail (show n / 64 % 64 < 64 by omega)
  obtain ⟨insideToo, bitsLast⟩ := within_tail (show n % 64 < 64 by omega)
  have whole : ((n / 262144 * 64 + n / 4096 % 64) * 64 + n / 64 % 64) * 64 + n % 64 = n := by
    omega
  unfold head
  rw [if_neg (not_ascii (by omega) (by omega)), follows]
  simp only [second, inside, insideToo, bits, bitsToo, bitsLast, whole, Nat.reduceEqDiff,
    ↓reduceIte]

/-- A character is read from its bytes, whatever follows them. -/
theorem head_encodeChar (c : Char) (rest : Bytes) :
    ∃ lead tail, encodeChar c = lead :: tail ∧
      head lead (tail ++ rest) = (some c, tail.length) := by
  have scalar : c.toNat < 0xD800 ∨ (0xDFFF < c.toNat ∧ c.toNat < 0x110000) := c.valid
  have same : Char.ofNat c.toNat = c := Char.ofNat_toNat c
  unfold encodeChar
  dsimp only
  split
  · rename_i ascii
    have found := head_one ascii rest
    rw [same] at found
    exact ⟨_, [], rfl, found⟩
  · rename_i wide
    split
    · rename_i two
      have found := head_two (Nat.not_lt.mp wide) two rest
      rw [same] at found
      exact ⟨_, _, rfl, found⟩
    · split
      · have found := head_three (n := c.toNat) (by omega) (by omega) (by omega) rest
        rw [same] at found
        exact ⟨_, _, rfl, found⟩
      · have found := head_four (n := c.toNat) (by omega) (by omega) rest
        rw [same] at found
        exact ⟨_, _, rfl, found⟩

private theorem scanFrom_append (passed rest : Bytes) :
    scanFrom passed.length (passed ++ rest) = scanFrom 0 rest := by
  induction passed with
  | nil => rfl
  | cons b passed ih => exact ih

theorem scan_encode (text : List Char) : scan (encode text) = text.map some := by
  induction text with
  | nil => rfl
  | cons c text ih =>
      obtain ⟨lead, tail, bytes, found⟩ := head_encodeChar c (encode text)
      rw [encode_cons, bytes, List.cons_append, scan, scanFrom, found, scanFrom_append]
      exact congrArg (some c :: ·) ih

@[simp] theorem decode?_encode (text : List Char) : decode? (encode text) = some text := by
  rw [decode?, scan_encode]
  induction text with
  | nil => rfl
  | cons c text ih => simp [ih]

end KeyBound.Utf8

namespace KeyBound

@[simp] theorem utf8?_utf8 (text : String) : utf8? (utf8 text) = some text := by
  rw [utf8?, utf8, Utf8.decode?_encode, Option.map_some, String.ofList_toList]

end KeyBound
