import KeyBound.Proofs.Text.Utf8
import Mathlib.Data.String.Basic

/-!
# The order of texts

Texts come in the order of their bytes: of two characters the smaller one has the smaller bytes,
whatever follows them.
-/

set_option autoImplicit false

namespace KeyBound

namespace Utf8

/-! ## Groups of bits -/

/-- The bytes after the first one of a character, each with six bits of its number. -/
private def tails : Nat → Nat → Bytes
  | 0, _ => []
  | count + 1, n => tails count (n / 64) ++ [UInt8.ofNat (0x80 + n % 64)]

private theorem byte_lt {m n : Nat} (less : m < n) (small : n < 256) (x y : Bytes) :
    UInt8.ofNat m :: x < UInt8.ofNat n :: y := by
  have first : (UInt8.ofNat m).toNat = m := UInt8.toNat_ofNat_of_lt (Nat.lt_trans less small)
  have second : (UInt8.ofNat n).toNat = n := UInt8.toNat_ofNat_of_lt small
  refine List.cons_lt_cons_iff.mpr (.inl ?_)
  rwa [UInt8.lt_iff_toNat_lt, first, second]

/-- Of two numbers the smaller one has fewer bits ahead, or the same and the smaller tails. -/
private theorem tails_lt (count : Nat) {m n : Nat} (less : m < n) (x y : Bytes) :
    m / Nat.pow 64 count < n / Nat.pow 64 count ∨
      m / Nat.pow 64 count = n / Nat.pow 64 count ∧ tails count m ++ x < tails count n ++ y := by
  induction count generalizing m n x y with
  | zero => exact .inl (by simpa using less)
  | succ count ih =>
      have ahead (k : Nat) : k / Nat.pow 64 (count + 1) = k / 64 / Nat.pow 64 count := by
        rw [Nat.div_div_eq_div_mul]
        exact congrArg (k / ·) Nat.pow_succ'
      simp only [ahead, tails, List.append_assoc]
      rcases Nat.lt_or_eq_of_le (Nat.div_le_div_right (c := 64) less.le) with fewer | same
      · exact ih fewer _ _
      · refine .inr ⟨by rw [same], ?_⟩
        rw [same]
        exact List.append_left_lt (byte_lt (by omega) (by omega) _ _)

private theorem lead_lt (base count : Nat) {m n : Nat} (less : m < n)
    (small : base + n / Nat.pow 64 count < 256) (x y : Bytes) :
    UInt8.ofNat (base + m / Nat.pow 64 count) :: (tails count m ++ x) <
      UInt8.ofNat (base + n / Nat.pow 64 count) :: (tails count n ++ y) := by
  rcases tails_lt count less x y with fewer | ⟨same, later⟩
  · exact byte_lt (by omega) small _ _
  · rw [same]
    exact List.cons_lt_cons_iff.mpr (.inr ⟨rfl, later⟩)

/-! ## Characters and texts -/

theorem encodeChar_append_lt {c d : Char} (less : c < d) (x y : Bytes) :
    encodeChar c ++ x < encodeChar d ++ y := by
  have ordered : c.toNat < d.toNat := less
  have bound : d.toNat < 0x110000 := by
    have scalar : d.toNat < 0xD800 ∨ (0xDFFF < d.toNat ∧ d.toNat < 0x110000) := d.valid
    omega
  have twelve (k : Nat) : k / 4096 = k / 64 / 64 := (Nat.div_div_eq_div_mul k 64 64).symm
  unfold encodeChar
  dsimp only
  generalize c.toNat = m at ordered
  generalize d.toNat = n at ordered bound
  -- Characters of different lengths differ in their first bytes, others in their bits.
  split_ifs
  all_goals first
    | exact byte_lt (by omega) (by omega) _ _
    | exact lead_lt 0xC0 1 ordered (show 0xC0 + n / 64 < 256 by omega) x y
    | exact lead_lt 0xE0 2 ordered (show 0xE0 + n / 4096 < 256 by omega) x y
    | rw [twelve m, twelve n]
      exact lead_lt 0xF0 3 ordered (show 0xF0 + n / 262144 < 256 by omega) x y

theorem encode_lt_of_lt {first second : List Char} (less : first < second) :
    encode first < encode second := by
  induction first generalizing second with
  | nil =>
      cases second with
      | nil => exact absurd less (List.lt_irrefl [])
      | cons d rest =>
          obtain ⟨lead, tail, bytes⟩ := List.exists_cons_of_ne_nil (encodeChar_ne_nil d)
          rw [encode_nil, encode_cons, bytes]
          exact List.nil_lt_cons _ _
  | cons c text ih =>
      cases second with
      | nil => exact absurd less (List.not_lt_nil _)
      | cons d rest =>
          rw [encode_cons, encode_cons]
          rcases List.cons_lt_cons_iff.mp less with smaller | ⟨rfl, later⟩
          · exact encodeChar_append_lt smaller _ _
          · exact List.append_left_lt (ih later)

end Utf8

theorem utf8_lt_iff {first second : String} : utf8 first < utf8 second ↔ first < second := by
  constructor
  · intro bytes
    rcases lt_trichotomy first second with less | rfl | more
    · exact less
    · exact absurd bytes (List.lt_irrefl _)
    · exact absurd (Utf8.encode_lt_of_lt more) (List.lt_asymm bytes)
  · exact fun less => Utf8.encode_lt_of_lt less

end KeyBound
