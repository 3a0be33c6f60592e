import KeyBound.Proofs.Text.Parts
import KeyBound.Text.Base64
import Mathlib.Data.List.Basic

/-!
# Bytes in an alphabet and back

Bytes are read back from the characters that were written for them, and these are all digits of the
alphabet.
-/

set_option autoImplicit false

namespace KeyBound.Base64

/-- Each digit of an alphabet stands for its own number. -/
def Alphabet.IsDistinct (alphabet : Alphabet) : Prop :=
  ∀ n < 64, alphabet.value? (alphabet.digit n) = some n

theorem urlSafe_isDistinct : urlSafe.IsDistinct := by
  unfold Alphabet.IsDistinct
  decide

theorem standard_isDistinct : standard.IsDistinct := by
  unfold Alphabet.IsDistinct
  decide

private theorem ofNat_toNat (b : UInt8) {n : Nat} (same : n = b.toNat) : UInt8.ofNat n = b := by
  rw [same, UInt8.ofNat_toNat]

theorem decode?_encode {alphabet : Alphabet} (distinct : alphabet.IsDistinct) (bytes : Bytes) :
    decode? alphabet (encode alphabet bytes) = some bytes := by
  induction bytes using encode.induct with
  | case1 => rfl
  | case2 a =>
      have bound := a.toNat_lt
      obtain ⟨n, whole⟩ : ∃ n, n = a.toNat * 16 := ⟨_, rfl⟩
      have first := distinct (n / 64) (by omega)
      have second := distinct (n % 64) (by omega)
      have joined : n / 64 * 64 + n % 64 = n := by omega
      have byte := ofNat_toNat a (show n / 16 = a.toNat by omega)
      simp only [encode, ← whole, decode?, first, second, Option.bind_eq_bind, Option.bind_some,
        joined, byte]
      rw [if_pos (by omega)]
  | case3 a b =>
      have boundA := a.toNat_lt
      have boundB := b.toNat_lt
      obtain ⟨n, whole⟩ : ∃ n, n = (a.toNat * 256 + b.toNat) * 4 := ⟨_, rfl⟩
      have first := distinct (n / 4096) (by omega)
      have second := distinct (n / 64 % 64) (by omega)
      have third := distinct (n % 64) (by omega)
      have joined : (n / 4096 * 64 + n / 64 % 64) * 64 + n % 64 = n := by omega
      have byteA := ofNat_toNat a (show n / 1024 = a.toNat by omega)
      have byteB := ofNat_toNat b (show n / 4 % 256 = b.toNat by omega)
      simp only [encode, ← whole, decode?, first, second, third, Option.bind_eq_bind,
        Option.bind_some, joined, byteA, byteB]
      rw [if_pos (by omega)]
  | case4 a b c rest ih =>
      have boundA := a.toNat_lt
      have boundB := b.toNat_lt
      have boundC := c.toNat_lt
      obtain ⟨n, whole⟩ : ∃ n, n = (a.toNat * 256 + b.toNat) * 256 + c.toNat := ⟨_, rfl⟩
      have first := distinct (n / 262144) (by omega)
      have second := distinct (n / 4096 % 64) (by omega)
      have third := distinct (n / 64 % 64) (by omega)
      have fourth := distinct (n % 64) (by omega)
      have joined :
          ((n / 262144 * 64 + n / 4096 % 64) * 64 + n / 64 % 64) * 64 + n % 64 = n := by omega
      have byteA := ofNat_toNat a (show n / 65536 = a.toNat by omega)
      have byteB := ofNat_toNat b (show n / 256 % 256 = b.toNat by omega)
      have byteC := ofNat_toNat c (show n % 256 = c.toNat by omega)
      simp only [encode, ← whole, decode?, first, second, third, fourth, ih,
        Option.bind_eq_bind, Option.bind_some, joined, byteA, byteB, byteC]

/-- Whatever holds of all digits holds of all characters that are written. -/
theorem forall_mem_encode {alphabet : Alphabet} {p : Char → Prop}
    (digits : ∀ n < 64, p (alphabet.digit n)) (bytes : Bytes) :
    ∀ c ∈ encode alphabet bytes, p c := by
  induction bytes using encode.induct with
  | case1 => simp [encode]
  | case2 a =>
      have bound := a.toNat_lt
      simp only [encode, List.forall_mem_cons]
      exact ⟨digits _ (by omega), digits _ (by omega), by simp⟩
  | case3 a b =>
      have boundA := a.toNat_lt
      have boundB := b.toNat_lt
      simp only [encode, List.forall_mem_cons]
      exact ⟨digits _ (by omega), digits _ (by omega), digits _ (by omega), by simp⟩
  | case4 a b c rest ih =>
      have boundA := a.toNat_lt
      have boundB := b.toNat_lt
      have boundC := c.toNat_lt
      simp only [encode, List.forall_mem_cons]
      exact ⟨digits _ (by omega), digits _ (by omega), digits _ (by omega), digits _ (by omega), ih⟩

/-! ## Padded text -/

/-- Writes bytes with padding to a multiple of four characters. -/
def encodePadded (alphabet : Alphabet) (bytes : Bytes) : List Char :=
  let body := encode alphabet bytes
  body ++ List.replicate ((4 - body.length % 4) % 4) '='

theorem forall_mem_encodePadded {alphabet : Alphabet} {p : Char → Prop}
    (digits : ∀ n < 64, p (alphabet.digit n)) (padding : p '=') (bytes : Bytes) :
    ∀ c ∈ encodePadded alphabet bytes, p c := by
  intro c member
  rcases List.mem_append.mp member with inBody | inPadding
  · exact forall_mem_encode digits bytes c inBody
  · rw [List.eq_of_mem_replicate inPadding]
    exact padding

theorem decodePadded?_encodePadded {alphabet : Alphabet} (distinct : alphabet.IsDistinct)
    (unpadded : ∀ n < 64, alphabet.digit n ≠ '=') (bytes : Bytes) :
    decodePadded? alphabet (encodePadded alphabet bytes) = some bytes := by
  obtain ⟨body, written⟩ : ∃ body, body = encode alphabet bytes := ⟨_, rfl⟩
  obtain ⟨count, padding⟩ : ∃ count, count = (4 - body.length % 4) % 4 := ⟨_, rfl⟩
  have whole : encodePadded alphabet bytes = body ++ List.replicate count '=' := by
    rw [padding, written, encodePadded]
  have apart : ∀ c ∈ encode alphabet bytes, c ≠ '=' := forall_mem_encode unpadded bytes
  have digits : ∀ c ∈ body.reverse, (c == '=') = false := by
    intro c member
    rw [List.mem_reverse, written] at member
    exact beq_eq_false_iff_ne.mpr (apart c member)
  have stripped : (encodePadded alphabet bytes).reverse.dropWhile (· == '=') = body.reverse := by
    rw [whole, List.reverse_append, List.reverse_replicate,
      List.dropWhile_append_of_pos (by simp)]
    exact Text.dropWhile_of_head fun c first => digits c (List.mem_of_mem_head? first)
  have length : (encodePadded alphabet bytes).length = body.length + count := by
    rw [whole, List.length_append, List.length_replicate]
  unfold decodePadded?
  simp only [stripped, List.reverse_reverse, length]
  rw [if_pos ⟨by omega, by omega⟩, written, decode?_encode distinct]

end KeyBound.Base64
