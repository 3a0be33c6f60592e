import KeyBound.Proofs.Text.Parts
import KeyBound.Proofs.Text.Utf8
import KeyBound.Text.Form

/-!
# Forms and back

The pairs of a form are read back from the body that was written for them, whatever characters they
hold: what is written for a name or a value contains neither of the two signs that cut a body.
-/

set_option autoImplicit false

namespace KeyBound

@[simp] theorem utf8Lossy_utf8 (text : String) : utf8Lossy (utf8 text) = text := by
  have kept (chars : List Char) : (chars.map some).map (·.getD '\uFFFD') = chars := by
    rw [List.map_map]
    exact List.map_id chars
  rw [utf8Lossy, Utf8.decodeLossy, utf8, Utf8.scan_encode, kept, String.ofList_toList]

namespace Percent

theorem decode_cons_of_ne {b : UInt8} (plain : b ≠ 0x25) (rest : Bytes) :
    decode (b :: rest) = b :: decode rest := by
  match rest with
  | [] => rfl
  | [_] => rfl
  | _ :: _ :: _ => rw [decode, if_neg plain]

theorem decode_escape {first second : UInt8} {high low : Nat}
    (leading : Hex.byteValue? first = some high) (trailing : Hex.byteValue? second = some low)
    (rest : Bytes) :
    decode (0x25 :: first :: second :: rest) = UInt8.ofNat (high * 16 + low) :: decode rest := by
  rw [decode, if_pos rfl, leading, trailing]

end Percent

namespace Form

/-! ## Names and values -/

def spaced (b : UInt8) : UInt8 := if b = 0x2B then 0x20 else b

private def written (b : UInt8) : Bytes := Utf8.encode (encodeByte b)

/-- A byte stands for itself, or as an escape of two digits. -/
private theorem written_spaced (b : UInt8) :
    ((written b).map spaced = [b] ∧ b ≠ 0x25) ∨
      ∃ first second, (written b).map spaced = [0x25, first, second] ∧
        Hex.byteValue? first = some (b.toNat / 16) ∧
        Hex.byteValue? second = some (b.toNat % 16) := by
  have table : ∀ n < 256, let b := UInt8.ofNat n
      ((written b).map spaced = [b] ∧ b ≠ 0x25) ∨
        ((written b).map spaced = [0x25, UInt8.ofNat (Hex.upperDigit (b.toNat / 16)).toNat,
            UInt8.ofNat (Hex.upperDigit (b.toNat % 16)).toNat] ∧
          Hex.byteValue? (UInt8.ofNat (Hex.upperDigit (b.toNat / 16)).toNat) =
            some (b.toNat / 16) ∧
          Hex.byteValue? (UInt8.ofNat (Hex.upperDigit (b.toNat % 16)).toNat) =
            some (b.toNat % 16)) := by
    decide +kernel
  have entry := table b.toNat b.toNat_lt
  rw [UInt8.ofNat_toNat] at entry
  exact entry.imp_right fun escaped => ⟨_, _, escaped⟩

/-- Neither of the signs that cut a body is written for a byte. -/
private theorem written_uncut (b : UInt8) : ∀ x ∈ written b, x ≠ 0x26 ∧ x ≠ 0x3D := by
  have table : ∀ n < 256,
      (written (UInt8.ofNat n)).all (fun x => x != 0x26 && x != 0x3D) = true := by
    decide +kernel
  have entry := table b.toNat b.toNat_lt
  rw [UInt8.ofNat_toNat] at entry
  simpa using entry

private theorem encode_encodeText (text : String) :
    Utf8.encode (encodeText text) = (utf8 text).flatMap written := by
  rw [encodeText, Utf8.encode, List.flatMap_assoc]
  rfl

theorem encodeText_uncut (text : String) :
    ∀ b ∈ Utf8.encode (encodeText text), b ≠ 0x26 ∧ b ≠ 0x3D := by
  rw [encode_encodeText]
  intro b member
  obtain ⟨source, _, inside⟩ := List.mem_flatMap.mp member
  exact written_uncut source b inside

theorem decodeText_encodeText (text : String) :
    decodeText (Utf8.encode (encodeText text)) = text := by
  have bytes (list : Bytes) :
      Percent.decode ((list.flatMap written).map spaced) = list := by
    induction list with
    | nil => rfl
    | cons b list ih =>
        rw [List.flatMap_cons, List.map_append]
        rcases written_spaced b with ⟨plain, other⟩ | ⟨first, second, escaped, high, low⟩
        · rw [plain, List.singleton_append, Percent.decode_cons_of_ne other, ih]
        · rw [escaped]
          simp only [List.cons_append, List.nil_append]
          rw [Percent.decode_escape high low, ih, Nat.div_add_mod', UInt8.ofNat_toNat]
  rw [encode_encodeText, decodeText]
  exact (congrArg utf8Lossy (bytes (utf8 text))).trans (utf8Lossy_utf8 text)

/-! ## Bodies -/

theorem splitBytes_of_notMem {separator : UInt8} {bytes : Bytes} (absent : separator ∉ bytes) :
    splitBytes separator bytes = [bytes] := by
  induction bytes with
  | nil => rfl
  | cons b bytes ih =>
      rw [List.mem_cons, not_or] at absent
      obtain ⟨other, rest⟩ := absent
      rw [splitBytes, if_neg (Ne.symm other), ih rest]

theorem splitBytes_append {separator : UInt8} {before : Bytes} (absent : separator ∉ before)
    (after : Bytes) :
    splitBytes separator (before ++ separator :: after) =
      before :: splitBytes separator after := by
  induction before with
  | nil => rw [List.nil_append, splitBytes, if_pos rfl]
  | cons b before ih =>
      rw [List.mem_cons, not_or] at absent
      obtain ⟨other, rest⟩ := absent
      rw [List.cons_append, splitBytes, if_neg (Ne.symm other), ih rest]

private def pairText (pair : String × String) : List Char :=
  encodeText pair.1 ++ '=' :: encodeText pair.2

private theorem encode_pairText (pair : String × String) :
    Utf8.encode (pairText pair) =
      Utf8.encode (encodeText pair.1) ++ 0x3D :: Utf8.encode (encodeText pair.2) := by
  rw [pairText, Utf8.encode_append, Utf8.encode_cons]
  rfl

private theorem pairText_uncut (pair : String × String) :
    0x26 ∉ Utf8.encode (pairText pair) := by
  rw [encode_pairText]
  intro member
  rcases List.mem_append.mp member with name | value
  · exact (encodeText_uncut pair.1 _ name).1 rfl
  · rcases List.mem_cons.mp value with same | value
    · cases same
    · exact (encodeText_uncut pair.2 _ value).1 rfl

private theorem splitBytes_join (pair : String × String) (pairs : List (String × String)) :
    splitBytes 0x26 (Utf8.encode (Text.join '&' ((pair :: pairs).map pairText))) =
      (pair :: pairs).map fun pair => Utf8.encode (pairText pair) := by
  induction pairs generalizing pair with
  | nil => exact splitBytes_of_notMem (pairText_uncut pair)
  | cons next pairs ih =>
      have joined : Utf8.encode (Text.join '&' ((pair :: next :: pairs).map pairText)) =
          Utf8.encode (pairText pair) ++
            0x26 :: Utf8.encode (Text.join '&' ((next :: pairs).map pairText)) := by
        rw [List.map_cons, List.map_cons, Text.join_cons_cons, Utf8.encode_append,
          Utf8.encode_cons]
        rfl
      rw [joined, splitBytes_append (pairText_uncut pair), ih]
      rfl

private theorem decode_pairText (pair : String × String) :
    (decodeText ((Utf8.encode (pairText pair)).takeWhile (· != 0x3D)),
      decodeText (((Utf8.encode (pairText pair)).dropWhile (· != 0x3D)).drop 1)) = pair := by
  have name : ∀ b ∈ Utf8.encode (encodeText pair.1), (b != 0x3D) = true := fun b member =>
    bne_iff_ne.mpr (encodeText_uncut pair.1 b member).2
  rw [encode_pairText, List.takeWhile_append_of_pos name, List.dropWhile_append_of_pos name]
  simp [decodeText_encodeText]

theorem decode_encode (pairs : List (String × String)) : decode (utf8 (encode pairs)) = pairs := by
  cases pairs with
  | nil => rfl
  | cons pair pairs =>
      have body : utf8 (encode (pair :: pairs)) =
          Utf8.encode (Text.join '&' ((pair :: pairs).map pairText)) := by
        rw [utf8, encode, String.toList_ofList]
        rfl
      have something (pair : String × String) :
          (!(Utf8.encode (pairText pair)).isEmpty) = true := by
        rw [encode_pairText]
        simp
      rw [decode, body, splitBytes_join, List.filter_eq_self.mpr, List.map_map]
      · exact (List.map_congr_left fun pair _ => decode_pairText pair).trans (List.map_id _)
      · intro bytes member
        obtain ⟨pair, _, rfl⟩ := List.mem_map.mp member
        exact something pair

end Form

end KeyBound
