import KeyBound.Handshake.Proof
import KeyBound.Proofs.Text.Form
import KeyBound.Proofs.Url.Parsed

/-!
# Addresses of requests

The address of a request that a proof states stands for a text: that of the URL up to its query,
decoded once. No more than four characters are escaped in an address, and decoding it gives back the
text that it stands for.
-/

set_option autoImplicit false

namespace KeyBound

theorem Url.text_of_segments {url : Url} {list : List (List Char)}
    (path : url.path = .segments list) :
    url.text = url.withoutQuery.text ++ marked '?' url.query ++ marked '#' url.fragment := by
  simp [text, withoutQuery, pathText, userinfoText, path, marked]

/-! ## Escapes -/

/-- The characters that are escaped in an address, and the digits that stand for them. -/
def addressEscapes : List (Char × List Char) :=
  [('%', ['2', '5']), (' ', ['2', '0']), ('"', ['2', '2']), ('#', ['2', '3'])]

/-- A text that may stand as an address: of the characters that are escaped it holds none but
percent signs, and each of these starts an escape of one of the four. -/
structure IsAddress (text : List Char) : Prop where
  reserved : ∀ c ∈ text, c ≠ ' ' ∧ c ≠ '"' ∧ c ≠ '#'
  escapes : ∀ before after, text = before ++ '%' :: after →
    ∃ entry ∈ addressEscapes, entry.2 <+: after

inductive IsWritten (c : Char) : List Char → Prop where
  | escaped {digits : List Char} : (c, digits) ∈ addressEscapes → IsWritten c ('%' :: digits)
  | plain : c ≠ '%' → c ≠ ' ' → c ≠ '"' → c ≠ '#' → IsWritten c [c]

theorem isWritten_addressChar (c : Char) : IsWritten c (addressChar c) := by
  unfold addressChar
  split
  · rename_i percent
    exact .escaped (percent ▸ by decide)
  · split
    · rename_i space
      exact .escaped (space ▸ by decide)
    · split
      · rename_i quote
        exact .escaped (quote ▸ by decide)
      · split
        · rename_i hash
          exact .escaped (hash ▸ by decide)
        · exact .plain ‹_› ‹_› ‹_› ‹_›

theorem IsAddress.nil : IsAddress [] := ⟨nofun, by simp⟩

theorem IsAddress.written {c : Char} {chars rest : List Char} (written : IsWritten c chars)
    (address : IsAddress rest) : IsAddress (chars ++ rest) := by
  cases written with
  | @escaped digits listed =>
      have digital : ∀ entry ∈ addressEscapes,
          ∃ d, entry.2 = ['2', d] ∧ d ≠ '%' ∧ d ≠ ' ' ∧ d ≠ '"' ∧ d ≠ '#' := by
        simp [addressEscapes]
      obtain ⟨d, rfl, noPercent, noSpace, noQuote, noHash⟩ := digital _ listed
      constructor
      · intro x member
        simp only [List.cons_append, List.nil_append, List.mem_cons] at member
        rcases member with rfl | rfl | rfl | later
        · decide
        · decide
        · exact ⟨noSpace, noQuote, noHash⟩
        · exact address.reserved x later
      · -- A percent sign is the one in front, or stands behind both of the digits.
        intro before after split
        match before with
        | [] =>
            obtain rfl : '2' :: d :: rest = after := (List.cons.inj split).2
            exact ⟨_, listed, rest, rfl⟩
        | [_] => simp at split
        | [_, _] =>
            exact absurd (List.cons.inj (List.cons.inj (List.cons.inj split).2).2).1 noPercent
        | _ :: _ :: _ :: before =>
            exact address.escapes before after
              (List.cons.inj (List.cons.inj (List.cons.inj split).2).2).2
  | plain noPercent noSpace noQuote noHash =>
      constructor
      · intro x member
        rcases List.mem_cons.mp member with rfl | later
        · exact ⟨noSpace, noQuote, noHash⟩
        · exact address.reserved x later
      · intro before after split
        match before with
        | [] => exact absurd (List.cons.inj split).1 noPercent
        | _ :: before => exact address.escapes before after (List.cons.inj split).2

theorem isAddress_flatMap (text : List Char) : IsAddress (text.flatMap addressChar) := by
  induction text with
  | nil => exact .nil
  | cons c text ih => exact .written (isWritten_addressChar c) ih

/-! ## Decoding -/

namespace Percent

theorem decode_append_of_notMem {bytes : Bytes} (plain : 0x25 ∉ bytes) (rest : Bytes) :
    decode (bytes ++ rest) = bytes ++ decode rest := by
  induction bytes with
  | nil => rfl
  | cons b bytes ih =>
      rw [List.mem_cons, not_or] at plain
      obtain ⟨other, later⟩ := plain
      rw [List.cons_append, decode_cons_of_ne (Ne.symm other), ih later, List.cons_append]

/-- The byte of the percent sign belongs to no other character. -/
theorem notMem_encodeChar {c : Char} (other : c ≠ '%') : 0x25 ∉ Utf8.encodeChar c := by
  intro member
  by_cases ascii : c.toNat < 0x80
  · rw [Utf8.encodeChar_of_ascii ascii, List.mem_singleton] at member
    have byte : (UInt8.ofNat c.toNat).toNat = c.toNat :=
      UInt8.toNat_ofNat_of_lt (show c.toNat < 256 by omega)
    rw [← member] at byte
    exact other (Char.toNat_inj.mp byte.symm)
  · exact Utf8.encodeChar_of_wide (Nat.not_lt.mp ascii) _ member (by decide)

end Percent

theorem IsWritten.decode {c : Char} {chars : List Char} (written : IsWritten c chars)
    (rest : Bytes) :
    Percent.decode (Utf8.encode chars ++ rest) = Utf8.encodeChar c ++ Percent.decode rest := by
  cases written with
  | escaped listed =>
      have table : ∀ entry ∈ addressEscapes, ∃ first second high low,
          Utf8.encode ('%' :: entry.2) = [0x25, first, second] ∧
          Hex.byteValue? first = some high ∧ Hex.byteValue? second = some low ∧
          Utf8.encodeChar entry.1 = [UInt8.ofNat (high * 16 + low)] := by
        simp only [addressEscapes, List.forall_mem_cons]
        exact ⟨⟨_, _, 2, 5, rfl, rfl, rfl, rfl⟩, ⟨_, _, 2, 0, rfl, rfl, rfl, rfl⟩,
          ⟨_, _, 2, 2, rfl, rfl, rfl, rfl⟩, ⟨_, _, 2, 3, rfl, rfl, rfl, rfl⟩, nofun⟩
      obtain ⟨first, second, high, low, bytes, leading, trailing, byte⟩ := table _ listed
      rw [bytes, byte]
      exact Percent.decode_escape leading trailing rest
  | plain noPercent _ _ _ =>
      rw [Utf8.encode_cons, Utf8.encode_nil, List.append_nil]
      exact Percent.decode_append_of_notMem (Percent.notMem_encodeChar noPercent) rest

theorem decode_flatMap_addressChar (text : List Char) :
    Percent.decode (Utf8.encode (text.flatMap addressChar)) = Utf8.encode text := by
  induction text with
  | nil => rfl
  | cons c text ih =>
      rw [List.flatMap_cons, Utf8.encode_append, (isWritten_addressChar c).decode, ih,
        Utf8.encode_cons]

/-! ## Addresses -/

/-- The text that the address of a request stands for: the URL up to its query, with spaces for plus
signs and decoded once, or not decoded where that gives no text. -/
def addressedText (url : Url) : String :=
  let text := spaced url.withoutQuery.text
  match utf8? (Percent.decode (Utf8.encode text)) with
  | some decoded => decoded
  | none => String.ofList text

theorem canonicalAddress_eq (url : Url) :
    canonicalAddress url = String.ofList ((addressedText url).toList.flatMap addressChar) := by
  unfold canonicalAddress addressedText percentDecoded utf8?
  cases decoded : Utf8.decode? (Percent.decode (Utf8.encode (spaced url.withoutQuery.text))) <;>
    simp [decoded]

def replaceAll (text : List Char) (c : Char) (replacement : List Char) : List Char :=
  text.flatMap fun x => if x = c then replacement else [x]

/-- The escapes of an address, written one after the other. The percent signs come first, so those
that the other escapes bring in are not escaped again. -/
def escapeInTurn (text : List Char) : List Char :=
  addressEscapes.foldl (fun text entry => replaceAll text entry.1 ('%' :: entry.2)) text

theorem flatMap_addressChar_eq (text : List Char) :
    text.flatMap addressChar = escapeInTurn text := by
  simp only [escapeInTurn, addressEscapes, List.foldl_cons, List.foldl_nil, replaceAll,
    List.flatMap_assoc]
  congr 1
  funext c
  unfold addressChar
  split_ifs with percent space quote hash
  · subst percent
    rfl
  · subst space
    rfl
  · subst quote
    rfl
  · subst hash
    rfl
  · simp [space, quote, hash]

theorem decode_canonicalAddress (url : Url) :
    utf8? (Percent.decode (utf8 (canonicalAddress url))) = some (addressedText url) := by
  rw [canonicalAddress_eq, utf8, String.toList_ofList, decode_flatMap_addressChar]
  exact utf8?_utf8 (addressedText url)

/-- The address of a request does not depend on the query and the fragment of its URL. It is the
text that it stands for with four escapes written in turn, holds no other escapes, and is decoded to
that text again. So two URLs share their address exactly if they share the text. -/
theorem canonicalAddress_spec (url : Url) :
    (url.IsRead → url.hasScheme "http" ∨ url.hasScheme "https" →
      url.text = url.withoutQuery.text ++ Url.marked '?' url.query ++
        Url.marked '#' url.fragment) ∧
    (∀ query fragment, canonicalAddress { url with query, fragment } = canonicalAddress url) ∧
    canonicalAddress url = String.ofList (escapeInTurn (addressedText url).toList) ∧
    IsAddress (canonicalAddress url).toList ∧
    utf8? (Percent.decode (utf8 (canonicalAddress url))) = some (addressedText url) ∧
    ∀ other, canonicalAddress url = canonicalAddress other ↔
      addressedText url = addressedText other := by
  refine ⟨?text, ?query, ?inTurn, ?escaped, decode_canonicalAddress url,
    fun other => ⟨?same, ?shared⟩⟩
  case text =>
    intro read scheme
    have special : (Url.special? url.scheme).isSome := by
      rcases scheme with same | same
      all_goals
        rw [beq_iff_eq.mp same]
        decide
    obtain ⟨list, path⟩ := read.isHierarchical special
    exact Url.text_of_segments path
  case query =>
    intro query fragment
    rfl
  case inTurn => rw [canonicalAddress_eq, flatMap_addressChar_eq]
  case escaped =>
    rw [canonicalAddress_eq, String.toList_ofList]
    exact isAddress_flatMap _
  case same =>
    intro same
    have decoded := decode_canonicalAddress url
    rw [same, decode_canonicalAddress other] at decoded
    exact (Option.some.inj decoded).symm
  case shared =>
    intro shared
    rw [canonicalAddress_eq, canonicalAddress_eq, shared]

end KeyBound
