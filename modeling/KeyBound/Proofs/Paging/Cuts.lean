import KeyBound.Proofs.Paging.Brackets
import KeyBound.Proofs.Text.Utf8

/-!
# Cuts of link headers

A text is cut at those of its separators at which a scan of the whole text, which knows nothing of
cuts, finds neither a quote nor a bracket open. The parts lie between whole characters of its bytes,
joined they are the text again, and none of them is cut any further.
-/

set_option autoImplicit false

namespace KeyBound.Link

/-! ## A scan in bytes -/

structure Openings where
  depth : Nat
  quoted : Bool
  escaped : Bool
  deriving DecidableEq

namespace Openings

def none : Openings := ⟨0, false, false⟩

def next (openings : Openings) (c : Char) : Openings :=
  if openings.quoted then
    if openings.escaped then { openings with escaped := false }
    else if c = '\\' then { openings with escaped := true }
    else if c = '"' then { openings with quoted := false }
    else openings
  else if c = '"' ∧ openings.depth = 0 then { openings with quoted := true }
  else if c = '<' then { openings with depth := openings.depth + 1 }
  else if c = '>' then { openings with depth := openings.depth - 1 }
  else openings

end Openings

def openings (text : List Char) : Openings := text.foldl Openings.next .none

/-- A stretch of the bytes of a text, from one offset up to another. -/
structure Slice where
  first : Nat
  last : Nat
  deriving DecidableEq

/-- A slice that begins and ends between characters and holds some part of a text. -/
structure Slice.Holds (text : List Char) (slice : Slice) (part : List Char) : Prop where
  between : ∃ before after, text = before ++ part ++ after ∧
    slice.first = (Utf8.encode before).length ∧ slice.last = (Utf8.encode (before ++ part)).length
  content : ((Utf8.encode text).drop slice.first).take (slice.last - slice.first) =
    Utf8.encode part

/-- A scan on its way through the bytes of a text: where it is, what is open there, where the part
begins that it is in, and the slices of the parts before. -/
structure Sweep where
  offset : Nat
  openings : Openings
  first : Nat
  slices : List Slice

namespace Sweep

def start : Sweep := ⟨0, .none, 0, []⟩

def next (separator : Char) (sweep : Sweep) (c : Char) : Sweep :=
  let later := sweep.offset + (Utf8.encodeChar c).length
  if c = separator ∧ sweep.openings.depth = 0 ∧ sweep.openings.quoted = false then
    ⟨later, sweep.openings, later, sweep.slices ++ [⟨sweep.first, sweep.offset⟩]⟩
  else { sweep with offset := later, openings := sweep.openings.next c }

def finish (sweep : Sweep) : List Slice := sweep.slices ++ [⟨sweep.first, sweep.offset⟩]

end Sweep

/-- The slices that a scan cuts the bytes of a text into. -/
def slices (separator : Char) (text : List Char) : List Slice :=
  (text.foldl (Sweep.next separator) .start).finish

/-- Some parts are cut between what stands before and behind a separator. -/
def IsCut (separator : Char) (parts : List (List Char)) (early late : List Char) : Prop :=
  ∃ front back, parts = front ++ back ∧ front ≠ [] ∧ back ≠ [] ∧
    Text.join separator front = early ∧ Text.join separator back = late

/-! ## Scans and what they find open -/

/-- What is open where a scan is. -/
def Scan.openings : Scan → Openings
  | .outside depth => ⟨depth, false, false⟩
  | .quoted escaped => ⟨0, true, escaped⟩

theorem Scan.openings_next (scan : Scan) (c : Char) :
    (scan.next c).openings = scan.openings.next c := by
  cases scan with
  | quoted escaped =>
      cases escaped with
      | true => rfl
      | false =>
          by_cases backslash : c = '\\'
          · simp [Scan.next, Scan.openings, Openings.next, backslash]
          · by_cases quote : c = '"' <;>
              simp [Scan.next, Scan.openings, Openings.next, backslash, quote]
  | outside depth =>
      by_cases opened : c = '"' ∧ depth = 0
      · simp [Scan.next, Scan.openings, Openings.next, opened]
      · by_cases bracket : c = '<'
        · simp [Scan.next, Scan.openings, Openings.next, bracket]
        · by_cases closing : c = '>' <;>
            simp [Scan.next, Scan.openings, Openings.next, opened, bracket, closing]

theorem Scan.openings_after (scan : Scan) (text : List Char) :
    (scan.after text).openings = text.foldl Openings.next scan.openings := by
  induction text generalizing scan with
  | nil => rfl
  | cons c text ih => rw [Scan.after_cons, ih, Scan.openings_next, List.foldl_cons]

theorem Scan.eq_start_iff (scan : Scan) :
    scan = .start ↔ scan.openings.depth = 0 ∧ scan.openings.quoted = false := by
  cases scan <;> simp [Scan.start, Scan.openings]

theorem after_eq_start_iff (text : List Char) :
    Scan.start.after text = .start ↔
      (openings text).depth = 0 ∧ (openings text).quoted = false := by
  rw [Scan.eq_start_iff, Scan.openings_after]
  rfl

/-! ## Parts and where they are cut -/

variable {separator : Char} {scan : Scan} {text early late : List Char}

theorem splitFrom_ne_nil (separator : Char) (scan : Scan) (text : List Char) :
    splitFrom separator scan text ≠ [] := by
  cases text with
  | nil => exact List.cons_ne_nil _ _
  | cons c rest =>
      rw [splitFrom]
      split
      · exact List.cons_ne_nil _ _
      · split <;> exact List.cons_ne_nil _ _

/-- The parts of a text by its first character. -/
theorem splitFrom_cases (separator : Char) (scan : Scan) (c : Char) (rest : List Char) :
    (c = separator ∧ scan = .start ∧
      splitFrom separator scan (c :: rest) = [] :: splitFrom separator .start rest) ∨
    (¬(c = separator ∧ scan = .start) ∧ ∃ part parts,
      splitFrom separator (scan.next c) rest = part :: parts ∧
        splitFrom separator scan (c :: rest) = (c :: part) :: parts) := by
  by_cases cut : c = separator ∧ scan = .start
  · left
    obtain ⟨rfl, rfl⟩ := cut
    exact ⟨rfl, rfl, by rw [splitFrom, if_pos ⟨rfl, rfl⟩]⟩
  · right
    obtain ⟨part, parts, later⟩ :=
      List.exists_cons_of_ne_nil (splitFrom_ne_nil separator (scan.next c) rest)
    exact ⟨cut, part, parts, later, by rw [splitFrom, if_neg cut, later]⟩

theorem join_splitFrom (separator : Char) (scan : Scan) (text : List Char) :
    Text.join separator (splitFrom separator scan text) = text := by
  induction text generalizing scan with
  | nil => rfl
  | cons c rest ih =>
      rcases splitFrom_cases separator scan c rest with
        ⟨rfl, rfl, split⟩ | ⟨_, part, parts, later, split⟩
      · rw [split, Text.join_cons_of_ne_nil _ _ (splitFrom_ne_nil _ _ _), ih]
        rfl
      · rw [split, Text.join_cons_head, ← later, ih]

/-- No part is cut any further. -/
theorem splitUnquoted_of_mem {part : List Char} (member : part ∈ splitUnquoted separator text) :
    splitUnquoted separator part = [part] := by
  obtain ⟨final, passes⟩ := exists_passes member
  have alone : splitFrom separator .start (part ++ []) = [part ++ []] :=
    splitFrom_append passes rfl
  rwa [List.append_nil] at alone

section Cuts

/- A separator that opens and closes nothing leaves a scan at its start where it is cut at, so that
a scan that begins anew behind a cut and one of the whole text know the same. -/
variable (neutral : Scan.start.next separator = .start)

include neutral

/-- A text is cut at a separator where a scan is back at its start. -/
theorem splitFrom_cut (back : scan.after early = .start) :
    splitFrom separator scan (early ++ separator :: late) =
      splitFrom separator scan early ++ splitFrom separator .start late := by
  induction early generalizing scan with
  | nil =>
      rw [Scan.after_nil] at back
      subst back
      exact if_pos ⟨rfl, rfl⟩
  | cons c early ih =>
      rw [Scan.after_cons] at back
      rcases splitFrom_cases separator scan c early with
        ⟨rfl, rfl, split⟩ | ⟨uncut, part, parts, later, split⟩
      · rw [neutral] at back
        rw [split, List.cons_append, splitFrom, if_pos ⟨rfl, rfl⟩, ih back, List.cons_append]
      · have whole := ih back
        rw [later] at whole
        rw [split, List.cons_append, splitFrom, if_neg uncut, whole]
        rfl

/-- Where parts end and others follow, a scan is back at its start. -/
theorem after_join_front {front back : List (List Char)}
    (split : splitFrom separator scan text = front ++ back) (someFront : front ≠ [])
    (someBack : back ≠ []) : scan.after (Text.join separator front) = .start := by
  induction text generalizing scan front with
  | nil =>
      have two : 2 ≤ (front ++ back).length := by
        rw [List.length_append]
        have := List.length_pos_of_ne_nil someFront
        have := List.length_pos_of_ne_nil someBack
        omega
      rw [← split] at two
      simp [splitFrom] at two
  | cons c rest ih =>
      obtain ⟨first, others, rfl⟩ := List.exists_cons_of_ne_nil someFront
      rcases splitFrom_cases separator scan c rest with
        ⟨rfl, rfl, cut⟩ | ⟨_, part, parts, later, uncut⟩
      · rw [cut, List.cons_append, List.cons.injEq] at split
        obtain ⟨rfl, later⟩ := split
        by_cases some : others = []
        · rw [some]
          rfl
        · rw [Text.join_cons_of_ne_nil _ _ some, List.nil_append, Scan.after_cons, neutral]
          exact ih later some
      · rw [uncut, List.cons_append, List.cons.injEq] at split
        obtain ⟨rfl, rfl⟩ := split
        rw [Text.join_cons_head, Scan.after_cons]
        have someFront : part :: others ≠ [] := List.cons_ne_nil _ _
        exact ih later someFront

/-- A text is cut at a separator exactly where nothing is open. -/
theorem isCut_iff (early late : List Char) :
    IsCut separator (splitUnquoted separator (early ++ separator :: late)) early late ↔
      (openings early).depth = 0 ∧ (openings early).quoted = false := by
  rw [← after_eq_start_iff]
  constructor
  · rintro ⟨front, back, split, someFront, someBack, rfl, -⟩
    exact after_join_front neutral split someFront someBack
  · intro back
    refine ⟨splitFrom separator .start early, splitFrom separator .start late,
      splitFrom_cut neutral back, splitFrom_ne_nil _ _ _, splitFrom_ne_nil _ _ _,
      join_splitFrom _ _ _, join_splitFrom _ _ _⟩

end Cuts

/-! ## Parts in bytes -/

/-- The slices of parts one after another, with a separator between each two of them. -/
def slicesOf (separator : Char) : (first : Nat) → List (List Char) → List Slice
  | _, [] => []
  | first, part :: rest =>
    let last := first + (Utf8.encode part).length
    ⟨first, last⟩ :: slicesOf separator (last + (Utf8.encodeChar separator).length) rest

/-- A scan in bytes that has passed the beginning of a part cuts where the text is cut. -/
theorem sweep_eq_slicesOf (scan : Scan) (text begun part : List Char)
    {parts : List (List Char)} (split : splitFrom separator scan text = part :: parts)
    (first : Nat) (earlier : List Slice) :
    (text.foldl (Sweep.next separator)
      ⟨first + (Utf8.encode begun).length, scan.openings, first, earlier⟩).finish =
        earlier ++ slicesOf separator first ((begun ++ part) :: parts) := by
  induction text generalizing scan begun part parts first earlier with
  | nil =>
      cases split
      simp [Sweep.finish, slicesOf]
  | cons c rest ih =>
      rcases splitFrom_cases separator scan c rest with
        ⟨rfl, rfl, cut⟩ | ⟨uncut, next, others, later, whole⟩
      · rw [cut, List.cons.injEq] at split
        obtain ⟨rfl, rfl⟩ := split
        obtain ⟨next, others, later⟩ :=
          List.exists_cons_of_ne_nil (splitFrom_ne_nil c .start rest)
        have onward := ih .start [] next later
          (first + (Utf8.encode begun).length + (Utf8.encodeChar c).length)
          (earlier ++ [⟨first, first + (Utf8.encode begun).length⟩])
        rw [Utf8.encode_nil, List.length_nil, Nat.add_zero, List.nil_append] at onward
        rw [List.foldl_cons, Sweep.next, if_pos ⟨rfl, (Scan.eq_start_iff _).mp rfl⟩, onward, later,
          List.append_assoc, List.append_nil]
        rfl
      · rw [whole, List.cons.injEq] at split
        obtain ⟨rfl, rfl⟩ := split
        rw [scan.eq_start_iff] at uncut
        have onward := ih (scan.next c) (begun ++ [c]) next later first earlier
        rw [Utf8.encode_append, List.length_append, ← Nat.add_assoc, Scan.openings_next,
          List.append_assoc] at onward
        rw [List.foldl_cons, Sweep.next, if_neg uncut]
        simpa [Utf8.encode] using onward

theorem slices_eq_slicesOf (separator : Char) (text : List Char) :
    slices separator text = slicesOf separator 0 (splitUnquoted separator text) := by
  obtain ⟨part, parts, split⟩ :=
    List.exists_cons_of_ne_nil (splitFrom_ne_nil separator .start text)
  have whole := sweep_eq_slicesOf .start text [] part split 0 []
  rw [splitUnquoted, split]
  exact whole

theorem Slice.holds_middle (before part after : List Char) :
    Slice.Holds (before ++ part ++ after)
      ⟨(Utf8.encode before).length, (Utf8.encode before).length + (Utf8.encode part).length⟩
      part where
  between := ⟨before, after, rfl, rfl, by simp⟩
  content := by simp

/-- The slices of parts hold them where the parts are joined. -/
theorem slicesOf_hold (before : List Char) (parts : List (List Char)) :
    List.Forall₂ (Slice.Holds (before ++ Text.join separator parts))
      (slicesOf separator (Utf8.encode before).length parts) parts := by
  induction parts generalizing before with
  | nil => exact .nil
  | cons part rest ih =>
      by_cases others : rest = []
      · subst others
        have alone := Slice.holds_middle before part []
        rw [List.append_nil] at alone
        exact .cons alone .nil
      · have here := Slice.holds_middle before part (separator :: Text.join separator rest)
        have later := ih (before ++ part ++ [separator])
        rw [Text.join_cons_of_ne_nil _ _ others, slicesOf, ← List.append_assoc]
        refine .cons here ?_
        simpa [Utf8.encode_append, Nat.add_assoc] using later

/-! ## Cuts at commas and semicolons -/

/-- A text that is cut at commas or semicolons outside quotes and brackets is lost nowhere: its
parts joined are the text again, and their slices lie between whole characters of its bytes and hold
them. It is cut at exactly those separators before which the text, from its very start, leaves
neither a quote nor a bracket open, and no part is cut again. -/
theorem splitUnquoted_cuts (separates : separator = ',' ∨ separator = ';') (text : List Char) :
    Text.join separator (splitUnquoted separator text) = text ∧
    List.Forall₂ (Slice.Holds text) (slices separator text) (splitUnquoted separator text) ∧
    (∀ early late, text = early ++ separator :: late →
      (IsCut separator (splitUnquoted separator text) early late ↔
        (openings early).depth = 0 ∧ (openings early).quoted = false)) ∧
    ∀ part ∈ splitUnquoted separator text, splitUnquoted separator part = [part] := by
  have joined : Text.join separator (splitUnquoted separator text) = text := join_splitFrom _ _ _
  have neutral : Scan.start.next separator = .start := by
    rcases separates with rfl | rfl <;> rfl
  refine ⟨joined, ?_, ?_, fun part member => splitUnquoted_of_mem member⟩
  · have held : List.Forall₂
        (Slice.Holds ([] ++ Text.join separator (splitUnquoted separator text)))
        (slicesOf separator 0 (splitUnquoted separator text)) (splitUnquoted separator text) :=
      slicesOf_hold [] (splitUnquoted separator text)
    rw [joined] at held
    rw [slices_eq_slicesOf]
    exact held
  · rintro early late rfl
    exact isCut_iff neutral early late

/-- Brackets within brackets, a quote that brackets hide, an escaped one, a bracket that closes
nothing, and characters of more than one byte. -/
theorem splitUnquoted_cuts_nested :
    let text := "é<,<,>\">,\"a\\\",b\",>,ü".toList
    ((',' : Char) = ',' ∨ (',' : Char) = ';') ∧
    splitUnquoted ',' text = ["é<,<,>\">", "\"a\\\",b\"", ">", "ü"].map String.toList ∧
    slices ',' text = [⟨0, 9⟩, ⟨10, 17⟩, ⟨18, 19⟩, ⟨20, 22⟩] ∧
    List.Forall₂ (Slice.Holds text) (slices ',' text) (splitUnquoted ',' text) ∧
    ¬IsCut ',' (splitUnquoted ',' text) "é<,<,>\">,\"a\\\"".toList "b\",>,ü".toList := by
  intro text
  have separates : (',' : Char) = ',' ∨ (',' : Char) = ';' := .inl rfl
  obtain ⟨_, held, cuts, _⟩ := splitUnquoted_cuts separates text
  refine ⟨separates, by decide +kernel, by decide +kernel, held, ?_⟩
  rw [cuts _ _ (by decide +kernel)]
  decide +kernel

end KeyBound.Link
