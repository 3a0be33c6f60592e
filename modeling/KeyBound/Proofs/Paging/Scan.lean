import KeyBound.Paging.Link
import KeyBound.Proofs.Text.Parts

/-!
# Scans of link headers

Which texts a scan passes without a cut, and how a text that was joined from such texts is cut into
them again.
-/

set_option autoImplicit false

namespace KeyBound.Link

variable {separator : Char}

/-- A text that takes a scan to another one, with no separator in it that is a cut. -/
inductive Passes (separator : Char) : Scan → List Char → Scan → Prop where
  | nil (scan : Scan) : Passes separator scan [] scan
  | cons {scan final : Scan} {c : Char} {rest : List Char} :
      ¬(c = separator ∧ scan = .start) → Passes separator (scan.next c) rest final →
      Passes separator scan (c :: rest) final

def isMark (separator c : Char) : Bool := c == separator || c == '"' || c == '<' || c == '>'

namespace Passes

variable {scan middle final : Scan} {text rest : List Char}

theorem append (first : Passes separator scan text middle)
    (second : Passes separator middle rest final) : Passes separator scan (text ++ rest) final := by
  induction first with
  | nil => exact second
  | cons uncut _ ih => exact .cons uncut (ih second)

/-- A scan that no character of a text changes passes the text. -/
theorem of_forall (still : ∀ c ∈ text, ¬(c = separator ∧ scan = .start) ∧ scan.next c = scan) :
    Passes separator scan text scan := by
  induction text with
  | nil => exact .nil scan
  | cons c text ih =>
      obtain ⟨⟨uncut, same⟩, later⟩ := List.forall_mem_cons.mp still
      refine .cons uncut ?_
      rw [same]
      exact ih later

theorem of_unmarked (unmarked : ∀ c ∈ text, isMark separator c = false) :
    Passes separator .start text .start := by
  refine of_forall fun c member => ?_
  have unmarkedHere := unmarked c member
  simp only [isMark, Bool.or_eq_false_iff, beq_eq_false_iff_ne] at unmarkedHere
  obtain ⟨⟨⟨notSeparator, notQuote⟩, notOpen⟩, notClose⟩ := unmarkedHere
  simp [Scan.start, Scan.next, notSeparator, notQuote, notOpen, notClose]

theorem flatMap {α : Type} {parts : List α} {chars : α → List Char}
    (each : ∀ part ∈ parts, Passes separator scan (chars part) scan) :
    Passes separator scan (parts.flatMap chars) scan := by
  induction parts with
  | nil => exact .nil scan
  | cons part rest ih =>
      obtain ⟨first, later⟩ := List.forall_mem_cons.mp each
      exact first.append (ih later)

/-- Brackets hide what is between them. -/
theorem bracketed (other : separator ≠ '<') (inside : ∀ c ∈ text, c ≠ '<' ∧ c ≠ '>') :
    Passes separator .start ('<' :: text ++ ['>']) .start := by
  have body : Passes separator (.outside 1) text (.outside 1) :=
    of_forall fun c member => by
      obtain ⟨notOpen, notClose⟩ := inside c member
      simp [Scan.start, Scan.next, notOpen, notClose]
  have closing : Passes separator (.outside 1) ['>'] .start :=
    .cons (by simp [Scan.start]) (.nil _)
  exact .cons (by simp [Ne.symm other]) (body.append closing)

/-- Quotes hide what is between them. -/
theorem quoted (other : separator ≠ '"')
    (body : Passes separator (.quoted false) text (.quoted false)) :
    Passes separator .start ('"' :: text ++ ['"']) .start := by
  have closing : Passes separator (.quoted false) ['"'] .start :=
    .cons (by simp [Scan.start]) (.nil _)
  exact .cons (by simp [Ne.symm other]) (body.append closing)

/-- Characters that are neither quotes nor backslashes change nothing within quotes. -/
theorem plain (unquoted : ∀ c ∈ text, c ≠ '"' ∧ c ≠ '\\') :
    Passes separator (.quoted false) text (.quoted false) :=
  of_forall fun c member => by
    obtain ⟨notQuote, notBackslash⟩ := unquoted c member
    simp [Scan.start, Scan.next, notQuote, notBackslash]

/-- A backslash takes the meaning from the character after it. -/
theorem escaped (c : Char) : Passes separator (.quoted false) ['\\', c] (.quoted false) :=
  .cons (by simp [Scan.start]) (.cons (by simp [Scan.start, Scan.next]) (.nil _))

end Passes

theorem splitFrom_append {scan final : Scan} {text rest part : List Char}
    {parts : List (List Char)} (passes : Passes separator scan text final)
    (later : splitFrom separator final rest = part :: parts) :
    splitFrom separator scan (text ++ rest) = (text ++ part) :: parts := by
  induction passes with
  | nil => exact later
  | cons uncut _ ih => rw [List.cons_append, splitFrom, if_neg uncut, ih later, List.cons_append]

/-- A text that was joined from texts without a cut is cut into them. -/
theorem splitUnquoted_join {parts : List (List Char)} (some : parts ≠ [])
    (uncut : ∀ part ∈ parts, Passes separator .start part .start) :
    splitUnquoted separator (Text.join separator parts) = parts := by
  -- A scan begins anew behind each separator, so that the rest is a joined text of its own.
  induction parts with
  | nil => exact absurd rfl some
  | cons part rest ih =>
      obtain ⟨passes, uncutRest⟩ := List.forall_mem_cons.mp uncut
      cases rest with
      | nil =>
          have alone : splitFrom separator .start (part ++ []) = [part ++ []] :=
            splitFrom_append passes rfl
          rwa [List.append_nil] at alone
      | cons next rest =>
          have cut : splitFrom separator .start
              (separator :: Text.join separator (next :: rest)) = [] :: next :: rest := by
            rw [splitFrom, if_pos ⟨rfl, rfl⟩]
            exact congrArg _ (ih nofun uncutRest)
          have whole := splitFrom_append passes cut
          rw [List.append_nil] at whole
          rw [Text.join_cons_cons]
          exact whole

end KeyBound.Link
