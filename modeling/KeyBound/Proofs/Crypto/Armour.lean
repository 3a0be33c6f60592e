import KeyBound.Crypto.Pem
import KeyBound.Proofs.Text.Base64
import KeyBound.Proofs.Text.Parts
import Mathlib.Data.List.Infix

/-!
# Documents in their armour

Whatever is read as a document stands between two marks with its tag. The other way, a document that
is written between such marks, with its content in lines of any length, is read back.
-/

set_option autoImplicit false

namespace KeyBound.Pem

variable {mark front text rest tag : List Char} {lines : List (List Char)} {content : Bytes}

/-! ## Marks -/

private theorem after?_splits {seen awaited : List Char} (whole : mark = seen ++ awaited)
    (found : after? mark awaited text = some rest) :
    ∃ front, seen ++ text = front ++ mark ++ rest := by
  induction text generalizing seen awaited with
  | nil =>
      cases awaited with
      | nil =>
          cases found
          exact ⟨[], by simp [whole]⟩
      | cons a awaited => cases found
  | cons c text ih =>
      cases awaited with
      | nil =>
          cases found
          exact ⟨[], by simp [whole]⟩
      | cons a awaited =>
          rw [after?] at found
          split at found
          case isTrue same =>
            have grown : mark = (seen ++ [c]) ++ awaited := by simp [whole, same]
            obtain ⟨front, split⟩ := ih grown found
            exact ⟨front, by simpa using split⟩
          -- The search starts anew, and what was seen of the mark is part of the front.
          case isFalse =>
            obtain ⟨front, split⟩ := ih (List.nil_append mark).symm found
            exact ⟨seen ++ c :: front, by simpa using split⟩

theorem cutAt?_splits (found : cutAt? mark text = some (front, rest)) :
    text = front ++ mark ++ rest := by
  obtain ⟨_, reached, same⟩ := Option.map_eq_some_iff.mp found
  obtain ⟨before, split⟩ := after?_splits (List.nil_append mark).symm reached
  rw [List.nil_append] at split
  cases same
  have length : text.length - rest.length - mark.length = before.length := by
    rw [split, List.length_append, List.length_append]
    omega
  have start : text.take before.length = before := by
    rw [split, List.append_assoc, List.take_left]
  rw [length, start, split]

theorem cutAt?_eq_none (absent : ¬ mark <:+: text) : cutAt? mark text = none := by
  cases found : cutAt? mark text with
  | none => rfl
  | some parts => exact absurd ⟨_, _, (cutAt?_splits found).symm⟩ absent

private theorem after?_append (awaited rest : List Char) :
    after? mark awaited (awaited ++ rest) = some rest := by
  induction awaited with
  | nil => simp [after?]
  | cons a awaited ih => simpa [after?] using ih

/-- A text is cut at a mark if nothing before it looks like the start of one. -/
theorem cutAt?_append {c : Char} (starts : mark.head? = some c) (absent : c ∉ front)
    (rest : List Char) : cutAt? mark (front ++ mark ++ rest) = some (front, rest) := by
  have reached : after? mark mark (front ++ mark ++ rest) = some rest := by
    induction front with
    | nil => exact after?_append mark rest
    | cons d front ih =>
        obtain ⟨more, rfl⟩ := List.head?_eq_some_iff.mp starts
        rw [List.mem_cons, not_or] at absent
        rw [List.cons_append, List.cons_append, after?, if_neg (Ne.symm absent.1)]
        exact ih absent.2
  have length : (front ++ mark ++ rest).length - rest.length - mark.length = front.length := by
    rw [List.length_append, List.length_append]
    omega
  rw [cutAt?, reached, Option.map_some, length, List.append_assoc, List.take_left]

/-! ## Reading -/

/-- The blanks that may follow the mark of a document. -/
def isGap (c : Char) : Bool := c == ' ' || c == '\t' || c == '\n' || c == '\r'

/-- The parts of a text that its first document is read from. -/
structure Parts (text : List Char) (pem : Pem) where
  before : List Char
  afterBegin : List Char
  afterTag : List Char
  body : List Char
  afterEnd : List Char
  after : List Char
  opens : cutAt? "-----BEGIN ".toList text = some (before, afterBegin)
  tagged : cutAt? "-----".toList afterBegin = some (pem.tag, afterTag)
  ends : cutAt? "-----END ".toList (afterTag.dropWhile isGap) = some (body, afterEnd)
  closes : cutAt? "-----".toList afterEnd = some (pem.tag, after)
  named : pem.tag ≠ []
  decodes : Base64.decodePadded? Base64.standard
    ((splitHeaders body).2.filter (!isBlank ·)) = some pem.content
  headed : (Pem.lines (splitHeaders body).1).all (·.contains ':') = true

theorem parse?_eq_some_iff {pem : Pem} : parse? text = some pem ↔ Nonempty (Parts text pem) := by
  constructor
  · intro parsed
    unfold parse? at parsed
    simp only [Option.bind_eq_bind, Option.bind_eq_some_iff] at parsed
    obtain ⟨⟨before, afterBegin⟩, opens, ⟨tag, afterTag⟩, tagged, ⟨body, afterEnd⟩, ends,
      ⟨closing, after⟩, closes, more⟩ := parsed
    simp only at tagged ends closes more
    split at more
    · cases more
    · rename_i matching
      rw [not_or, not_not, List.isEmpty_iff] at matching
      obtain ⟨named, rfl⟩ := matching
      obtain ⟨content, decodes, accepted⟩ := Option.bind_eq_some_iff.mp more
      split at accepted
      case isTrue headed =>
        cases accepted
        exact ⟨⟨before, afterBegin, afterTag, body, afterEnd, after, opens, tagged, ends, closes,
          named, decodes, headed⟩⟩
      case isFalse => cases accepted
  · rintro ⟨parts⟩
    have matching : ¬ (pem.tag.isEmpty = true ∨ pem.tag ≠ pem.tag) := by simp [parts.named]
    have gap : (fun c => c == ' ' || c == '\t' || c == '\n' || c == '\r') = isGap := rfl
    unfold parse?
    simp only [gap, parts.opens, parts.tagged, parts.ends, parts.closes, parts.decodes,
      parts.headed, Option.bind_eq_bind, Option.bind_some, if_neg matching, if_true]

/-- A document stands in a text: between two marks with its tag. -/
def StandsIn (pem : Pem) (text : List Char) : Prop :=
  ∃ before body after, text =
    before ++ "-----BEGIN ".toList ++ pem.tag ++ "-----".toList ++ body ++ "-----END ".toList ++
      pem.tag ++ "-----".toList ++ after

theorem standsIn_of_parse? {pem : Pem} (parsed : parse? text = some pem) : pem.StandsIn text := by
  obtain ⟨parts⟩ := parse?_eq_some_iff.mp parsed
  have gap : parts.afterTag.takeWhile isGap ++ parts.afterTag.dropWhile isGap = parts.afterTag :=
    List.takeWhile_append_dropWhile
  refine ⟨parts.before, parts.afterTag.takeWhile isGap ++ parts.body, parts.after, ?_⟩
  calc text
    _ = parts.before ++ "-----BEGIN ".toList ++ parts.afterBegin := cutAt?_splits parts.opens
    _ = parts.before ++ "-----BEGIN ".toList ++ (pem.tag ++ "-----".toList ++
          (parts.afterTag.takeWhile isGap ++ (parts.body ++ "-----END ".toList ++
            (pem.tag ++ "-----".toList ++ parts.after)))) := by
      rw [← cutAt?_splits parts.closes, ← cutAt?_splits parts.ends, gap,
        ← cutAt?_splits parts.tagged]
    _ = _ := by simp only [List.append_assoc]

/-! ## Writing -/

/-- Lines that hold some content between them, none of which is empty. -/
structure Wraps (lines : List (List Char)) (content : Bytes) : Prop where
  whole : lines.flatten = Base64.encodePadded Base64.standard content
  filled : ∀ line ∈ lines, line ≠ []

def bodyText (lines : List (List Char)) : List Char := lines.flatMap (· ++ ['\n'])

def firstLine (tag : List Char) : List Char := "-----BEGIN ".toList ++ tag ++ "-----".toList

def lastLine (tag : List Char) : List Char := "-----END ".toList ++ tag ++ "-----".toList

def armour (tag : List Char) (lines : List (List Char)) : List Char :=
  firstLine tag ++ '\n' :: (bodyText lines ++ lastLine tag)

/-- A character that neither is blank nor starts a mark. -/
structure IsInner (c : Char) : Prop where
  notBlank : isBlank c = false
  notHyphen : c ≠ '-'

private theorem isInner_digit : ∀ n < 64, IsInner (Base64.standard.digit n) := by
  have each : ∀ n < 64, isBlank (Base64.standard.digit n) = false ∧
      Base64.standard.digit n ≠ '-' := by decide
  intro n bound
  obtain ⟨notBlank, notHyphen⟩ := each n bound
  exact ⟨notBlank, notHyphen⟩

private theorem digit_ne_padding : ∀ n < 64, Base64.standard.digit n ≠ '=' := by decide

theorem isBlank_of_isGap {c : Char} (gap : isGap c = true) : isBlank c = true := by
  simp only [isGap, Bool.or_eq_true, beq_iff_eq, or_assoc] at gap
  rcases gap with rfl | rfl | rfl | rfl <;> decide

theorem Wraps.isInner (wraps : Wraps lines content) :
    ∀ line ∈ lines, ∀ c ∈ line, IsInner c := by
  intro line member c inLine
  have written : ∀ c ∈ Base64.encodePadded Base64.standard content, IsInner c :=
    Base64.forall_mem_encodePadded isInner_digit ⟨by decide, by decide⟩ content
  exact written c (wraps.whole ▸ List.mem_flatten.mpr ⟨line, member, inLine⟩)

theorem IsInner.ne_break {c : Char} (inner : IsInner c) : c ≠ '\n' := by
  rintro rfl
  exact absurd inner.notBlank (by decide)

theorem filter_bodyText (inner : ∀ line ∈ lines, ∀ c ∈ line, IsInner c) :
    (bodyText lines).filter (!isBlank ·) = lines.flatten := by
  induction lines with
  | nil => rfl
  | cons line rest ih =>
      obtain ⟨innerLine, innerRest⟩ := List.forall_mem_cons.mp inner
      have kept : line.filter (!isBlank ·) = line :=
        List.filter_eq_self.mpr fun c member => by simp [(innerLine c member).notBlank]
      have dropped : ['\n'].filter (!isBlank ·) = [] := by decide
      rw [bodyText, List.flatMap_cons, List.filter_append, List.filter_append, kept, dropped,
        List.append_nil, List.flatten_cons]
      exact congrArg (line ++ ·) (ih innerRest)

theorem splitAt_bodyText (inner : ∀ line ∈ lines, ∀ c ∈ line, IsInner c) :
    Text.splitAt '\n' (bodyText lines) = lines ++ [[]] := by
  induction lines with
  | nil => rfl
  | cons line rest ih =>
      obtain ⟨innerLine, innerRest⟩ := List.forall_mem_cons.mp inner
      have absent : '\n' ∉ line := fun member => (innerLine _ member).ne_break rfl
      rw [bodyText, List.flatMap_cons, List.append_assoc, List.singleton_append,
        Text.splitAt_append absent, List.cons_append]
      exact congrArg (line :: ·) (ih innerRest)

theorem mem_bodyText {c : Char} (member : c ∈ bodyText lines) :
    c = '\n' ∨ ∃ line ∈ lines, c ∈ line := by
  obtain ⟨line, inLines, inLine⟩ := List.mem_flatMap.mp member
  rcases List.mem_append.mp inLine with here | atEnd
  · exact .inr ⟨line, inLines, here⟩
  · exact .inl (List.mem_singleton.mp atEnd)

/-- Without an empty line there are no headers. -/
theorem splitHeaders_bodyText (wraps : Wraps lines content) :
    splitHeaders (bodyText lines) = ([], bodyText lines) := by
  have noEmptyLine : ¬ ['\n', '\n'] <:+: bodyText lines := by
    intro twice
    have empty := Text.nil_mem_splitAt twice
    rw [splitAt_bodyText wraps.isInner, List.dropLast_concat] at empty
    exact wraps.filled [] empty rfl
  have noReturn : ¬ ['\r', '\n', '\r', '\n'] <:+: bodyText lines := by
    intro found
    rcases mem_bodyText (found.subset List.mem_cons_self) with same | ⟨line, member, inLine⟩
    · cases same
    · exact absurd (wraps.isInner line member _ inLine).notBlank (by decide)
  rw [splitHeaders, cutAt?_eq_none noEmptyLine, cutAt?_eq_none noReturn]
  rfl

theorem dropWhile_bodyText (wraps : Wraps lines content)
    (stop : ∀ c ∈ rest.head?, isGap c = false) :
    ('\n' :: (bodyText lines ++ rest)).dropWhile isGap = bodyText lines ++ rest := by
  have skipped : isGap '\n' = true := by decide
  rw [List.dropWhile_cons_of_pos skipped]
  cases lines with
  | nil => exact Text.dropWhile_of_head stop
  | cons line more =>
      obtain ⟨c, chars, rfl⟩ := List.exists_cons_of_ne_nil (wraps.filled line List.mem_cons_self)
      have notBlank := (wraps.isInner _ List.mem_cons_self c List.mem_cons_self).notBlank
      apply Text.dropWhile_of_head
      intro d first
      have same : c = d := Option.some.inj first
      rw [← same, Bool.eq_false_iff]
      intro gap
      rw [isBlank_of_isGap gap] at notBlank
      cases notBlank

/-- A document that is written in its armour is read back. -/
theorem parse?_armour (named : tag ≠ []) (unmarked : '-' ∉ tag) (wraps : Wraps lines content) :
    parse? (armour tag lines) = some ⟨tag, content⟩ := by
  have noMark : '-' ∉ bodyText lines := by
    intro member
    rcases mem_bodyText member with same | ⟨line, inLines, inLine⟩
    · cases same
    · exact (wraps.isInner line inLines _ inLine).notHyphen rfl
  refine parse?_eq_some_iff.mpr ⟨{
    before := []
    afterBegin := tag ++ "-----".toList ++ '\n' :: (bodyText lines ++ lastLine tag)
    afterTag := '\n' :: (bodyText lines ++ lastLine tag)
    body := bodyText lines
    afterEnd := tag ++ "-----".toList
    after := []
    opens := ?opens
    tagged := cutAt?_append rfl unmarked _
    ends := ?ends
    closes := ?closes
    named
    decodes := ?decodes
    headed := ?headed }⟩
  case opens =>
    have whole : armour tag lines = [] ++ "-----BEGIN ".toList ++
        (tag ++ "-----".toList ++ '\n' :: (bodyText lines ++ lastLine tag)) := by
      unfold armour firstLine
      rw [List.nil_append, List.append_assoc, List.append_assoc, List.append_assoc]
    rw [whole]
    exact cutAt?_append rfl List.not_mem_nil _
  case ends =>
    have hyphen : ∀ c ∈ (lastLine tag).head?, isGap c = false := by
      intro c first
      have same : '-' = c := Option.some.inj first
      rw [← same]
      decide
    rw [dropWhile_bodyText wraps hyphen]
    unfold lastLine
    rw [List.append_assoc, ← List.append_assoc]
    exact cutAt?_append rfl noMark _
  case closes =>
    have cut : cutAt? "-----".toList (tag ++ "-----".toList ++ []) = some (tag, []) :=
      cutAt?_append rfl unmarked []
    rwa [List.append_nil] at cut
  case decodes =>
    rw [splitHeaders_bodyText wraps, filter_bodyText wraps.isInner, wraps.whole]
    exact Base64.decodePadded?_encodePadded Base64.standard_isDistinct digit_ne_padding content
  case headed =>
    rw [splitHeaders_bodyText wraps]
    rfl

/-! ## Around a document -/

theorem armour_isStripped (tag : List Char) (lines : List (List Char)) :
    Text.IsStripped isBlank (armour tag lines) := by
  constructor
  · intro c first
    have same : '-' = c := Option.some.inj first
    rw [← same]
    decide
  · intro c last
    unfold armour lastLine at last
    rw [← List.cons_append, ← List.append_assoc, ← List.append_assoc,
      List.getLast?_append_of_ne_nil _ (by decide +kernel)] at last
    have same : '-' = c := Option.some.inj last
    rw [← same]
    decide

theorem infix_bodyText (unbroken : '\n' ∉ mark) (found : mark <:+: bodyText lines ++ rest) :
    (∃ line ∈ lines, mark <:+: line) ∨ mark <:+: rest := by
  induction lines with
  | nil => exact .inr found
  | cons line more ih =>
      rw [bodyText, List.flatMap_cons, List.append_assoc, List.append_assoc,
        List.singleton_append] at found
      rcases Text.infix_append_cons unbroken found with here | later
      · exact .inl ⟨line, List.mem_cons_self, here⟩
      · rcases ih later with ⟨other, member, inside⟩ | beyond
        · exact .inl ⟨other, List.mem_cons_of_mem _ member, inside⟩
        · exact .inr beyond

/-- Words with a space between them stand in the armour of a document only if they stand in its
first or its last line. -/
theorem infix_armour (wraps : Wraps lines content) (unbroken : '\n' ∉ mark) (spaced : ' ' ∈ mark)
    (found : mark <:+: armour tag lines) : mark <:+: firstLine tag ∨ mark <:+: lastLine tag := by
  rcases Text.infix_append_cons unbroken found with inFirst | later
  · exact .inl inFirst
  · rcases infix_bodyText unbroken later with ⟨line, member, inside⟩ | inLast
    · have inner := wraps.isInner line member ' ' (inside.subset spaced)
      exact absurd inner.notBlank (by decide)
    · exact .inr inLast

end KeyBound.Pem
