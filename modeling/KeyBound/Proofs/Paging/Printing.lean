import KeyBound.Proofs.Http.Header
import KeyBound.Proofs.Paging.Scan

/-!
# Printed links

Link headers as a server writes them: targets in brackets, parameters whose values are tokens or
quoted strings, and relation types in quotes. Reading gives back what was printed.
-/

set_option autoImplicit false

namespace KeyBound

namespace Link

/-! ## Characters -/

def isVisible (c : Char) : Bool := 0x21 ≤ c.toNat && c.toNat ≤ 0x7E

/-- Whether a character is visible or one of the two blanks that a header may hold. -/
def isTextChar (c : Char) : Bool := c == '\t' || c == ' ' || isVisible c

/-- Whether a character may stand in a token: it is visible and delimits nothing. -/
def isTokenChar (c : Char) : Bool := isVisible c && !"(),/:;<=>?@[]\\\"\x7b\x7d".toList.contains c

def isTargetChar (c : Char) : Bool := (c == ' ' || isVisible c) && c != '<' && c != '>'

def isRelationChar (c : Char) : Bool := isVisible c && c != '"' && c != '\\'

/-! ## Entries -/

/-- A text of one character at least, all of them of a class. -/
structure Word (p : Char → Bool) where
  chars : List Char
  nonempty : chars ≠ []
  inside : chars.all p = true

/-- A part of a quoted string: a character that stands for itself, or one after a backslash. -/
inductive Piece where
  | plain (c : Char) (allowed : (isTextChar c && c != '"' && c != '\\') = true)
  | escaped (c : Char) (allowed : isTextChar c = true)

def Piece.chars : Piece → List Char
  | .plain c _ => [c]
  | .escaped c _ => ['\\', c]

inductive ParamValue where
  | token (text : Word isTokenChar)
  | quoted (pieces : List Piece)

def quote (text : List Char) : List Char := '"' :: text ++ ['"']

def ParamValue.chars : ParamValue → List Char
  | .token text => text.chars
  | .quoted pieces => quote (pieces.flatMap Piece.chars)

inductive Param where
  | relations (first : Word isRelationChar) (others : List (Word isRelationChar))
  | other (name : Word isTokenChar) (value : ParamValue)
      (different : Text.sameIgnoringCase name.chars "rel".toList = false)

namespace Param

def name : Param → List Char
  | .relations _ _ => "rel".toList
  | .other name _ _ => name.chars

/-- The value of a parameter as it is printed. Relations have a space between each two of them. -/
def value : Param → List Char
  | .relations first others => quote (Text.join ' ' ((first :: others).map (·.chars)))
  | .other _ value _ => value.chars

def chars (param : Param) : List Char := param.name ++ '=' :: param.value

def relations? : Param → Option (List (List Char))
  | .relations first others => some ((first :: others).map (·.chars))
  | .other _ _ _ => none

end Param

/-- An entry: its target and its parameters, and how many spaces there are before it. -/
structure Entry where
  indent : Nat
  target : List Char
  inside : target.all isTargetChar = true
  stripped : Text.IsStripped isBlank target
  params : List Param

namespace Entry

def paramChars (entry : Entry) : List Char :=
  entry.params.flatMap fun param => ';' :: ' ' :: param.chars

def chars (entry : Entry) : List Char :=
  List.replicate entry.indent ' ' ++ ('<' :: entry.target ++ ['>'] ++ entry.paramChars)

/-- The relations that the first parameter of that kind names. -/
def relations? (entry : Entry) : Option (List (List Char)) :=
  entry.params.findSome? Param.relations?

/-- Whether an entry is the next page, in any case. -/
def isNext (entry : Entry) : Bool :=
  entry.relations?.any (·.any (Text.sameIgnoringCase "next".toList))

end Entry

def printLine (line : List Entry) : HeaderValue :=
  .ofAscii (String.ofList (Text.join ',' (line.map Entry.chars)))

/-! ## Facts on characters -/

section Characters

variable {c : Char}

theorem isVisible_bounds (visible : isVisible c = true) : 0x21 ≤ c.toNat ∧ c.toNat ≤ 0x7E := by
  simpa [isVisible] using visible

theorem isBlank_of_isVisible (visible : isVisible c = true) : isBlank c = false := by
  have bounds := isVisible_bounds visible
  simp only [isBlank, Bool.or_eq_false_iff, Bool.and_eq_false_iff, decide_eq_false_iff_not,
    beq_eq_false_iff_ne]
  omega

theorem isAsciiBlank_of_isVisible (visible : isVisible c = true) : isAsciiBlank c = false := by
  have bounds := isVisible_bounds visible
  simp only [isAsciiBlank, Bool.or_eq_false_iff, beq_eq_false_iff_ne]
  refine ⟨⟨⟨⟨?_, ?_⟩, ?_⟩, ?_⟩, ?_⟩ <;> (rintro rfl; revert bounds; decide)

theorem isTextChar_of_isVisible (visible : isVisible c = true) : isTextChar c = true := by
  simp [isTextChar, visible]

theorem isVisible_of_isTokenChar (inside : isTokenChar c = true) : isVisible c = true := by
  simp only [isTokenChar, Bool.and_eq_true] at inside
  exact inside.1

theorem isVisible_of_isRelationChar (inside : isRelationChar c = true) : isVisible c = true := by
  simp only [isRelationChar, Bool.and_eq_true] at inside
  exact inside.1.1

theorem ne_of_isTokenChar {d : Char} (inside : isTokenChar c = true)
    (outside : isTokenChar d = false) : c ≠ d := by
  rintro rfl
  rw [inside] at outside
  cases outside

end Characters

/-! ## Cuts -/

theorem Param.name_isTokenChar (param : Param) : ∀ c ∈ param.name, isTokenChar c = true := by
  cases param with
  | relations first others =>
      exact List.all_eq_true.mp (by decide : "rel".toList.all isTokenChar = true)
  | other name value different => exact List.all_eq_true.mp name.inside

theorem passes_pieces (separator : Char) (pieces : List Piece) :
    Passes separator (.quoted false) (pieces.flatMap Piece.chars) (.quoted false) := by
  refine .flatMap fun piece _ => ?_
  cases piece with
  | plain c allowed =>
      simp only [Bool.and_eq_true, bne_iff_ne] at allowed
      exact .plain (by simpa [Piece.chars] using ⟨allowed.1.2, allowed.2⟩)
  | escaped c _ => exact .escaped c

section Cuts

variable {separator : Char} (separates : separator = ',' ∨ separator = ';')

include separates

theorem isMark_of_isTokenChar {c : Char} (inside : isTokenChar c = true) :
    isMark separator c = false := by
  have notSeparator : c ≠ separator := by
    rcases separates with rfl | rfl <;> exact ne_of_isTokenChar inside (by decide)
  have notQuote : c ≠ '"' := ne_of_isTokenChar inside (by decide)
  have notOpen : c ≠ '<' := ne_of_isTokenChar inside (by decide)
  have notClose : c ≠ '>' := ne_of_isTokenChar inside (by decide)
  simp [isMark, notSeparator, notQuote, notOpen, notClose]

theorem Word.passes (word : Word isTokenChar) : Passes separator .start word.chars .start :=
  .of_unmarked fun c member =>
    isMark_of_isTokenChar separates (List.all_eq_true.mp word.inside c member)

theorem passes_quote {text : List Char}
    (body : Passes separator (.quoted false) text (.quoted false)) :
    Passes separator .start (quote text) .start :=
  .quoted (by rcases separates with rfl | rfl <;> decide) body

theorem Param.value_passes (param : Param) : Passes separator .start param.value .start := by
  cases param with
  | relations first others =>
      refine passes_quote separates (.plain fun c member => ?_)
      rcases Text.mem_join member with rfl | ⟨word, named, inWord⟩
      · decide
      · obtain ⟨relation, _, rfl⟩ := List.mem_map.mp named
        have inside := List.all_eq_true.mp relation.inside c inWord
        simp only [isRelationChar, Bool.and_eq_true, bne_iff_ne] at inside
        exact ⟨inside.1.2, inside.2⟩
  | other name value different =>
      cases value with
      | token text => exact text.passes separates
      | quoted pieces => exact passes_quote separates (passes_pieces separator pieces)

theorem Param.passes (param : Param) : Passes separator .start param.chars .start := by
  have equals : Passes separator .start ['='] .start :=
    .of_unmarked (List.forall_mem_singleton.mpr (by rcases separates with rfl | rfl <;> decide))
  have named : Passes separator .start param.name .start :=
    .of_unmarked fun c member =>
      isMark_of_isTokenChar separates (param.name_isTokenChar c member)
  exact named.append (equals.append (param.value_passes separates))

end Cuts

theorem Entry.target_unbracketed (entry : Entry) : ∀ c ∈ entry.target, c ≠ '<' ∧ c ≠ '>' := by
  intro c member
  have inside := List.all_eq_true.mp entry.inside c member
  simp only [isTargetChar, Bool.and_eq_true, bne_iff_ne] at inside
  exact ⟨inside.1.2, inside.2⟩

theorem Entry.paramChars_passes (entry : Entry) : Passes ',' .start entry.paramChars .start :=
  .flatMap fun param _ => .cons (by decide) (.cons (by decide) (param.passes (.inl rfl)))

theorem Entry.passes (entry : Entry) : Passes ',' .start entry.chars .start := by
  have spaces : Passes ',' .start (List.replicate entry.indent ' ') .start := by
    refine .of_unmarked fun c member => ?_
    rw [(List.mem_replicate.mp member).2]
    decide
  have target : Passes ',' .start ('<' :: entry.target ++ ['>']) .start :=
    .bracketed (by decide) entry.target_unbracketed
  exact spaces.append (target.append entry.paramChars_passes)

theorem Entry.splitUnquoted_paramChars (entry : Entry) :
    splitUnquoted ';' entry.paramChars =
      [] :: entry.params.map fun param => ' ' :: param.chars := by
  have joined : entry.paramChars =
      Text.join ';' ([] :: entry.params.map fun param => ' ' :: param.chars) := by
    rw [Text.join_eq_flatMap, List.flatMap_map]
    rfl
  rw [joined]
  refine splitUnquoted_join nofun fun part member => ?_
  rcases List.mem_cons.mp member with rfl | later
  · exact .nil _
  · obtain ⟨param, _, rfl⟩ := List.mem_map.mp later
    exact .cons (by decide) (param.passes (.inr rfl))

/-! ## Blanks around parts -/

theorem quote_isStripped (text : List Char) : Text.IsStripped isBlank (quote text) := by
  have mark : Text.IsStripped isBlank ['"'] := .singleton (by decide)
  exact mark.append text (List.cons_ne_nil _ _) mark (List.cons_ne_nil _ _)

theorem isStripped_of_isTokenChar {text : List Char} (inside : ∀ c ∈ text, isTokenChar c = true) :
    Text.IsStripped isBlank text :=
  .of_forall fun c member => isBlank_of_isVisible (isVisible_of_isTokenChar (inside c member))

theorem trim_space {text : List Char} (stripped : Text.IsStripped isBlank text) :
    Text.trim (' ' :: text) = text := by
  have whole : Text.trim ([' '] ++ text ++ []) = _ :=
    Text.stripWhere_append stripped (List.forall_mem_singleton.mpr (by decide)) nofun
  rwa [List.append_nil] at whole

namespace Param

theorem name_ne_nil (param : Param) : param.name ≠ [] := by
  cases param with
  | relations first others => exact nofun
  | other name value different => exact name.nonempty

theorem name_isStripped (param : Param) : Text.IsStripped isBlank param.name :=
  isStripped_of_isTokenChar param.name_isTokenChar

theorem value_ne_nil (param : Param) : param.value ≠ [] := by
  cases param with
  | relations first others => exact nofun
  | other name value different =>
      cases value with
      | token text => exact text.nonempty
      | quoted pieces => exact nofun

theorem value_isStripped (param : Param) : Text.IsStripped isBlank param.value := by
  cases param with
  | relations first others => exact quote_isStripped _
  | other name value different =>
      cases value with
      | token text => exact isStripped_of_isTokenChar (List.all_eq_true.mp text.inside)
      | quoted pieces => exact quote_isStripped _

theorem chars_isStripped (param : Param) : Text.IsStripped isBlank param.chars := by
  have joined : Text.IsStripped isBlank (param.name ++ ['='] ++ param.value) :=
    param.name_isStripped.append ['='] param.name_ne_nil param.value_isStripped param.value_ne_nil
  rwa [List.append_assoc] at joined

theorem chars_ne_nil (param : Param) : param.chars ≠ [] :=
  List.append_ne_nil_of_left_ne_nil param.name_ne_nil _

end Param

namespace Entry

variable (entry : Entry)

theorem param_isStripped (param : Param) :
    Text.IsStripped isBlank (';' :: ' ' :: param.chars) ∧ ';' :: ' ' :: param.chars ≠ [] := by
  have semicolon : Text.IsStripped isBlank [';'] := .singleton (by decide)
  exact ⟨semicolon.append [' '] (List.cons_ne_nil _ _) param.chars_isStripped param.chars_ne_nil,
    List.cons_ne_nil _ _⟩

theorem paramChars_isStripped : Text.IsStripped isBlank entry.paramChars := by
  unfold paramChars
  cases entry.params with
  | nil => exact .of_forall nofun
  | cons param rest =>
      obtain ⟨stripped, something⟩ := param_isStripped param
      exact stripped.append_flatMap (fun later _ => param_isStripped later) something

theorem body_isStripped :
    Text.IsStripped isBlank ('<' :: entry.target ++ ['>'] ++ entry.paramChars) := by
  have opening : Text.IsStripped isBlank ['<'] := .singleton (by decide)
  have closing : Text.IsStripped isBlank ['>'] := .singleton (by decide)
  have bracketed : Text.IsStripped isBlank ('<' :: entry.target ++ ['>']) :=
    opening.append entry.target (List.cons_ne_nil _ _) closing (List.cons_ne_nil _ _)
  exact bracketed.append_flatMap (fun param _ => param_isStripped param) (List.cons_ne_nil _ _)

theorem isBlank_indent : ∀ c ∈ List.replicate entry.indent ' ', isBlank c = true := by
  intro c member
  rw [(List.mem_replicate.mp member).2]
  decide

theorem trim_chars : Text.trim entry.chars = '<' :: entry.target ++ ['>'] ++ entry.paramChars := by
  have whole : Text.trim (entry.chars ++ []) = _ :=
    Text.stripWhere_append entry.body_isStripped entry.isBlank_indent nofun
  rwa [List.append_nil] at whole

end Entry

/-! ## Reading -/

theorem Param.splitOnce_chars (param : Param) :
    Text.splitOnce '=' param.chars = some (param.name, param.value) :=
  Text.splitOnce_append
    (fun member => absurd (param.name_isTokenChar '=' member) (by decide)) param.value

theorem relationsOf_value (first : Word isRelationChar) (others : List (Word isRelationChar)) :
    relationsOf (Param.relations first others).value = (first :: others).map (·.chars) := by
  have visible : ∀ word ∈ (first :: others).map (·.chars), ∀ c ∈ word, isRelationChar c = true := by
    intro word member
    obtain ⟨relation, _, rfl⟩ := List.mem_map.mp member
    exact List.all_eq_true.mp relation.inside
  have unquoted : ∀ c ∈ Text.join ' ' ((first :: others).map (·.chars)), (c == '"') = false := by
    intro c member
    rcases Text.mem_join member with rfl | ⟨word, named, inWord⟩
    · decide
    · have inside := visible word named c inWord
      simp only [isRelationChar, Bool.and_eq_true, bne_iff_ne] at inside
      exact beq_eq_false_iff_ne.mpr inside.1.2
  have trimmed : Text.trim (Param.relations first others).value =
      ['"'] ++ Text.join ' ' ((first :: others).map (·.chars)) ++ ['"'] :=
    Text.stripWhere_of_isStripped (Param.relations first others).value_isStripped
  have mark : ∀ c ∈ ['"'], (c == '"') = true := List.forall_mem_singleton.mpr rfl
  rw [relationsOf, trimmed, Text.stripWhere_append (.of_forall unquoted) mark mark]
  refine Text.wordsWhere_join (by decide) ?_ ?_
  · intro word member
    obtain ⟨relation, _, rfl⟩ := List.mem_map.mp member
    exact relation.nonempty
  · intro word member c inWord
    exact isAsciiBlank_of_isVisible (isVisible_of_isRelationChar (visible word member c inWord))

theorem relations?_append {later : List (List Char)} (unnamed : relations? later = some none)
    (params : List Param) :
    relations? (params.map Param.chars ++ later) = some (params.findSome? Param.relations?) := by
  induction params with
  | nil => exact unnamed
  | cons param rest ih =>
      have named : Text.trim param.name = param.name :=
        Text.stripWhere_of_isStripped param.name_isStripped
      rw [List.map_cons, List.cons_append, relations?, param.splitOnce_chars, ih]
      simp only [Option.bind_eq_bind, Option.bind_some, named]
      cases param with
      | relations first others => rw [if_pos (by rfl), relationsOf_value]; rfl
      | other name value different => rw [if_neg (by simpa [Param.name] using different)]; rfl

theorem relations?_map_chars (params : List Param) :
    relations? (params.map Param.chars) = some (params.findSome? Param.relations?) := by
  have whole : relations? (params.map Param.chars ++ []) = _ := relations?_append rfl params
  rwa [List.append_nil] at whole

namespace Param

theorem value_isTextChar (param : Param) : ∀ c ∈ param.value, isTextChar c = true := by
  have quoted {text : List Char} (inside : ∀ c ∈ text, isTextChar c = true) :
      ∀ c ∈ quote text, isTextChar c = true := by
    intro c member
    rcases List.mem_append.mp member with inFront | atEnd
    · rcases List.mem_cons.mp inFront with rfl | inText
      · decide
      · exact inside c inText
    · obtain rfl := List.mem_singleton.mp atEnd
      decide
  cases param with
  | relations first others =>
      refine quoted fun c member => ?_
      rcases Text.mem_join member with rfl | ⟨word, named, inWord⟩
      · decide
      · obtain ⟨relation, _, rfl⟩ := List.mem_map.mp named
        exact isTextChar_of_isVisible
          (isVisible_of_isRelationChar (List.all_eq_true.mp relation.inside c inWord))
  | other name value different =>
      cases value with
      | token text =>
          exact fun c member => isTextChar_of_isVisible
            (isVisible_of_isTokenChar (List.all_eq_true.mp text.inside c member))
      | quoted pieces =>
          refine quoted fun c member => ?_
          obtain ⟨piece, _, inPiece⟩ := List.mem_flatMap.mp member
          cases piece with
          | plain d allowed =>
              obtain rfl := List.mem_singleton.mp inPiece
              simp only [Bool.and_eq_true] at allowed
              exact allowed.1.1
          | escaped d allowed =>
              rcases List.mem_cons.mp inPiece with rfl | inRest
              · decide
              · obtain rfl := List.mem_singleton.mp inRest
                exact allowed

theorem chars_isTextChar (param : Param) : ∀ c ∈ param.chars, isTextChar c = true := by
  intro c member
  rcases List.mem_append.mp member with inName | inRest
  · exact isTextChar_of_isVisible (isVisible_of_isTokenChar (param.name_isTokenChar c inName))
  · rcases List.mem_cons.mp inRest with rfl | inValue
    · decide
    · exact param.value_isTextChar c inValue

end Param

namespace Entry

variable (entry : Entry)

theorem paramChars_isTextChar : ∀ c ∈ entry.paramChars, isTextChar c = true := by
  intro c member
  obtain ⟨param, _, inParam⟩ := List.mem_flatMap.mp member
  rcases List.mem_cons.mp inParam with rfl | inRest
  · decide
  · rcases List.mem_cons.mp inRest with rfl | inChars
    · decide
    · exact param.chars_isTextChar c inChars

theorem chars_isTextChar : ∀ c ∈ entry.chars, isTextChar c = true := by
  have target : ∀ c ∈ entry.target, isTextChar c = true := by
    intro c member
    have inside := List.all_eq_true.mp entry.inside c member
    simp only [isTargetChar, Bool.and_eq_true, Bool.or_eq_true] at inside
    simp only [isTextChar, Bool.or_eq_true]
    rcases inside.1.1 with space | visible
    · exact .inl (.inr space)
    · exact .inr visible
  intro c member
  simp only [chars, List.mem_append, List.mem_cons, List.mem_replicate, List.not_mem_nil,
    or_false] at member
  rcases member with ⟨_, rfl⟩ | ((rfl | inTarget) | rfl) | inParams
  · decide
  · decide
  · exact target c inTarget
  · decide
  · exact entry.paramChars_isTextChar c inParams

/-- A target ends at its bracket, and parameters without blanks around them are left as they are. -/
theorem splitTarget?_target {params : List Char} (stripped : Text.IsStripped isBlank params)
    (oneLine : '\n' ∉ params) :
    splitTarget? ('<' :: entry.target ++ (['>'] ++ params)) = some (entry.target, params) := by
  have inner : ∀ c ∈ entry.target, (c != '<' && c != '>') = true := by
    simpa using entry.target_unbracketed
  have kept : params.dropWhile isBlank = params := Text.dropWhile_of_head stripped.head
  have target : Text.trim entry.target = entry.target :=
    Text.stripWhere_of_isStripped entry.stripped
  have trimmed : Text.trim params = params := Text.stripWhere_of_isStripped stripped
  unfold splitTarget?
  simp [List.dropWhile_append_of_pos inner, List.takeWhile_append_of_pos inner, kept, oneLine,
    target, trimmed]

/-- The target of a printed entry ends at its bracket, and its parameters are left as they are. -/
theorem splitTarget?_trim_chars :
    splitTarget? (Text.trim entry.chars) = some (entry.target, entry.paramChars) := by
  have oneLine : '\n' ∉ entry.paramChars :=
    fun member => absurd (entry.paramChars_isTextChar _ member) (by decide)
  rw [entry.trim_chars, List.append_assoc]
  exact entry.splitTarget?_target entry.paramChars_isStripped oneLine

/-- How an entry is read: as its target and relations, if it names any. -/
def read : Except LinkDefect Link :=
  match entry.relations? with
  | some relations => .ok ⟨entry.target, relations⟩
  | none => .error (.malformed (String.ofList entry.chars))

theorem relations?_ne_nil : entry.relations? ≠ some [] := by
  intro named
  obtain ⟨param, _, found⟩ := List.exists_of_findSome?_eq_some named
  cases param <;> cases found

theorem parse_chars : parse entry.chars = entry.read := by
  have params : ((splitUnquoted ';' entry.paramChars).map Text.trim).filter (!·.isEmpty) =
      entry.params.map Param.chars := by
    have trimmed (param : Param) : Text.trim (' ' :: param.chars) = param.chars :=
      trim_space param.chars_isStripped
    have kept : ∀ chars ∈ entry.params.map Param.chars, (!chars.isEmpty) = true := by
      intro chars member
      obtain ⟨param, _, rfl⟩ := List.mem_map.mp member
      simp [param.chars_ne_nil]
    rw [entry.splitUnquoted_paramChars, List.map_cons, List.map_map]
    simp only [Function.comp_def, trimmed]
    exact List.filter_eq_self.mpr kept
  have opened : entry.paramChars.isEmpty = true ∨ entry.paramChars.head? = some ';' := by
    unfold paramChars
    cases entry.params with
    | nil => exact .inl rfl
    | cons param rest => exact .inr rfl
  have found : Link.relations? (entry.params.map Param.chars) = some entry.relations? :=
    relations?_map_chars entry.params
  have something := entry.relations?_ne_nil
  unfold parse parse? read
  rw [entry.splitTarget?_trim_chars]
  simp only [Option.bind_eq_bind, Option.bind_some, if_pos opened, params, found]
  cases named : entry.relations? with
  | none => rfl
  | some relations =>
      cases relations with
      | nil => exact absurd named something
      | cons => rfl

end Entry

/-! ## Lines -/

/-- A text of header characters is read as it was written. -/
theorem chars?_ofAscii {text : List Char} (textual : ∀ c ∈ text, isTextChar c = true) :
    (HeaderValue.ofAscii (String.ofList text)).chars? = some text := by
  have bounds : ∀ c ∈ (String.ofList text).toList,
      c = '\t' ∨ 0x20 ≤ c.toNat ∧ c.toNat ≤ 0x7E := by
    intro c member
    rw [String.toList_ofList] at member
    have kinds := textual c member
    simp only [isTextChar, Bool.or_eq_true, beq_iff_eq] at kinds
    rcases kinds with (tab | rfl) | visible
    · exact .inl tab
    · exact .inr (by decide)
    · obtain ⟨low, high⟩ := isVisible_bounds visible
      exact .inr ⟨by omega, high⟩
  rw [HeaderValue.chars?_ofAscii bounds, String.toList_ofList]

theorem chars?_printLine (line : List Entry) :
    (printLine line).chars? = some (Text.join ',' (line.map Entry.chars)) := by
  refine chars?_ofAscii fun c member => ?_
  rcases Text.mem_join member with rfl | ⟨chars, printed, inChars⟩
  · decide
  · obtain ⟨entry, _, rfl⟩ := List.mem_map.mp printed
    exact entry.chars_isTextChar c inChars

theorem entries_join (line : List Entry) :
    entries (Text.join ',' (line.map Entry.chars)) = line.map Entry.chars := by
  cases line with
  | nil => rfl
  | cons entry rest =>
      have something : (entry :: rest).map Entry.chars ≠ [] := List.cons_ne_nil _ _
      have uncut : ∀ chars ∈ (entry :: rest).map Entry.chars, Passes ',' .start chars .start := by
        intro chars member
        obtain ⟨printed, _, rfl⟩ := List.mem_map.mp member
        exact printed.passes
      have shown : ∀ chars ∈ (entry :: rest).map Entry.chars, (!Text.isAllBlank chars) = true := by
        intro chars member
        obtain ⟨printed, _, rfl⟩ := List.mem_map.mp member
        simp [Entry.chars, Text.isAllBlank, show isBlank '<' = false by decide]
      rw [entries, splitUnquoted_join something uncut]
      exact List.filter_eq_self.mpr shown

theorem readAll_printLine (lines : List (List Entry)) :
    readAll (lines.map printLine) = lines.flatten.mapM Entry.read := by
  induction lines with
  | nil => rfl
  | cons line rest ih =>
      have parsed : parse ∘ Entry.chars = Entry.read := funext Entry.parse_chars
      rw [List.map_cons, readAll, chars?_printLine, ih, List.flatten_cons, List.mapM_append]
      simp only [entries_join, List.mapM_map, parsed]
      rfl

/-! ## Next pages -/

theorem mapM_read_of_named {entries : List Entry}
    (named : ∀ entry ∈ entries, entry.relations? ≠ none) :
    ∃ links, entries.mapM Entry.read = .ok links ∧
      (links.find? (·.hasRelation "next".toList)).map (·.target) =
        (entries.find? Entry.isNext).map (·.target) := by
  induction entries with
  | nil => exact ⟨[], rfl, rfl⟩
  | cons entry rest ih =>
      obtain ⟨namedHere, namedRest⟩ := List.forall_mem_cons.mp named
      obtain ⟨relations, found⟩ := Option.ne_none_iff_exists'.mp namedHere
      obtain ⟨links, read, same⟩ := ih namedRest
      have readHere : entry.read = .ok ⟨entry.target, relations⟩ := by rw [Entry.read, found]
      have next : entry.isNext = Link.hasRelation ⟨entry.target, relations⟩ "next".toList := by
        rw [Entry.isNext, found]
        rfl
      refine ⟨⟨entry.target, relations⟩ :: links, ?_, ?_⟩
      · rw [List.mapM_cons, readHere, read]
        rfl
      · rw [List.find?_cons, List.find?_cons, next]
        cases Link.hasRelation ⟨entry.target, relations⟩ "next".toList with
        | true => rfl
        | false => exact same

/-- Printed entries, over any number of lines, are read as the target of the first one that is the
next page. The first one that names no relations makes the reading fail, whatever comes after it. -/
theorem next?_of_printed {lines : List (List Entry)} {headers : Headers}
    (printed : headers.getAll "link" = lines.map printLine) :
    ((∀ entry ∈ lines.flatten, entry.relations? ≠ none) →
      next? headers = .ok ((lines.flatten.find? Entry.isNext).map (·.target))) ∧
    ∀ before bare after, lines.flatten = before ++ bare :: after →
      (∀ entry ∈ before, entry.relations? ≠ none) → bare.relations? = none →
      next? headers = .error (.malformed (String.ofList bare.chars)) := by
  unfold next?
  rw [printed, readAll_printLine]
  constructor
  · intro named
    obtain ⟨links, read, same⟩ := mapM_read_of_named named
    rw [read, ← same]
    rfl
  · intro before bare after split named unnamed
    obtain ⟨links, read, _⟩ := mapM_read_of_named named
    have failed : bare.read = .error (.malformed (String.ofList bare.chars)) := by
      rw [Entry.read, unnamed]
    rw [split, List.mapM_append, List.mapM_cons, read, failed]
    rfl

/-! ## Pages of groups -/

private def groupTitle : Param :=
  .other ⟨"title".toList, by decide, by decide⟩
    (.quoted [.plain 'a' (by decide), .plain ',' (by decide), .escaped '"' (by decide),
      .plain ';' (by decide), .plain '<' (by decide)])
    (by decide)

private theorem groupTarget_isStripped : Text.IsStripped isBlank "/groups?a=1,2".toList := by
  have slash : Text.IsStripped isBlank ['/'] := .singleton (by decide)
  have digit : Text.IsStripped isBlank ['2'] := .singleton (by decide)
  exact slash.append "groups?a=1,".toList (List.cons_ne_nil _ _) digit (List.cons_ne_nil _ _)

private def groupEntry (indent : Nat) (params : List Param) : Entry :=
  ⟨indent, "/groups?a=1,2".toList, by decide, groupTarget_isStripped, params⟩

private def groupNext : Entry :=
  groupEntry 0 [groupTitle, .relations ⟨"last".toList, by decide, by decide⟩
    [⟨"NEXT".toList, by decide, by decide⟩]]

private def groupBare : Entry := groupEntry 1 [groupTitle]

private def groupHeaders (lines : List (List Entry)) : Headers :=
  lines.map fun line => ("link", printLine line)

private theorem groupHeaders_printed (lines : List (List Entry)) :
    (groupHeaders lines).getAll "link" = lines.map printLine := by
  have folded : Headers.fold "link" = "link" := by decide
  induction lines with
  | nil => rfl
  | cons line rest ih =>
      rw [Headers.getAll, folded] at ih ⊢
      simpa [groupHeaders] using ih

theorem next?_of_printed_groups :
    next? (groupHeaders [[], [groupNext]]) = .ok (some "/groups?a=1,2".toList) ∧
    next? (groupHeaders [[groupNext, groupBare], [groupNext]]) =
      .error (.malformed " </groups?a=1,2>; title=\"a,\\\";<\"") := by
  refine ⟨(next?_of_printed (groupHeaders_printed [[], [groupNext]])).1 (by decide), ?_⟩
  exact (next?_of_printed (groupHeaders_printed [[groupNext, groupBare], [groupNext]])).2
    [groupNext] groupBare [groupNext] rfl (by decide) rfl

end Link

end KeyBound
