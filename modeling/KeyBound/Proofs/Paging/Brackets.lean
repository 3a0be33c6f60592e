import KeyBound.Proofs.Paging.Printing
import Mathlib.Data.List.DropRight

/-!
# Brackets in link headers

Where the brackets of an entry stand that was read. The pair around its target is looked at, and
what follows it in the entry is not: a bracket that is opened in a parameter and stays open hides
the commas after it, and with them the entries that follow.
-/

set_option autoImplicit false

namespace KeyBound.Link

/-! ## Brackets outside quotes -/

def Scan.after (scan : Scan) (text : List Char) : Scan := text.foldl Scan.next scan

/-- The brackets of a text that stand outside quotes, for a scan that comes to it. -/
def bracketsFrom : Scan → List Char → List Char
  | _, [] => []
  | .quoted escaped, c :: rest => bracketsFrom (Scan.next (.quoted escaped) c) rest
  | .outside depth, c :: rest =>
    let later := bracketsFrom (Scan.next (.outside depth) c) rest
    if c = '<' ∨ c = '>' then c :: later else later

def brackets (text : List Char) : List Char := bracketsFrom .start text

/-- An entry with a target in brackets at its head, which holds none, and parameters after it. -/
inductive Opens : (entry params : List Char) → Prop where
  | target {blanks target params : List Char} :
      (∀ c ∈ blanks, isBlank c = true) → (∀ c ∈ target, c ≠ '<' ∧ c ≠ '>') →
      Opens (blanks ++ ('<' :: target ++ '>' :: params)) params

/-- A text after a bracket that it nowhere leaves closed. -/
def StaysOpen (text : List Char) : Prop :=
  ∀ early, early <+: text → Scan.after (.outside 1) early ≠ .start

theorem staysOpen_iff {text : List Char} :
    StaysOpen text ↔
      ∀ n < text.length + 1, Scan.after (.outside 1) (text.take n) ≠ .start := by
  constructor
  · exact fun stays n _ => stays _ (List.take_prefix n text)
  · intro away early begins
    rw [List.prefix_iff_eq_take.mp begins]
    exact away _ (Nat.lt_succ_of_le begins.length_le)

instance (text : List Char) : Decidable (StaysOpen text) :=
  decidable_of_iff _ staysOpen_iff.symm

section Scans

variable {separator : Char} {scan final : Scan} {text early late : List Char}

@[simp] theorem Scan.after_nil (scan : Scan) : scan.after [] = scan := rfl

@[simp] theorem Scan.after_cons (scan : Scan) (c : Char) (rest : List Char) :
    scan.after (c :: rest) = (scan.next c).after rest := rfl

theorem Scan.after_append (scan : Scan) (first second : List Char) :
    scan.after (first ++ second) = (scan.after first).after second :=
  List.foldl_append

theorem bracketsFrom_append (scan : Scan) (first second : List Char) :
    bracketsFrom scan (first ++ second) =
      bracketsFrom scan first ++ bracketsFrom (scan.after first) second := by
  induction first generalizing scan with
  | nil => rw [bracketsFrom]; rfl
  | cons c first ih =>
      cases scan with
      | quoted escaped => exact ih _
      | outside depth =>
          rw [List.cons_append, bracketsFrom, bracketsFrom, ih, Scan.after_cons]
          split <;> rfl

theorem Passes.after_eq (passes : Passes separator scan text final) : scan.after text = final := by
  induction passes with
  | nil => rfl
  | cons _ _ ih => exact ih

/-- No separator of a text without a cut stands where a scan is back at its start. -/
theorem Passes.after_ne_start (passes : Passes separator scan (early ++ separator :: late) final) :
    scan.after early ≠ .start := by
  induction early generalizing scan with
  | nil =>
      cases passes with
      | cons uncut _ => exact fun back => uncut ⟨rfl, back⟩
  | cons c early ih =>
      cases passes with
      | cons _ later => exact ih later

theorem passes_of_ne_start (away : ∀ early, early <+: text → scan.after early ≠ .start) :
    Passes separator scan text (scan.after text) := by
  induction text generalizing scan with
  | nil => exact .nil scan
  | cons c rest ih =>
      refine .cons (fun cut => away [] List.nil_prefix cut.2) (ih fun early begins => ?_)
      exact away (c :: early) ((List.prefix_cons_inj c).mpr begins)

/-- Each part that a text is cut into has no cut itself. -/
theorem exists_passes_of_splitFrom {part : List Char} {parts : List (List Char)}
    (cut : splitFrom separator scan text = part :: parts) :
    (∃ final, Passes separator scan part final) ∧
      ∀ other ∈ parts, ∃ final, Passes separator .start other final := by
  induction text generalizing scan part parts with
  | nil =>
      cases cut
      exact ⟨⟨scan, .nil scan⟩, nofun⟩
  | cons c rest ih =>
      rw [splitFrom] at cut
      split at cut
      · cases later : splitFrom separator .start rest with
        | nil =>
            rw [later] at cut
            cases cut
            exact ⟨⟨scan, .nil scan⟩, nofun⟩
        | cons next others =>
            rw [later] at cut
            cases cut
            exact ⟨⟨scan, .nil scan⟩, List.forall_mem_cons.mpr (ih later)⟩
      · rename_i uncut
        cases later : splitFrom separator (scan.next c) rest with
        | nil =>
            rw [later] at cut
            cases cut
            exact ⟨⟨scan.next c, .cons uncut (.nil _)⟩, nofun⟩
        | cons next others =>
            rw [later] at cut
            cases cut
            obtain ⟨⟨final, passes⟩, others⟩ := ih later
            exact ⟨⟨final, .cons uncut passes⟩, others⟩

theorem exists_passes {part : List Char} (member : part ∈ splitUnquoted separator text) :
    ∃ final, Passes separator .start part final := by
  cases cut : splitUnquoted separator text with
  | nil =>
      rw [cut] at member
      cases member
  | cons first others =>
      obtain ⟨passes, later⟩ := exists_passes_of_splitFrom cut
      rw [cut] at member
      rcases List.mem_cons.mp member with rfl | member
      · exact passes
      · exact later part member

theorem mem_bracketsFrom_cons {b c : Char} {rest : List Char}
    (later : b ∈ bracketsFrom (scan.next c) rest) : b ∈ bracketsFrom scan (c :: rest) := by
  cases scan with
  | quoted escaped => exact later
  | outside depth =>
      rw [bracketsFrom]
      split
      · exact List.mem_cons_of_mem c later
      · exact later

/-- Only an opening bracket outside quotes takes a scan inside one. -/
theorem Scan.opened_of_next {c : Char} {depth : Nat}
    (outside : ∀ depth, scan ≠ .outside (depth + 1))
    (inside : scan.next c = .outside (depth + 1)) : scan = .outside 0 ∧ c = '<' := by
  match scan with
  | .quoted true => cases inside
  | .quoted false =>
      simp only [Scan.next] at inside
      split at inside
      · cases inside
      · split at inside <;> cases inside
  | .outside 0 =>
      refine ⟨rfl, Decidable.byContradiction fun other => ?_⟩
      simp only [Scan.next, other, and_true, ↓reduceIte] at inside
      split at inside
      · cases inside
      · split at inside <;> cases inside
  | .outside (depth + 1) => exact absurd rfl (outside depth)

/-- A scan outside brackets that ends inside one has seen it opened. -/
theorem mem_bracketsFrom {depth : Nat} (outside : ∀ depth, scan ≠ .outside (depth + 1))
    (inside : scan.after text = .outside (depth + 1)) : '<' ∈ bracketsFrom scan text := by
  induction text generalizing scan with
  | nil => exact absurd inside (outside depth)
  | cons c rest ih =>
      by_cases opened : ∃ depth, scan.next c = .outside (depth + 1)
      · obtain ⟨depth, here⟩ := opened
        obtain ⟨rfl, rfl⟩ := Scan.opened_of_next outside here
        rw [bracketsFrom, if_pos (.inl rfl)]
        exact List.mem_cons_self
      · exact mem_bracketsFrom_cons (ih (not_exists.mp opened) inside)

/-- A text without brackets, and without quotes where they count, leaves a scan outside quotes as it
was. -/
theorem after_of_unmarked {depth : Nat}
    (unmarked : ∀ c ∈ text, c ≠ '<' ∧ c ≠ '>' ∧ (depth = 0 → c ≠ '"')) :
    Scan.after (.outside depth) text = .outside depth ∧
      bracketsFrom (.outside depth) text = [] := by
  induction text with
  | nil => exact ⟨rfl, rfl⟩
  | cons c rest ih =>
      obtain ⟨⟨noOpening, noClosing, noQuote⟩, later⟩ := List.forall_mem_cons.mp unmarked
      have still : Scan.next (.outside depth) c = .outside depth := by
        simp only [Scan.next, noOpening, noClosing, ↓reduceIte]
        exact if_neg fun opened => noQuote opened.2 opened.1
      rw [Scan.after_cons, bracketsFrom, still, if_neg (not_or.mpr ⟨noOpening, noClosing⟩)]
      exact ih later

end Scans

/-! ## Entries that are read -/

/-- Blanks and a target in brackets leave a scan at its start, with a pair of brackets behind it. -/
theorem Opens.exists_front {entry params : List Char} (opens : Opens entry params) :
    ∃ front, entry = front ++ params ∧ Scan.start.after front = .start ∧
      brackets front = ['<', '>'] := by
  cases opens with
  | @target blanks target params blank inside =>
      have unmarked : ∀ c ∈ blanks, c ≠ '<' ∧ c ≠ '>' ∧ (0 = 0 → c ≠ '"') := by
        intro c member
        have other {mark : Char} (visible : isVisible mark = true) : c ≠ mark := by
          rintro rfl
          have solid := isBlank_of_isVisible visible
          rw [blank c member] at solid
          cases solid
        exact ⟨other (by decide), other (by decide), fun _ => other (by decide)⟩
      have hidden : ∀ c ∈ target, c ≠ '<' ∧ c ≠ '>' ∧ (1 = 0 → c ≠ '"') := fun c member =>
        ⟨(inside c member).1, (inside c member).2, nofun⟩
      obtain ⟨afterBlanks, noneInBlanks⟩ := after_of_unmarked unmarked
      obtain ⟨afterTarget, noneInTarget⟩ := after_of_unmarked hidden
      have afterTargetOpened : Scan.after (.outside 0) ('<' :: target) = .outside 1 := afterTarget
      refine ⟨blanks ++ ('<' :: target ++ ['>']), by simp, ?_, ?_⟩
      · rw [Scan.after_append, Scan.start, afterBlanks, Scan.after_append]
        exact congrArg (Scan.after · ['>']) afterTarget
      · have pair : bracketsFrom (.outside 0) ('<' :: target ++ ['>']) = ['<', '>'] := by
          have opened : Scan.next (.outside 0) '<' = .outside 1 := rfl
          rw [bracketsFrom_append, afterTargetOpened, bracketsFrom, if_pos (.inl rfl), opened,
            noneInTarget]
          rfl
        rw [brackets, Scan.start, bracketsFrom_append, noneInBlanks, afterBlanks, pair]
        rfl

theorem Opens.brackets_eq {entry params : List Char} (opens : Opens entry params) :
    brackets entry = '<' :: '>' :: brackets params := by
  obtain ⟨front, rfl, after, pair⟩ := opens.exists_front
  rw [brackets, bracketsFrom_append, after]
  exact congrArg (· ++ brackets params) pair

theorem exists_of_splitTarget? {entry : List Char} {found : List Char × List Char}
    (read : splitTarget? entry = some found) :
    ∃ target params, entry = '<' :: target ++ '>' :: params ∧
      ∀ c ∈ target, c ≠ '<' ∧ c ≠ '>' := by
  unfold splitTarget? at read
  split at read
  · rename_i rest
    dsimp only at read
    split at read
    · rename_i params left
      refine ⟨rest.takeWhile fun c => c != '<' && c != '>', params, ?_, ?_⟩
      · rw [← left, List.cons_append, List.takeWhile_append_dropWhile]
      · intro c member
        simpa using List.mem_takeWhile_imp member
    · cases read
  · cases read

/-- An entry that is read has its target in brackets at its head. -/
theorem exists_opens_of_parse? {entry : List Char} {link : Link} (read : parse? entry = some link) :
    ∃ params, Opens entry params := by
  obtain ⟨found, split, -⟩ := Option.bind_eq_some_iff.mp read
  obtain ⟨target, params, trimmed, inside⟩ := exists_of_splitTarget? split
  obtain ⟨before, behind, whole, blankBefore, -⟩ := Text.exists_stripWhere isBlank entry
  refine ⟨params ++ behind, ?_⟩
  have opens : Opens (before ++ ('<' :: target ++ '>' :: (params ++ behind))) (params ++ behind) :=
    .target blankBefore inside
  have same : entry = before ++ ('<' :: target ++ '>' :: (params ++ behind)) := by
    conv => lhs; rw [whole]
    rw [show Text.stripWhere isBlank entry = _ from trimmed]
    simp
  exact same ▸ opens

theorem parse?_of_readAll {values : List HeaderValue} {links : List Link}
    (read : readAll values = .ok links) :
    ∀ value ∈ values, ∃ text, value.chars? = some text ∧
      ∀ entry ∈ entries text, ∃ link, parse? entry = some link := by
  have each {list : List (List Char)} {found : List Link} (read : list.mapM parse = .ok found) :
      ∀ entry ∈ list, ∃ link, parse? entry = some link := by
    induction list generalizing found with
    | nil => exact nofun
    | cons entry rest ih =>
        rw [List.mapM_cons] at read
        cases here : parse entry with
        | error defect =>
            rw [here] at read
            cases read
        | ok link =>
            cases later : rest.mapM parse with
            | error defect =>
                rw [here, later] at read
                cases read
            | ok links =>
                refine List.forall_mem_cons.mpr ⟨⟨link, ?_⟩, ih later⟩
                unfold parse at here
                split at here
                · rename_i found
                  rw [found, Except.ok.inj here]
                · cases here
  induction values generalizing links with
  | nil => exact nofun
  | cons value rest ih =>
      rw [readAll] at read
      cases text : value.chars? with
      | none =>
          rw [text] at read
          cases read
      | some chars =>
          rw [text] at read
          cases here : (entries chars).mapM parse with
          | error defect =>
              simp only [here] at read
              cases read
          | ok found =>
              cases later : readAll rest with
              | error defect =>
                  simp only [here, later] at read
                  cases read
              | ok others => exact List.forall_mem_cons.mpr ⟨⟨chars, text, each here⟩, ih later⟩

/-! ## Brackets that stay open -/

/-- A parameter whose value begins with a bracket, and what follows that. -/
def openParam (name : Word isTokenChar) (text : List Char) : List Char :=
  name.chars ++ '=' :: '<' :: text

section Open

variable {name : Word isTokenChar} {text : List Char}

theorem openParam_passes (name : Word isTokenChar) (stays : StaysOpen text) {separator : Char}
    (separates : separator = ',' ∨ separator = ';') :
    ∃ final, Passes separator .start (openParam name text) final := by
  have equals : Passes separator .start ['='] .start :=
    .of_unmarked (List.forall_mem_singleton.mpr (by rcases separates with rfl | rfl <;> decide))
  have opening : Passes separator .start ['<'] (.outside 1) :=
    .cons (by rcases separates with rfl | rfl <;> decide) (.nil _)
  exact ⟨_, (name.passes separates).append
    (equals.append (opening.append (passes_of_ne_start stays)))⟩

theorem openParam_isStripped (ends : ∀ c ∈ text.getLast?, isBlank c = false) :
    Text.IsStripped isBlank (openParam name text) := by
  have named : Text.IsStripped isBlank name.chars :=
    isStripped_of_isTokenChar (List.all_eq_true.mp name.inside)
  have opened : Text.IsStripped isBlank ('<' :: text) := by
    constructor
    · rintro c ⟨⟩
      decide
    · intro c last
      cases text with
      | nil =>
          cases last
          decide
      | cons d rest => exact ends c (by simpa using last)
  have whole : Text.IsStripped isBlank (name.chars ++ ['='] ++ '<' :: text) :=
    named.append ['='] name.nonempty opened (List.cons_ne_nil _ _)
  rwa [List.append_assoc] at whole

/-- A parameter of another name is passed over, whatever its value. -/
theorem relations?_openParam (different : Text.sameIgnoringCase name.chars "rel".toList = false)
    (text : List Char) : relations? [openParam name text] = some none := by
  have named : ∀ c ∈ name.chars, isTokenChar c = true := List.all_eq_true.mp name.inside
  have split : Text.splitOnce '=' (openParam name text) = some (name.chars, '<' :: text) :=
    Text.splitOnce_append (fun member => absurd (named _ member) (by decide)) _
  have kept : Text.trim name.chars = name.chars :=
    Text.stripWhere_of_isStripped (isStripped_of_isTokenChar named)
  rw [relations?, split]
  simp only [Option.bind_eq_bind, Option.bind_some, relations?, kept]
  rw [if_neg (by simpa using different)]

theorem splitUnquoted_append {separator : Char} {parts : List (List Char)} {last : List Char}
    {final : Scan} (uncut : ∀ part ∈ parts, Passes separator .start part .start)
    (passes : Passes separator .start last final) :
    splitUnquoted separator (parts.flatMap (· ++ [separator]) ++ last) = parts ++ [last] := by
  induction parts with
  | nil =>
      have alone : splitFrom separator .start (last ++ []) = [last ++ []] :=
        splitFrom_append passes rfl
      rwa [List.append_nil] at alone
  | cons part rest ih =>
      obtain ⟨passesHere, uncutRest⟩ := List.forall_mem_cons.mp uncut
      have cut : splitFrom separator .start
          (separator :: (rest.flatMap (· ++ [separator]) ++ last)) = [] :: (rest ++ [last]) := by
        rw [splitFrom, if_pos ⟨rfl, rfl⟩]
        exact congrArg _ (ih uncutRest)
      have whole := splitFrom_append passesHere cut
      rw [List.append_nil] at whole
      rw [List.flatMap_cons, List.append_assoc, List.append_assoc]
      exact whole

end Open

namespace Entry

variable (entry : Entry) {name : Word isTokenChar} {text : List Char}

/-- An entry with one more parameter, whose value begins with a bracket. -/
def opened (name : Word isTokenChar) (text : List Char) : List Char :=
  entry.chars ++ ';' :: ' ' :: openParam name text

theorem opened_passes (name : Word isTokenChar) (stays : StaysOpen text) :
    ∃ final, Passes ',' .start (entry.opened name text) final := by
  obtain ⟨final, passes⟩ := openParam_passes name stays (.inl rfl)
  exact ⟨final, entry.passes.append (.cons (by decide) (.cons (by decide) passes))⟩

theorem splitUnquoted_opened (stays : StaysOpen text) :
    splitUnquoted ';' (entry.paramChars ++ ';' :: ' ' :: openParam name text) =
      [] :: (entry.params.map fun param => ' ' :: param.chars) ++ [' ' :: openParam name text] := by
  have turned (parts : List Param) (last : List Char) :
      parts.flatMap (fun param => ';' :: ' ' :: param.chars) ++ ';' :: last =
        ([] :: parts.map fun param => ' ' :: param.chars).flatMap (· ++ [';']) ++ last := by
    induction parts with
    | nil => rfl
    | cons param rest ih =>
        rw [List.flatMap_cons, List.append_assoc, ih]
        simp
  obtain ⟨final, passes⟩ := openParam_passes name stays (.inr rfl)
  rw [paramChars, turned]
  refine splitUnquoted_append (fun part member => ?_) (.cons (by decide) passes)
  rcases List.mem_cons.mp member with rfl | later
  · exact .nil _
  · obtain ⟨param, _, rfl⟩ := List.mem_map.mp later
    exact .cons (by decide) (param.passes (.inr rfl))

theorem parts_opened (stays : StaysOpen text) (ends : ∀ c ∈ text.getLast?, isBlank c = false) :
    ((splitUnquoted ';' (entry.paramChars ++ ';' :: ' ' :: openParam name text)).map
      Text.trim).filter (!·.isEmpty) = entry.params.map Param.chars ++ [openParam name text] := by
  have spaced : ((entry.params.map fun param => ' ' :: param.chars).map Text.trim) =
      entry.params.map Param.chars := by
    rw [List.map_map]
    exact List.map_congr_left fun param _ => trim_space param.chars_isStripped
  have something : ∀ part ∈ entry.params.map Param.chars ++ [openParam name text],
      (!part.isEmpty) = true := by
    intro part member
    rcases List.mem_append.mp member with printed | last
    · obtain ⟨param, _, rfl⟩ := List.mem_map.mp printed
      simp [param.chars_ne_nil]
    · rw [List.mem_singleton.mp last]
      simp [openParam]
  rw [entry.splitUnquoted_opened stays, List.map_append, List.map_cons, spaced,
    List.map_singleton, trim_space (openParam_isStripped ends), List.cons_append]
  exact List.filter_eq_self.mpr something

theorem opened_isStripped (name : Word isTokenChar)
    (ends : ∀ c ∈ text.getLast?, isBlank c = false) :
    Text.IsStripped isBlank (entry.paramChars ++ ';' :: ' ' :: openParam name text) := by
  have semicolon : Text.IsStripped isBlank [';'] := .singleton (by decide)
  have last : Text.IsStripped isBlank (';' :: ' ' :: openParam name text) :=
    semicolon.append [' '] (List.cons_ne_nil _ _) (openParam_isStripped ends)
      (List.append_ne_nil_of_left_ne_nil name.nonempty _)
  by_cases none : entry.paramChars = []
  · rwa [none]
  · have whole := entry.paramChars_isStripped.append [] none last (List.cons_ne_nil _ _)
    rwa [List.append_nil] at whole

/-- Trimming takes no more from an entry with an open bracket than the blanks at its end. -/
theorem exists_trim_opened (name : Word isTokenChar) (text : List Char) :
    ∃ core, core <+: text ∧ (∀ c ∈ core.getLast?, isBlank c = false) ∧
      Text.trim (entry.opened name text) = '<' :: entry.target ++ (['>'] ++
        (entry.paramChars ++ ';' :: ' ' :: openParam name core)) := by
  have ends : ∀ c ∈ (text.rdropWhile isBlank).getLast?, isBlank c = false := by
    intro c last
    obtain ⟨something, rfl⟩ := List.mem_getLast?_eq_getLast last
    simpa using List.rdropWhile_last_not isBlank text something
  have stripped := entry.opened_isStripped name ends
  refine ⟨text.rdropWhile isBlank, List.rdropWhile_prefix isBlank text, ends, ?_⟩
  have opening : Text.IsStripped isBlank ['<'] := .singleton (by decide)
  have whole : Text.IsStripped isBlank (['<'] ++ (entry.target ++ ['>']) ++
      (entry.paramChars ++ ';' :: ' ' :: openParam name (text.rdropWhile isBlank))) :=
    opening.append _ (List.cons_ne_nil _ _) stripped (by simp)
  have blankEnd : ∀ c ∈ text.rtakeWhile isBlank, isBlank c = true :=
    fun c member => List.mem_rtakeWhile_imp member
  have trimmed := Text.stripWhere_append whole entry.isBlank_indent blankEnd
  simp only [openParam, opened, chars, List.append_assoc, List.cons_append, List.nil_append,
    List.rdropWhile_append_rtakeWhile] at trimmed ⊢
  exact trimmed

theorem parse?_opened (different : Text.sameIgnoringCase name.chars "rel".toList = false)
    (stays : StaysOpen text) (oneLine : '\n' ∉ text) :
    parse? (entry.opened name text) = entry.relations?.map (⟨entry.target, ·⟩) := by
  obtain ⟨core, begins, ends, trimmed⟩ := entry.exists_trim_opened name text
  have stripped := entry.opened_isStripped name ends
  have staysCore : StaysOpen core := fun early first => stays early (first.trans begins)
  have named : ∀ c ∈ name.chars, isTokenChar c = true := List.all_eq_true.mp name.inside
  have oneLineCore : '\n' ∉ entry.paramChars ++ ';' :: ' ' :: openParam name core := by
    have params : '\n' ∉ entry.paramChars :=
      fun member => absurd (entry.paramChars_isTextChar _ member) (by decide)
    have inName : '\n' ∉ name.chars := fun member => absurd (named _ member) (by decide)
    have inCore : '\n' ∉ core := fun member => oneLine (begins.subset member)
    simp [openParam, params, inName, inCore]
  have opening : (entry.paramChars ++ ';' :: ' ' :: openParam name core).isEmpty = true ∨
      (entry.paramChars ++ ';' :: ' ' :: openParam name core).head? = some ';' := by
    unfold paramChars
    cases entry.params with
    | nil => exact .inr rfl
    | cons param rest => exact .inr rfl
  have found := relations?_append (relations?_openParam different core) entry.params
  unfold parse?
  rw [trimmed, entry.splitTarget?_target stripped oneLineCore]
  simp only [Option.bind_eq_bind, Option.bind_some, if_pos opening,
    entry.parts_opened staysCore ends, found]
  change (entry.relations?.bind _) = _
  cases related : entry.relations? with
  | none => rfl
  | some relations =>
      cases relations with
      | nil => exact absurd related entry.relations?_ne_nil
      | cons => rfl

/-- What follows a bracket that stays open belongs to the entry, whatever it is. -/
theorem entries_opened (stays : StaysOpen text) :
    entries (entry.opened name text) = [entry.opened name text] := by
  obtain ⟨final, passes⟩ := entry.opened_passes name stays
  have alone :
      splitFrom ',' .start (entry.opened name text ++ []) = [entry.opened name text ++ []] :=
    splitFrom_append passes rfl
  rw [List.append_nil] at alone
  have something : Text.isAllBlank (entry.opened name text) = false := by
    simp [opened, chars, Text.isAllBlank, show isBlank '<' = false by decide]
  rw [entries, splitUnquoted, alone]
  simp [something]

theorem brackets_opened (name : Word isTokenChar) (text : List Char) :
    ∃ before after, brackets (entry.opened name text) = '<' :: '>' :: before ++ '<' :: after := by
  let front := entry.paramChars ++ (';' :: ' ' :: name.chars ++ ['='])
  have passes : Passes ',' .start front .start := by
    have equals : Passes ',' .start ['='] .start :=
      .of_unmarked (List.forall_mem_singleton.mpr (by decide))
    have named : Passes ',' .start (';' :: ' ' :: name.chars) .start :=
      .cons (by decide) (.cons (by decide) (name.passes (.inl rfl)))
    exact entry.paramChars_passes.append (named.append equals)
  have opens : Opens (entry.opened name text) (front ++ '<' :: text) := by
    have whole : Opens _ (front ++ '<' :: text) :=
      .target entry.isBlank_indent entry.target_unbracketed
    simpa [front, opened, openParam, chars] using whole
  refine ⟨bracketsFrom .start front, bracketsFrom (.outside 1) text, ?_⟩
  rw [opens.brackets_eq, brackets, bracketsFrom_append, passes.after_eq]
  rfl

theorem next?_opened {headers : Headers} (named : entry.relations? ≠ none)
    (different : Text.sameIgnoringCase name.chars "rel".toList = false) (stays : StaysOpen text)
    (textual : ∀ c ∈ text, isTextChar c = true)
    (sent : headers.getAll "link" = [.ofAscii (String.ofList (entry.opened name text))]) :
    next? headers = .ok (if entry.isNext then some entry.target else none) := by
  obtain ⟨relations, found⟩ := Option.ne_none_iff_exists'.mp named
  have oneLine : '\n' ∉ text := fun member => absurd (textual _ member) (by decide)
  have parsed : parse (entry.opened name text) = .ok ⟨entry.target, relations⟩ := by
    rw [parse, entry.parse?_opened different stays oneLine, found]
    rfl
  have shown : (HeaderValue.ofAscii (String.ofList (entry.opened name text))).chars? =
      some (entry.opened name text) := by
    have inName : ∀ c ∈ name.chars, isTextChar c = true := fun c member =>
      isTextChar_of_isVisible (isVisible_of_isTokenChar (List.all_eq_true.mp name.inside c member))
    have inParam : ∀ c ∈ openParam name text, isTextChar c = true :=
      List.forall_mem_append.mpr ⟨inName, List.forall_mem_cons.mpr
        ⟨by decide, List.forall_mem_cons.mpr ⟨by decide, textual⟩⟩⟩
    exact chars?_ofAscii (List.forall_mem_append.mpr ⟨entry.chars_isTextChar,
      List.forall_mem_cons.mpr ⟨by decide, List.forall_mem_cons.mpr ⟨by decide, inParam⟩⟩⟩)
  have next : entry.isNext = hasRelation ⟨entry.target, relations⟩ "next".toList := by
    rw [isNext, found]
    rfl
  have read : readAll (headers.getAll "link") = .ok [⟨entry.target, relations⟩] := by
    rw [sent, readAll, shown]
    simp only [entry.entries_opened stays, List.mapM_cons, List.mapM_nil, parsed]
    rfl
  rw [next?, read, next]
  change Except.ok (Option.map _ (List.find? _ [_])) = _
  rw [List.find?_singleton]
  split <;> rfl

end Entry

/-- A comma of an entry's parameters stands in quotes or after a bracket opened in them. -/
theorem Opens.at_comma {entry params early late : List Char} {final : Scan}
    (opens : Opens entry params) (passes : Passes ',' .start entry final)
    (split : params = early ++ ',' :: late) :
    (∃ escaped, Scan.start.after early = .quoted escaped) ∨ '<' ∈ brackets early := by
  obtain ⟨front, rfl, after, -⟩ := opens.exists_front
  rw [split, ← List.append_assoc] at passes
  have away : Scan.start.after early ≠ .start := by
    have whole := passes.after_ne_start
    rwa [Scan.after_append, after] at whole
  cases state : Scan.start.after early with
  | quoted escaped => exact .inl ⟨escaped, rfl⟩
  | outside depth =>
      cases depth with
      | zero => exact absurd state away
      | succ depth => exact .inr (mem_bracketsFrom nofun state)

/-- Where a next page is looked for without an error, every entry has a target in brackets at its
head, and as many brackets after that as its parameters have outside quotes; a comma in them stands
in quotes or after a bracket that was opened in them. Such a bracket is no error: where it stays
open everything after it belongs to the entry, which is read as if nothing of that were there. -/
theorem next?_brackets (headers : Headers) :
    (∀ next, next? headers = .ok next → ∀ value ∈ headers.getAll "link",
      ∃ text, value.chars? = some text ∧ ∀ entry ∈ entries text, ∃ params, Opens entry params ∧
        brackets entry = '<' :: '>' :: brackets params ∧
        ∀ early late, params = early ++ ',' :: late →
          (∃ escaped, Scan.start.after early = .quoted escaped) ∨ '<' ∈ brackets early) ∧
    ∀ (entry : Entry) (name : Word isTokenChar) (text : List Char),
      entry.relations? ≠ none → Text.sameIgnoringCase name.chars "rel".toList = false →
      StaysOpen text → (∀ c ∈ text, isTextChar c = true) →
      headers.getAll "link" = [.ofAscii (String.ofList (entry.opened name text))] →
      entries (entry.opened name text) = [entry.opened name text] ∧
      (∃ before after, brackets (entry.opened name text) = '<' :: '>' :: before ++ '<' :: after) ∧
      next? headers = .ok (if entry.isNext then some entry.target else none) := by
  constructor
  case left =>
    intro next found value member
    cases read : readAll (headers.getAll "link") with
    | error defect =>
        rw [next?, read] at found
        cases found
    | ok links =>
        obtain ⟨text, shown, each⟩ := parse?_of_readAll read value member
        refine ⟨text, shown, fun entry inside => ?_⟩
        obtain ⟨link, parsed⟩ := each entry inside
        obtain ⟨params, opens⟩ := exists_opens_of_parse? parsed
        refine ⟨params, opens, opens.brackets_eq, fun early late split => ?_⟩
        obtain ⟨final, passes⟩ := exists_passes (List.mem_filter.mp inside).1
        exact opens.at_comma passes split
  case right =>
    intro entry name text named different stays textual sent
    exact ⟨entry.entries_opened stays, entry.brackets_opened name text,
      entry.next?_opened named different stays textual sent⟩

/-! ## A title that is never closed -/

private def previous : Entry where
  indent := 0
  target := "/p1".toList
  inside := by decide
  stripped :=
    have slash : Text.IsStripped isBlank ['/'] := .singleton (by decide)
    have digit : Text.IsStripped isBlank ['1'] := .singleton (by decide)
    slash.append ['p'] (List.cons_ne_nil _ _) digit (List.cons_ne_nil _ _)
  params := [.relations ⟨"prev".toList, by decide, by decide⟩ []]

private def title : Word isTokenChar := ⟨['t', 'i', 't', 'l', 'e'], by decide, by decide⟩

private def hidden : List Char := "x, </p2>; rel=\"next\"".toList

/-- The next page stands behind the bracket, and the header has none. -/
theorem next?_brackets_hidden :
    StaysOpen hidden ∧
      next? [("link", .ofAscii "</p1>; rel=\"prev\"; title=<x, </p2>; rel=\"next\"")] =
        .ok none := by
  have stays : StaysOpen hidden := by decide +kernel
  have textual : hidden.all isTextChar = true := by decide +kernel
  have written : "</p1>; rel=\"prev\"; title=<x, </p2>; rel=\"next\"" =
      String.ofList (previous.opened title hidden) := by decide +kernel
  rw [written]
  obtain ⟨-, -, read⟩ := (next?_brackets [("link",
    .ofAscii (String.ofList (previous.opened title hidden)))]).2 previous title hidden nofun
      (by decide) stays (List.all_eq_true.mp textual) (by decide +kernel)
  exact ⟨stays, read⟩

end KeyBound.Link
