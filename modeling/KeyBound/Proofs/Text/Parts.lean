import KeyBound.Text.Blank
import Mathlib.Data.List.Basic
import Mathlib.Data.List.TakeWhile

/-!
# Parts of texts

What stripping, cutting and collecting words give back of a text that was put together from parts.
-/

set_option autoImplicit false

namespace KeyBound.Text

variable {p : Char → Bool} {separator : Char}

/-- A text that neither starts nor ends with a character of a class. -/
structure IsStripped (p : Char → Bool) (text : List Char) : Prop where
  head : ∀ c ∈ text.head?, p c = false
  last : ∀ c ∈ text.getLast?, p c = false

theorem IsStripped.of_forall {text : List Char} (outside : ∀ c ∈ text, p c = false) :
    IsStripped p text :=
  ⟨fun c first => outside c (List.mem_of_mem_head? first),
    fun c last => outside c (List.mem_of_mem_getLast? last)⟩

theorem IsStripped.singleton {c : Char} (outside : p c = false) : IsStripped p [c] :=
  .of_forall (List.forall_mem_singleton.mpr outside)

/-- A text is stripped if its first and its last part are, where both hold something. -/
theorem IsStripped.append {first last : List Char} (middle : List Char)
    (stripped : IsStripped p first) (someFirst : first ≠ []) (strippedLast : IsStripped p last)
    (someLast : last ≠ []) : IsStripped p (first ++ middle ++ last) := by
  constructor
  · rw [List.append_assoc, List.head?_append_of_ne_nil _ someFirst]
    exact stripped.head
  · rw [List.getLast?_append_of_ne_nil _ someLast]
    exact strippedLast.last

/-- A text stays stripped if stripped texts are put after it. -/
theorem IsStripped.append_flatMap {α : Type} {parts : List α} {chars : α → List Char}
    (each : ∀ part ∈ parts, IsStripped p (chars part) ∧ chars part ≠ []) {text : List Char}
    (stripped : IsStripped p text) (something : text ≠ []) :
    IsStripped p (text ++ parts.flatMap chars) := by
  induction parts generalizing text with
  | nil => simpa using stripped
  | cons part rest ih =>
      obtain ⟨⟨strippedPart, somePart⟩, later⟩ := List.forall_mem_cons.mp each
      have grown : IsStripped p (text ++ [] ++ chars part) :=
        stripped.append [] something strippedPart somePart
      rw [List.append_nil] at grown
      rw [List.flatMap_cons, ← List.append_assoc]
      exact ih later grown (List.append_ne_nil_of_left_ne_nil something _)

theorem dropWhile_of_head {text : List Char} (stop : ∀ c ∈ text.head?, p c = false) :
    text.dropWhile p = text := by
  cases text with
  | nil => rfl
  | cons c rest => exact List.dropWhile_cons_of_neg (by simp [stop c rfl])

theorem stripWhere_append {before text after : List Char} (stripped : IsStripped p text)
    (head : ∀ c ∈ before, p c = true) (tail : ∀ c ∈ after, p c = true) :
    stripWhere p (before ++ text ++ after) = text := by
  unfold stripWhere
  rw [List.append_assoc, List.dropWhile_append_of_pos head]
  cases text with
  | nil =>
      rw [List.nil_append, List.dropWhile_eq_nil_iff.mpr tail]
      rfl
  | cons c rest =>
      have first : (c :: rest ++ after).dropWhile p = c :: rest ++ after :=
        dropWhile_of_head stripped.head
      have tailReversed : ∀ c ∈ after.reverse, p c = true := by simpa using tail
      rw [first, List.reverse_append, List.dropWhile_append_of_pos tailReversed,
        dropWhile_of_head (List.head?_reverse ▸ stripped.last), List.reverse_reverse]

theorem stripWhere_of_isStripped {text : List Char} (stripped : IsStripped p text) :
    stripWhere p text = text := by
  have whole : stripWhere p ([] ++ text ++ []) = text := stripWhere_append stripped nofun nofun
  rwa [List.nil_append, List.append_nil] at whole

/-- What is stripped from a text stands before and behind what is left of it. -/
theorem exists_stripWhere (p : Char → Bool) (text : List Char) :
    ∃ before after, text = before ++ stripWhere p text ++ after ∧
      (∀ c ∈ before, p c = true) ∧ ∀ c ∈ after, p c = true := by
  refine ⟨text.takeWhile p, ((text.dropWhile p).reverse.takeWhile p).reverse, ?_, ?_, ?_⟩
  · have ends : stripWhere p text ++ ((text.dropWhile p).reverse.takeWhile p).reverse =
        text.dropWhile p := by
      rw [stripWhere, ← List.reverse_append, List.takeWhile_append_dropWhile, List.reverse_reverse]
    rw [List.append_assoc, ends, List.takeWhile_append_dropWhile]
  · exact fun c member => List.mem_takeWhile_imp member
  · exact fun c member => List.mem_takeWhile_imp (List.mem_reverse.mp member)

theorem splitOnce_append {before : List Char} (absent : separator ∉ before) (after : List Char) :
    splitOnce separator (before ++ separator :: after) = some (before, after) := by
  induction before with
  | nil => simp [splitOnce]
  | cons c rest ih =>
      rw [List.mem_cons, not_or] at absent
      rw [List.cons_append, splitOnce, if_neg (Ne.symm absent.1), ih absent.2]
      rfl

theorem splitAt_of_notMem {text : List Char} (absent : separator ∉ text) :
    splitAt separator text = [text] := by
  induction text with
  | nil => rfl
  | cons c rest ih =>
      rw [List.mem_cons, not_or] at absent
      rw [splitAt, if_neg (Ne.symm absent.1), ih absent.2]

theorem splitAt_ne_nil (separator : Char) (text : List Char) : splitAt separator text ≠ [] := by
  induction text with
  | nil => exact List.cons_ne_nil _ _
  | cons c rest ih =>
      obtain ⟨part, parts, cut⟩ := List.exists_cons_of_ne_nil ih
      rw [splitAt, cut]
      split <;> exact List.cons_ne_nil _ _

/-- A text is cut at a separator wherever that stands. -/
theorem splitAt_append_cons (separator : Char) (before after : List Char) :
    splitAt separator (before ++ separator :: after) =
      splitAt separator before ++ splitAt separator after := by
  induction before with
  | nil => simp [splitAt]
  | cons c rest ih =>
      obtain ⟨part, parts, cut⟩ := List.exists_cons_of_ne_nil (splitAt_ne_nil separator rest)
      rw [List.cons_append, splitAt, splitAt, ih, cut]
      split <;> rfl

theorem splitAt_append {before : List Char} (absent : separator ∉ before) (after : List Char) :
    splitAt separator (before ++ separator :: after) = before :: splitAt separator after := by
  rw [splitAt_append_cons, splitAt_of_notMem absent, List.singleton_append]

/-- Between two separators next to each other stands an empty part, and it is not the last one. -/
theorem nil_mem_splitAt {text : List Char} (twice : [separator, separator] <:+: text) :
    [] ∈ (splitAt separator text).dropLast := by
  obtain ⟨before, after, rfl⟩ := twice
  have cut : splitAt separator (before ++ [separator, separator] ++ after) =
      splitAt separator before ++ ([[]] ++ splitAt separator after) := by
    rw [List.append_assoc, List.cons_append, splitAt_append_cons, List.singleton_append]
    simp [splitAt]
  rw [cut, ← List.append_assoc, List.dropLast_append_of_ne_nil (splitAt_ne_nil separator after)]
  simp

/-! ## Texts within texts -/

theorem includes_iff {part text : List Char} : includes part text = true ↔ part <:+: text := by
  induction text with
  | nil => simp [includes]
  | cons c rest ih =>
      rw [includes, Bool.or_eq_true, ih, List.infix_cons_iff]
      simp

theorem prefix_of_prefix_append_cons {mark : List Char} (absent : separator ∉ mark)
    {before after : List Char} (found : mark <+: before ++ separator :: after) :
    mark <+: before := by
  rcases List.prefix_or_prefix_of_prefix found (List.prefix_append before _) with inside | beyond
  · exact inside
  · obtain ⟨more, rfl⟩ := beyond
    cases more with
    | nil => simp
    | cons c more =>
        obtain ⟨rfl, -⟩ := List.cons_prefix_cons.mp ((List.prefix_append_right_inj before).mp found)
        exact absurd (List.mem_append_right before List.mem_cons_self) absent

/-- A text without separators that stands in another one stands on one side of each separator. -/
theorem infix_append_cons {mark : List Char} (absent : separator ∉ mark) {before after : List Char}
    (found : mark <:+: before ++ separator :: after) : mark <:+: before ∨ mark <:+: after := by
  induction before with
  | nil =>
      rcases List.infix_cons_iff.mp found with atHead | later
      · have start : mark <+: [] := prefix_of_prefix_append_cons absent atHead
        exact .inl start.isInfix
      · exact .inr later
  | cons c rest ih =>
      rcases List.infix_cons_iff.mp found with atHead | later
      · have start : mark <+: c :: rest := prefix_of_prefix_append_cons absent atHead
        exact .inl start.isInfix
      · rcases ih later with inside | beyond
        · exact .inl (List.infix_cons inside)
        · exact .inr beyond

/-! ## Words -/

theorem wordsWhere_cons_of_pos {c : Char} (blank : p c = true) (rest : List Char) :
    wordsWhere p (c :: rest) = wordsWhere p rest := by
  rw [wordsWhere.eq_def]
  exact if_pos blank

private theorem wordsWhere_cons_of_stop {c : Char} {rest : List Char} (outside : p c = false)
    (stop : ∀ d ∈ rest.head?, p d = true) :
    wordsWhere p (c :: rest) = [c] :: wordsWhere p rest := by
  rw [wordsWhere.eq_def]
  simp only [outside, Bool.false_eq_true, if_false]
  split
  · rename_i d _ word words later
    rw [if_pos (stop d rfl), later]
  · rfl

private theorem wordsWhere_cons_cons {c d : Char} {rest word : List Char}
    {words : List (List Char)} (outside : p c = false) (goesOn : p d = false)
    (later : wordsWhere p (d :: rest) = word :: words) :
    wordsWhere p (c :: d :: rest) = (c :: word) :: words := by
  rw [wordsWhere.eq_def]
  simp [outside, goesOn, later]

/-- A word at the head of a text is the first one, if the text ends or is not of a word after it. -/
theorem wordsWhere_append {word : List Char} (something : word ≠ [])
    (inside : ∀ c ∈ word, p c = false) {rest : List Char} (stop : ∀ c ∈ rest.head?, p c = true) :
    wordsWhere p (word ++ rest) = word :: wordsWhere p rest := by
  induction word with
  | nil => exact absurd rfl something
  | cons c word ih =>
      obtain ⟨outside, insideRest⟩ := List.forall_mem_cons.mp inside
      cases word with
      | nil => exact wordsWhere_cons_of_stop outside stop
      | cons d word =>
          exact wordsWhere_cons_cons outside (insideRest d List.mem_cons_self)
            (ih nofun insideRest)

theorem join_cons_cons (separator : Char) (part next : List Char) (rest : List (List Char)) :
    join separator (part :: next :: rest) = part ++ separator :: join separator (next :: rest) :=
  rfl

theorem join_eq_flatMap (separator : Char) (part : List Char) (rest : List (List Char)) :
    join separator (part :: rest) = part ++ rest.flatMap (separator :: ·) := by
  induction rest generalizing part with
  | nil => simp [join]
  | cons next rest ih => rw [join_cons_cons, ih, List.flatMap_cons, List.cons_append]

theorem join_cons_of_ne_nil (separator : Char) (part : List Char) {rest : List (List Char)}
    (others : rest ≠ []) :
    join separator (part :: rest) = part ++ separator :: join separator rest := by
  obtain ⟨next, later, rfl⟩ := List.exists_cons_of_ne_nil others
  exact join_cons_cons separator part next later

theorem join_cons_head (separator c : Char) (part : List Char) (rest : List (List Char)) :
    join separator ((c :: part) :: rest) = c :: join separator (part :: rest) := by
  rw [join_eq_flatMap, join_eq_flatMap, List.cons_append]

theorem mem_join {c : Char} {parts : List (List Char)} (member : c ∈ join separator parts) :
    c = separator ∨ ∃ part ∈ parts, c ∈ part := by
  cases parts with
  | nil => cases member
  | cons part rest =>
      rw [join_eq_flatMap, List.mem_append, List.mem_flatMap] at member
      rcases member with inFirst | ⟨later, inside, inLater⟩
      · exact .inr ⟨part, List.mem_cons_self, inFirst⟩
      · rcases List.mem_cons.mp inLater with same | inPart
        · exact .inl same
        · exact .inr ⟨later, List.mem_cons_of_mem _ inside, inPart⟩

theorem splitAt_join {parts : List (List Char)} (something : parts ≠ [])
    (absent : ∀ part ∈ parts, separator ∉ part) :
    splitAt separator (join separator parts) = parts := by
  induction parts with
  | nil => exact absurd rfl something
  | cons part rest ih =>
      obtain ⟨absentHere, absentLater⟩ := List.forall_mem_cons.mp absent
      cases rest with
      | nil => exact splitAt_of_notMem absentHere
      | cons next rest =>
          rw [join_cons_cons, splitAt_append absentHere, ih nofun absentLater]

theorem wordsWhere_join (blank : p separator = true) {words : List (List Char)}
    (something : ∀ word ∈ words, word ≠ []) (inside : ∀ word ∈ words, ∀ c ∈ word, p c = false) :
    wordsWhere p (join separator words) = words := by
  induction words with
  | nil => rfl
  | cons word rest ih =>
      obtain ⟨someWord, someRest⟩ := List.forall_mem_cons.mp something
      obtain ⟨insideWord, insideRest⟩ := List.forall_mem_cons.mp inside
      cases rest with
      | nil =>
          have alone : wordsWhere p (word ++ []) = word :: wordsWhere p [] :=
            wordsWhere_append someWord insideWord nofun
          rwa [List.append_nil] at alone
      | cons next rest =>
          have stop : ∀ c ∈ (separator :: join separator (next :: rest)).head?, p c = true := by
            simp [blank]
          rw [join_cons_cons, wordsWhere_append someWord insideWord stop,
            wordsWhere_cons_of_pos blank, ih someRest insideRest]

end KeyBound.Text
