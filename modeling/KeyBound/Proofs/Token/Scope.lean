import KeyBound.Proofs.Text.Order
import KeyBound.Proofs.Text.Parts
import KeyBound.Token.Scope
import Mathlib.Data.Finset.Card
import Mathlib.Data.List.Sort

/-!
# Sets of scopes

Which lists of texts are a set of scopes, and what a set keeps of a list: its members in ascending
order, whatever their order and however often they stood there. The text of a set is cut back into
its scopes.
-/

set_option autoImplicit false

namespace KeyBound.ScopeSet

variable {scope : String} {texts : List String} {defect : ScopeDefect} {set : ScopeSet}

/-! ## Lists of scopes -/

structure IsScope (text : String) : Prop where
  something : text ≠ ""
  unbroken : ∀ c ∈ text.toList, isBlank c = false

/-- What the first text of a list that is no scope is refused for. -/
inductive FirstDefect : List String → ScopeDefect → Prop where
  | empty {rest : List String} : FirstDefect ("" :: rest) .empty
  | blank {text : String} {rest : List String} :
      (∃ c ∈ text.toList, isBlank c = true) → FirstDefect (text :: rest) (.blank text)
  | later {text : String} {rest : List String} {defect : ScopeDefect} :
      IsScope text → FirstDefect rest defect → FirstDefect (text :: rest) defect

theorem defect?_of_isScope (sound : IsScope scope) : defect? scope = none := by
  have something : scope.isEmpty = false := by simpa using sound.something
  have unbroken : scope.toList.any isBlank = false := by simpa using sound.unbroken
  simp [defect?, something, unbroken]

theorem defect?_of_blank (broken : ∃ c ∈ scope.toList, isBlank c = true) :
    defect? scope = some (.blank scope) := by
  obtain ⟨c, member, blank⟩ := broken
  have something : scope.isEmpty = false := by
    rw [String.isEmpty_eq_false_iff]
    rintro rfl
    cases member
  simp only [defect?, something, List.any_eq_true.mpr ⟨c, member, blank⟩]
  rfl

theorem scopes_or_firstDefect (texts : List String) :
    (∀ text ∈ texts, IsScope text) ∨ ∃ defect, FirstDefect texts defect := by
  induction texts with
  | nil => exact .inl nofun
  | cons text rest ih =>
      by_cases nothing : text = ""
      · exact .inr ⟨.empty, nothing ▸ FirstDefect.empty⟩
      · by_cases broken : ∃ c ∈ text.toList, isBlank c = true
        · exact .inr ⟨_, .blank broken⟩
        · have sound : IsScope text := ⟨nothing, by simpa using broken⟩
          rcases ih with scopes | ⟨defect, first⟩
          · exact .inl (List.forall_mem_cons.mpr ⟨sound, scopes⟩)
          · exact .inr ⟨defect, .later sound first⟩

theorem ofList_of_firstDefect (first : FirstDefect texts defect) :
    ofList texts = .error defect := by
  induction first with
  | empty => rfl
  | blank broken => rw [ofList, defect?_of_blank broken]
  | later sound _ ih =>
      rw [ofList, defect?_of_isScope sound, ih]
      rfl

/-! ## Ascending lists -/

theorem mem_insert {other : String} {scopes : List String} :
    other ∈ insert scope scopes ↔ other = scope ∨ other ∈ scopes := by
  induction scopes with
  | nil => simp [insert]
  | cons first rest ih =>
      rw [insert]
      split
      · rename_i same
        simp [same]
      · split
        · simp
        · rw [List.mem_cons, ih, List.mem_cons]
          exact or_left_comm

theorem insert_pairwise (scope : String) {scopes : List String}
    (ascending : scopes.Pairwise (· < ·)) : (insert scope scopes).Pairwise (· < ·) := by
  induction ascending with
  | nil => exact List.pairwise_singleton _ scope
  | @cons first rest above ascending ih =>
      rw [insert]
      split
      · exact .cons above ascending
      · rename_i differs
        split
        · rename_i below
          have least : ∀ other ∈ first :: rest, scope < other :=
            List.forall_mem_cons.mpr
              ⟨below, fun other member => lt_trans below (above other member)⟩
          exact .cons least (.cons above ascending)
        · rename_i beyond
          refine .cons (fun other member => ?_) ih
          rcases mem_insert.mp member with rfl | later
          · exact lt_of_le_of_ne (not_lt.mp beyond) (Ne.symm differs)
          · exact above other later

theorem mem_halves {scopes lower after : List String} {middle : String}
    (ascending : scopes.Pairwise (· < ·)) (cut : scopes = lower ++ middle :: after) :
    (scope < middle → (scope ∈ scopes ↔ scope ∈ lower)) ∧
      (middle < scope → (scope ∈ scopes ↔ scope ∈ after)) := by
  subst cut
  obtain ⟨-, upper, across⟩ := List.pairwise_append.mp ascending
  obtain ⟨above, -⟩ := List.pairwise_cons.mp upper
  rw [List.mem_append, List.mem_cons]
  refine ⟨fun below => or_iff_left ?_, fun beyond => ?_⟩
  · rintro (rfl | inside)
    · exact lt_irrefl _ below
    · exact lt_asymm below (above scope inside)
  · have outside : scope ∉ lower := fun inside =>
      lt_asymm beyond (across scope inside middle List.mem_cons_self)
    rw [or_iff_right outside, or_iff_right (ne_of_gt beyond)]

/-- A search passes over a half of an ascending list only where the scope cannot be. -/
theorem search_eq_true_iff {scopes : List String} (ascending : scopes.Pairwise (· < ·)) :
    search scope scopes = true ↔ scope ∈ scopes := by
  fun_induction search scope scopes with
  | case1 scopes upper =>
      have length := congrArg List.length upper
      rw [List.length_drop, List.length_nil] at length
      obtain rfl := List.eq_nil_of_length_eq_zero (show scopes.length = 0 by omega)
      simp
  | case2 scopes after upper =>
      have member : scope ∈ scopes.drop (scopes.length / 2) := upper ▸ List.mem_cons_self
      exact iff_of_true rfl (List.mem_of_mem_drop member)
  | case3 scopes middle after upper differs below ih =>
      have cut : scopes = scopes.take (scopes.length / 2) ++ middle :: after := by
        rw [← upper, List.take_append_drop]
      exact (ih (ascending.sublist (List.take_sublist _ _))).trans
        ((mem_halves ascending cut).1 below).symm
  | case4 scopes middle after upper differs beyond ih =>
      have cut : scopes = scopes.take (scopes.length / 2) ++ middle :: after := by
        rw [← upper, List.take_append_drop]
      have tail : after.Sublist scopes :=
        (List.sublist_cons_self middle after).trans (upper ▸ List.drop_sublist _ _)
      exact (ih (ascending.sublist tail)).trans
        ((mem_halves ascending cut).2 (lt_of_le_of_ne (not_lt.mp beyond) (Ne.symm differs))).symm

/-! ## Sets -/

/-- A set keeps some texts, all of which are scopes, in ascending order. -/
structure Keeps (set : ScopeSet) (texts : List String) : Prop where
  scopes : ∀ text ∈ texts, IsScope text
  ascending : set.list.Pairwise (· < ·)
  mem_iff : ∀ scope, scope ∈ set.list ↔ scope ∈ texts

theorem ofList_of_scopes (scopes : ∀ text ∈ texts, IsScope text) :
    ∃ set, ofList texts = .ok set ∧ set.Keeps texts := by
  induction texts with
  | nil => exact ⟨⟨[]⟩, rfl, nofun, .nil, fun _ => Iff.rfl⟩
  | cons text rest ih =>
      obtain ⟨sound, others⟩ := List.forall_mem_cons.mp scopes
      obtain ⟨set, made, keeps⟩ := ih others
      refine ⟨⟨insert text set.list⟩, ?_, scopes, insert_pairwise text keeps.ascending, ?_⟩
      · rw [ofList, defect?_of_isScope sound, made]
        rfl
      · intro scope
        rw [mem_insert, keeps.mem_iff, List.mem_cons]

theorem keeps_of_ofList (made : ofList texts = .ok set) : set.Keeps texts := by
  rcases scopes_or_firstDefect texts with scopes | ⟨defect, first⟩
  · obtain ⟨same, madeToo, keeps⟩ := ofList_of_scopes scopes
    rw [made] at madeToo
    cases madeToo
    exact keeps
  · rw [ofList_of_firstDefect first] at made
    cases made

namespace Keeps

theorem ofList_eq (keeps : set.Keeps texts) {others : List String}
    (same : ∀ scope, scope ∈ others ↔ scope ∈ texts) : ofList others = .ok set := by
  obtain ⟨made, found, keepsOthers⟩ :=
    ofList_of_scopes fun text member => keeps.scopes text ((same text).mp member)
  have equal : made.list = set.list :=
    keepsOthers.ascending.eq_of_mem_iff keeps.ascending fun scope =>
      ((keepsOthers.mem_iff scope).trans (same scope)).trans (keeps.mem_iff scope).symm
  rw [found]
  exact congrArg (fun list => Except.ok (ScopeSet.mk list)) equal

theorem size_eq (keeps : set.Keeps texts) : set.size = texts.toFinset.card := by
  have distinct : set.list.Nodup := keeps.ascending.imp ne_of_lt
  rw [size, ← List.toFinset_card_of_nodup distinct]
  congr 1
  ext scope
  simp [keeps.mem_iff]

theorem splitAt_joined (keeps : set.Keeps texts) (something : set.list ≠ []) :
    (Text.splitAt ' ' set.joined.toList).map String.ofList = set.list := by
  have unbroken : ∀ part ∈ set.list.map String.toList, ' ' ∉ part := by
    refine List.forall_mem_map.mpr fun scope member inside => ?_
    have sound := keeps.scopes scope ((keeps.mem_iff scope).mp member)
    exact absurd (sound.unbroken ' ' inside) (by decide)
  rw [joined, String.toList_ofList, Text.splitAt_join (by simpa using something) unbroken,
    List.map_map]
  exact (List.map_congr_left fun scope _ => String.ofList_toList).trans (List.map_id _)

end Keeps

/-- A list of texts is a set of scopes exactly if each of them is a scope; otherwise the first one
that is none is the error. The set holds the members of the list in the order of their bytes, each
of them once, and finds them. Every list with these members is the same set, and so are the parts
of its text. -/
theorem ofList_spec (texts : List String) :
    ((∃ set, ofList texts = .ok set) ↔ ∀ text ∈ texts, IsScope text) ∧
      (∀ defect, ofList texts = .error defect ↔ FirstDefect texts defect) ∧
      ∀ set, ofList texts = .ok set →
        set.list.Pairwise (fun first second => utf8 first < utf8 second) ∧
        (∀ scope, set.contains scope = true ↔ scope ∈ texts) ∧
        set.size = texts.toFinset.card ∧
        (∀ others, (∀ scope, scope ∈ others ↔ scope ∈ texts) → ofList others = .ok set) ∧
        (set.isEmpty = false →
          ofList ((Text.splitAt ' ' set.joined.toList).map String.ofList) = .ok set) := by
  refine ⟨⟨?_, ?_⟩, fun defect => ⟨?_, ofList_of_firstDefect⟩, ?_⟩
  · rintro ⟨set, made⟩
    exact (keeps_of_ofList made).scopes
  · intro scopes
    obtain ⟨set, made, -⟩ := ofList_of_scopes scopes
    exact ⟨set, made⟩
  · intro refused
    rcases scopes_or_firstDefect texts with scopes | ⟨first, found⟩
    · obtain ⟨set, made, -⟩ := ofList_of_scopes scopes
      rw [made] at refused
      cases refused
    · rw [ofList_of_firstDefect found] at refused
      cases refused
      exact found
  · intro set made
    have keeps := keeps_of_ofList made
    refine ⟨keeps.ascending.imp utf8_lt_iff.mpr, fun scope => ?_, keeps.size_eq,
      fun others => keeps.ofList_eq, fun something => ?_⟩
    · rw [contains, search_eq_true_iff keeps.ascending, keeps.mem_iff]
    · have some : set.list ≠ [] := List.isEmpty_eq_false_iff.mp something
      rw [keeps.splitAt_joined some]
      exact keeps.ofList_eq keeps.mem_iff

end KeyBound.ScopeSet
