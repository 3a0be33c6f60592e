import KeyBound.Proofs.Json.Records
import KeyBound.Retry.Settings
import Mathlib.Data.List.Sort

/-!
# Settings in JSON

Settings are read from any object that states some of them, in any order and among others, and the
standard ones hold for the rest. What is printed of settings is read as the same settings.
-/

set_option autoImplicit false

namespace KeyBound

open Json

/-- A delay of whole milliseconds, as many as can be written. -/
def Delay.IsWhole (delay : Delay) : Prop := ∃ n < 18446744073709551616, delay = .ofMillis n

theorem Delay.millis_ofMillis (n : Nat) : (Delay.ofMillis n).millis = n :=
  Nat.mul_div_cancel n (by decide)

namespace RetrySettings

/-! ## Settings that can be written -/

/-- Settings that have a text: numbers that fit their types, whole milliseconds, and sets as lists
in their order. -/
structure IsProper (settings : RetrySettings) : Prop where
  maxRetries : settings.maxRetries < 4294967296
  initialBackoff : settings.initialBackoff.IsWhole
  maxBackoff : settings.maxBackoff.IsWhole
  maxElapsed : ∀ delay ∈ settings.maxElapsed, delay.IsWhole
  statuses : settings.retriableStatuses.Pairwise (· < ·)
  statusesFit : ∀ status ∈ settings.retriableStatuses, status < 65536
  kinds : settings.nonRetriableKinds.Sublist FailureKind.all

theorem standard_isProper : standard.IsProper where
  maxRetries := by decide
  initialBackoff := ⟨300, by decide, rfl⟩
  maxBackoff := ⟨20000, by decide, rfl⟩
  maxElapsed := nofun
  statuses := by decide
  statusesFit := by decide
  kinds := by decide

inductive Setting where
  | maxRetries
  | initialBackoff
  | maxBackoff
  | maxElapsed
  | retriableStatuses
  | nonRetriableKinds
  | idempotency
  | retryHeaders
  deriving DecidableEq

def Setting.all : List Setting :=
  [.maxRetries, .initialBackoff, .maxBackoff, .maxElapsed, .retriableStatuses, .nonRetriableKinds,
    .idempotency, .retryHeaders]

def Setting.key : Setting → String
  | maxRetries => "max_retries"
  | initialBackoff => "initial_backoff_ms"
  | maxBackoff => "max_backoff_ms"
  | maxElapsed => "max_elapsed_ms"
  | retriableStatuses => "retriable_statuses"
  | nonRetriableKinds => "non_retriable_kinds"
  | idempotency => "idempotency"
  | retryHeaders => "retry_headers"

/-- The values that may be written for a setting. Sets are written in any order, and their members
as often as one likes. -/
def Setting.Writes (settings : RetrySettings) : Setting → Value → Prop
  | maxRetries, value => value = .ofNat settings.maxRetries
  | initialBackoff, value => value = .ofNat settings.initialBackoff.millis
  | maxBackoff, value => value = .ofNat settings.maxBackoff.millis
  | maxElapsed, value => value = .ofOption (fun delay => .ofNat delay.millis) settings.maxElapsed
  | retriableStatuses, value =>
    ∃ statuses : List Nat, (∀ status, status ∈ statuses ↔ status ∈ settings.retriableStatuses) ∧
      value = .array (statuses.map .ofNat)
  | nonRetriableKinds, value =>
    ∃ kinds : List FailureKind, (∀ kind, kind ∈ kinds ↔ kind ∈ settings.nonRetriableKinds) ∧
      value = .array (kinds.map fun kind => .text kind.label)
  | idempotency, value => value = .text settings.idempotency.label
  | retryHeaders, value => value = .bool settings.retryHeaders

/-- The settings that are kept, with the standard ones in the place of the others. -/
def keep (settings : RetrySettings) (kept : Setting → Bool) : RetrySettings where
  maxRetries := if kept .maxRetries then settings.maxRetries else standard.maxRetries
  initialBackoff :=
    if kept .initialBackoff then settings.initialBackoff else standard.initialBackoff
  maxBackoff := if kept .maxBackoff then settings.maxBackoff else standard.maxBackoff
  maxElapsed := if kept .maxElapsed then settings.maxElapsed else standard.maxElapsed
  retriableStatuses :=
    if kept .retriableStatuses then settings.retriableStatuses else standard.retriableStatuses
  nonRetriableKinds :=
    if kept .nonRetriableKinds then settings.nonRetriableKinds else standard.nonRetriableKinds
  idempotency := if kept .idempotency then settings.idempotency else standard.idempotency
  retryHeaders := if kept .retryHeaders then settings.retryHeaders else standard.retryHeaders

/-- A text of an object that states the settings that are kept, and none of the others. -/
def States (settings : RetrySettings) (kept : Setting → Bool) (text : Bytes) : Prop :=
  ∃ entries, ObjectText text entries ∧ ∀ setting : Setting,
    if kept setting then
      ∃ value, setting.Writes settings value ∧ Gives entries setting.key (some value)
    else Gives entries setting.key none

/-! ## Sets -/

theorem mem_insertStatus {status other : Nat} {statuses : List Nat} :
    other ∈ insertStatus status statuses ↔ other = status ∨ other ∈ statuses := by
  induction statuses with
  | nil => simp [insertStatus]
  | cons first rest ih =>
      rw [insertStatus]
      split
      · rename_i same
        simp [same]
      · split
        · simp
        · rw [List.mem_cons, ih, List.mem_cons]
          exact or_left_comm

theorem insertStatus_pairwise (status : Nat) {statuses : List Nat}
    (ascending : statuses.Pairwise (· < ·)) : (insertStatus status statuses).Pairwise (· < ·) := by
  induction ascending with
  | nil => exact List.pairwise_singleton _ status
  | @cons first rest above ascending ih =>
      rw [insertStatus]
      split
      · exact .cons above ascending
      · rename_i differs
        split
        · rename_i below
          have least : ∀ other ∈ first :: rest, status < other :=
            List.forall_mem_cons.mpr
              ⟨below, fun other member => Nat.lt_trans below (above other member)⟩
          exact .cons least (.cons above ascending)
        · rename_i beyond
          refine .cons (fun other member => ?_) ih
          rcases mem_insertStatus.mp member with rfl | later
          · omega
          · exact above other later

theorem mem_statusSet {status : Nat} {statuses : List Nat} :
    status ∈ statusSet statuses ↔ status ∈ statuses := by
  induction statuses with
  | nil => exact Iff.rfl
  | cons first rest ih =>
      change status ∈ insertStatus first (statusSet rest) ↔ _
      rw [mem_insertStatus, ih, List.mem_cons]

theorem statusSet_pairwise (statuses : List Nat) : (statusSet statuses).Pairwise (· < ·) := by
  induction statuses with
  | nil => exact .nil
  | cons first rest ih => exact insertStatus_pairwise first ih

theorem statusSet_eq {statuses set : List Nat} (ascending : set.Pairwise (· < ·))
    (same : ∀ status, status ∈ statuses ↔ status ∈ set) : statusSet statuses = set :=
  (statusSet_pairwise statuses).eq_of_mem_iff ascending fun status =>
    mem_statusSet.trans (same status)

/-- Two lists of kinds in the order in which kinds are listed are the same if they have the same
members. -/
theorem kinds_eq {kinds others : List FailureKind} (listed : kinds.Sublist FailureKind.all)
    (othersListed : others.Sublist FailureKind.all) (same : ∀ kind, kind ∈ kinds ↔ kind ∈ others) :
    kinds = others := by
  let before (first second : FailureKind) : Prop :=
    FailureKind.all.idxOf first < FailureKind.all.idxOf second
  have ordered : FailureKind.all.Pairwise before := by decide
  have antisymmetric : Std.Antisymm before := ⟨fun _ _ less more => absurd less (Nat.lt_asymm more)⟩
  have irreflexive : Std.Irrefl before := ⟨fun _ => Nat.lt_irrefl _⟩
  exact (ordered.sublist listed).eq_of_mem_iff (ordered.sublist othersListed) same

theorem kindSet_eq {kinds set : List FailureKind} (listed : set.Sublist FailureKind.all)
    (same : ∀ kind, kind ∈ kinds ↔ kind ∈ set) : kindSet kinds = set := by
  refine kinds_eq List.filter_sublist listed fun kind => ?_
  have every : kind ∈ FailureKind.all := by cases kind <;> decide
  simp [kindSet, every, same]

/-! ## Reading -/

variable {settings : RetrySettings} {doc : Doc} {depth : Nat}

theorem decodeDelay_of_denotes {delay : Delay} (whole : delay.IsWhole)
    (denotes : Denotes doc (.ofNat delay.millis)) : decodeDelay depth doc = .ok delay := by
  obtain ⟨n, small, rfl⟩ := whole
  rw [Delay.millis_ofMillis] at denotes
  have read : decodeNatBelow millisBound depth doc = .ok n :=
    decodeNatBelow_of_denotes denotes (by exact small) (Nat.le_refl _)
  simp [decodeDelay, read, Except.map]

theorem decodeElapsed_of_denotes {elapsed : Option Delay} (whole : ∀ delay ∈ elapsed, delay.IsWhole)
    (denotes : Denotes doc (.ofOption (fun delay => .ofNat delay.millis) elapsed)) :
    decodeNullable decodeDelay depth doc = .ok elapsed := by
  cases elapsed with
  | none =>
      cases denotes
      rfl
  | some delay =>
      exact decodeNullable_of_ne_null (denotes.ne_null Value.noConfusion)
        (decodeDelay_of_denotes (whole delay rfl) denotes)

theorem decodeStatuses_of_denotes {statuses : List Nat} (fit : ∀ status ∈ statuses, status < 65536)
    (denotes : Denotes doc (.array (statuses.map .ofNat))) :
    decodeList (decodeNatBelow (Nat.pow 2 16)) (depth + 2) doc = .ok statuses :=
  decodeList_of_denotes denotes fun status member _ denotes =>
    decodeNatBelow_of_denotes denotes (fit status member) (by decide)

theorem decodeKinds_of_denotes {kinds : List FailureKind}
    (denotes : Denotes doc (.array (kinds.map fun kind => .text kind.label))) :
    decodeList (decodeLabel FailureKind.ofLabel?) (depth + 2) doc = .ok kinds :=
  decodeList_of_denotes denotes fun kind _ _ denotes =>
    decodeLabel_of_denotes denotes (by cases kind <;> decide)

/-- The settings that have been seen, among standard ones. -/
def mix (settings : RetrySettings) (seen : List String) : RetrySettings :=
  settings.keep fun setting => seen.contains setting.key

theorem fields_taken (proper : settings.IsProper) {entries : List (String × Doc)}
    (given : ∀ setting : Setting, ∃ given, Gives entries setting.key given ∧
      ∀ value ∈ given, setting.Writes settings value) :
    ∀ field ∈ fields, ∃ given, Gives entries field.name given ∧
      ∀ value ∈ given, ∀ doc, Denotes doc value → field.Takes 127 settings.mix doc := by
  have taken {β : Type} {decoder : Decoder β} {put : β → RetrySettings → RetrySettings}
      (setting : Setting) (read : ∀ value doc, setting.Writes settings value → Denotes doc value →
        ∃ b, decoder 127 doc = .ok b ∧
          ∀ seen, put b (settings.mix seen) = settings.mix (setting.key :: seen)) :
      ∃ given, Gives entries setting.key given ∧ ∀ value ∈ given, ∀ doc, Denotes doc value →
        (Json.Field.ofDecoder setting.key false decoder put).Takes 127 settings.mix doc := by
    obtain ⟨given, gives, writes⟩ := given setting
    refine ⟨given, gives, fun value found doc denotes => ?_⟩
    obtain ⟨b, read, mixed⟩ := read value doc (writes value found) denotes
    exact Field.ofDecoder_takes read mixed
  simp only [fields, List.forall_mem_cons, List.not_mem_nil, false_imp_iff, implies_true, and_true]
  refine ⟨taken .maxRetries ?maxRetries, taken .initialBackoff ?initialBackoff,
    taken .maxBackoff ?maxBackoff, taken .maxElapsed ?maxElapsed,
    taken .retriableStatuses ?statuses, taken .nonRetriableKinds ?kinds,
    taken .idempotency ?idempotency, taken .retryHeaders ?retryHeaders⟩
  case maxRetries =>
    rintro _ doc rfl denotes
    refine ⟨_, decodeNatBelow_of_denotes denotes proper.maxRetries (by decide), fun seen => ?_⟩
    simp [mix, keep, Setting.key]
  case initialBackoff =>
    rintro _ doc rfl denotes
    refine ⟨_, decodeDelay_of_denotes proper.initialBackoff denotes, fun seen => ?_⟩
    simp [mix, keep, Setting.key]
  case maxBackoff =>
    rintro _ doc rfl denotes
    refine ⟨_, decodeDelay_of_denotes proper.maxBackoff denotes, fun seen => ?_⟩
    simp [mix, keep, Setting.key]
  case maxElapsed =>
    rintro _ doc rfl denotes
    refine ⟨_, decodeElapsed_of_denotes proper.maxElapsed denotes, fun seen => ?_⟩
    simp [mix, keep, Setting.key]
  case statuses =>
    rintro _ doc ⟨statuses, same, rfl⟩ denotes
    have fit : ∀ status ∈ statuses, status < 65536 := fun status member =>
      proper.statusesFit status ((same status).mp member)
    refine ⟨_, decodeStatuses_of_denotes fit denotes, fun seen => ?_⟩
    simp [mix, keep, Setting.key, statusSet_eq proper.statuses same]
  case kinds =>
    rintro _ doc ⟨kinds, same, rfl⟩ denotes
    refine ⟨_, decodeKinds_of_denotes denotes, fun seen => ?_⟩
    simp [mix, keep, Setting.key, kindSet_eq proper.kinds same]
  case idempotency =>
    rintro _ doc rfl denotes
    have known : IdempotencyRule.ofLabel? settings.idempotency.label =
        some settings.idempotency := by
      cases settings.idempotency <;> decide
    refine ⟨_, decodeLabel_of_denotes denotes known, fun seen => ?_⟩
    simp [mix, keep, Setting.key]
  case retryHeaders =>
    rintro _ doc rfl denotes
    refine ⟨_, decodeBool_of_denotes denotes, fun seen => ?_⟩
    simp [mix, keep, Setting.key]

theorem parse_of_states (proper : settings.IsProper) {kept : Setting → Bool} {text : Bytes}
    (states : settings.States kept text) : parse text = .ok (settings.keep kept) := by
  obtain ⟨entries, ⟨members, whole, named⟩, each⟩ := states
  have given (setting : Setting) : ∃ given, Gives entries setting.key given ∧
      (given ≠ none ↔ kept setting = true) ∧ ∀ value ∈ given, setting.Writes settings value := by
    have stated := each setting
    split at stated
    · rename_i keeps
      obtain ⟨value, writes, gives⟩ := stated
      exact ⟨_, gives, by simp [keeps], by rintro _ ⟨⟩; exact writes⟩
    · rename_i leaves
      exact ⟨_, stated, by simp [leaves], nofun⟩
  obtain ⟨seen, held, read⟩ := decodeRecord_of_entries named whole.sound <|
    fields_taken proper fun setting => (given setting).imp fun _ facts => ⟨facts.1, facts.2.2⟩
  have ends : mayEnd fields seen = true := by simp [mayEnd, fields, Field.ofDecoder]
  have same : settings.mix seen = settings.keep kept := by
    refine congrArg settings.keep (funext fun setting => ?_)
    obtain ⟨field, member, named⟩ : ∃ field ∈ fields, field.name = setting.key := by
      cases setting <;> simp [fields, Field.ofDecoder, Setting.key]
    obtain ⟨given, gives, present, -⟩ := given setting
    have found : setting.key ∈ seen ↔ kept setting = true := by
      rw [← present, ← gives.mem_iff, ← named]
      exact held field member
    rw [Bool.eq_iff_iff, ← found, List.contains_iff_mem]
  have decoded : decodeWhole decoder text = .ok (settings.keep kept) := by
    rw [decodeWhole_of_text whole, ← same]
    exact read.trans (if_pos ends)
  rw [parse, decoded]
  rfl

/-! ## Printing -/

theorem delayJson_of_isWhole {delay : Delay} (whole : delay.IsWhole) :
    delayJson delay = .ofNat delay.millis := by
  obtain ⟨n, small, rfl⟩ := whole
  have fits : n ≤ millisBound - 1 := Nat.le_sub_one_of_lt small
  rw [delayJson, Delay.millis_ofMillis, Nat.min_eq_left fits]

def Setting.json (settings : RetrySettings) : Setting → Value
  | maxRetries => .ofNat settings.maxRetries
  | initialBackoff => delayJson settings.initialBackoff
  | maxBackoff => delayJson settings.maxBackoff
  | maxElapsed => .ofOption delayJson settings.maxElapsed
  | retriableStatuses => .array (settings.retriableStatuses.map .ofNat)
  | nonRetriableKinds => .array (settings.nonRetriableKinds.map fun kind => .text kind.label)
  | idempotency => .text settings.idempotency.label
  | retryHeaders => .bool settings.retryHeaders

theorem toJson_eq (settings : RetrySettings) :
    settings.toJson =
      .object (Setting.all.map fun setting => (setting.key, setting.json settings)) :=
  rfl

theorem Setting.isPrinted_json (settings : RetrySettings) (setting : Setting) :
    IsPrinted (setting.json settings) := by
  have natural (n : Nat) : IsPrinted (.ofNat n) := isPrinted_integer n
  cases setting with
  | maxRetries => exact natural _
  | initialBackoff => exact natural _
  | maxBackoff => exact natural _
  | maxElapsed =>
      rw [json]
      cases settings.maxElapsed with
      | none => exact isPrinted_null
      | some delay => exact natural _
  | retriableStatuses =>
      exact isPrinted_array (List.forall_mem_map.mpr fun status _ => natural status)
  | nonRetriableKinds =>
      exact isPrinted_array (List.forall_mem_map.mpr fun kind _ => isPrinted_text kind.label)
  | idempotency => exact isPrinted_text _
  | retryHeaders => exact isPrinted_bool _

theorem Setting.writes_json (proper : settings.IsProper) (setting : Setting) :
    setting.Writes settings (setting.json settings) := by
  cases setting with
  | maxRetries => rfl
  | initialBackoff => exact delayJson_of_isWhole proper.initialBackoff
  | maxBackoff => exact delayJson_of_isWhole proper.maxBackoff
  | maxElapsed =>
      simp only [Writes, json]
      cases elapsed : settings.maxElapsed with
      | none => rfl
      | some delay => exact delayJson_of_isWhole (proper.maxElapsed delay elapsed)
  | retriableStatuses => exact ⟨_, fun _ => Iff.rfl, rfl⟩
  | nonRetriableKinds => exact ⟨_, fun _ => Iff.rfl, rfl⟩
  | idempotency => rfl
  | retryHeaders => rfl

theorem states_toJson (proper : settings.IsProper) :
    settings.States (fun _ => true) (utf8 settings.toJson.toText) := by
  have each : ∀ member ∈ Setting.all.map fun setting => (setting.key, setting.json settings),
      IsPrinted member.2 :=
    List.forall_mem_map.mpr fun setting _ => setting.isPrinted_json settings
  obtain ⟨entries, written, denote⟩ := objectText_printed each
  have distinct : ((Setting.all.map fun setting => (setting.key, setting.json settings)).map
      (·.1)).Nodup := by
    rw [List.map_map]
    exact (by decide : (Setting.all.map Setting.key).Nodup)
  rw [toJson_eq]
  refine ⟨entries, written, fun setting => ?_⟩
  rw [if_pos rfl]
  have gives := Denote.gives denote distinct setting.key
  have found : member? setting.key (Setting.all.map fun setting =>
      (setting.key, setting.json settings)) = some (setting.json settings) := by
    cases setting <;> rfl
  rw [found] at gives
  exact ⟨_, setting.writes_json proper, gives⟩

theorem parse_toJson (proper : settings.IsProper) :
    parse (utf8 settings.toJson.toText) = .ok settings :=
  parse_of_states proper (states_toJson proper)

/-! ## What has been read -/

theorem isWhole_of_decodeDelay {delay : Delay} (read : decodeDelay depth doc = .ok delay) :
    delay.IsWhole := by
  obtain ⟨n, found, rfl⟩ := exists_of_map read
  exact ⟨n, decodeNatBelow_lt found, rfl⟩

theorem fields_keep : ∀ field ∈ fields, ∀ depth doc update,
    field.update depth doc = .ok update → ∀ settings, IsProper settings →
      IsProper (update settings) := by
  simp only [fields, List.forall_mem_cons, List.not_mem_nil, false_imp_iff, implies_true, and_true]
  refine ⟨?maxRetries, ?initialBackoff, ?maxBackoff, ?maxElapsed, ?statuses, ?kinds, ?idempotency,
    ?retryHeaders⟩ <;>
    intro depth doc update read settings proper <;>
    obtain ⟨b, found, rfl⟩ := Field.exists_of_update read
  case maxRetries => exact { proper with maxRetries := decodeNatBelow_lt found }
  case initialBackoff => exact { proper with initialBackoff := isWhole_of_decodeDelay found }
  case maxBackoff => exact { proper with maxBackoff := isWhole_of_decodeDelay found }
  case maxElapsed =>
    refine { proper with maxElapsed := ?_ }
    rintro delay ⟨⟩
    exact isWhole_of_decodeDelay (decodeNullable_some found)
  case statuses =>
    refine { proper with statuses := statusSet_pairwise b, statusesFit := fun status member => ?_ }
    obtain ⟨inner, doc, read⟩ := decodeList_mem found status (mem_statusSet.mp member)
    exact decodeNatBelow_lt read
  case kinds => exact { proper with kinds := List.filter_sublist }
  case idempotency => exact { proper with }
  case retryHeaders => exact { proper with }

theorem isProper_of_parse {text : Bytes} (read : parse text = .ok settings) :
    settings.IsProper := by
  have whole : decodeWhole decoder text = .ok settings := by
    unfold parse at read
    cases result : decodeWhole decoder text with
    | error failure =>
        rw [result] at read
        cases read
    | ok value =>
        rw [result] at read
        exact congrArg Except.ok (Except.ok.inj read)
  exact decodeRecord_keeps fields_keep standard_isProper (decode_of_decodeWhole whole)

/-- Settings are read from every text that states them, and printing them and reading them are
inverse to each other. -/
theorem parse_spec :
    (∀ settings : RetrySettings, settings.IsProper →
      (∀ kept text, settings.States kept text → parse text = .ok (settings.keep kept)) ∧
      parse (utf8 settings.toJson.toText) = .ok settings) ∧
    ∀ text settings, parse text = .ok settings →
      parse (utf8 settings.toJson.toText) = .ok settings :=
  ⟨fun _ proper => ⟨fun _ _ => parse_of_states proper, parse_toJson proper⟩,
    fun _ _ read => parse_toJson (isProper_of_parse read)⟩

private def patient : RetrySettings :=
  { standard with maxElapsed := some (.ofMillis 30000), retriableStatuses := [429, 503] }

/-- The members that state these settings, the statuses out of order and one of them twice. -/
private def stated : List (String × Value) :=
  [("retriable_statuses", .array ([503, 429, 503].map .ofNat)), ("comment", .text "slow"),
    ("max_elapsed_ms", .ofNat 30000)]

theorem parse_spec_stated : parse (utf8 (Value.object stated).toText) = .ok patient := by
  have proper : patient.IsProper :=
    { standard_isProper with
      maxElapsed := by rintro _ ⟨⟩; exact ⟨30000, by decide, rfl⟩
      statuses := by decide
      statusesFit := by decide }
  have natural (n : Nat) : IsPrinted (.ofNat n) := isPrinted_integer n
  have each : ∀ member ∈ stated, IsPrinted member.2 := by
    simp only [stated, List.forall_mem_cons, List.not_mem_nil, false_imp_iff, implies_true,
      and_true]
    exact ⟨isPrinted_array (List.forall_mem_map.mpr fun status _ => natural status),
      isPrinted_text "slow", natural 30000⟩
  obtain ⟨entries, written, denote⟩ := objectText_printed each
  have gives := Denote.gives denote (by decide)
  have states : patient.States (fun setting => setting ∈ [.maxElapsed, .retriableStatuses])
      (utf8 (Value.object stated).toText) := by
    refine ⟨entries, written, fun setting => ?_⟩
    cases setting with
    | maxElapsed => exact ⟨_, rfl, gives "max_elapsed_ms"⟩
    | retriableStatuses =>
        refine ⟨_, ⟨[503, 429, 503], ?_, rfl⟩, gives "retriable_statuses"⟩
        intro status
        simp [patient]
        omega
    | maxRetries => exact gives "max_retries"
    | initialBackoff => exact gives "initial_backoff_ms"
    | maxBackoff => exact gives "max_backoff_ms"
    | nonRetriableKinds => exact gives "non_retriable_kinds"
    | idempotency => exact gives "idempotency"
    | retryHeaders => exact gives "retry_headers"
  exact ((parse_spec.1 patient proper).1 _ _ states).trans rfl

end RetrySettings

end KeyBound
