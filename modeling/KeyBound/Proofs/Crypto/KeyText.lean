import KeyBound.Client.Config
import KeyBound.Proofs.Crypto.Armour

/-!
# Texts that are loaded as keys

Which texts are taken for a private key, and which algorithm is inferred. The documents that were
meant to be taken are private keys for RSA and for the curve P-256. All of these are; but so is
every public key and every certificate for RSA, and a configuration takes any key that was loaded.
-/

set_option autoImplicit false

namespace KeyBound

/-! ## Documents -/

namespace Der

mutual

/-- The identifiers in a block, depth first. -/
def Block.identifiers : Block → List (List Nat)
  | .sequence items => identifiers items
  | .identifier arcs => [arcs]
  | .bytes _ | .other => []

def identifiers : List Block → List (List Nat)
  | [] => []
  | block :: rest => block.identifiers ++ identifiers rest

end

mutual

def Block.strings : Block → List Bytes
  | .sequence items => strings items
  | .bytes content => [content]
  | .identifier _ | .other => []

def strings : List Block → List Bytes
  | [] => []
  | block :: rest => block.strings ++ strings rest

end

mutual

theorem Block.findIdentifier?_eq {α : Type} (f : List Nat → Option α) :
    ∀ block : Block, block.findIdentifier? f = block.identifiers.findSome? f
  | .sequence items => findIdentifier?_eq f items
  | .identifier arcs => by
      change f arcs = [arcs].findSome? f
      cases value : f arcs <;> simp [value]
  | .bytes _ | .other => rfl

theorem findIdentifier?_eq {α : Type} (f : List Nat → Option α) :
    ∀ blocks : List Block, findIdentifier? f blocks = (identifiers blocks).findSome? f
  | [] => rfl
  | block :: rest => by
      rw [findIdentifier?, identifiers, List.findSome?_append, Block.findIdentifier?_eq f block,
        findIdentifier?_eq f rest]

end

mutual

theorem Block.firstBytes?_eq : ∀ block : Block, block.firstBytes? = block.strings.head?
  | .sequence items => firstBytes?_eq items
  | .bytes _ | .identifier _ | .other => rfl

theorem firstBytes?_eq : ∀ blocks : List Block, firstBytes? blocks = (strings blocks).head?
  | [] => rfl
  | block :: rest => by
      rw [firstBytes?, strings, List.head?_append, Block.firstBytes?_eq block, firstBytes?_eq rest]

end

end Der

namespace PrivateKey

variable {text : String} {pem : Pem} {key : PrivateKey} {defect : KeyDefect}

/-- The first known identifier in some blocks stands for a kind of key. -/
def IsAbout (kind : Kind) (blocks : List Der.Block) : Prop :=
  (Der.identifiers blocks).findSome? Kind.ofIdentifier? = some kind

inductive Loads : Pem → PrivateKey → Prop where
  | bare {tag : List Char} {content : Bytes} {blocks : List Der.Block} :
      tag ∈ bareTags → Der.blocks? content = some blocks → Loads ⟨tag, content⟩ ⟨.rs256, content⟩
  | rsa {tag : List Char} {content material : Bytes} {blocks : List Der.Block} :
      tag ∈ wrappedTags → Der.blocks? content = some blocks → IsAbout .rsa blocks →
      (Der.strings blocks).head? = some material → Loads ⟨tag, content⟩ ⟨.rs256, material⟩
  | curve {content : Bytes} {blocks : List Der.Block} :
      Der.blocks? content = some blocks → IsAbout .curve blocks →
      Loads ⟨privateTag, content⟩ ⟨.es256, content⟩

private theorem notMem_bareTags {tag : List Char} (wrapped : tag ∈ wrappedTags) :
    tag ∉ bareTags := by
  have apart : ∀ tag ∈ wrappedTags, tag ∉ bareTags := by decide +kernel
  exact apart tag wrapped

theorem Loads.ofPem? (loads : Loads pem key) : ofPem? pem = some key := by
  cases loads with
  | bare bare read => simp [PrivateKey.ofPem?, read, bare]
  | rsa wrapped read about first =>
      have kind := (Der.findIdentifier?_eq _ _).trans about
      have material := (Der.firstBytes?_eq _).trans first
      simp [PrivateKey.ofPem?, read, notMem_bareTags wrapped, wrapped, kind, material]
  | curve read about =>
      have kind := (Der.findIdentifier?_eq _ _).trans about
      have wrapped : privateTag ∈ wrappedTags := List.mem_cons_self
      simp [PrivateKey.ofPem?, read, notMem_bareTags wrapped, wrapped, kind]

theorem loads_of_ofPem? (loaded : ofPem? pem = some key) : Loads pem key := by
  obtain ⟨tag, content⟩ := pem
  obtain ⟨blocks, read, chosen⟩ := Option.bind_eq_some_iff.mp loaded
  simp only [List.contains_iff_mem] at chosen
  split at chosen
  case isTrue bare =>
    cases chosen
    exact .bare bare read
  case isFalse =>
    split at chosen
    case isFalse => cases chosen
    case isTrue wrapped =>
      obtain ⟨kind, about, byKind⟩ := Option.bind_eq_some_iff.mp chosen
      rw [Der.findIdentifier?_eq] at about
      cases kind with
      | rsa =>
          obtain ⟨material, first, same⟩ := Option.bind_eq_some_iff.mp byKind
          rw [Der.firstBytes?_eq] at first
          cases same
          exact .rsa wrapped read about first
      | curve =>
          simp only at byKind
          split at byKind
          case isTrue named =>
            cases byKind
            cases named
            exact .curve read about
          case isFalse => cases byKind
      | edwards => cases byKind

/-! ## What is documented -/

def publicTags : List (List Char) :=
  ["RSA PUBLIC KEY".toList, "PUBLIC KEY".toList, "CERTIFICATE".toList]

/-- The keys that are documented: private keys for RSA, bare or wrapped, and for a curve. -/
inductive IsDocumented : Pem → PrivateKey → Prop where
  | bare {content material : Bytes} :
      IsDocumented ⟨"RSA PRIVATE KEY".toList, content⟩ ⟨.rs256, material⟩
  | rsa {content material : Bytes} {blocks : List Der.Block} :
      Der.blocks? content = some blocks → IsAbout .rsa blocks →
      IsDocumented ⟨"PRIVATE KEY".toList, content⟩ ⟨.rs256, material⟩
  | curve {content material : Bytes} {blocks : List Der.Block} :
      Der.blocks? content = some blocks → IsAbout .curve blocks →
      IsDocumented ⟨"PRIVATE KEY".toList, content⟩ ⟨.es256, material⟩

theorem IsDocumented.notMem_publicTags (documented : IsDocumented pem key) :
    pem.tag ∉ publicTags := by
  cases documented with
  | bare =>
      have apart : "RSA PRIVATE KEY".toList ∉ publicTags := by decide +kernel
      exact apart
  | rsa | curve =>
      have apart : "PRIVATE KEY".toList ∉ publicTags := by decide +kernel
      exact apart

theorem Loads.isDocumented (loads : Loads pem key) (other : pem.tag ∉ publicTags) :
    IsDocumented pem key := by
  cases loads with
  | bare bare read =>
      rcases List.mem_cons.mp bare with rfl | rest
      · exact .bare
      · exact absurd (List.mem_cons.mpr (.inl (List.mem_singleton.mp rest))) other
  | rsa wrapped read about first =>
      rcases List.mem_cons.mp wrapped with rfl | rest
      · exact .rsa read about
      · exact absurd (List.mem_cons_of_mem _ rest) other
  | curve read about => exact .curve read about

theorem Loads.algorithm_of_public (loads : Loads pem key) (isPublic : pem.tag ∈ publicTags) :
    key.algorithm = .rs256 := by
  cases loads with
  | bare | rsa => rfl
  | curve =>
      have apart : privateTag ∉ publicTags := by decide +kernel
      exact absurd isPublic apart

/-! ## Texts -/

/-- A text whose first document is looked at. It starts with the mark of one, and names no key on a
curve that stands alone. -/
structure Offers (text : String) (pem : Pem) : Prop where
  armoured : "-----BEGIN".toList <+: Text.trim text.toList
  notAlone : ¬ "BEGIN EC PRIVATE KEY".toList <:+: Text.trim text.toList
  first : Pem.parse? (Text.trim text.toList) = some pem

/-- What a text is refused for. -/
inductive Refused : String → KeyDefect → Prop where
  | notArmoured {text : String} :
      ¬ "-----BEGIN".toList <+: Text.trim text.toList → Refused text .notArmoured
  | curveKeyAlone {text : String} :
      "-----BEGIN".toList <+: Text.trim text.toList →
      "BEGIN EC PRIVATE KEY".toList <:+: Text.trim text.toList → Refused text .curveKeyAlone
  | unsupported {text : String} :
      "-----BEGIN".toList <+: Text.trim text.toList →
      ¬ "BEGIN EC PRIVATE KEY".toList <:+: Text.trim text.toList →
      (∀ pem key, Offers text pem → ¬ Loads pem key) → Refused text .unsupported

theorem ofText_of_offers (offers : Offers text pem) (loads : Loads pem key) :
    ofText text = .ok key := by
  have armoured := List.isPrefixOf_iff_prefix.mpr offers.armoured
  have notAlone := Bool.eq_false_iff.mpr (mt Text.includes_iff.mp offers.notAlone)
  simp only [ofText, armoured, notAlone, offers.first, Option.bind_some, loads.ofPem?]
  rfl

theorem ofText_of_refused (refused : Refused text defect) : ofText text = .error defect := by
  cases refused with
  | notArmoured bare =>
      have bare := Bool.eq_false_iff.mpr (mt List.isPrefixOf_iff_prefix.mp bare)
      simp only [ofText, bare]
      rfl
  | curveKeyAlone armoured alone =>
      have armoured := List.isPrefixOf_iff_prefix.mpr armoured
      have alone := Text.includes_iff.mpr alone
      simp only [ofText, armoured, alone]
      rfl
  | unsupported armoured notAlone none =>
      have lacking : (Pem.parse? (Text.trim text.toList)).bind PrivateKey.ofPem? = Option.none := by
        cases first : Pem.parse? (Text.trim text.toList) with
        | none => rfl
        | some pem =>
            have offers : Offers text pem := ⟨armoured, notAlone, first⟩
            exact Option.eq_none_iff_forall_ne_some.mpr fun key loaded =>
              none pem key offers (loads_of_ofPem? loaded)
      have armoured := List.isPrefixOf_iff_prefix.mpr armoured
      have notAlone := Bool.eq_false_iff.mpr (mt Text.includes_iff.mp notAlone)
      simp only [ofText, armoured, notAlone, lacking]
      rfl

theorem offers_or_refused (text : String) :
    (∃ pem key, Offers text pem ∧ Loads pem key) ∨ ∃ defect, Refused text defect := by
  by_cases armoured : "-----BEGIN".toList <+: Text.trim text.toList
  · by_cases alone : "BEGIN EC PRIVATE KEY".toList <:+: Text.trim text.toList
    · exact .inr ⟨_, .curveKeyAlone armoured alone⟩
    · by_cases found : ∃ pem key, Offers text pem ∧ Loads pem key
      · exact .inl found
      · refine .inr ⟨_, .unsupported armoured alone ?_⟩
        intro pem key offers loads
        exact found ⟨pem, key, offers, loads⟩
  · exact .inr ⟨_, .notArmoured armoured⟩

theorem ofText_eq_ok_iff : ofText text = .ok key ↔ ∃ pem, Offers text pem ∧ Loads pem key := by
  constructor
  · intro accepted
    rcases offers_or_refused text with ⟨pem, other, offers, loads⟩ | ⟨defect, refused⟩
    · rw [ofText_of_offers offers loads] at accepted
      cases accepted
      exact ⟨pem, offers, loads⟩
    · rw [ofText_of_refused refused] at accepted
      cases accepted
  · rintro ⟨pem, offers, loads⟩
    exact ofText_of_offers offers loads

theorem ofText_eq_error_iff : ofText text = .error defect ↔ Refused text defect := by
  constructor
  · intro rejected
    rcases offers_or_refused text with ⟨pem, key, offers, loads⟩ | ⟨other, refused⟩
    · rw [ofText_of_offers offers loads] at rejected
      cases rejected
    · rw [ofText_of_refused refused] at rejected
      cases rejected
      exact refused
  · exact ofText_of_refused

/-! ## Written documents -/

theorem Loads.mem_tags (loads : Loads pem key) : pem.tag ∈ bareTags ++ wrappedTags := by
  cases loads with
  | bare bare => exact List.mem_append_left _ bare
  | rsa wrapped => exact List.mem_append_right _ wrapped
  | curve => exact List.mem_append_right _ List.mem_cons_self

private theorem tag_spec : ∀ tag ∈ bareTags ++ wrappedTags, tag ≠ [] ∧ '-' ∉ tag ∧
    Text.includes "BEGIN EC PRIVATE KEY".toList (Pem.firstLine tag) = false ∧
    Text.includes "BEGIN EC PRIVATE KEY".toList (Pem.lastLine tag) = false := by
  decide +kernel

/-- A document with one of the tags is looked at, if it is written with blanks around it at most. -/
theorem offers_armour {tag before after : List Char} {lines : List (List Char)} {content : Bytes}
    (known : tag ∈ bareTags ++ wrappedTags) (wraps : Pem.Wraps lines content)
    (blankBefore : ∀ c ∈ before, isBlank c = true) (blankAfter : ∀ c ∈ after, isBlank c = true) :
    Offers (String.ofList (before ++ Pem.armour tag lines ++ after)) ⟨tag, content⟩ := by
  obtain ⟨named, unmarked, notFirst, notLast⟩ := tag_spec tag known
  have trimmed : Text.trim (String.ofList (before ++ Pem.armour tag lines ++ after)).toList =
      Pem.armour tag lines := by
    rw [String.toList_ofList]
    exact Text.stripWhere_append (Pem.armour_isStripped tag lines) blankBefore blankAfter
  constructor
  all_goals rw [trimmed]
  · have whole : "-----BEGIN ".toList = "-----BEGIN".toList ++ [' '] := by decide +kernel
    unfold Pem.armour Pem.firstLine
    rw [whole, List.append_assoc, List.append_assoc, List.append_assoc]
    exact List.prefix_append _ _
  · intro alone
    rcases Pem.infix_armour wraps (by decide +kernel) (by decide +kernel) alone with first | last
    · rw [Text.includes_iff.mpr first] at notFirst
      cases notFirst
    · rw [Text.includes_iff.mpr last] at notLast
      cases notLast
  · exact Pem.parse?_armour named unmarked wraps

/-! ## Use -/

/-- A configuration takes any key. -/
theorem build_withKey (setup : ClientSetup) (key other : PrivateKey) :
    ClientConfig.build { setup with key := some key } =
      (ClientConfig.build { setup with key := some other }).map fun config =>
        { config with key } := by
  unfold ClientConfig.build
  cases setup.orgUrl with
  | none => rfl
  | some orgUrl =>
      simp only
      split
      · rfl
      · split
        · rfl
        · split
          · rfl
          · cases orgUrl.join? ClientConfig.tokenPath <;> rfl

/-- The components of a public key: a number other than zero where a private key has its version. -/
def IsPublicKey (material : Bytes) : Prop :=
  ∃ body modulus rest, Der.whole? Der.sequenceTag material = some body ∧
    Der.integer? body = some (modulus, rest) ∧ modulus ≠ 0

theorem canSign_of_isPublicKey {material : Bytes} (isPublic : IsPublicKey material) :
    canSign ⟨.rs256, material⟩ = false := by
  obtain ⟨body, modulus, rest, whole, first, something⟩ := isPublic
  have unread : RsaKey.parse? material = none := by
    simp [RsaKey.parse?, whole, first, something]
  simp [canSign, unread]

theorem Offers.unique {other : Pem} (offers : Offers text pem) (again : Offers text other) :
    pem = other :=
  Option.some.inj (offers.first.symm.trans again.first)

/-- All that is loaded from a text is documented exactly if it is loaded from nothing public. -/
theorem documented_iff (text : String) :
    (∀ key, ofText text = .ok key → ∃ pem, Offers text pem ∧ IsDocumented pem key) ↔
      ∀ pem key, Offers text pem → Loads pem key → pem.tag ∉ publicTags := by
  constructor
  · intro documented pem key offers loads
    obtain ⟨other, again, isDocumented⟩ := documented key (ofText_of_offers offers loads)
    rw [offers.unique again]
    exact isDocumented.notMem_publicTags
  · intro notPublic key accepted
    obtain ⟨pem, offers, loads⟩ := ofText_eq_ok_iff.mp accepted
    exact ⟨pem, offers, loads.isDocumented (notPublic pem key offers loads)⟩

/-- A text is accepted exactly if its first document is one that a key is loaded from. What is
accepted is a documented key exactly if that document is no public key and no certificate. Each of
these that is about RSA is accepted too, however it is written; any configuration takes what was
loaded, and that a public key does not sign shows when it is used. -/
theorem ofText_spec (text : String) :
    (∀ key, ofText text = .ok key ↔ ∃ pem, Offers text pem ∧ Loads pem key) ∧
      (∀ defect, ofText text = .error defect ↔ Refused text defect) ∧
      (∀ pem, Offers text pem → pem.StandsIn (Text.trim text.toList)) ∧
      ((∀ key, ofText text = .ok key → ∃ pem, Offers text pem ∧ IsDocumented pem key) ↔
        ∀ pem key, Offers text pem → Loads pem key → pem.tag ∉ publicTags) ∧
      (∀ pem key, Loads pem key →
        (pem.tag ∈ publicTags → ¬ IsDocumented pem key ∧ key.algorithm = .rs256) ∧
          ∀ lines before after, Pem.Wraps lines pem.content → (∀ c ∈ before, isBlank c = true) →
            (∀ c ∈ after, isBlank c = true) →
            text = String.ofList (before ++ Pem.armour pem.tag lines ++ after) →
            ofText text = .ok key) ∧
      (∀ (setup : ClientSetup) (key other : PrivateKey),
        ClientConfig.build { setup with key := some key } =
          (ClientConfig.build { setup with key := some other }).map fun config =>
            { config with key }) ∧
      ∀ material, IsPublicKey material → canSign ⟨.rs256, material⟩ = false := by
  refine ⟨fun _ => ofText_eq_ok_iff, fun _ => ofText_eq_error_iff, ?_, documented_iff text, ?_,
    build_withKey, fun _ => canSign_of_isPublicKey⟩
  · intro pem offers
    exact Pem.standsIn_of_parse? offers.first
  · intro pem key loads
    constructor
    · intro isPublic
      exact ⟨fun documented => documented.notMem_publicTags isPublic,
        loads.algorithm_of_public isPublic⟩
    · rintro lines before after wraps blankBefore blankAfter rfl
      exact ofText_of_offers (offers_armour loads.mem_tags wraps blankBefore blankAfter) loads

def smallKey : Bytes := [0x30, 0x06, 0x02, 0x01, 0x33, 0x02, 0x01, 0x03]

def smallDocument : Pem where
  tag := "PUBLIC KEY".toList
  content := [0x30, 0x1A, 0x30, 0x0D, 0x06, 0x09, 0x2A, 0x86, 0x48, 0x86, 0xF7, 0x0D, 0x01, 0x01,
    0x01, 0x05, 0x00, 0x03, 0x09, 0x00] ++ smallKey

theorem ofText_spec_publicKey :
    ofText (String.ofList ([] ++ Pem.armour smallDocument.tag
        [Base64.encodePadded Base64.standard smallDocument.content] ++ ['\n'])) =
      .ok ⟨.rs256, smallKey⟩ ∧
      ¬ IsDocumented smallDocument ⟨.rs256, smallKey⟩ ∧ canSign ⟨.rs256, smallKey⟩ = false := by
  obtain ⟨_, _, _, _, loaded, _, unable⟩ :=
    ofText_spec (String.ofList ([] ++ Pem.armour smallDocument.tag
      [Base64.encodePadded Base64.standard smallDocument.content] ++ ['\n']))
  have loads : Loads smallDocument ⟨.rs256, smallKey⟩ := loads_of_ofPem? (by decide +kernel)
  have isPublic : smallDocument.tag ∈ publicTags := by decide +kernel
  obtain ⟨undocumented, written⟩ := loaded _ _ loads
  have wraps : Pem.Wraps [Base64.encodePadded Base64.standard smallDocument.content]
      smallDocument.content :=
    ⟨List.flatten_singleton, by decide +kernel⟩
  have blank : ∀ c ∈ ['\n'], isBlank c = true := List.forall_mem_singleton.mpr (by decide)
  exact ⟨written _ [] _ wraps nofun blank rfl, (undocumented isPublic).1,
    unable _ ⟨_, 51, _, rfl, rfl, by decide⟩⟩

end PrivateKey

end KeyBound
