import Swbt.Profile.Document
/-!
# Documents read back

Every document that the operations can build is read back as it was written:
no stored bond makes a profile unreadable.
-/

set_option autoImplicit false

open Serde

namespace Swbt

/-! ## What is written is read -/

theorem readLocalAddress_format (address : LocalAddress) : readLocalAddress (.string address.format) = some address := by
  change (LocalAddress.parse address.format).toOption = some address
  rw [LocalAddress.parse_format]
  rfl

theorem readIdentity_writeIdentity (identity : ProfileIdentity) : readIdentity (writeIdentity identity) = some identity := by
  unfold readIdentity
  cases identity with
  | adapterDefault =>
    obtain ⟨content, hcontent, hvalues⟩ :=
      @taggedFields_writeObject "kind" "adapter-default" [] List.nodup_nil List.not_mem_nil [] rfl
    have htagged : taggedContent "kind" (writeIdentity .adapterDefault) = some ("adapter-default", content) := hcontent
    rw [htagged, Option.bind_eq_bind, Option.bind_some]
    dsimp only
    rw [if_pos rfl, hvalues]
    rfl
  | localAddress address =>
    obtain ⟨content, hcontent, hvalues⟩ := @taggedFields_writeObject "kind" "exp-local-address" ["address"] (by decide)
      (by decide) [.string address.format] rfl
    have htagged : taggedContent "kind" (writeIdentity (.localAddress address)) = some ("exp-local-address", content) :=
      hcontent
    rw [htagged, Option.bind_eq_bind, Option.bind_some]
    dsimp only
    rw [if_neg (by decide), if_pos rfl, hvalues, Option.bind_eq_bind, Option.bind_some]
    dsimp only
    rw [readLocalAddress_format]
    rfl

/-- 32 digits make a key of 16 bytes. -/
theorem decodeLinkKey_encodeHex (key : LinkKeyBytes) : decodeLinkKey (String.ofList (encodeHex key.bytes)) = some key := by
  have hlength : (encodeHex key.bytes).length = 2 * 16 := by rw [length_encodeHex, key.length_bytes]
  have hdigits : (encodeHex key.bytes).all isHexDigit = true :=
    (decodeHex_isSome hlength).1 ⟨key.bytes, decodeHex_encodeHex key.bytes, key.length_bytes⟩
  unfold decodeLinkKey
  rw [String.toList_ofList, if_neg (by simp [hlength, hdigits]), decodeHex_encodeHex, Option.bind_eq_bind,
    Option.bind_some, dif_pos key.length_bytes]

theorem readLinkKey_writeLinkKey (linkKey : LinkKeyDocument) : readLinkKey (writeLinkKey linkKey) = some linkKey := by
  have hvalues : structValues ["authenticated", "value"] (writeLinkKey linkKey) =
      some [.bool linkKey.authenticated, .string (String.ofList (encodeHex linkKey.value.bytes))] :=
    @structValues_writeObject ["authenticated", "value"] (by decide) [_, _] rfl
  have hkey : readLinkKeyBytes (.string (String.ofList (encodeHex linkKey.value.bytes))) = some linkKey.value :=
    decodeLinkKey_encodeHex linkKey.value
  unfold readLinkKey
  rw [hvalues, Option.bind_eq_bind, Option.bind_some]
  dsimp only
  rw [hkey]
  rfl

theorem readUnsigned_ofNat {bound n : Nat} (h : n < bound) : readUnsigned bound (.integer n) = some n := by
  have hrange : (0 : Int) ≤ n ∧ (n : Int) < bound := ⟨by omega, by omega⟩
  exact (if_pos hrange).trans (congrArg some (Int.toNat_natCast n))

theorem readPairingKeys_write (keys : ClassicPairingKeysDocument) : readPairingKeys (writePairingKeys keys) = some keys := by
  have hvalues : structValues ["link_key", "link_key_type"] (writePairingKeys keys) =
      some [writeLinkKey keys.linkKey, .integer keys.linkKeyType.toNat] :=
    @structValues_writeObject ["link_key", "link_key_type"] (by decide) [_, _] rfl
  unfold readPairingKeys
  rw [hvalues, Option.bind_eq_bind, Option.bind_some]
  dsimp only
  rw [readLinkKey_writeLinkKey, readUnsigned_ofNat keys.linkKeyType.toNat_lt]
  change some (ClassicPairingKeysDocument.mk keys.linkKey (UInt8.ofNat keys.linkKeyType.toNat)) = _
  rw [UInt8.ofNat_toNat]

theorem parse_addressKey (address : BluetoothAddressKey) : BluetoothAddressKey.parse address.val = .ok address :=
  dif_pos address.property

theorem parse_peerKey (peer : ClassicPeerKey) : ClassicPeerKey.parse peer.val = .ok peer := dif_pos peer.property

theorem readPeers_writePeers (peers : Peers) : readPeers (writePeers peers) = some peers := by
  refine @readMap_writeObject _ _ _ _ _ Subtype.val writePairingKeys peers ?_ (fun _ _ hlt => hlt) ?_
  · intro peer
    rw [parse_peerKey]
    rfl
  · exact fun _ keys _ => readPairingKeys_write keys

theorem readNamespaces_write (namespaces : SortedMap BluetoothAddressKey Peers) :
    readNamespaces (writeNamespaces namespaces) = some namespaces := by
  refine @readMap_writeObject _ _ _ _ _ Subtype.val writePeers namespaces ?_ (fun _ _ hlt => hlt) ?_
  · intro address
    rw [parse_addressKey]
    rfl
  · exact fun _ peers _ => readPeers_writePeers peers

theorem readKeyStore_write (namespaces : SortedMap BluetoothAddressKey Peers) :
    readKeyStore (writeObject [("namespaces", writeNamespaces namespaces)]) = some namespaces := by
  have hvalues : structValues ["namespaces"] (writeObject [("namespaces", writeNamespaces namespaces)]) =
      some [writeNamespaces namespaces] := @structValues_writeObject ["namespaces"] (by decide) [_] rfl
  unfold readKeyStore
  rw [hvalues]
  exact readNamespaces_write namespaces

theorem readUnitVariant_controllerKind (m : ControllerKind) :
    readUnitVariant documentControllerKinds (writeControllerKind m) = some m := by
  cases m <;> decide

theorem readUnitVariant_format (format : DocumentFormat) :
    readUnitVariant documentFormats (writeFormat format) = some format := by
  cases format
  decide

/-- A written document is read back, when its schema version is a 64-bit number. -/
theorem readDocument_toValue (document : ProfileDocument) (hversion : document.schemaVersion < 2 ^ 64) :
    readDocument document.toValue = some document := by
  have hvalues : structValues documentFields document.toValue =
      some [writeControllerKind document.controllerKind, writeFormat document.format, writeIdentity document.identity,
        writeObject [("namespaces", writeNamespaces document.keyStore)], .integer document.schemaVersion] :=
    @structValues_writeObject documentFields (by decide) [_, _, _, _, _] rfl
  unfold readDocument
  rw [hvalues, Option.bind_eq_bind, Option.bind_some]
  dsimp only
  rw [readUnitVariant_controllerKind, readUnitVariant_format, readIdentity_writeIdentity, readKeyStore_write,
    readUnsigned_ofNat hversion]
  rfl

/-! ## Valid documents -/

namespace ProfileDocument

/-- What validation asks of a document. -/
structure Valid (document : ProfileDocument) : Prop where
  version : document.schemaVersion = profileSchemaVersion
  one_peer : ∀ entry ∈ document.keyStore.entries, entry.2.entries.length ≤ 1

theorem validate_ok_iff (document : ProfileDocument) : document.validate = .ok () ↔ document.Valid := by
  unfold validate
  split
  · rename_i hversion
    exact iff_of_false (fun h => by cases h) fun h => hversion h.version
  · rename_i hversion
    split
    · rename_i hmany
      obtain ⟨entry, hmem, hpeers⟩ := List.any_eq_true.1 hmany
      refine iff_of_false (fun h => by cases h) fun h => ?_
      have hone := h.one_peer entry hmem
      exact absurd (of_decide_eq_true hpeers) (by omega)
    · rename_i hone
      refine iff_of_true rfl ⟨not_not.1 hversion, ?_⟩
      intro entry hmem
      by_contra hmany
      exact hone (List.any_eq_true.2 ⟨entry, hmem, decide_eq_true (by omega)⟩)

theorem parseValue_ok {json : Json} {document : ProfileDocument} :
    parseValue json = .ok document ↔ readDocument json = some document ∧ document.Valid := by
  unfold parseValue
  cases hread : readDocument json with
  | none => exact iff_of_false (fun h => by cases h) fun h => by cases h.1
  | some found =>
    dsimp only
    constructor
    · intro hparsed
      cases hvalid : found.validate with
      | error e =>
        rw [hvalid] at hparsed
        cases hparsed
      | ok _ =>
        rw [hvalid] at hparsed
        cases hparsed
        exact ⟨rfl, (validate_ok_iff document).1 hvalid⟩
    · rintro ⟨hsame, hvalid⟩
      cases hsame
      rw [(validate_ok_iff document).2 hvalid]
      rfl

theorem parseValue_toValue {document : ProfileDocument} (hvalid : document.Valid) :
    parseValue document.toValue = .ok document :=
  parseValue_ok.2 ⟨readDocument_toValue document (by rw [hvalid.version]; decide), hvalid⟩

theorem valid_empty (m : ControllerKind) (identity : ProfileIdentity) : (empty m identity).Valid :=
  ⟨rfl, fun _ hmem => by cases hmem⟩

/-! ## Replacing keys -/

/-- A replacement is refused and changes nothing, or gives one namespace one peer. -/
theorem replacePairingKeys_cases (document : ProfileDocument) (address peer : String) (bond : StoredClassicBond) :
    (∃ e, document.replacePairingKeys address peer bond = (.error e, document)) ∨
      ∃ (hnamespace : isCanonicalBluetoothAddress address = true) (hpeer : isClassicPeerName peer = true),
        document.replacePairingKeys address peer bond =
          (.ok (), document.withPeer ⟨address, hnamespace⟩ ⟨peer, hpeer⟩ bond) := by
  unfold replacePairingKeys
  by_cases hnamespace : isCanonicalBluetoothAddress address = true
  · rw [parse_addressKey ⟨address, hnamespace⟩]
    by_cases hpeer : isClassicPeerName peer = true
    · rw [parse_peerKey ⟨peer, hpeer⟩]
      exact .inr ⟨hnamespace, hpeer, rfl⟩
    · have hrefused : ClassicPeerKey.parse peer = .error _ := dif_neg hpeer
      rw [hrefused]
      exact .inl ⟨_, rfl⟩
  · have hrefused : BluetoothAddressKey.parse address = .error _ := dif_neg hnamespace
    rw [hrefused]
    exact .inl ⟨_, rfl⟩

theorem valid_withPeer {document : ProfileDocument} (hvalid : document.Valid) (address : BluetoothAddressKey)
    (peer : ClassicPeerKey) (bond : StoredClassicBond) : (document.withPeer address peer bond).Valid := by
  refine ⟨hvalid.version, fun entry hmem => ?_⟩
  rcases SortedMap.mem_insertEntry hmem with rfl | hmem
  · exact Nat.le_refl 1
  · exact hvalid.one_peer entry hmem

theorem valid_replacePairingKeys {document : ProfileDocument} (hvalid : document.Valid) (address peer : String)
    (bond : StoredClassicBond) : (document.replacePairingKeys address peer bond).2.Valid := by
  obtain ⟨e, heq⟩ | ⟨hnamespace, hpeer, heq⟩ := replacePairingKeys_cases document address peer bond
  · rw [heq]
    exact hvalid
  · rw [heq]
    exact valid_withPeer hvalid _ _ _

/-- A namespace given by its text. -/
theorem lookupText_eq {p : String → Prop} {ν : Type} (map : SortedMap { value : String // p value } ν)
    (key : { value : String // p value }) : lookupText map key.val = map.get? key := by
  rw [SortedMap.get?_eq_find?, lookupText]
  refine congrArg (Option.map Prod.snd) (congrArg (fun f => map.entries.find? f) ?_)
  funext entry
  rw [Bool.eq_iff_iff, beq_iff_eq, decide_eq_true_iff, Subtype.ext_iff]

theorem lookupText_none {p : String → Prop} {ν : Type} (map : SortedMap { value : String // p value } ν) {text : String}
    (htext : ¬ p text) : lookupText map text = none := by
  unfold lookupText
  rw [List.find?_eq_none.2]
  · rfl
  · intro entry _ heq
    exact htext (beq_iff_eq.1 heq ▸ entry.1.property)

/-- Another namespace keeps its peers. -/
theorem lookupText_replacePairingKeys (document : ProfileDocument) {address other : String} (hother : other ≠ address)
    (peer : String) (bond : StoredClassicBond) :
    lookupText (document.replacePairingKeys address peer bond).2.keyStore other = lookupText document.keyStore other := by
  obtain ⟨e, heq⟩ | ⟨hnamespace, hpeer, heq⟩ := replacePairingKeys_cases document address peer bond
  · rw [heq]
  · rw [heq]
    by_cases hcanonical : isCanonicalBluetoothAddress other = true
    · rw [lookupText_eq _ ⟨other, hcanonical⟩, lookupText_eq _ ⟨other, hcanonical⟩]
      exact SortedMap.get?_insert_of_ne _ _ fun h => hother (congrArg Subtype.val h)
    · rw [lookupText_none _ hcanonical, lookupText_none _ hcanonical]

/-! ## The documents of a program -/

/-- A document that the operations build. -/
inductive Built : ProfileDocument → Prop
  | empty (m : ControllerKind) (identity : ProfileIdentity) : Built (ProfileDocument.empty m identity)
  | parsed {json : Json} {document : ProfileDocument} (h : parseValue json = .ok document) : Built document
  | replaced {document : ProfileDocument} (h : Built document) (address peer : String) (bond : StoredClassicBond) :
      Built (document.replacePairingKeys address peer bond).2

theorem Built.valid {document : ProfileDocument} (h : Built document) : document.Valid := by
  induction h with
  | empty m identity => exact valid_empty m identity
  | parsed h => exact (parseValue_ok.1 h).2
  | replaced _ address peer bond ih => exact valid_replacePairingKeys ih address peer bond

theorem parseJson_toJsonBytes {text : JsonText} {document : ProfileDocument} (hvalid : document.Valid)
    (hprints : text.PrintsBack document.toValue) : parseJson text (toJsonBytes text document) = .ok document := by
  have hparse : text.parse (toJsonBytes text document) = some document.toValue := hprints
  unfold parseJson
  rw [hparse]
  exact parseValue_toValue hvalid

end ProfileDocument

open ProfileDocument in
/-- Every document that the operations build is read back as it was written,
whatever text was accepted is written the same again, no namespace holds two
peers, and a replacement changes its own namespace or nothing. -/
theorem profile_round_trip (text : JsonText) :
    (∀ document, Built document → text.PrintsBack document.toValue →
      parseJson text (toJsonBytes text document) = .ok document) ∧
    (∀ bytes document, parseJson text bytes = .ok document → text.PrintsBack document.toValue →
      ∃ again, parseJson text (toJsonBytes text document) = .ok again ∧
        toJsonBytes text again = toJsonBytes text document) ∧
    (∀ document, Built document → ∀ entry ∈ document.keyStore.entries, entry.2.entries.length ≤ 1) ∧
    ∀ (document : ProfileDocument) (address peer : String) (bond : StoredClassicBond),
      (∀ e, (document.replacePairingKeys address peer bond).1 = .error e →
        (document.replacePairingKeys address peer bond).2 = document) ∧
      (∀ other, other ≠ address → lookupText (document.replacePairingKeys address peer bond).2.keyStore other =
        lookupText document.keyStore other) ∧
      (document.replacePairingKeys address peer bond).2 =
        { document with keyStore := (document.replacePairingKeys address peer bond).2.keyStore } := by
  refine ⟨fun document hbuilt => parseJson_toJsonBytes hbuilt.valid, ?_, fun document hbuilt => hbuilt.valid.one_peer, ?_⟩
  · intro bytes document hparsed hprints
    have hvalid : document.Valid := by
      unfold parseJson at hparsed
      split at hparsed
      · cases hparsed
      · exact (parseValue_ok.1 hparsed).2
    exact ⟨document, parseJson_toJsonBytes hvalid hprints, rfl⟩
  · intro document address peer bond
    refine ⟨?_, fun other hother => lookupText_replacePairingKeys document hother peer bond, ?_⟩
    · intro e herror
      obtain ⟨e', heq⟩ | ⟨_, _, heq⟩ := replacePairingKeys_cases document address peer bond
      · rw [heq]
      · rw [heq] at herror
        cases herror
    · obtain ⟨e', heq⟩ | ⟨_, _, heq⟩ := replacePairingKeys_cases document address peer bond
      · rw [heq]
      · rw [heq]
        rfl

theorem canonical_sampleAddress : isCanonicalBluetoothAddress "00:11:22:33:44:55" = true := by decide +kernel

theorem classic_samplePeer : isClassicPeerName "98:B6:E9:11:22:33/P" = true := by decide +kernel

def sampleLinkKey : LinkKeyBytes := ⟨List.replicate 16 0xA1, rfl⟩

/-- An empty Pro Controller profile with one bond. -/
def pairedPro : ProfileDocument :=
  (ProfileDocument.empty .pro .adapterDefault).withPeer ⟨"00:11:22:33:44:55", canonical_sampleAddress⟩
    ⟨"98:B6:E9:11:22:33/P", classic_samplePeer⟩ ⟨sampleLinkKey, 4, true⟩

open ProfileDocument in
theorem built_pairedPro : Built pairedPro := by
  have hbuilt := (Built.empty .pro .adapterDefault).replaced "00:11:22:33:44:55" "98:B6:E9:11:22:33/P"
    ⟨sampleLinkKey, 4, true⟩
  unfold replacePairingKeys at hbuilt
  rw [parse_addressKey ⟨_, canonical_sampleAddress⟩, parse_peerKey ⟨_, classic_samplePeer⟩] at hbuilt
  exact hbuilt

/-- The text of `pairedPro`, without its last newline. -/
def pairedProText : List UInt8 :=
  ("\x7b\n  \"controller_kind\": \"pro\",\n  \"format\": \"swbt.profile\",\n  \"identity\": \x7b\n    \"kind\": \"adapter-default\"\n  \x7d,\n" ++
    "  \"key_store\": \x7b\n    \"namespaces\": \x7b\n      \"00:11:22:33:44:55\": \x7b\n        \"98:B6:E9:11:22:33/P\": \x7b\n" ++
    "          \"link_key\": \x7b\n            \"authenticated\": true,\n" ++
    "            \"value\": \"A1A1A1A1A1A1A1A1A1A1A1A1A1A1A1A1\"\n          \x7d,\n          \"link_key_type\": 4\n" ++
    "        \x7d\n      \x7d\n    \x7d\n  \x7d,\n  \"schema_version\": 2\n\x7d").toList.map fun c => UInt8.ofNat c.toNat

/-- Texts of the paired profile. -/
def pairedProJson : JsonText where
  print _ := pairedProText
  parse bytes := if bytes = pairedProText ++ [0x0A] then some pairedPro.toValue else none

theorem pairedProJson_printsBack : pairedProJson.PrintsBack pairedPro.toValue := by
  unfold JsonText.PrintsBack pairedProJson
  generalize pairedProText = bytes
  exact if_pos rfl

open ProfileDocument in
/-- A paired profile is read back, and written the same again. -/
theorem profile_round_trip_sample :
    parseJson pairedProJson (toJsonBytes pairedProJson pairedPro) = .ok pairedPro ∧
    (∃ again, parseJson pairedProJson (toJsonBytes pairedProJson pairedPro) = .ok again ∧
      toJsonBytes pairedProJson again = toJsonBytes pairedProJson pairedPro) ∧
    (∀ entry ∈ pairedPro.keyStore.entries, entry.2.entries.length ≤ 1) ∧ pairedPro.keyStore.entries.length = 1 := by
  obtain ⟨hreads, hagain, hpeers, -⟩ := profile_round_trip pairedProJson
  have hread := hreads _ built_pairedPro pairedProJson_printsBack
  exact ⟨hread, hagain _ _ hread pairedProJson_printsBack, hpeers _ built_pairedPro, rfl⟩

end Swbt
