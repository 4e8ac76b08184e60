import Swbt.Profile.RoundTrip
/-!
# Which texts are profiles

The grammar that a profile is meant to have, the wider one that the generated
visitors accept, and what tells them apart: structs written as arrays, names
written as objects and address keys written twice.
-/

set_option autoImplicit false

open Serde

namespace Swbt

/-! ## The strict grammar -/

/-- 32 hexadecimal digits. -/
def IsLinkKeyText (digits : String) : Prop := digits.toList.length = 32 ∧ digits.toList.all isHexDigit = true

def StrictLinkKey (json : Json) : Prop := ∃ authenticated digits,
  IsObject [("authenticated", .bool authenticated), ("value", .string digits)] json ∧ IsLinkKeyText digits

def StrictPairingKeys (json : Json) : Prop := ∃ linkKey, ∃ linkKeyType : Nat,
  IsObject [("link_key", linkKey), ("link_key_type", .integer linkKeyType)] json ∧ linkKeyType ≤ 255 ∧
    StrictLinkKey linkKey

def StrictPeers (json : Json) : Prop := ∃ members, json = .object members ∧ members.length ≤ 1 ∧
  ∀ member ∈ members, isClassicPeerName member.1 = true ∧ StrictPairingKeys member.2

def StrictNamespaces (json : Json) : Prop := ∃ members, json = .object members ∧ (members.map Prod.fst).Nodup ∧
  ∀ member ∈ members, isCanonicalBluetoothAddress member.1 = true ∧ StrictPeers member.2

def StrictKeyStore (json : Json) : Prop := ∃ namespaces,
  IsObject [("namespaces", namespaces)] json ∧ StrictNamespaces namespaces

def IsLocalAddressText (text : String) : Prop := ∃ address, LocalAddress.parse text = .ok address

def StrictIdentity (json : Json) : Prop := IsObject [("kind", .string "adapter-default")] json ∨
  ∃ address, IsObject [("kind", .string "exp-local-address"), ("address", .string address)] json ∧
    IsLocalAddressText address

def StrictProfile (json : Json) : Prop := ∃ kind identity keyStore,
  IsObject [("controller_kind", .string kind), ("format", .string "swbt.profile"), ("identity", identity),
    ("key_store", keyStore), ("schema_version", .integer 2)] json ∧
    kind ∈ ["pro", "joycon_l", "joycon_r"] ∧ StrictIdentity identity ∧ StrictKeyStore keyStore

/-! ## The accepted grammar -/

def WideLinkKey (json : Json) : Prop := ∃ authenticated digits,
  IsStruct [("authenticated", .bool authenticated), ("value", .string digits)] json ∧ IsLinkKeyText digits

def WidePairingKeys (json : Json) : Prop := ∃ linkKey, ∃ linkKeyType : Nat,
  IsStruct [("link_key", linkKey), ("link_key_type", .integer linkKeyType)] json ∧ linkKeyType ≤ 255 ∧
    WideLinkKey linkKey

def WidePeers (json : Json) : Prop := ∃ members, json = .object members ∧
  ∀ member ∈ members, isClassicPeerName member.1 = true ∧ WidePairingKeys member.2

/-- All members are peers; the last of each name names one peer at most. -/
def WideNamespaces (json : Json) : Prop := ∃ members, json = .object members ∧
  (∀ member ∈ members, isCanonicalBluetoothAddress member.1 = true ∧ WidePeers member.2) ∧
  ∀ before address peers after, members = before ++ (address, .object peers) :: after →
    address ∉ after.map Prod.fst → ∀ peer ∈ peers.map Prod.fst, ∀ other ∈ peers.map Prod.fst, peer = other

def WideKeyStore (json : Json) : Prop := ∃ namespaces,
  IsStruct [("namespaces", namespaces)] json ∧ WideNamespaces namespaces

def WideIdentity (json : Json) : Prop := IsStruct [("kind", .string "adapter-default")] json ∨
  ∃ address, IsStruct [("kind", .string "exp-local-address"), ("address", .string address)] json ∧
    IsLocalAddressText address

def WideProfile (json : Json) : Prop := ∃ kind controllerKind format identity keyStore,
  IsStruct [("controller_kind", controllerKind), ("format", format), ("identity", identity),
    ("key_store", keyStore), ("schema_version", .integer 2)] json ∧
    kind ∈ ["pro", "joycon_l", "joycon_r"] ∧ IsName kind controllerKind ∧ IsName "swbt.profile" format ∧
    WideIdentity identity ∧ WideKeyStore keyStore

/-! ## What is accepted -/

theorem decodeLinkKey_isSome {digits : String} : (∃ key, decodeLinkKey digits = some key) ↔ IsLinkKeyText digits := by
  unfold decodeLinkKey
  by_cases hdigits : IsLinkKeyText digits
  · obtain ⟨hlength, hall⟩ := hdigits
    obtain ⟨bytes, hbytes, hcount⟩ := (@decodeHex_isSome 16 _ hlength).2 hall
    rw [if_neg (by simp [hlength, hall]), hbytes, Option.bind_eq_bind, Option.bind_some, dif_pos hcount]
    exact iff_of_true ⟨_, rfl⟩ ⟨hlength, hall⟩
  · have hrefused : digits.toList.length ≠ 32 ∨ ¬ digits.toList.all isHexDigit := by
      unfold IsLinkKeyText at hdigits
      tauto
    rw [if_pos hrefused]
    exact iff_of_false (by simp) hdigits

theorem readLinkKey_isSome {json : Json} : (∃ linkKey, readLinkKey json = some linkKey) ↔ WideLinkKey json := by
  constructor
  · rintro ⟨linkKey, hread⟩
    obtain ⟨values, hvalues, hread⟩ := Option.bind_eq_some_iff.1 hread
    split at hread
    · rename_i authenticated value
      obtain ⟨flag, hflag, hread⟩ := Option.bind_eq_some_iff.1 hread
      obtain ⟨key, hkey, -⟩ := Option.bind_eq_some_iff.1 hread
      obtain ⟨digits, hdigits, hkey⟩ := Option.bind_eq_some_iff.1 hkey
      rw [readBool_eq_some.1 hflag, readString_eq_some.1 hdigits] at hvalues
      exact ⟨flag, digits, (@structValues_iff [_, _] (by simp) _).1 hvalues, decodeLinkKey_isSome.1 ⟨key, hkey⟩⟩
    · cases hread
  · rintro ⟨flag, digits, hstruct, hdigits⟩
    have hvalues := (structValues_iff (by simp)).2 hstruct
    obtain ⟨key, hkey⟩ := decodeLinkKey_isSome.2 hdigits
    have hbytes : readLinkKeyBytes (.string digits) = some key := hkey
    refine ⟨⟨flag, key⟩, Option.bind_eq_some_iff.2 ⟨_, hvalues, ?_⟩⟩
    change (readLinkKeyBytes (.string digits)).bind (fun key => some (LinkKeyDocument.mk flag key)) = _
    rw [hbytes]
    rfl

theorem readPairingKeys_isSome {json : Json} : (∃ keys, readPairingKeys json = some keys) ↔ WidePairingKeys json := by
  constructor
  · rintro ⟨keys, hread⟩
    obtain ⟨values, hvalues, hread⟩ := Option.bind_eq_some_iff.1 hread
    split at hread
    · rename_i linkKey linkKeyType
      obtain ⟨key, hkey, hread⟩ := Option.bind_eq_some_iff.1 hread
      obtain ⟨n, hn, -⟩ := Option.bind_eq_some_iff.1 hread
      obtain ⟨rfl, hlt⟩ := readUnsigned_eq_some.1 hn
      exact ⟨linkKey, n, (@structValues_iff [_, _] (by simp) _).1 hvalues, by omega, readLinkKey_isSome.1 ⟨key, hkey⟩⟩
    · cases hread
  · rintro ⟨linkKey, n, hstruct, hn, hkey⟩
    have hvalues := (structValues_iff (by simp)).2 hstruct
    obtain ⟨key, hkey⟩ := readLinkKey_isSome.2 hkey
    refine ⟨⟨key, UInt8.ofNat n⟩, Option.bind_eq_some_iff.2 ⟨_, hvalues, ?_⟩⟩
    change (readLinkKey linkKey).bind (fun key => (readUnsigned (2 ^ 8) (.integer n)).bind
      fun linkKeyType => some (ClassicPairingKeysDocument.mk key (UInt8.ofNat linkKeyType))) = _
    rw [hkey, readUnsigned_ofNat (by omega)]
    rfl

/-! ### Maps -/

theorem forall₂_split {α β : Type} {R : α → β → Prop} {items : List α} {before after : List β} {b : β}
    (h : List.Forall₂ R items (before ++ b :: after)) :
    ∃ front a back, items = front ++ a :: back ∧ R a b ∧ List.Forall₂ R back after := by
  induction before generalizing items with
  | nil =>
    obtain ⟨a, back, hab, hback, rfl⟩ := List.forall₂_cons_right_iff.1 h
    exact ⟨[], a, back, rfl, hab, hback⟩
  | cons first before ih =>
    obtain ⟨a', rest, -, hrest, rfl⟩ := List.forall₂_cons_right_iff.1 h
    obtain ⟨front, a, back, rfl, hab, hback⟩ := ih hrest
    exact ⟨a' :: front, a, back, rfl, hab, hback⟩

theorem forall₂_exists {α β : Type} {R : α → β → Prop} {items : List α} (h : ∀ a ∈ items, ∃ b, R a b) :
    ∃ results, List.Forall₂ R items results := by
  induction items with
  | nil => exact ⟨[], .nil⟩
  | cons a rest ih =>
    obtain ⟨b, hb⟩ := h a List.mem_cons_self
    obtain ⟨results, hresults⟩ := ih fun a' hmem => h a' (List.mem_cons_of_mem _ hmem)
    exact ⟨b :: results, .cons hb hresults⟩

section KeyedMaps

variable {p : String → Prop} [DecidablePred p] {ν : Type} {value : Json → Option ν}

/-- A key that is a text with a property. -/
def keyOf (p : String → Prop) [DecidablePred p] (text : String) : Option { text : String // p text } :=
  if h : p text then some ⟨text, h⟩ else none

theorem keyOf_eq_some {text : String} {key : { text : String // p text }} : keyOf p text = some key ↔ text = key.val := by
  unfold keyOf
  split
  · rw [Option.some_inj, Subtype.ext_iff]
  · rename_i htext
    refine iff_of_false (by simp) ?_
    rintro rfl
    exact htext key.property

/-- The members and the entries read from them have the same keys. -/
theorem keys_of_forall₂ {members : List (String × Json)} {entries : List ({ text : String // p text } × ν)}
    (h : List.Forall₂ (ReadsEntry (keyOf p) value) members entries) :
    members.map Prod.fst = (entries.map Prod.fst).map Subtype.val := by
  induction h with
  | nil => rfl
  | cons hentry _ ih => rw [List.map_cons, List.map_cons, List.map_cons, ih, keyOf_eq_some.1 hentry.1]

theorem readMap_isSome {json : Json} : (∃ map, readMap (keyOf p) value json = some map) ↔
    ∃ members, json = .object members ∧ ∀ member ∈ members, p member.1 ∧ ∃ found, value member.2 = some found := by
  constructor
  · rintro ⟨map, hread⟩
    obtain ⟨members, entries, rfl, hentries, -⟩ := readMap_eq_some.1 hread
    refine ⟨members, rfl, fun member hmem => ?_⟩
    obtain ⟨front, back, rfl⟩ := List.append_of_mem hmem
    obtain ⟨_, _, _, hsplit, hentry, _⟩ := forall₂_split hentries.flip
    exact ⟨keyOf_eq_some.1 hentry.1 ▸ Subtype.property _, _, hentry.2⟩
  · rintro ⟨members, rfl, hmembers⟩
    obtain ⟨entries, hentries⟩ : ∃ entries, List.Forall₂ (ReadsEntry (keyOf p) value) members entries := by
      refine forall₂_exists fun member hmem => ?_
      obtain ⟨hkey, found, hfound⟩ := hmembers member hmem
      exact ⟨⟨⟨member.1, hkey⟩, found⟩, dif_pos hkey, hfound⟩
    exact ⟨_, readMap_eq_some.2 ⟨members, entries, rfl, hentries, rfl⟩⟩

/-- A map read from an object has one entry at most when the object has one key at most. -/
theorem length_readMap {members : List (String × Json)} {map : SortedMap { text : String // p text } ν}
    (hread : readMap (keyOf p) value (.object members) = some map) :
    map.entries.length ≤ 1 ↔ ∀ key ∈ members.map Prod.fst, ∀ other ∈ members.map Prod.fst, key = other := by
  obtain ⟨_, entries, ⟨⟩, hentries, rfl⟩ := readMap_eq_some.1 hread
  rw [SortedMap.length_ofList_le_one, keys_of_forall₂ hentries]
  constructor
  · intro hsame key hkey other hother
    obtain ⟨k, hk, rfl⟩ := List.mem_map.1 hkey
    obtain ⟨o, ho, rfl⟩ := List.mem_map.1 hother
    exact congrArg Subtype.val (hsame k hk o ho)
  · exact fun hsame key hkey other hother =>
      Subtype.ext (hsame _ (List.mem_map_of_mem hkey) _ (List.mem_map_of_mem hother))

end KeyedMaps

theorem readPeers_eq : readPeers = readMap (keyOf fun text => isClassicPeerName text = true) readPairingKeys := by
  unfold readPeers
  congr 1
  funext text
  unfold ClassicPeerKey.parse keyOf
  split <;> rfl

theorem readNamespaces_eq :
    readNamespaces = readMap (keyOf fun text => isCanonicalBluetoothAddress text = true) readPeers := by
  unfold readNamespaces
  congr 1
  funext text
  unfold BluetoothAddressKey.parse keyOf
  split <;> rfl

theorem readPeers_isSome {json : Json} : (∃ peers, readPeers json = some peers) ↔ WidePeers json := by
  rw [readPeers_eq, readMap_isSome]
  simp only [readPairingKeys_isSome]
  rfl

/-- Namespaces that are read, with one peer each. -/
theorem readNamespaces_isSome {json : Json} :
    (∃ namespaces, readNamespaces json = some namespaces ∧ ∀ entry ∈ namespaces.entries, entry.2.entries.length ≤ 1) ↔
      WideNamespaces json := by
  constructor
  · rintro ⟨namespaces, hread, hone⟩
    rw [readNamespaces_eq] at hread
    obtain ⟨members, rfl, hmembers⟩ := readMap_isSome.1 ⟨_, hread⟩
    refine ⟨members, rfl, fun member hmem => ?_, ?_⟩
    · exact ⟨(hmembers member hmem).1, readPeers_isSome.1 (hmembers member hmem).2⟩
    · rintro before address peers after rfl hlast
      obtain ⟨_, entries, ⟨⟩, hentries, rfl⟩ := readMap_eq_some.1 hread
      obtain ⟨front, ⟨key, found⟩, back, rfl, hentry, hback⟩ := forall₂_split hentries.flip
      have hkeys := keys_of_forall₂ hback.flip
      have hmem : (key, found) ∈ (SortedMap.ofList (front ++ (key, found) :: back)).entries := by
        refine SortedMap.get?_eq_some.1 (SortedMap.get?_ofList.2 ⟨front, back, rfl, fun hmem => hlast ?_⟩)
        have haddress : address = key.val := keyOf_eq_some.1 hentry.1
        rw [hkeys, haddress]
        exact List.mem_map_of_mem hmem
      have hpeers : readPeers (.object peers) = some found := hentry.2
      rw [readPeers_eq] at hpeers
      exact (length_readMap hpeers).1 (hone _ hmem)
  · rintro ⟨members, rfl, hmembers, hlast⟩
    rw [readNamespaces_eq]
    obtain ⟨namespaces, hread⟩ := (@readMap_isSome (fun text => isCanonicalBluetoothAddress text = true) _ _ readPeers (.object members)).2
      ⟨members, rfl, fun member hmem => ⟨(hmembers member hmem).1, readPeers_isSome.2 (hmembers member hmem).2⟩⟩
    refine ⟨namespaces, hread, ?_⟩
    rintro ⟨key, found⟩ hmem
    obtain ⟨_, entries, ⟨⟩, hentries, rfl⟩ := readMap_eq_some.1 hread
    obtain ⟨before, after, rfl, hkey⟩ := SortedMap.get?_ofList.1 (SortedMap.get?_eq_some.2 hmem)
    obtain ⟨front, ⟨address, value⟩, back, rfl, hentry, hback⟩ := forall₂_split hentries
    obtain ⟨peers, rfl, -⟩ := (hmembers (address, value) (by simp)).2
    have hkeys := keys_of_forall₂ hback
    have hpeers : readPeers (.object peers) = some found := hentry.2
    rw [readPeers_eq] at hpeers
    refine (length_readMap hpeers).2 (hlast front address peers back rfl ?_)
    have haddress : address = key.val := keyOf_eq_some.1 hentry.1
    rw [hkeys, haddress]
    intro hmem
    obtain ⟨other, hother, hsame⟩ := List.mem_map.1 hmem
    exact hkey (Subtype.ext hsame ▸ hother)

/-! ### The document -/

theorem readKeyStore_isSome {json : Json} :
    (∃ keyStore, readKeyStore json = some keyStore ∧ ∀ entry ∈ keyStore.entries, entry.2.entries.length ≤ 1) ↔
      WideKeyStore json := by
  constructor
  · rintro ⟨keyStore, hread, hone⟩
    obtain ⟨values, hvalues, hread⟩ := Option.bind_eq_some_iff.1 hread
    split at hread
    · rename_i namespaces
      exact ⟨namespaces, (@structValues_iff [_] (by simp) _).1 hvalues, readNamespaces_isSome.1 ⟨keyStore, hread, hone⟩⟩
    · cases hread
  · rintro ⟨namespaces, hstruct, hwide⟩
    have hvalues := (structValues_iff (by simp)).2 hstruct
    obtain ⟨keyStore, hread, hone⟩ := readNamespaces_isSome.2 hwide
    exact ⟨keyStore, Option.bind_eq_some_iff.2 ⟨_, hvalues, hread⟩, hone⟩

theorem readLocalAddress_eq_some {json : Json} : (∃ address, readLocalAddress json = some address) ↔
    ∃ text, json = .string text ∧ IsLocalAddressText text := by
  unfold IsLocalAddressText
  constructor
  · rintro ⟨address, hread⟩
    obtain ⟨text, htext, hparse⟩ := Option.bind_eq_some_iff.1 hread
    cases hparsed : LocalAddress.parse text with
    | error e =>
      rw [hparsed] at hparse
      cases hparse
    | ok found => exact ⟨text, readString_eq_some.1 htext, found, hparsed⟩
  · rintro ⟨text, rfl, address, hparsed⟩
    refine ⟨address, ?_⟩
    change (LocalAddress.parse text).toOption = some address
    rw [hparsed]
    rfl

theorem readIdentity_isSome {json : Json} : (∃ identity, readIdentity json = some identity) ↔ WideIdentity json := by
  constructor
  · rintro ⟨identity, hread⟩
    obtain ⟨⟨kind, content⟩, hcontent, hread⟩ := Option.bind_eq_some_iff.1 hread
    dsimp only at hread
    split at hread
    · rename_i hkind
      subst hkind
      obtain ⟨values, hvalues, -⟩ := Option.map_eq_some_iff.1 hread
      have hnone : values = [] := List.length_eq_zero_iff.1 (length_structValues hvalues)
      subst hnone
      exact .inl ((@taggedStruct_iff _ _ [] (by simp) (by simp) _).1 ⟨content, hcontent, hvalues⟩)
    · split at hread
      · rename_i hkind
        subst hkind
        obtain ⟨values, hvalues, hread⟩ := Option.bind_eq_some_iff.1 hread
        split at hread
        · rename_i address
          obtain ⟨found, hfound, -⟩ := Option.map_eq_some_iff.1 hread
          obtain ⟨text, rfl, htext⟩ := readLocalAddress_eq_some.1 ⟨found, hfound⟩
          exact .inr ⟨text, (@taggedStruct_iff _ _ [("address", .string text)] (by simp) (by simp) _).1
            ⟨content, hcontent, hvalues⟩, htext⟩
        · cases hread
      · cases hread
  · rintro (hstruct | ⟨text, hstruct, htext⟩)
    · obtain ⟨content, hcontent, hvalues⟩ := (taggedStruct_iff (by simp) (by simp)).2 hstruct
      refine ⟨.adapterDefault, Option.bind_eq_some_iff.2 ⟨_, hcontent, ?_⟩⟩
      dsimp only
      rw [if_pos rfl]
      exact Option.map_eq_some_iff.2 ⟨_, hvalues, rfl⟩
    · obtain ⟨content, hcontent, hvalues⟩ := (taggedStruct_iff (by simp) (by simp)).2 hstruct
      obtain ⟨address, haddress⟩ := readLocalAddress_eq_some.2 ⟨text, rfl, htext⟩
      refine ⟨.localAddress address, Option.bind_eq_some_iff.2 ⟨_, hcontent, ?_⟩⟩
      dsimp only
      rw [if_neg (by decide), if_pos rfl]
      refine Option.bind_eq_some_iff.2 ⟨_, hvalues, ?_⟩
      exact Option.map_eq_some_iff.2 ⟨_, haddress, rfl⟩

theorem lookup_controllerKind {kind : String} :
    (∃ m, documentControllerKinds.lookup kind = some m) ↔ kind ∈ ["pro", "joycon_l", "joycon_r"] := by
  rw [← Option.isSome_iff_exists, documentControllerKinds, List.lookup_cons, List.lookup_cons, List.lookup_cons]
  by_cases hpro : kind = "pro"
  · simp [hpro]
  by_cases hleft : kind = "joycon_l"
  · simp [hleft]
  by_cases hright : kind = "joycon_r"
  · simp [hright]
  simp [hpro, hleft, hright, beq_eq_false_iff_ne.2 hpro, beq_eq_false_iff_ne.2 hleft, beq_eq_false_iff_ne.2 hright]

theorem lookup_format {name : String} {format : DocumentFormat} :
    documentFormats.lookup name = some format ↔ name = "swbt.profile" := by
  rw [documentFormats, List.lookup_cons]
  by_cases hname : name = "swbt.profile"
  · cases format
    simp [hname]
  · simp [hname, beq_eq_false_iff_ne.2 hname]

/-- The wide grammar is what is accepted. -/
theorem parseValue_isSome {json : Json} :
    (∃ document, ProfileDocument.parseValue json = .ok document) ↔ WideProfile json := by
  constructor
  · rintro ⟨document, hparsed⟩
    obtain ⟨hread, hvalid⟩ := ProfileDocument.parseValue_ok.1 hparsed
    obtain ⟨values, hvalues, hread⟩ := Option.bind_eq_some_iff.1 hread
    split at hread
    · rename_i controllerKind format identity keyStore schemaVersion
      simp only [Option.bind_eq_bind, Option.bind_eq_some_iff, Option.pure_def, Option.some.injEq] at hread
      obtain ⟨m, hm, found, hformat, found', hidentity, namespaces, hkeyStore, version, hversion, rfl⟩ := hread
      obtain ⟨kind, hkind, hlookup⟩ := readUnitVariant_eq_some.1 hm
      obtain ⟨name, hname, hlookup'⟩ := readUnitVariant_eq_some.1 hformat
      obtain ⟨rfl, -⟩ := readUnsigned_eq_some.1 hversion
      have htwo : version = 2 := hvalid.version
      subst htwo
      cases lookup_format.1 hlookup'
      exact ⟨kind, controllerKind, format, identity, keyStore, (@structValues_iff [_, _, _, _, _] (by simp) _).1 hvalues,
        lookup_controllerKind.1 ⟨m, hlookup⟩, hkind, hname, readIdentity_isSome.1 ⟨_, hidentity⟩,
        readKeyStore_isSome.1 ⟨_, hkeyStore, hvalid.one_peer⟩⟩
    · cases hread
  · rintro ⟨kind, controllerKind, format, identity, keyStore, hstruct, hkind, hname, hformat, hidentity, hkeyStore⟩
    have hvalues := (structValues_iff (by simp)).2 hstruct
    obtain ⟨m, hm⟩ := lookup_controllerKind.2 hkind
    obtain ⟨found, hfound⟩ := readIdentity_isSome.2 hidentity
    obtain ⟨namespaces, hnamespaces, hone⟩ := readKeyStore_isSome.2 hkeyStore
    refine ⟨⟨m, .swbtProfile, found, namespaces, 2⟩, ProfileDocument.parseValue_ok.2 ⟨?_, rfl, hone⟩⟩
    refine Option.bind_eq_some_iff.2 ⟨_, hvalues, ?_⟩
    simp only [List.map_cons, List.map_nil, Option.bind_eq_bind, Option.bind_eq_some_iff, Option.pure_def,
      Option.some.injEq]
    exact ⟨m, readUnitVariant_eq_some.2 ⟨kind, hname, hm⟩, .swbtProfile,
      readUnitVariant_eq_some.2 ⟨_, hformat, lookup_format.2 rfl⟩, found, hfound, namespaces, hnamespaces, 2,
      readUnsigned_ofNat (by decide), rfl⟩

/-! ## Plain spelling -/

def isArray : Json → Bool
  | .array _ => true
  | _ => false

def isObject : Json → Bool
  | .object _ => true
  | _ => false

/-- The value of an object's member; null where there is none. -/
def member (name : String) : Json → Json
  | .object members => (members.lookup name).getD .null
  | _ => .null

def memberValues : Json → List Json
  | .object members => members.map Prod.snd
  | _ => []

def DistinctKeys : Json → Prop
  | .object members => (members.map Prod.fst).Nodup
  | _ => True

/-- Structs are not arrays, names are not objects, and no address is a key twice. -/
structure PlainSpelling (json : Json) : Prop where
  root : isArray json = false
  controllerKind : isObject (member "controller_kind" json) = false
  format : isObject (member "format" json) = false
  identity : isArray (member "identity" json) = false
  keyStore : isArray (member "key_store" json) = false
  namespaces : DistinctKeys (member "namespaces" (member "key_store" json))
  peers : ∀ peers ∈ memberValues (member "namespaces" (member "key_store" json)), DistinctKeys peers
  bonds : ∀ peers ∈ memberValues (member "namespaces" (member "key_store" json)), ∀ bond ∈ memberValues peers,
    isArray bond = false ∧ isArray (member "link_key" bond) = false

/-- The member of an object is its field. -/
theorem member_of_isObject {fields : List (String × Json)} (hnames : (fields.map Prod.fst).Nodup) {json : Json}
    (hobject : IsObject fields json) {name : String} {value : Json} (hmem : (name, value) ∈ fields) :
    member name json = value := by
  obtain ⟨members, rfl, hperm⟩ := hobject
  have hkeys : (members.map Prod.fst).Nodup := (hperm.map Prod.fst).nodup_iff.2 hnames
  rw [member, (lookup_eq_some hkeys).2 (hperm.mem_iff.2 hmem)]
  rfl

theorem isObject_of_isStruct {fields : List (String × Json)} {json : Json} (hstruct : IsStruct fields json)
    (hplain : isArray json = false) : IsObject fields json := by
  rcases hstruct with hobject | rfl
  · exact hobject
  · cases hplain

theorem isArray_of_isObject {fields : List (String × Json)} {json : Json} (hobject : IsObject fields json) :
    isArray json = false := by
  obtain ⟨members, rfl, -⟩ := hobject
  rfl

/-! ### Bonds -/

theorem strictPairingKeys_iff {json : Json} : StrictPairingKeys json ↔
    WidePairingKeys json ∧ isArray json = false ∧ isArray (member "link_key" json) = false := by
  constructor
  · rintro ⟨linkKey, n, hobject, hn, flag, digits, hkey, hdigits⟩
    refine ⟨⟨linkKey, n, .inl hobject, hn, flag, digits, .inl hkey, hdigits⟩, isArray_of_isObject hobject, ?_⟩
    rw [@member_of_isObject _ (by simp) _ hobject "link_key" linkKey (by simp)]
    exact isArray_of_isObject hkey
  · rintro ⟨⟨linkKey, n, hstruct, hn, flag, digits, hkey, hdigits⟩, hjson, hmember⟩
    have hobject := isObject_of_isStruct hstruct hjson
    rw [@member_of_isObject _ (by simp) _ hobject "link_key" linkKey (by simp)] at hmember
    exact ⟨linkKey, n, hobject, hn, flag, digits, isObject_of_isStruct hkey hmember, hdigits⟩

/-- Distinct keys that are all the same are one key at most. -/
theorem length_le_one_of_nodup {members : List (String × Json)} (hnodup : (members.map Prod.fst).Nodup)
    (hsame : ∀ key ∈ members.map Prod.fst, ∀ other ∈ members.map Prod.fst, key = other) : members.length ≤ 1 := by
  match members, hnodup, hsame with
  | [], _, _ => exact Nat.zero_le 1
  | [_], _, _ => exact Nat.le_refl 1
  | first :: second :: rest, hnodup, hsame =>
    have hne := (List.nodup_cons.1 hnodup).1
    rw [hsame first.1 (by simp) second.1 (by simp)] at hne
    simp at hne

/-- Strict peers are wide peers of one name at most, spelled plainly. -/
theorem strictPeers_iff {members : List (String × Json)} : StrictPeers (.object members) ↔
    WidePeers (.object members) ∧ (∀ key ∈ members.map Prod.fst, ∀ other ∈ members.map Prod.fst, key = other) ∧
      (members.map Prod.fst).Nodup ∧
        ∀ bond ∈ members.map Prod.snd, isArray bond = false ∧ isArray (member "link_key" bond) = false := by
  constructor
  · rintro ⟨_, hsame, hlength, hmembers⟩
    cases hsame
    refine ⟨⟨members, rfl, fun member hmem => ⟨(hmembers member hmem).1, (strictPairingKeys_iff.1 (hmembers member hmem).2).1⟩⟩,
      ?_, ?_, ?_⟩
    · match members, hlength with
      | [], _ => simp
      | [_], _ => simp
    · match members, hlength with
      | [], _ => simp
      | [_], _ => simp
    · intro bond hbond
      obtain ⟨member, hmem, rfl⟩ := List.mem_map.1 hbond
      exact (strictPairingKeys_iff.1 (hmembers member hmem).2).2
  · rintro ⟨⟨_, hsame, hmembers⟩, hkeys, hnodup, hbonds⟩
    cases hsame
    refine ⟨members, rfl, length_le_one_of_nodup hnodup hkeys, fun member hmem => ⟨(hmembers member hmem).1, ?_⟩⟩
    exact strictPairingKeys_iff.2 ⟨(hmembers member hmem).2, hbonds _ (List.mem_map_of_mem hmem)⟩

/-! ### Namespaces -/

theorem strictNamespaces_iff {json : Json} : StrictNamespaces json ↔
    WideNamespaces json ∧ DistinctKeys json ∧ (∀ peers ∈ memberValues json, DistinctKeys peers) ∧
      ∀ peers ∈ memberValues json, ∀ bond ∈ memberValues peers,
        isArray bond = false ∧ isArray (member "link_key" bond) = false := by
  constructor
  · rintro ⟨members, rfl, hnodup, hmembers⟩
    have hpeers : ∀ entry ∈ members, ∃ peers, entry.2 = .object peers ∧ StrictPeers (.object peers) := by
      intro entry hmem
      obtain ⟨peers, hobject, hrest⟩ := (hmembers entry hmem).2
      exact ⟨peers, hobject, peers, rfl, hrest⟩
    refine ⟨⟨members, rfl, fun entry hmem => ⟨(hmembers entry hmem).1, ?_⟩, ?_⟩, hnodup, ?_, ?_⟩
    · obtain ⟨peers, hobject, hstrict⟩ := hpeers entry hmem
      rw [hobject]
      exact (strictPeers_iff.1 hstrict).1
    · rintro before address peers after rfl -
      obtain ⟨_, hobject, hstrict⟩ := hpeers (address, .object peers) (by simp)
      cases hobject
      exact (strictPeers_iff.1 hstrict).2.1
    · intro peers hmem
      obtain ⟨entry, hentry, rfl⟩ := List.mem_map.1 hmem
      obtain ⟨peers, hobject, hstrict⟩ := hpeers entry hentry
      rw [hobject]
      exact (strictPeers_iff.1 hstrict).2.2.1
    · intro peers hmem
      obtain ⟨entry, hentry, rfl⟩ := List.mem_map.1 hmem
      obtain ⟨peers, hobject, hstrict⟩ := hpeers entry hentry
      rw [hobject]
      exact (strictPeers_iff.1 hstrict).2.2.2
  · rintro ⟨⟨members, rfl, hmembers, hlast⟩, hnodup, hdistinct, hbonds⟩
    refine ⟨members, rfl, hnodup, fun entry hmem => ⟨(hmembers entry hmem).1, ?_⟩⟩
    have hwide := (hmembers entry hmem).2
    obtain ⟨peers, hobject, -⟩ := id hwide
    obtain ⟨before, after, hsplit⟩ := List.append_of_mem hmem
    have hvalue : entry.2 ∈ members.map Prod.snd := List.mem_map_of_mem hmem
    have hdistinct := hdistinct _ hvalue
    have hbonds := hbonds _ hvalue
    obtain ⟨address, value⟩ := entry
    dsimp only at hobject
    subst hobject
    -- Without a key twice every member is the last of its name.
    refine strictPeers_iff.2 ⟨hwide, hlast before address peers after hsplit ?_, hdistinct, hbonds⟩
    have hnodup : (members.map Prod.fst).Nodup := hnodup
    rw [hsplit, List.map_append, List.map_cons] at hnodup
    exact (List.nodup_cons.1 (List.nodup_append.1 hnodup).2.1).1

/-! ### Profiles -/

theorem strictIdentity_iff {json : Json} : StrictIdentity json ↔ WideIdentity json ∧ isArray json = false := by
  constructor
  · rintro (hobject | ⟨address, hobject, haddress⟩)
    · exact ⟨.inl (.inl hobject), isArray_of_isObject hobject⟩
    · exact ⟨.inr ⟨address, .inl hobject, haddress⟩, isArray_of_isObject hobject⟩
  · rintro ⟨hstruct | ⟨address, hstruct, haddress⟩, hplain⟩
    · exact .inl (isObject_of_isStruct hstruct hplain)
    · exact .inr ⟨address, isObject_of_isStruct hstruct hplain, haddress⟩

theorem isName_plain {name : String} {json : Json} : json = .string name ↔ IsName name json ∧ isObject json = false := by
  constructor
  · rintro rfl
    exact ⟨.inl rfl, rfl⟩
  · rintro ⟨rfl | rfl, hplain⟩
    · rfl
    · cases hplain

/-- The strict grammar is the wide one spelled plainly. -/
theorem strictProfile_iff {json : Json} : StrictProfile json ↔ WideProfile json ∧ PlainSpelling json := by
  constructor
  · rintro ⟨kind, identity, keyStore, hobject, hkind, hidentity, namespaces, hstore, hnamespaces⟩
    have hmember : ∀ {name value}, (name, value) ∈ _ → member name json = value :=
      fun hmem => member_of_isObject (by simp) hobject hmem
    have hcontroller := hmember (show ("controller_kind", Json.string kind) ∈ _ by simp)
    have hformat := hmember (show ("format", Json.string "swbt.profile") ∈ _ by simp)
    have hidentity' := hmember (show ("identity", identity) ∈ _ by simp)
    have hkeyStore := hmember (show ("key_store", keyStore) ∈ _ by simp)
    have hinner : member "namespaces" keyStore = namespaces := member_of_isObject (by simp) hstore (by simp)
    obtain ⟨hwide, hdistinct, hpeers, hbonds⟩ := strictNamespaces_iff.1 hnamespaces
    obtain ⟨hwideIdentity, hplainIdentity⟩ := strictIdentity_iff.1 hidentity
    refine ⟨⟨kind, _, _, identity, keyStore, .inl hobject, hkind, .inl rfl, .inl rfl, hwideIdentity, namespaces,
      .inl hstore, hwide⟩, ?_⟩
    constructor
    case root => exact isArray_of_isObject hobject
    case controllerKind => rw [hcontroller]; rfl
    case format => rw [hformat]; rfl
    case identity => rw [hidentity']; exact hplainIdentity
    case keyStore => rw [hkeyStore]; exact isArray_of_isObject hstore
    case namespaces => rw [hkeyStore, hinner]; exact hdistinct
    case peers => rw [hkeyStore, hinner]; exact hpeers
    case bonds => rw [hkeyStore, hinner]; exact hbonds
  · rintro ⟨⟨kind, controllerKind, format, identity, keyStore, hstruct, hkind, hname, hformatName, hidentity, namespaces,
      hstore, hnamespaces⟩, hplain⟩
    have hobject := isObject_of_isStruct hstruct hplain.root
    have hmember : ∀ {name value}, (name, value) ∈ _ → member name json = value :=
      fun hmem => member_of_isObject (by simp) hobject hmem
    have hcontroller := hmember (show ("controller_kind", controllerKind) ∈ _ by simp)
    have hformat := hmember (show ("format", format) ∈ _ by simp)
    have hidentity' := hmember (show ("identity", identity) ∈ _ by simp)
    have hkeyStore := hmember (show ("key_store", keyStore) ∈ _ by simp)
    have hstoreObject := isObject_of_isStruct hstore (hkeyStore ▸ hplain.keyStore)
    have hinner : member "namespaces" keyStore = namespaces := member_of_isObject (by simp) hstoreObject (by simp)
    have hdistinct := hplain.namespaces
    have hpeers := hplain.peers
    have hbonds := hplain.bonds
    rw [hkeyStore, hinner] at hdistinct hpeers hbonds
    cases isName_plain.2 ⟨hname, hcontroller ▸ hplain.controllerKind⟩
    cases isName_plain.2 ⟨hformatName, hformat ▸ hplain.format⟩
    exact ⟨kind, identity, keyStore, hobject, hkind, strictIdentity_iff.2 ⟨hidentity, hidentity' ▸ hplain.identity⟩,
      namespaces, hstoreObject, strictNamespaces_iff.2 ⟨hnamespaces, hdistinct, hpeers, hbonds⟩⟩

/-- A value is accepted just when it is a strict profile, unless it is a profile
in another spelling: one with a struct as an array, a name as an object or an
address key given twice. -/
theorem strict_grammar_iff_plain (json : Json) :
    ((∃ document, ProfileDocument.parseValue json = .ok document) ↔ StrictProfile json) ↔
      (WideProfile json → PlainSpelling json) := by
  rw [parseValue_isSome, strictProfile_iff]
  tauto

/-- A profile with its fields in an array. -/
def positionalProfile : Json :=
  .array [.string "pro", .string "swbt.profile", .object [("kind", .string "adapter-default")],
    .object [("namespaces", .object [])], .integer 2]

/-- An array in place of the document is accepted. -/
theorem positionalProfile_accepted :
    ¬ ((∃ document, ProfileDocument.parseValue positionalProfile = .ok document) ↔ StrictProfile positionalProfile) := by
  intro hstrict
  obtain ⟨_, _, _, ⟨_, hobject, _⟩, _⟩ := hstrict.1 ⟨_, rfl⟩
  cases hobject

end Swbt
