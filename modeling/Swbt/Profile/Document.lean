import Swbt.Profile.Identity
import Swbt.Serde.Value
/-!
# Profile documents

The schema v2 document of a pairing profile: what is read from a JSON value,
what is written back, and the pairing keys it stores. Why a value has the wrong
shape is not kept: the public error is the same.
-/

set_option autoImplicit false

open Serde

namespace Swbt

def invalidProfile (message : String) : Error := ⟨.invalidProfile, message⟩

/-! ## Pairing keys -/

/-- A link key of 16 bytes. -/
structure LinkKeyBytes where
  bytes : List UInt8
  length_bytes : bytes.length = 16
deriving DecidableEq

structure StoredClassicBond where
  linkKey : LinkKeyBytes
  linkKeyType : UInt8
  authenticated : Bool
deriving DecidableEq

structure LinkKeyDocument where
  authenticated : Bool
  value : LinkKeyBytes
deriving DecidableEq

structure ClassicPairingKeysDocument where
  linkKey : LinkKeyDocument
  linkKeyType : UInt8
deriving DecidableEq

namespace ClassicPairingKeysDocument

def toStoredBond (keys : ClassicPairingKeysDocument) : StoredClassicBond :=
  ⟨keys.linkKey.value, keys.linkKeyType, keys.linkKey.authenticated⟩

def fromStoredBond (bond : StoredClassicBond) : ClassicPairingKeysDocument :=
  ⟨⟨bond.authenticated, bond.linkKey⟩, bond.linkKeyType⟩

@[simp] theorem toStoredBond_fromStoredBond (bond : StoredClassicBond) : (fromStoredBond bond).toStoredBond = bond := rfl

end ClassicPairingKeysDocument

/-! ## Keys of the key store -/

/-- A canonical address names a namespace. -/
abbrev BluetoothAddressKey := { value : String // isCanonicalBluetoothAddress value = true }

def BluetoothAddressKey.parse (value : String) : Except Error BluetoothAddressKey :=
  if canonical : isCanonicalBluetoothAddress value = true then .ok ⟨value, canonical⟩
  else .error (invalidProfile "profile key-store namespace must use an uppercase Bluetooth address")

/-- `strip_suffix("/P")`. -/
def stripPublicSuffix (value : String) : Option String :=
  let chars := value.toList
  if chars.drop (chars.length - 2) = ['/', 'P'] then some (String.ofList (chars.take (chars.length - 2))) else none

def isClassicPeerName (value : String) : Bool := (stripPublicSuffix value).any isCanonicalBluetoothAddress

/-- A canonical address with the suffix `/P` names a peer. -/
abbrev ClassicPeerKey := { value : String // isClassicPeerName value = true }

def ClassicPeerKey.parse (value : String) : Except Error ClassicPeerKey :=
  if canonical : isClassicPeerName value = true then .ok ⟨value, canonical⟩
  else .error (invalidProfile "profile key-store peer name must use an uppercase public Bluetooth address")

/-! ## The document -/

inductive ProfileIdentity
  | adapterDefault
  | localAddress (address : LocalAddress)
deriving DecidableEq

inductive DocumentFormat
  | swbtProfile
deriving DecidableEq

abbrev Peers := SortedMap ClassicPeerKey ClassicPairingKeysDocument

structure ProfileDocument where
  controllerKind : ControllerKind
  format : DocumentFormat
  identity : ProfileIdentity
  keyStore : SortedMap BluetoothAddressKey Peers
  schemaVersion : Nat

def profileSchemaVersion : Nat := 2

/-! ## Reading -/

def documentControllerKinds : List (String × ControllerKind) :=
  [("pro", .pro), ("joycon_l", .joyConL), ("joycon_r", .joyConR)]

def documentFormats : List (String × DocumentFormat) := [("swbt.profile", .swbtProfile)]

def readLocalAddress (json : Json) : Option LocalAddress := do
  (LocalAddress.parse (← readString json)).toOption

def readIdentity (json : Json) : Option ProfileIdentity := do
  let (kind, content) ← taggedContent "kind" json
  if kind = "adapter-default" then (structValues [] content).map fun _ => .adapterDefault
  else if kind = "exp-local-address" then
    match ← structValues ["address"] content with
    | [address] => .localAddress <$> readLocalAddress address
    | _ => none
  else none

def decodeLinkKey (value : String) : Option LinkKeyBytes :=
  if value.toList.length ≠ 32 ∨ ¬ value.toList.all isHexDigit then none
  else do
    let bytes ← decodeHex value.toList
    if length_bytes : bytes.length = 16 then some ⟨bytes, length_bytes⟩ else none

def readLinkKeyBytes (json : Json) : Option LinkKeyBytes := do decodeLinkKey (← readString json)

def readLinkKey (json : Json) : Option LinkKeyDocument := do
  match ← structValues ["authenticated", "value"] json with
  | [authenticated, value] => return ⟨← readBool authenticated, ← readLinkKeyBytes value⟩
  | _ => none

def readPairingKeys (json : Json) : Option ClassicPairingKeysDocument := do
  match ← structValues ["link_key", "link_key_type"] json with
  | [linkKey, linkKeyType] => return ⟨← readLinkKey linkKey, UInt8.ofNat (← readUnsigned (2 ^ 8) linkKeyType)⟩
  | _ => none

def readPeers : Json → Option Peers := readMap (fun peer => (ClassicPeerKey.parse peer).toOption) readPairingKeys

def readNamespaces : Json → Option (SortedMap BluetoothAddressKey Peers) :=
  readMap (fun address => (BluetoothAddressKey.parse address).toOption) readPeers

def readKeyStore (json : Json) : Option (SortedMap BluetoothAddressKey Peers) := do
  match ← structValues ["namespaces"] json with
  | [namespaces] => readNamespaces namespaces
  | _ => none

def documentFields : List String := ["controller_kind", "format", "identity", "key_store", "schema_version"]

def readDocument (json : Json) : Option ProfileDocument := do
  match ← structValues documentFields json with
  | [controllerKind, format, identity, keyStore, schemaVersion] =>
    return ⟨← readUnitVariant documentControllerKinds controllerKind, ← readUnitVariant documentFormats format,
      ← readIdentity identity, ← readKeyStore keyStore, ← readUnsigned (2 ^ 64) schemaVersion⟩
  | _ => none

namespace ProfileDocument

def empty (m : ControllerKind) (identity : ProfileIdentity) : ProfileDocument where
  controllerKind := m
  format := .swbtProfile
  identity := identity
  keyStore := .empty
  schemaVersion := profileSchemaVersion

def validate (document : ProfileDocument) : Except Error Unit :=
  if document.schemaVersion ≠ profileSchemaVersion then .error (invalidProfile "profile schema version must be 2")
  else if document.keyStore.entries.any fun (_, peers) => 1 < peers.entries.length then
    .error (invalidProfile "profile key-store namespace must contain at most one current peer")
  else .ok ()

/-- `parse_json`, of the value that the text holds. -/
def parseValue (json : Json) : Except Error ProfileDocument :=
  match readDocument json with
  | none => .error (invalidProfile "profile document is not valid schema v2 JSON")
  | some document => do
    document.validate
    return document

end ProfileDocument

/-! ## Writing -/

def writeIdentity : ProfileIdentity → Json
  | .adapterDefault => writeObject [("kind", .string "adapter-default")]
  | .localAddress address => writeObject [("kind", .string "exp-local-address"), ("address", .string address.format)]

def writeLinkKey (linkKey : LinkKeyDocument) : Json :=
  writeObject [("authenticated", .bool linkKey.authenticated),
    ("value", .string (String.ofList (encodeHex linkKey.value.bytes)))]

def writePairingKeys (keys : ClassicPairingKeysDocument) : Json :=
  writeObject [("link_key", writeLinkKey keys.linkKey), ("link_key_type", .integer keys.linkKeyType.toNat)]

def writePeers (peers : Peers) : Json :=
  writeObject (peers.entries.map fun (peer, keys) => (peer.val, writePairingKeys keys))

def writeNamespaces (namespaces : SortedMap BluetoothAddressKey Peers) : Json :=
  writeObject (namespaces.entries.map fun (address, peers) => (address.val, writePeers peers))

def writeControllerKind : ControllerKind → Json
  | .pro => .string "pro"
  | .joyConL => .string "joycon_l"
  | .joyConR => .string "joycon_r"

def writeFormat : DocumentFormat → Json
  | .swbtProfile => .string "swbt.profile"

/-- The value that a document is written as. -/
def ProfileDocument.toValue (document : ProfileDocument) : Json :=
  writeObject [("controller_kind", writeControllerKind document.controllerKind),
    ("format", writeFormat document.format), ("identity", writeIdentity document.identity),
    ("key_store", writeObject [("namespaces", writeNamespaces document.keyStore)]),
    ("schema_version", .integer document.schemaVersion)]

/-! ## JSON text -/

/-- What prints and parses JSON texts; the library that does is not modelled. -/
structure JsonText where
  print : Json → List UInt8
  parse : List UInt8 → Option Json

/-- A value printed with a newline at its end parses back. -/
def JsonText.PrintsBack (text : JsonText) (json : Json) : Prop := text.parse (text.print json ++ [0x0A]) = some json

namespace ProfileDocument

def toJsonBytes (text : JsonText) (document : ProfileDocument) : List UInt8 := text.print document.toValue ++ [0x0A]

def parseJson (text : JsonText) (bytes : List UInt8) : Except Error ProfileDocument :=
  match text.parse bytes with
  | none => .error (invalidProfile "profile document is not valid schema v2 JSON")
  | some json => parseValue json

/-! ## Stored bonds -/

/-- The value of a key given by its text. -/
def lookupText {p : String → Prop} {ν : Type} (map : SortedMap { value : String // p value } ν) (key : String) : Option ν :=
  (map.entries.find? fun entry => entry.1.val == key).map Prod.snd

def pairingKeys (document : ProfileDocument) (address peer : String) : Option StoredClassicBond := do
  let peers ← lookupText document.keyStore address
  let keys ← lookupText peers peer
  return keys.toStoredBond

def allPairingKeys (document : ProfileDocument) (address : String) : List (String × StoredClassicBond) :=
  match lookupText document.keyStore address with
  | none => []
  | some peers => peers.entries.map fun (peer, keys) => (peer.val, keys.toStoredBond)

/-- The namespace is cleared, or new, before the peer is inserted. -/
def withPeer (document : ProfileDocument) (address : BluetoothAddressKey) (peer : ClassicPeerKey)
    (replacement : StoredClassicBond) : ProfileDocument :=
  let peers : Peers := SortedMap.empty.insert peer (.fromStoredBond replacement)
  { document with keyStore := document.keyStore.insert address peers }

/-- The result and the document afterwards. -/
def replacePairingKeys (document : ProfileDocument) (address peer : String) (replacement : StoredClassicBond) :
    Except Error Unit × ProfileDocument :=
  match BluetoothAddressKey.parse address with
  | .error e => (.error e, document)
  | .ok address =>
    match ClassicPeerKey.parse peer with
    | .error e => (.error e, document)
    | .ok peer => (.ok (), document.withPeer address peer replacement)

end ProfileDocument

/-! ## Typed profiles -/

/-- A document of the controller model `m`. -/
structure PairingProfile (m : ControllerKind) where
  document : ProfileDocument
  kind_eq : document.controllerKind = m

def PairingProfile.tryFrom (m : ControllerKind) (document : ProfileDocument) : Except Error (PairingProfile m) :=
  if kind_eq : document.controllerKind = m then .ok ⟨document, kind_eq⟩
  else .error ⟨.profileControllerMismatch, "profile controller kind does not match the requested model"⟩

def PairingProfile.fromJson (m : ControllerKind) (text : JsonText) (bytes : List UInt8) : Except Error (PairingProfile m) := do
  tryFrom m (← ProfileDocument.parseJson text bytes)

end Swbt
