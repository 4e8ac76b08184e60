import Swbt.Profile.RoundTrip
/-!
# The bond store of a profile file

Bonds are read from the profile file on every call and written back by
replacing the whole file. A failed replacement may or may not have been made.
-/

set_option autoImplicit false

open Serde

namespace Swbt

/-! ## Backend values -/

/-- A public address, least significant octet first. -/
@[ext]
structure BluetoothAddress where
  leBytes : List UInt8
  length_leBytes : leBytes.length = 6

instance : DecidableEq BluetoothAddress := fun a b => decidable_of_iff (a.leBytes = b.leBytes) BluetoothAddress.ext_iff.symm

structure ClassicBond where
  linkKey : LinkKeyBytes
  linkKeyType : UInt8
  authenticated : Bool
deriving DecidableEq

inductive BondStoreError
  | loadFailed | listFailed | upsertFailed
deriving DecidableEq

/-- `bytes[5]` to `bytes[0]`, as in an address text. -/
def formatAddress (address : BluetoothAddress) : String := formatOctets address.leBytes.reverse

def formatPublicPeer (address : BluetoothAddress) : String := formatAddress address ++ "/P"

def toBackendBond (value : StoredClassicBond) : ClassicBond := ⟨value.linkKey, value.linkKeyType, value.authenticated⟩

def toStoredBond (bond : ClassicBond) : StoredClassicBond := ⟨bond.linkKey, bond.linkKeyType, bond.authenticated⟩

/-! ## File operations -/

/-- A commit renames the new file over the old one. Where it fails, it may have done so. -/
inductive CommitOutcome
  | done
  | failed (replaced : Bool)

/-- How the calls of one update go; `metadata` tells whether the target is a file. -/
structure UpdateIo where
  metadata : Option Bool
  opened : Bool
  written : Bool
  flushed : Bool
  synced : Bool
  commit : CommitOutcome
  parentSynced : Bool

namespace UpdateIo

/-- The calls before the commit, which leave the target alone. -/
def prepared (io : UpdateIo) : Bool := io.metadata == some true && io.opened && io.written && io.flushed && io.synced

def succeeds (io : UpdateIo) : Bool :=
  io.prepared && io.parentSynced && match io.commit with
    | .done => true
    | .failed _ => false

def replaces (io : UpdateIo) : Bool :=
  io.prepared && match io.commit with
    | .done => true
    | .failed replaced => replaced

end UpdateIo

/-- `FileProfileStore::update`: whether it succeeds, and the content afterwards. -/
def FileProfileStore.update (io : UpdateIo) (content replacement : List UInt8) : Bool × List UInt8 :=
  if io.metadata ≠ some true then (false, content)
  else if !io.opened then (false, content)
  else if !io.written then (false, content)
  else if !io.flushed then (false, content)
  else if !io.synced then (false, content)
  else match io.commit with
    | .failed true => (false, replacement)
    | .failed false => (false, content)
    | .done => (io.parentSynced, replacement)

theorem update_eq (io : UpdateIo) (content replacement : List UInt8) :
    FileProfileStore.update io content replacement =
      (io.succeeds, if io.replaces then replacement else content) := by
  obtain ⟨metadata, opened, written, flushed, synced, commit, parentSynced⟩ := io
  unfold FileProfileStore.update UpdateIo.succeeds UpdateIo.replaces UpdateIo.prepared
  match metadata with
  | none => rfl
  | some false => rfl
  | some true =>
    cases opened
    · rfl
    cases written
    · rfl
    cases flushed
    · rfl
    cases synced
    · rfl
    match commit with
    | .done => cases parentSynced <;> rfl
    | .failed true => cases parentSynced <;> rfl
    | .failed false => cases parentSynced <;> rfl

/-! ## The store -/

/-- `SwbtProfileKeyStore` and the content of the file at its path. -/
structure ProfileKeyStore where
  localNamespace : Option String
  file : List UInt8

inductive BondOp
  | selectLocalAddress (address : BluetoothAddress)
  | load (peer : BluetoothAddress) (readable : Bool)
  | loadAll (readable : Bool)
  | upsert (peer : BluetoothAddress) (bond : ClassicBond) (readable : Bool) (io : UpdateIo)

inductive BondResponse
  | selected
  | loaded (result : Except BondStoreError (Option ClassicBond))
  | listed (result : Except BondStoreError (List (BluetoothAddress × ClassicBond)))
  | upserted (result : Except BondStoreError Unit)

namespace ProfileKeyStore

variable (m : ControllerKind) (text : JsonText) (parsePublic : String → Option BluetoothAddress)

def readProfile (store : ProfileKeyStore) (readable : Bool) (error : BondStoreError) :
    Except BondStoreError (PairingProfile m) :=
  if readable then
    match PairingProfile.fromJson m text store.file with
    | .ok profile => .ok profile
    | .error _ => .error error
  else .error error

def load (store : ProfileKeyStore) (readable : Bool) (peer : BluetoothAddress) :
    Except BondStoreError (Option ClassicBond) :=
  match store.localNamespace with
  | none => .error .loadFailed
  | some address => do
    let profile ← store.readProfile m text readable .loadFailed
    return (profile.document.pairingKeys address (formatPublicPeer peer)).map toBackendBond

/-- One entry of `load_all`. -/
def listEntry (entry : String × StoredClassicBond) : Except BondStoreError (BluetoothAddress × ClassicBond) :=
  match stripPublicSuffix entry.1 with
  | none => .error .listFailed
  | some rawPeer =>
    match parsePublic rawPeer with
    | none => .error .listFailed
    | some peer => .ok (peer, toBackendBond entry.2)

def loadAll (store : ProfileKeyStore) (readable : Bool) :
    Except BondStoreError (List (BluetoothAddress × ClassicBond)) :=
  match store.localNamespace with
  | none => .error .listFailed
  | some address => do
    let profile ← store.readProfile m text readable .listFailed
    (profile.document.allPairingKeys address).mapM (listEntry parsePublic)

def upsert (store : ProfileKeyStore) (readable : Bool) (io : UpdateIo) (peer : BluetoothAddress) (bond : ClassicBond) :
    Except BondStoreError Unit × ProfileKeyStore :=
  match store.localNamespace with
  | none => (.error .upsertFailed, store)
  | some address =>
    match store.readProfile m text readable .upsertFailed with
    | .error error => (.error error, store)
    | .ok profile =>
      match profile.document.replacePairingKeys address (formatPublicPeer peer) (toStoredBond bond) with
      | (.error _, _) => (.error .upsertFailed, store)
      | (.ok (), document) =>
        let (succeeded, file) := FileProfileStore.update io store.file (document.toJsonBytes text)
        (if succeeded then .ok () else .error .upsertFailed, { store with file := file })

def step (store : ProfileKeyStore) : BondOp → ProfileKeyStore × BondResponse
  | .selectLocalAddress address => ({ store with localNamespace := some (formatAddress address) }, .selected)
  | .load peer readable => (store, .loaded (store.load m text readable peer))
  | .loadAll readable => (store, .listed (store.loadAll m text parsePublic readable))
  | .upsert peer bond readable io =>
    let (result, store) := store.upsert m text readable io peer bond
    (store, .upserted result)

/-- The store after the operations, and what they answered. -/
def run (store : ProfileKeyStore) : List BondOp → ProfileKeyStore
  | [] => store
  | op :: rest => run (store.step m text parsePublic op).1 rest

def responses (store : ProfileKeyStore) : List BondOp → List BondResponse
  | [] => []
  | op :: rest => (store.step m text parsePublic op).2 :: responses (store.step m text parsePublic op).1 rest

end ProfileKeyStore

/-! ## The volatile store -/

/-- `VolatileBondStore`: a map cleared before each insertion. -/
structure VolatileBondStore where
  bonds : List (BluetoothAddress × ClassicBond)

namespace VolatileBondStore

def step (store : VolatileBondStore) : BondOp → VolatileBondStore × BondResponse
  | .selectLocalAddress _ => (store, .selected)
  | .load peer _ => (store, .loaded (.ok (store.bonds.lookup peer)))
  | .loadAll _ => (store, .listed (.ok store.bonds))
  | .upsert peer bond _ _ => (⟨[(peer, bond)]⟩, .upserted (.ok ()))

def responses (store : VolatileBondStore) : List BondOp → List BondResponse
  | [] => []
  | op :: rest => (store.step op).2 :: responses (store.step op).1 rest

end VolatileBondStore

/-! ## Texts of addresses -/

theorem canonical_formatAddress (address : BluetoothAddress) :
    isCanonicalBluetoothAddress (formatAddress address) = true :=
  canonical_formatOctets (by rw [List.length_reverse, address.length_leBytes])

theorem stripPublicSuffix_eq_some {value raw : String} : stripPublicSuffix value = some raw ↔ value = raw ++ "/P" := by
  have hsuffix : "/P".toList = ['/', 'P'] := rfl
  unfold stripPublicSuffix
  constructor
  · intro hstrip
    dsimp only at hstrip
    split at hstrip
    · rename_i hdrop
      cases hstrip
      apply String.toList_injective
      rw [String.toList_append, String.toList_ofList, hsuffix, ← hdrop, List.take_append_drop]
    · cases hstrip
  · rintro rfl
    rw [String.toList_append, hsuffix]
    have hlength : (raw.toList ++ ['/', 'P']).length - 2 = raw.toList.length := by simp
    dsimp only
    rw [hlength, List.drop_left, if_pos rfl, List.take_left, String.ofList_toList]

theorem formatAddress_injective {address other : BluetoothAddress} (h : formatAddress address = formatAddress other) :
    address = other := by
  obtain ⟨leBytes, length_leBytes⟩ := address
  obtain ⟨leBytes', length_leBytes'⟩ := other
  have hreverse := formatOctets_injective (by simpa using length_leBytes) (by simpa using length_leBytes') h
  have hsame : leBytes = leBytes' := List.reverse_injective hreverse
  subst hsame
  rfl

theorem formatPublicPeer_injective {address other : BluetoothAddress} (h : formatPublicPeer address = formatPublicPeer other) :
    address = other := by
  have hself : ∀ a, stripPublicSuffix (formatPublicPeer a) = some (formatAddress a) :=
    fun _ => stripPublicSuffix_eq_some.2 rfl
  have hstrip := congrArg stripPublicSuffix h
  rw [hself, hself] at hstrip
  exact formatAddress_injective (Option.some.inj hstrip)

theorem classic_formatPublicPeer (address : BluetoothAddress) : isClassicPeerName (formatPublicPeer address) = true := by
  unfold isClassicPeerName formatPublicPeer
  rw [stripPublicSuffix_eq_some.2 rfl]
  exact canonical_formatAddress address

/-- The key of a local address in the key store. -/
def addressKey (address : BluetoothAddress) : BluetoothAddressKey := ⟨formatAddress address, canonical_formatAddress address⟩

def peerKey (address : BluetoothAddress) : ClassicPeerKey := ⟨formatPublicPeer address, classic_formatPublicPeer address⟩

/-- Every peer name of a key store is that of an address. -/
theorem peerKey_surjective (peer : ClassicPeerKey) : ∃ address, peerKey address = peer := by
  obtain ⟨value, hclassic⟩ := peer
  unfold isClassicPeerName at hclassic
  obtain ⟨raw, hraw, hcanonical⟩ := (Option.any_eq_true _ _).1 hclassic
  obtain ⟨octets, hlength, rfl⟩ := octets_of_canonical hcanonical
  refine ⟨⟨octets.reverse, by rw [List.length_reverse, hlength]⟩, Subtype.ext ?_⟩
  have hvalue := stripPublicSuffix_eq_some.1 hraw
  change formatOctets octets.reverse.reverse ++ "/P" = value
  rw [List.reverse_reverse, hvalue]

end Swbt
