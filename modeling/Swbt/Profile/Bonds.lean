import Mathlib.Logic.Function.Basic
import Swbt.Profile.KeyStore
/-!
# Bonds kept in a profile file

What the store of a profile file is for: a bond for each local address, the
last one stored. The file holds such a book, and every operation on the store
is one on the book.
-/

set_option autoImplicit false

open Serde

namespace Swbt

/-! ## What the store is for -/

/-- At most one bond for each local address. -/
abbrev BondBook := BluetoothAddress → Option (BluetoothAddress × ClassicBond)

/-- A document holds a book: each namespace lists the book's bond, or none. -/
def ProfileDocument.Holds (document : ProfileDocument) (book : BondBook) : Prop :=
  ∀ address, document.allPairingKeys (formatAddress address) =
    (book address).toList.map fun entry => (formatPublicPeer entry.1, toStoredBond entry.2)

namespace ProfileDocument

theorem allPairingKeys_eq (document : ProfileDocument) (address : BluetoothAddress) :
    document.allPairingKeys (formatAddress address) =
      ((document.keyStore.get? (addressKey address)).elim [] fun peers => peers.entries).map
        fun entry => (entry.1.val, entry.2.toStoredBond) := by
  unfold allPairingKeys
  have hlookup := lookupText_eq document.keyStore (addressKey address)
  change lookupText document.keyStore (formatAddress address) = _ at hlookup
  rw [hlookup]
  cases document.keyStore.get? (addressKey address) <;> rfl

/-- Every valid document holds a book. -/
theorem Valid.holds {document : ProfileDocument} (hvalid : document.Valid) : ∃ book, document.Holds book := by
  have hbook : ∀ address, ∃ bound : Option (BluetoothAddress × ClassicBond),
      document.allPairingKeys (formatAddress address) =
        bound.toList.map fun entry => (formatPublicPeer entry.1, toStoredBond entry.2) := by
    intro address
    rw [allPairingKeys_eq]
    cases hpeers : document.keyStore.get? (addressKey address) with
    | none => exact ⟨none, rfl⟩
    | some peers =>
      have hone := hvalid.one_peer _ (SortedMap.get?_eq_some.1 hpeers)
      dsimp only at hone
      change ∃ bound : Option (BluetoothAddress × ClassicBond), peers.entries.map _ = _
      match peers.entries, hone with
      | [], _ => exact ⟨none, rfl⟩
      | [(peer, keys)], _ =>
        obtain ⟨found, rfl⟩ := peerKey_surjective peer
        exact ⟨some (found, toBackendBond keys.toStoredBond), rfl⟩
  choose book hbook using hbook
  exact ⟨book, hbook⟩

/-- The bond of a peer is the one the namespace lists for it. -/
theorem Holds.pairingKeys {document : ProfileDocument} {book : BondBook} (hholds : document.Holds book)
    (address peer : BluetoothAddress) :
    (document.pairingKeys (formatAddress address) (formatPublicPeer peer)).map toBackendBond =
      (book address).bind fun entry => if entry.1 = peer then some entry.2 else none := by
  have hlist := hholds address
  rw [allPairingKeys_eq] at hlist
  have hnamespace := lookupText_eq document.keyStore (addressKey address)
  change lookupText document.keyStore (formatAddress address) = _ at hnamespace
  unfold ProfileDocument.pairingKeys
  rw [hnamespace]
  cases hpeers : document.keyStore.get? (addressKey address) with
  | none =>
    rw [hpeers] at hlist
    cases hbook : book address with
    | none => rfl
    | some entry =>
      rw [hbook] at hlist
      cases hlist
  | some peers =>
    rw [hpeers] at hlist
    change peers.entries.map _ = _ at hlist
    change Option.map toBackendBond ((lookupText peers (formatPublicPeer peer)).bind _) = _
    unfold lookupText
    cases hbook : book address with
    | none =>
      rw [hbook] at hlist
      rw [List.map_eq_nil_iff.1 hlist]
      rfl
    | some entry =>
      rw [hbook] at hlist
      obtain ⟨⟨key, keys⟩, hentries, hentry⟩ := List.map_eq_singleton_iff.1 hlist
      obtain ⟨hkey, hkeys⟩ := Prod.mk.inj hentry
      rw [hentries, List.find?_singleton]
      dsimp only at hkey hkeys ⊢
      rw [hkey, Option.bind_some]
      by_cases hpeer : entry.1 = peer
      · rw [hpeer, beq_self_eq_true, if_pos rfl, if_pos rfl]
        change some (toBackendBond keys.toStoredBond) = some entry.2
        rw [hkeys]
        rfl
      · have hother : (formatPublicPeer entry.1 == formatPublicPeer peer) = false :=
          beq_eq_false_iff_ne.2 fun h => hpeer (formatPublicPeer_injective h)
        rw [hother, if_neg hpeer]
        rfl

/-- A replacement writes one entry of the book. -/
theorem Holds.withPeer {document : ProfileDocument} {book : BondBook} (hholds : document.Holds book)
    (address peer : BluetoothAddress) (bond : ClassicBond) :
    (document.withPeer (addressKey address) (peerKey peer) (toStoredBond bond)).Holds
      (Function.update book address (some (peer, bond))) := by
  intro other
  rw [allPairingKeys_eq]
  by_cases hother : other = address
  · subst hother
    rw [Function.update_self, ProfileDocument.withPeer, SortedMap.get?_insert_self]
    rfl
  · have hkey : addressKey other ≠ addressKey address := fun h => hother (formatAddress_injective (Subtype.ext_iff.1 h))
    rw [Function.update_of_ne hother, ProfileDocument.withPeer, SortedMap.get?_insert_of_ne _ _ hkey, ← allPairingKeys_eq]
    exact hholds other

theorem replacePairingKeys_format (document : ProfileDocument) (address peer : BluetoothAddress)
    (bond : StoredClassicBond) : document.replacePairingKeys (formatAddress address) (formatPublicPeer peer) bond =
      (.ok (), document.withPeer (addressKey address) (peerKey peer) bond) := by
  have haddress : BluetoothAddressKey.parse (formatAddress address) = .ok (addressKey address) :=
    dif_pos (canonical_formatAddress address)
  have hpeer : ClassicPeerKey.parse (formatPublicPeer peer) = .ok (peerKey peer) := dif_pos (classic_formatPublicPeer peer)
  unfold replacePairingKeys
  rw [haddress]
  dsimp only
  rw [hpeer]

end ProfileDocument

/-! ## Files that hold a profile -/

section Files
variable {m : ControllerKind} {text : JsonText}

theorem fromJson_valid {bytes : List UInt8} {profile : PairingProfile m}
    (hprofile : PairingProfile.fromJson m text bytes = .ok profile) : profile.document.Valid := by
  unfold PairingProfile.fromJson at hprofile
  cases hparsed : ProfileDocument.parseJson text bytes with
  | error e =>
    rw [hparsed] at hprofile
    cases hprofile
  | ok document =>
    rw [hparsed] at hprofile
    change PairingProfile.tryFrom m document = .ok profile at hprofile
    unfold PairingProfile.tryFrom at hprofile
    split at hprofile
    · cases hprofile
      unfold ProfileDocument.parseJson at hparsed
      split at hparsed
      · cases hparsed
      · exact (ProfileDocument.parseValue_ok.1 hparsed).2
    · cases hprofile

/-- A written document is read back as a profile of its model. -/
theorem fromJson_toJsonBytes {document : ProfileDocument} (hvalid : document.Valid) (hkind : document.controllerKind = m)
    (hprints : text.PrintsBack document.toValue) :
    PairingProfile.fromJson m text (document.toJsonBytes text) = .ok ⟨document, hkind⟩ := by
  unfold PairingProfile.fromJson
  rw [ProfileDocument.parseJson_toJsonBytes hvalid hprints]
  exact dif_pos hkind

end Files

/-! ## Operations -/

namespace BondOp

/-- Every call on the file succeeds. -/
def Succeeds : BondOp → Prop
  | .selectLocalAddress _ => True
  | .load _ readable => readable = true
  | .loadAll readable => readable = true
  | .upsert _ _ readable io => readable = true ∧ io.succeeds = true

/-- The selected address after an operation. -/
def selection (selected : Option BluetoothAddress) : BondOp → Option BluetoothAddress
  | .selectLocalAddress address => some address
  | .load _ _ => selected
  | .loadAll _ => selected
  | .upsert _ _ _ _ => selected

/-- What an operation binds in the namespace of an address. -/
def binding (address : BluetoothAddress) (selected : Option BluetoothAddress) :
    BondOp → Option (BluetoothAddress × ClassicBond)
  | .upsert peer bond _ _ => if selected = some address then some (peer, bond) else none
  | .selectLocalAddress _ => none
  | .load _ _ => none
  | .loadAll _ => none

end BondOp

/-- The last upsert made while an address was selected. -/
def lastUpsert (address : BluetoothAddress) :
    Option BluetoothAddress → List BondOp → Option (BluetoothAddress × ClassicBond)
  | _, [] => none
  | selected, op :: rest => (lastUpsert address (op.selection selected) rest).or (op.binding address selected)

/-- A book after an operation that succeeds. -/
def BondBook.after (book : BondBook) (selected : Option BluetoothAddress) (op : BondOp) : BondBook :=
  fun address => (op.binding address selected).or (book address)

theorem BondBook.after_upsert (book : BondBook) (address peer : BluetoothAddress) (bond : ClassicBond) (readable : Bool)
    (io : UpdateIo) : book.after (some address) (.upsert peer bond readable io) =
      Function.update book address (some (peer, bond)) := by
  funext other
  change (if some address = some other then some (peer, bond) else none).or (book other) = _
  by_cases hother : other = address
  · subst hother
    rw [Function.update_self, if_pos rfl]
    rfl
  · rw [Function.update_of_ne hother, if_neg fun h => hother (Option.some.inj h).symm]
    rfl

theorem UpdateIo.replaces_of_succeeds {io : UpdateIo} (h : io.succeeds = true) : io.replaces = true := by
  obtain ⟨metadata, opened, written, flushed, synced, commit, parentSynced⟩ := io
  unfold succeeds at h
  rw [Bool.and_eq_true, Bool.and_eq_true] at h
  unfold replaces
  rw [h.1.1]
  cases commit with
  | done => rfl
  | failed replaced => exact absurd h.2 Bool.false_ne_true

namespace ProfileKeyStore

section Steps
variable (m : ControllerKind) (text : JsonText) (parsePublic : String → Option BluetoothAddress)

/-- The document that an operation writes, if it comes to that. -/
def written (store : ProfileKeyStore) : BondOp → Option ProfileDocument
  | .upsert peer bond true _ =>
    match store.localNamespace, PairingProfile.fromJson m text store.file with
    | some address, .ok profile =>
      some (profile.document.replacePairingKeys address (formatPublicPeer peer) (toStoredBond bond)).2
    | _, _ => none
  | _ => none

/-- Every document that a run writes is printed so that it parses back. -/
def PrintsBack (store : ProfileKeyStore) : List BondOp → Prop
  | [] => True
  | op :: rest => (∀ document, store.written m text op = some document → text.PrintsBack document.toValue) ∧
      PrintsBack (store.step m text parsePublic op).1 rest

/-- The store has selected an address, and its file is this profile. -/
structure Keeps (store : ProfileKeyStore) (selected : Option BluetoothAddress) (profile : PairingProfile m) : Prop where
  localNamespace : store.localNamespace = selected.map formatAddress
  file : PairingProfile.fromJson m text store.file = .ok profile

end Steps

section Keeps
variable {m : ControllerKind} {text : JsonText} {parsePublic : String → Option BluetoothAddress}
variable {store : ProfileKeyStore} {selected : Option BluetoothAddress} {profile : PairingProfile m}

/-- The profile after an upsert to a selected namespace. -/
def withBond (profile : PairingProfile m) (address peer : BluetoothAddress) (bond : ClassicBond) : PairingProfile m :=
  ⟨profile.document.withPeer (addressKey address) (peerKey peer) (toStoredBond bond), profile.kind_eq⟩

theorem Keeps.readProfile (hkeeps : store.Keeps m text selected profile) (error : BondStoreError) :
    store.readProfile m text true error = .ok profile := by
  unfold ProfileKeyStore.readProfile
  rw [if_pos rfl, hkeeps.file]

/-- An upsert that reaches its file writes the profile with the bond. -/
theorem Keeps.upsert {address : BluetoothAddress} (hkeeps : store.Keeps m text (some address) profile) (io : UpdateIo)
    (peer : BluetoothAddress) (bond : ClassicBond) :
    store.upsert m text true io peer bond =
      (if io.succeeds then .ok () else .error .upsertFailed,
        { store with
          file := if io.replaces then (withBond profile address peer bond).document.toJsonBytes text else store.file }) := by
  have hnamespace : store.localNamespace = some (formatAddress address) := hkeeps.localNamespace
  unfold ProfileKeyStore.upsert
  rw [hnamespace, hkeeps.readProfile]
  dsimp only
  rw [ProfileDocument.replacePairingKeys_format]
  dsimp only
  rw [update_eq]
  rfl

theorem Keeps.written {address : BluetoothAddress} (hkeeps : store.Keeps m text (some address) profile) (io : UpdateIo)
    (peer : BluetoothAddress) (bond : ClassicBond) :
    store.written m text (.upsert peer bond true io) = some (withBond profile address peer bond).document := by
  have hnamespace : store.localNamespace = some (formatAddress address) := hkeeps.localNamespace
  unfold ProfileKeyStore.written
  dsimp only
  rw [hnamespace, hkeeps.file]
  dsimp only
  rw [ProfileDocument.replacePairingKeys_format]
  rfl

/-- An upsert that does not reach its file changes nothing. -/
theorem upsert_unreached (hkeeps : store.Keeps m text selected profile) {readable : Bool}
    (hreach : selected = none ∨ readable = false) (io : UpdateIo) (peer : BluetoothAddress) (bond : ClassicBond) :
    store.upsert m text readable io peer bond = (.error .upsertFailed, store) := by
  unfold ProfileKeyStore.upsert
  rw [hkeeps.localNamespace]
  cases selected with
  | none => rfl
  | some address =>
    have hreadable : readable = false := hreach.resolve_left (Option.some_ne_none address)
    subst hreadable
    rfl

variable (parsePublic) in
/-- What a step does to the file: nothing, or one bond is written. -/
theorem Keeps.step (hkeeps : store.Keeps m text selected profile) {op : BondOp}
    (hprints : ∀ document, store.written m text op = some document → text.PrintsBack document.toValue) :
    ∃ next, (store.step m text parsePublic op).1.Keeps m text (op.selection selected) next ∧
      ((next = profile ∧ (store.step m text parsePublic op).1.file = store.file) ∨
        ∃ address peer bond io, op = .upsert peer bond true io ∧ selected = some address ∧
          next = withBond profile address peer bond ∧
          (store.step m text parsePublic op).1.file = next.document.toJsonBytes text) := by
  cases op with
  | selectLocalAddress address => exact ⟨profile, ⟨rfl, hkeeps.file⟩, .inl ⟨rfl, rfl⟩⟩
  | load peer readable => exact ⟨profile, hkeeps, .inl ⟨rfl, rfl⟩⟩
  | loadAll readable => exact ⟨profile, hkeeps, .inl ⟨rfl, rfl⟩⟩
  | upsert peer bond readable io =>
    have hstep : (store.step m text parsePublic (.upsert peer bond readable io)).1 =
        (store.upsert m text readable io peer bond).2 := rfl
    rw [hstep]
    by_cases hreach : selected = none ∨ readable = false
    · rw [upsert_unreached hkeeps hreach]
      exact ⟨profile, hkeeps, .inl ⟨rfl, rfl⟩⟩
    · obtain ⟨hselected, hreadable⟩ := not_or.1 hreach
      obtain ⟨address, rfl⟩ := Option.ne_none_iff_exists'.1 hselected
      obtain rfl := (Bool.not_eq_false _).mp hreadable
      have hback := hprints _ (hkeeps.written io peer bond)
      have hvalid := ProfileDocument.valid_withPeer (fromJson_valid hkeeps.file) (addressKey address) (peerKey peer) (toStoredBond bond)
      have hread := fromJson_toJsonBytes hvalid (withBond profile address peer bond).kind_eq hback
      rw [hkeeps.upsert]
      by_cases hreplaces : io.replaces = true
      · rw [if_pos hreplaces]
        exact ⟨withBond profile address peer bond, ⟨hkeeps.localNamespace, hread⟩,
          .inr ⟨address, peer, bond, io, rfl, rfl, rfl, rfl⟩⟩
      · rw [if_neg hreplaces]
        exact ⟨profile, hkeeps, .inl ⟨rfl, rfl⟩⟩

variable (parsePublic) in
/-- A step that succeeds makes the book's change. -/
theorem Keeps.step_after (hkeeps : store.Keeps m text selected profile) {book : BondBook}
    (hholds : profile.document.Holds book) {op : BondOp} (hsucceeds : op.Succeeds)
    (hprints : ∀ document, store.written m text op = some document → text.PrintsBack document.toValue) :
    ∃ next, (store.step m text parsePublic op).1.Keeps m text (op.selection selected) next ∧
      next.document.Holds (book.after selected op) := by
  cases op with
  | selectLocalAddress address => exact ⟨profile, ⟨rfl, hkeeps.file⟩, hholds⟩
  | load peer readable => exact ⟨profile, hkeeps, hholds⟩
  | loadAll readable => exact ⟨profile, hkeeps, hholds⟩
  | upsert peer bond readable io =>
    obtain ⟨hreadable, hio⟩ := hsucceeds
    subst hreadable
    have hstep : (store.step m text parsePublic (.upsert peer bond true io)).1 =
        (store.upsert m text true io peer bond).2 := rfl
    rw [hstep]
    cases selected with
    | none =>
      rw [upsert_unreached hkeeps (.inl rfl)]
      exact ⟨profile, hkeeps, hholds⟩
    | some address =>
      have hback := hprints _ (hkeeps.written io peer bond)
      have hvalid := ProfileDocument.valid_withPeer (fromJson_valid hkeeps.file) (addressKey address) (peerKey peer)
        (toStoredBond bond)
      rw [hkeeps.upsert, if_pos (UpdateIo.replaces_of_succeeds hio)]
      refine ⟨withBond profile address peer bond,
        ⟨hkeeps.localNamespace, fromJson_toJsonBytes hvalid (withBond profile address peer bond).kind_eq hback⟩, ?_⟩
      rw [BondBook.after_upsert]
      exact hholds.withPeer address peer bond

/-! ## Answers -/

/-- A load gives the book's bond, when it is for that peer. -/
theorem Keeps.load {address : BluetoothAddress} (hkeeps : store.Keeps m text (some address) profile) {book : BondBook}
    (hholds : profile.document.Holds book) (peer : BluetoothAddress) :
    store.load m text true peer = .ok ((book address).bind fun entry => if entry.1 = peer then some entry.2 else none) := by
  have hnamespace : store.localNamespace = some (formatAddress address) := hkeeps.localNamespace
  unfold ProfileKeyStore.load
  rw [hnamespace]
  dsimp only
  rw [hkeeps.readProfile]
  exact congrArg Except.ok (hholds.pairingKeys address peer)

theorem listEntry_format (hparse : ∀ address, parsePublic (formatAddress address) = some address)
    (peer : BluetoothAddress) (bond : ClassicBond) :
    listEntry parsePublic (formatPublicPeer peer, toStoredBond bond) = .ok (peer, bond) := by
  have hself : stripPublicSuffix (formatPublicPeer peer) = some (formatAddress peer) := stripPublicSuffix_eq_some.2 rfl
  unfold listEntry
  dsimp only
  rw [hself]
  dsimp only
  rw [hparse]
  rfl

/-- A listing gives the book's bond, or none. -/
theorem Keeps.loadAll (hparse : ∀ address, parsePublic (formatAddress address) = some address)
    {address : BluetoothAddress} (hkeeps : store.Keeps m text (some address) profile) {book : BondBook}
    (hholds : profile.document.Holds book) : store.loadAll m text parsePublic true = .ok (book address).toList := by
  have hnamespace : store.localNamespace = some (formatAddress address) := hkeeps.localNamespace
  unfold ProfileKeyStore.loadAll
  rw [hnamespace]
  dsimp only
  rw [hkeeps.readProfile]
  change (profile.document.allPairingKeys (formatAddress address)).mapM (listEntry parsePublic) = _
  rw [hholds address]
  cases hbook : book address with
  | none => rfl
  | some entry =>
    change List.mapM (listEntry parsePublic) [(formatPublicPeer entry.1, toStoredBond entry.2)] = _
    rw [List.mapM_cons, listEntry_format hparse]
    rfl

/-! ## Runs -/

/-- After any run the file is a profile of the same identity. -/
theorem Keeps.run {store : ProfileKeyStore} {selected : Option BluetoothAddress} {profile : PairingProfile m}
    (hkeeps : store.Keeps m text selected profile) {ops : List BondOp} (hprints : store.PrintsBack m text parsePublic ops) :
    ∃ next, (store.run m text parsePublic ops).Keeps m text (ops.foldl BondOp.selection selected) next ∧
      next.document.identity = profile.document.identity := by
  induction ops generalizing store selected profile with
  | nil => exact ⟨profile, hkeeps, rfl⟩
  | cons op rest ih =>
    obtain ⟨next, hnext, hchange⟩ := hkeeps.step parsePublic hprints.1
    obtain ⟨last, hlast, hidentity⟩ := ih hnext hprints.2
    refine ⟨last, hlast, hidentity.trans ?_⟩
    obtain ⟨rfl, _⟩ | ⟨address, peer, bond, io, _, _, rfl, _⟩ := hchange
    · rfl
    · rfl

/-- After a run that succeeds the file holds the last upserts over the first book. -/
theorem Keeps.run_after {store : ProfileKeyStore} {selected : Option BluetoothAddress} {profile : PairingProfile m}
    (hkeeps : store.Keeps m text selected profile) {book : BondBook} (hholds : profile.document.Holds book)
    {ops : List BondOp} (hsucceed : ∀ op ∈ ops, op.Succeeds) (hprints : store.PrintsBack m text parsePublic ops) :
    ∃ next, (store.run m text parsePublic ops).Keeps m text (ops.foldl BondOp.selection selected) next ∧
      next.document.Holds fun address => (lastUpsert address selected ops).or (book address) := by
  induction ops generalizing store selected profile book with
  | nil => exact ⟨profile, hkeeps, hholds⟩
  | cons op rest ih =>
    obtain ⟨hop, hrest⟩ := List.forall_mem_cons.1 hsucceed
    obtain ⟨next, hnext, hafter⟩ := hkeeps.step_after parsePublic hholds hop hprints.1
    obtain ⟨last, hlast, hbook⟩ := ih hnext hafter hrest hprints.2
    refine ⟨last, hlast, ?_⟩
    have hsame : (fun address => (lastUpsert address selected (op :: rest)).or (book address)) =
        fun address => (lastUpsert address (op.selection selected) rest).or (book.after selected op address) := by
      funext address
      exact Option.or_assoc
    rw [hsame]
    exact hbook

theorem PrintsBack.append {store : ProfileKeyStore} {ops rest : List BondOp}
    (hprints : store.PrintsBack m text parsePublic (ops ++ rest)) :
    store.PrintsBack m text parsePublic ops ∧ (store.run m text parsePublic ops).PrintsBack m text parsePublic rest := by
  induction ops generalizing store with
  | nil => exact ⟨trivial, hprints⟩
  | cons op ops ih => exact ⟨⟨hprints.1, (ih hprints.2).1⟩, (ih hprints.2).2⟩

/-- With one address selected the store answers as the volatile store does. -/
theorem Keeps.responses (hparse : ∀ address, parsePublic (formatAddress address) = some address)
    {store : ProfileKeyStore} {address : BluetoothAddress} {profile : PairingProfile m}
    (hkeeps : store.Keeps m text (some address) profile) {book : BondBook} (hholds : profile.document.Holds book)
    {ops : List BondOp} (hsucceed : ∀ op ∈ ops, op.Succeeds)
    (hselect : ∀ op ∈ ops, op.selection (some address) = some address)
    (hprints : store.PrintsBack m text parsePublic ops) :
    store.responses m text parsePublic ops = VolatileBondStore.responses ⟨(book address).toList⟩ ops := by
  induction ops generalizing store profile book with
  | nil => rfl
  | cons op rest ih =>
    obtain ⟨hop, hrest⟩ := List.forall_mem_cons.1 hsucceed
    obtain ⟨hsame, hselect⟩ := List.forall_mem_cons.1 hselect
    obtain ⟨next, hnext, hafter⟩ := hkeeps.step_after parsePublic hholds hop hprints.1
    rw [hsame] at hnext
    -- The first answer comes of the book as it is, the others of the book after it.
    have htail := ih hnext hafter hrest hselect hprints.2
    have hhead : (store.step m text parsePublic op).2 = ((VolatileBondStore.mk (book address).toList).step op).2 ∧
        ((VolatileBondStore.mk (book address).toList).step op).1 = ⟨(book.after (some address) op address).toList⟩ := by
      cases op with
      | selectLocalAddress other => exact ⟨rfl, rfl⟩
      | load peer readable =>
        obtain rfl : readable = true := hop
        refine ⟨congrArg BondResponse.loaded ((hkeeps.load hholds peer).trans (congrArg Except.ok ?_)), rfl⟩
        cases hbook : book address with
        | none => rfl
        | some entry =>
          change (if entry.1 = peer then some entry.2 else none) = [entry].lookup peer
          rw [List.lookup_cons, List.lookup_nil]
          by_cases hpeer : entry.1 = peer
          · rw [if_pos hpeer, beq_iff_eq.2 hpeer.symm]
          · rw [if_neg hpeer, beq_eq_false_iff_ne.2 fun h => hpeer h.symm]
      | loadAll readable =>
        obtain rfl : readable = true := hop
        exact ⟨congrArg BondResponse.listed (hkeeps.loadAll hparse hholds), rfl⟩
      | upsert peer bond readable io =>
        obtain ⟨hreadable, hio⟩ := hop
        subst hreadable
        have hupsert := hkeeps.upsert io peer bond
        rw [if_pos hio] at hupsert
        refine ⟨congrArg BondResponse.upserted (congrArg Prod.fst hupsert), ?_⟩
        rw [BondBook.after_upsert, Function.update_self]
        rfl
    unfold ProfileKeyStore.responses VolatileBondStore.responses
    rw [hhead.1, hhead.2, htail]

end Keeps

end ProfileKeyStore

theorem lookupText_withPeer_of_ne (document : ProfileDocument) {address : BluetoothAddress} {other : String}
    (hother : formatAddress address ≠ other) (peer : BluetoothAddress) (bond : ClassicBond) :
    ProfileDocument.lookupText (document.withPeer (addressKey address) (peerKey peer) (toStoredBond bond)).keyStore other =
      ProfileDocument.lookupText document.keyStore other := by
  have hkept := ProfileDocument.lookupText_replacePairingKeys document hother.symm (formatPublicPeer peer) (toStoredBond bond)
  rw [ProfileDocument.replacePairingKeys_format] at hkept
  exact hkept

theorem bind_peer_eq_some {bound : Option (BluetoothAddress × ClassicBond)} {peer : BluetoothAddress} {bond : ClassicBond} :
    (bound.bind fun entry => if entry.1 = peer then some entry.2 else none) = some bond ↔ bound = some (peer, bond) := by
  cases bound with
  | none => exact iff_of_false (fun h => by cases h) fun h => by cases h
  | some entry =>
    rw [Option.bind_some]
    by_cases hpeer : entry.1 = peer
    · subst hpeer
      rw [if_pos rfl]
      constructor
      · intro h
        rw [← Option.some.inj h]
      · intro h
        rw [Option.some.inj h]
    · rw [if_neg hpeer]
      exact iff_of_false (fun h => by cases h) fun h => hpeer (congrArg Prod.fst (Option.some.inj h))

open ProfileKeyStore in
/-- Over a valid file, whatever fails, the file stays a valid profile in which a
step changes its own namespace or nothing. Without failures a peer's bond is
the last one stored, or the first file's, and a store that starts empty
answers as the volatile store does. -/
theorem bond_store_refines {m : ControllerKind} (text : JsonText) (parsePublic : String → Option BluetoothAddress)
    (hparse : ∀ address, parsePublic (formatAddress address) = some address) (file : List UInt8)
    (profile : PairingProfile m) (hfile : PairingProfile.fromJson m text file = .ok profile) :
    (∀ ops op, PrintsBack m text parsePublic ⟨none, file⟩ (ops ++ [op]) →
      let store := run m text parsePublic ⟨none, file⟩ ops
      let after := (store.step m text parsePublic op).1
      ∃ before next, PairingProfile.fromJson m text store.file = .ok before ∧
        PairingProfile.fromJson m text after.file = .ok next ∧
        before.document.Valid ∧ next.document.Valid ∧
        before.document.identity = profile.document.identity ∧ next.document.identity = profile.document.identity ∧
        (∀ other, store.localNamespace ≠ some other →
          ProfileDocument.lookupText next.document.keyStore other =
            ProfileDocument.lookupText before.document.keyStore other) ∧
        (after.file = store.file ∨
          ∃ document, store.written m text op = some document ∧ after.file = document.toJsonBytes text)) ∧
    (∀ ops address, (∀ op ∈ ops, op.Succeeds) → PrintsBack m text parsePublic ⟨none, file⟩ ops →
      ops.foldl BondOp.selection none = some address →
      let store := run m text parsePublic ⟨none, file⟩ ops
      (∀ peer, ∃ found, store.load m text true peer = .ok found ∧ ∀ bond, found = some bond ↔
        lastUpsert address none ops = some (peer, bond) ∨
          lastUpsert address none ops = none ∧
            profile.document.pairingKeys (formatAddress address) (formatPublicPeer peer) = some (toStoredBond bond)) ∧
      ∃ bonds, store.loadAll m text parsePublic true = .ok bonds ∧ bonds.length ≤ 1 ∧
        ∀ peer bond, (peer, bond) ∈ bonds ↔ store.load m text true peer = .ok (some bond)) ∧
    (profile.document.keyStore = .empty → ∀ address ops, (∀ op ∈ ops, op.Succeeds) →
      (∀ op ∈ ops, op.selection (some address) = some address) →
      let store := (step m text parsePublic ⟨none, file⟩ (.selectLocalAddress address)).1
      store.PrintsBack m text parsePublic ops →
        store.responses m text parsePublic ops = VolatileBondStore.responses ⟨[]⟩ ops) := by
  have hkeeps : Keeps m text ⟨none, file⟩ none profile := ⟨rfl, hfile⟩
  refine ⟨?_, ?_, ?_⟩
  · -- One step, after any number of them.
    intro ops op hprints
    obtain ⟨hprints, hlast⟩ := PrintsBack.append hprints
    obtain ⟨before, hbefore, hidentity⟩ := hkeeps.run hprints
    obtain ⟨next, hnext, hchange⟩ := hbefore.step parsePublic hlast.1
    refine ⟨before, next, hbefore.file, hnext.file, fromJson_valid hbefore.file, fromJson_valid hnext.file, hidentity, ?_⟩
    obtain ⟨rfl, hsame⟩ | ⟨address, peer, bond, io, rfl, hselected, rfl, hwrote⟩ := hchange
    · exact ⟨hidentity, fun _ _ => rfl, .inl hsame⟩
    · rw [hselected] at hbefore
      have hnamespace := hbefore.localNamespace
      refine ⟨hidentity, fun other hother => ?_, .inr ⟨_, hbefore.written io peer bond, hwrote⟩⟩
      exact lookupText_withPeer_of_ne _ (fun h => hother (hnamespace.trans (congrArg some h))) peer bond
  · -- What is loaded, by the book that the operations leave.
    intro ops address hsucceed hprints hselected
    obtain ⟨book, hholds⟩ := (fromJson_valid hfile).holds
    obtain ⟨next, hnext, hbook⟩ := hkeeps.run_after hholds hsucceed hprints
    rw [hselected] at hnext
    have hload := hnext.load hbook
    refine ⟨fun peer => ⟨_, hload peer, fun bond => ?_⟩, _, hnext.loadAll hparse hbook, ?_, fun peer bond => ?_⟩
    · have hfirst : profile.document.pairingKeys (formatAddress address) (formatPublicPeer peer) = some (toStoredBond bond) ↔
          book address = some (peer, bond) := by
        have hpairing := hholds.pairingKeys address peer
        rw [← bind_peer_eq_some, ← hpairing, Option.map_eq_some_iff]
        exact ⟨fun h => ⟨_, h, rfl⟩, fun ⟨stored, h, hbond⟩ => hbond ▸ h⟩
      rw [bind_peer_eq_some, Option.or_eq_some_iff, hfirst]
    · exact Option.length_toList_le
    · rw [hload peer, Option.mem_toList, Except.ok.injEq, bind_peer_eq_some]
  · -- A profile without bonds is the empty volatile store.
    intro hempty address ops hsucceed hselect store hprints
    have hstore : store.Keeps m text (some address) profile := ⟨rfl, hfile⟩
    have hholds : profile.document.Holds fun _ => none := by
      intro other
      rw [ProfileDocument.allPairingKeys_eq, hempty]
      rfl
    exact hstore.responses hparse hholds hsucceed hselect hprints

/-! ## A run -/

/-- A canonical text read as a public address. -/
def parsePublicAddress (raw : String) : Option BluetoothAddress :=
  if isBluetoothAddress raw then
    (LocalAddress.readOctets raw.toList).map fun octets =>
      ⟨octets.val.reverse, by rw [List.length_reverse, octets.property]⟩
  else none

theorem parsePublicAddress_format (address : BluetoothAddress) :
    parsePublicAddress (formatAddress address) = some address := by
  obtain ⟨haddress, _⟩ := Bool.and_eq_true_iff.1 (canonical_formatAddress address)
  have hread := @LocalAddress.readOctets_formatOctets address.leBytes.reverse
    (by rw [List.length_reverse, address.length_leBytes])
  change LocalAddress.readOctets (formatAddress address).toList = _ at hread
  unfold parsePublicAddress
  rw [if_pos haddress, hread]
  obtain ⟨leBytes, length_leBytes⟩ := address
  exact congrArg some (BluetoothAddress.mk.injEq .. ▸ List.reverse_reverse leBytes)

/-- `00:11:22:33:44:55` -/
def sampleAdapter : BluetoothAddress := ⟨[0x55, 0x44, 0x33, 0x22, 0x11, 0x00], rfl⟩

/-- `98:B6:E9:11:22:33` -/
def samplePeer : BluetoothAddress := ⟨[0x33, 0x22, 0x11, 0xE9, 0xB6, 0x98], rfl⟩

def sampleBond : ClassicBond := ⟨sampleLinkKey, 4, true⟩

theorem fromJson_pairedPro :
    PairingProfile.fromJson .pro pairedProJson (pairedPro.toJsonBytes pairedProJson) = .ok ⟨pairedPro, rfl⟩ :=
  fromJson_toJsonBytes built_pairedPro.valid rfl pairedProJson_printsBack

/-- The bond stored again leaves the profile as it is. -/
theorem pairedPro_withPeer :
    pairedPro.withPeer (addressKey sampleAdapter) (peerKey samplePeer) (toStoredBond sampleBond) = pairedPro :=
  congrArg (fun keyStore => { ProfileDocument.empty .pro .adapterDefault with keyStore := keyStore })
    (SortedMap.insert_insert_self _ _ _ _)

/-- An update in which every call succeeds. -/
def UpdateIo.allDone : UpdateIo := ⟨some true, true, true, true, true, .done, true⟩

def sampleOps : List BondOp := [.selectLocalAddress sampleAdapter, .upsert samplePeer sampleBond true .allDone]

theorem printsBack_sampleOps :
    ProfileKeyStore.PrintsBack .pro pairedProJson parsePublicAddress ⟨none, pairedPro.toJsonBytes pairedProJson⟩ sampleOps := by
  have hkeeps : ProfileKeyStore.Keeps .pro pairedProJson
      ⟨some (formatAddress sampleAdapter), pairedPro.toJsonBytes pairedProJson⟩ (some sampleAdapter) ⟨pairedPro, rfl⟩ :=
    ⟨rfl, fromJson_pairedPro⟩
  refine ⟨fun document hwritten => (by cases hwritten), fun document hwritten => ?_, trivial⟩
  have hdocument := (hkeeps.written .allDone samplePeer sampleBond).symm.trans hwritten
  have hsame : pairedPro = document := pairedPro_withPeer.symm.trans (Option.some.inj hdocument)
  rw [← hsame]
  exact pairedProJson_printsBack

/-- A bond that is stored again is loaded. -/
theorem bond_store_refines_sample :
    let store := ProfileKeyStore.run .pro pairedProJson parsePublicAddress ⟨none, pairedPro.toJsonBytes pairedProJson⟩ sampleOps
    ∃ found, store.load .pro pairedProJson true samplePeer = .ok found ∧ found = some sampleBond := by
  have hrefines := bond_store_refines pairedProJson parsePublicAddress parsePublicAddress_format _ _ fromJson_pairedPro
  have hsucceed : ∀ op ∈ sampleOps, op.Succeeds :=
    List.forall_mem_cons.2 ⟨trivial, List.forall_mem_cons.2 ⟨⟨rfl, rfl⟩, fun _ hmem => by cases hmem⟩⟩
  obtain ⟨hload, _⟩ := hrefines.2.1 sampleOps sampleAdapter hsucceed printsBack_sampleOps rfl
  obtain ⟨found, hfound, hbond⟩ := hload samplePeer
  exact ⟨found, hfound, (hbond sampleBond).2 (.inl (by decide))⟩

end Swbt
