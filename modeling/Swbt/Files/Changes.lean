import Swbt.Files.System
/-!
# Changes of a file system

New nodes, entries that come and go, and the bytes of a file: each a file
system again, with what it keeps of the one before.
-/

set_option autoImplicit false

namespace Files

/-- The node with this entry, or without one of this name. -/
def Node.withEntry (node : Node) (name : Name) (value : Option Inode) : Node :=
  match node with
  | .directory parent entries => .directory parent (Function.update entries name value)
  | .file bytes => .file bytes
  | .symlink target => .symlink target

namespace FileSystem

variable (fs : FileSystem)

/-- A node that no entry leads to yet. -/
def addNode (i : Inode) (new : Node) (hfresh : fs.node i = none) (hempty : ∀ name, new.entries name = none) : FileSystem where
  node := Function.update fs.node i (some new)
  root := fs.root
  working := fs.working
  closed directory found name j hfound hentry := by
    by_cases hdirectory : directory = i
    · subst hdirectory
      rw [Function.update_self] at hfound
      cases hfound
      rw [hempty name] at hentry
      cases hentry
    · rw [Function.update_of_ne hdirectory] at hfound
      have hsome := fs.closed directory found name j hfound hentry
      have hj : j ≠ i := by
        rintro rfl
        rw [hfresh] at hsome
        cases hsome
      rw [Function.update_of_ne hj]
      exact hsome
  proper directory found name hfound := by
    by_cases hdirectory : directory = i
    · subst hdirectory
      rw [Function.update_self] at hfound
      cases hfound
      rw [hempty name]
      exact nofun
    · rw [Function.update_of_ne hdirectory] at hfound
      exact fs.proper directory found name hfound

theorem addNode_node {i : Inode} {new : Node} {hfresh : fs.node i = none} {hempty : ∀ name, new.entries name = none} :
    (fs.addNode i new hfresh hempty).node = Function.update fs.node i (some new) := rfl

/-- The entry of this name, set or taken away. -/
def setEntry (directory : Inode) (name : Name) (value : Option Inode)
    (hvalue : ∀ i ∈ value, (fs.node i).isSome = true ∧ i ≠ directory) : FileSystem where
  node := Function.update fs.node directory ((fs.node directory).map (·.withEntry name value))
  root := fs.root
  working := fs.working
  closed other found name' i hfound hentry := by
    have hsome : (fs.node i).isSome = true := by
      by_cases hother : other = directory
      · subst hother
        rw [Function.update_self] at hfound
        obtain ⟨old, hold, rfl⟩ := Option.map_eq_some_iff.1 hfound
        cases old with
        | directory parent entries =>
          by_cases hname : name' = name
          · subst hname
            exact (hvalue i (by simpa [Node.withEntry, Node.entries] using hentry)).1
          · refine fs.closed other _ name' i hold ?_
            simpa [Node.withEntry, Node.entries, Function.update_of_ne hname] using hentry
        | file bytes => cases hentry
        | symlink target => cases hentry
      · rw [Function.update_of_ne hother] at hfound
        exact fs.closed other found name' i hfound hentry
    by_cases hi : i = directory
    · subst hi
      rw [Function.update_self, Option.isSome_map]
      exact hsome
    · rw [Function.update_of_ne hi]
      exact hsome
  proper other found name' hfound hentry := by
    by_cases hother : other = directory
    · subst hother
      rw [Function.update_self] at hfound
      obtain ⟨old, hold, rfl⟩ := Option.map_eq_some_iff.1 hfound
      cases old with
      | directory parent entries =>
        by_cases hname : name' = name
        · subst hname
          exact (hvalue other (by simpa [Node.withEntry, Node.entries] using hentry)).2 rfl
        · refine fs.proper other _ name' hold ?_
          simpa [Node.withEntry, Node.entries, Function.update_of_ne hname] using hentry
      | file bytes => cases hentry
      | symlink target => cases hentry
    · rw [Function.update_of_ne hother] at hfound
      exact fs.proper other found name' hfound hentry

theorem setEntry_node {directory : Inode} {name : Name} {value : Option Inode}
    {hvalue : ∀ i ∈ value, (fs.node i).isSome = true ∧ i ≠ directory} : (fs.setEntry directory name value hvalue).node =
      Function.update fs.node directory ((fs.node directory).map (·.withEntry name value)) := rfl

/-- A new node with its entry. -/
def create (directory : Inode) (name : Name) (i : Inode) (new : Node) (hfresh : fs.node i = none)
    (hempty : ∀ name, new.entries name = none) (hdirectory : directory ≠ i) : FileSystem :=
  (fs.addNode i new hfresh hempty).setEntry directory name (some i) (by
    rintro j hj
    cases hj
    exact ⟨by rw [addNode_node, Function.update_self]; rfl, hdirectory.symm⟩)

def unlink (directory : Inode) (name : Name) : FileSystem := fs.setEntry directory name none nofun

/-- A file with these bytes. -/
def setBytes (i : Inode) (bytes : List UInt8) (hfile : ∃ old, fs.node i = some (.file old)) : FileSystem where
  node := Function.update fs.node i (some (.file bytes))
  root := fs.root
  working := fs.working
  closed directory found name j hfound hentry := by
    have hsome : (fs.node j).isSome = true := by
      by_cases hdirectory : directory = i
      · subst hdirectory
        rw [Function.update_self] at hfound
        cases hfound
        cases hentry
      · rw [Function.update_of_ne hdirectory] at hfound
        exact fs.closed directory found name j hfound hentry
    by_cases hj : j = i
    · subst hj
      rw [Function.update_self]
      rfl
    · rw [Function.update_of_ne hj]
      exact hsome
  proper directory found name hfound := by
    by_cases hdirectory : directory = i
    · subst hdirectory
      rw [Function.update_self] at hfound
      cases hfound
      exact nofun
    · rw [Function.update_of_ne hdirectory] at hfound
      exact fs.proper directory found name hfound

variable {fs}

/-! ## Entries -/

section SetEntry

variable {directory : Inode} {name : Name} {value : Option Inode}
  {hvalue : ∀ i ∈ value, (fs.node i).isSome = true ∧ i ≠ directory}

theorem node_setEntry {i : Inode} (hi : i ≠ directory) : (fs.setEntry directory name value hvalue).node i = fs.node i :=
  Function.update_of_ne hi _ _

theorem setEntry_directory {parent : Inode} {entries : Name → Option Inode}
    (hnode : fs.node directory = some (.directory parent entries)) :
    (fs.setEntry directory name value hvalue).node directory =
      some (.directory parent (Function.update entries name value)) := by
  rw [setEntry_node, Function.update_self, hnode]
  rfl

/-- Only one entry changes. -/
theorem entry_setEntry_ne {other i : Inode} {name' : Name} (hne : other ≠ directory ∨ name' ≠ name) :
    (fs.setEntry directory name value hvalue).Entry other name' i ↔ fs.Entry other name' i := by
  by_cases hother : other = directory
  · subst hother
    have hname : name' ≠ name := hne.resolve_left (not_not.2 rfl)
    constructor
    · rintro ⟨parent, entries, hnode, hentry⟩
      rw [setEntry_node, Function.update_self] at hnode
      obtain ⟨old, hold, hnew⟩ := Option.map_eq_some_iff.1 hnode
      cases old with
      | directory parent' entries' =>
        cases hnew
        rw [Function.update_of_ne hname] at hentry
        exact ⟨_, _, hold, hentry⟩
      | file bytes => cases hnew
      | symlink target => cases hnew
    · rintro ⟨parent, entries, hnode, hentry⟩
      exact ⟨_, _, setEntry_directory hnode, by rw [Function.update_of_ne hname]; exact hentry⟩
  · unfold Entry
    rw [node_setEntry hother]

theorem entry_setEntry_self {i : Inode} (h : (fs.setEntry directory name value hvalue).Entry directory name i) :
    value = some i := by
  obtain ⟨parent, entries, hnode, hentry⟩ := h
  rw [setEntry_node, Function.update_self] at hnode
  obtain ⟨old, hold, hnew⟩ := Option.map_eq_some_iff.1 hnode
  cases old with
  | directory parent' entries' =>
    cases hnew
    rw [Function.update_self] at hentry
    exact hentry
  | file bytes => cases hnew
  | symlink target => cases hnew

theorem directory_setEntry {i parent : Inode} {entries : Name → Option Inode}
    (hnode : fs.node i = some (.directory parent entries)) :
    ∃ entries', (fs.setEntry directory name value hvalue).node i = some (.directory parent entries') := by
  by_cases hi : i = directory
  · subst hi
    exact ⟨_, setEntry_directory hnode⟩
  · exact ⟨entries, by rw [node_setEntry hi]; exact hnode⟩

/-- What is no directory stays as it is. -/
theorem plain_setEntry {i : Inode} {node : Node} (hnode : fs.node i = some node) (hplain : node.isDirectory = false) :
    (fs.setEntry directory name value hvalue).node i = some node := by
  by_cases hi : i = directory
  · subst hi
    rw [setEntry_node, Function.update_self, hnode]
    cases node with
    | directory parent entries => cases hplain
    | file bytes => rfl
    | symlink target => rfl
  · rw [node_setEntry hi]
    exact hnode

/-- A directory keeps its walks where no entry but one of a file goes. -/
theorem grows_setEntry (hold : ∀ i, fs.Entry directory name i → ∃ bytes, fs.node i = some (.file bytes)) :
    fs.Grows (fs.setEntry directory name value hvalue) where
  root := rfl
  working := rfl
  directory _ _ _ hnode := directory_setEntry hnode
  symlink _ _ hnode := plain_setEntry hnode rfl
  entry other name' i hentry hfile := by
    refine (entry_setEntry_ne ?_).2 hentry
    by_contra hsame
    obtain ⟨hother, hname⟩ := not_or.1 hsame
    obtain ⟨bytes, hbytes⟩ := hold i (by rw [← not_not.1 hother, ← not_not.1 hname]; exact hentry)
    exact hfile bytes hbytes

end SetEntry

/-! ## New nodes -/

section Create

variable {directory i : Inode} {name : Name} {new : Node} {hfresh : fs.node i = none}
  {hempty : ∀ name, new.entries name = none} {hdirectory : directory ≠ i}

theorem entry_addNode {other j : Inode} {name' : Name} : (fs.addNode i new hfresh hempty).Entry other name' j ↔
    fs.Entry other name' j := by
  by_cases hother : other = i
  · subst hother
    constructor
    · rintro ⟨parent, entries, hnode, hentry⟩
      rw [addNode_node, Function.update_self] at hnode
      cases hnode
      rw [show entries name' = none from hempty name'] at hentry
      cases hentry
    · rintro ⟨parent, entries, hnode, -⟩
      rw [hfresh] at hnode
      cases hnode
  · unfold Entry
    rw [addNode_node, Function.update_of_ne hother]

theorem grows_addNode : fs.Grows (fs.addNode i new hfresh hempty) where
  root := rfl
  working := rfl
  directory j parent entries hnode := by
    refine ⟨entries, ?_⟩
    rw [addNode_node, Function.update_of_ne (by rintro rfl; rw [hfresh] at hnode; cases hnode)]
    exact hnode
  symlink j target hnode := by
    rw [addNode_node, Function.update_of_ne (by rintro rfl; rw [hfresh] at hnode; cases hnode)]
    exact hnode
  entry _ _ _ hentry _ := entry_addNode.2 hentry

theorem node_create {j : Inode} (hj : j ≠ directory) (hi : j ≠ i) :
    (fs.create directory name i new hfresh hempty hdirectory).node j = fs.node j := by
  rw [create, node_setEntry hj, addNode_node, Function.update_of_ne hi]

theorem node_create_self : (fs.create directory name i new hfresh hempty hdirectory).node i = some new := by
  rw [create, node_setEntry hdirectory.symm, addNode_node, Function.update_self]

theorem entry_create_ne {other j : Inode} {name' : Name} (hne : other ≠ directory ∨ name' ≠ name) :
    (fs.create directory name i new hfresh hempty hdirectory).Entry other name' j ↔ fs.Entry other name' j := by
  rw [create, entry_setEntry_ne hne, entry_addNode]

theorem entry_create_self {j : Inode} (h : (fs.create directory name i new hfresh hempty hdirectory).Entry directory name j) :
    j = i := (Option.some.inj (entry_setEntry_self h)).symm

theorem Free.entry_create (hfree : fs.Free directory name) :
    (fs.create directory name i new hfresh hempty hdirectory).Entry directory name i := by
  obtain ⟨parent, entries, hnode, -⟩ := hfree
  have hadded : (fs.addNode i new hfresh hempty).node directory = some (.directory parent entries) := by
    rw [addNode_node, Function.update_of_ne hdirectory]
    exact hnode
  exact ⟨_, _, setEntry_directory hadded, Function.update_self _ _ _⟩

theorem Grows.trans {middle after : FileSystem} (h : fs.Grows middle) (h' : middle.Grows after)
    (hfiles : ∀ directory name i, fs.Entry directory name i → (∀ bytes, fs.node i ≠ some (.file bytes)) →
      ∀ bytes, middle.node i ≠ some (.file bytes)) : fs.Grows after where
  root := h'.root.trans h.root
  working := h'.working.trans h.working
  directory i parent entries hnode := by
    obtain ⟨entries', hnode'⟩ := h.directory i parent entries hnode
    exact h'.directory i parent entries' hnode'
  symlink i target hnode := h'.symlink i target (h.symlink i target hnode)
  entry directory name i hentry hfile :=
    h'.entry directory name i (h.entry directory name i hentry hfile) (hfiles directory name i hentry hfile)

/-- A new node where nothing was keeps every walk. -/
theorem Free.grows_create (hfree : fs.Free directory name) :
    fs.Grows (fs.create directory name i new hfresh hempty hdirectory) := by
  refine grows_addNode.trans (grows_setEntry fun j hentry => ?_) fun other name' j hentry hfile bytes => ?_
  · exact absurd hfree (entry_addNode.1 hentry).not_free
  · obtain ⟨found, hfound⟩ := hentry.exists_node
    rw [addNode_node, Function.update_of_ne (by rintro rfl; rw [hfresh] at hfound; cases hfound)]
    exact hfile bytes

end Create

/-! ## Bytes -/

section SetBytes

variable {i : Inode} {bytes : List UInt8} {hfile : ∃ old, fs.node i = some (.file old)}

theorem node_setBytes {j : Inode} (hj : j ≠ i) : (fs.setBytes i bytes hfile).node j = fs.node j :=
  Function.update_of_ne hj _ _

theorem node_setBytes_self : (fs.setBytes i bytes hfile).node i = some (.file bytes) := Function.update_self _ _ _

theorem entry_setBytes {directory j : Inode} {name : Name} :
    (fs.setBytes i bytes hfile).Entry directory name j ↔ fs.Entry directory name j := by
  by_cases hdirectory : directory = i
  · subst hdirectory
    obtain ⟨old, hold⟩ := hfile
    constructor
    · rintro ⟨parent, entries, hnode, -⟩
      rw [node_setBytes_self] at hnode
      cases hnode
    · rintro ⟨parent, entries, hnode, -⟩
      rw [hold] at hnode
      cases hnode
  · unfold Entry
    rw [node_setBytes hdirectory]

theorem grows_setBytes : fs.Grows (fs.setBytes i bytes hfile) where
  root := rfl
  working := rfl
  directory j parent entries hnode := by
    refine ⟨entries, ?_⟩
    obtain ⟨old, hold⟩ := hfile
    rw [node_setBytes (by rintro rfl; rw [hold] at hnode; cases hnode)]
    exact hnode
  symlink j target hnode := by
    obtain ⟨old, hold⟩ := hfile
    rw [node_setBytes (by rintro rfl; rw [hold] at hnode; cases hnode)]
    exact hnode
  entry _ _ _ hentry _ := entry_setBytes.2 hentry

end SetBytes

/-- Without an entry that goes, a file system has the walks it had before the entry came. -/
theorem grows_unlink {directory : Inode} {name : Name}
    (hold : ∀ i, fs.Entry directory name i → ∃ bytes, fs.node i = some (.file bytes)) : fs.Grows (fs.unlink directory name) :=
  grows_setEntry hold

/-- The walks that need no entry of this name are walks with it. -/
theorem unlink_grows {directory : Inode} {name : Name} : (fs.unlink directory name).Grows fs where
  root := rfl
  working := rfl
  directory i parent entries hnode := by
    by_cases hi : i = directory
    · subst hi
      rw [unlink, setEntry_node, Function.update_self] at hnode
      obtain ⟨old, hold, hnew⟩ := Option.map_eq_some_iff.1 hnode
      cases old with
      | directory parent' entries' =>
        cases hnew
        exact ⟨entries', hold⟩
      | file bytes => cases hnew
      | symlink target => cases hnew
    · rw [unlink, node_setEntry hi] at hnode
      exact ⟨entries, hnode⟩
  symlink i target hnode := by
    by_cases hi : i = directory
    · subst hi
      rw [unlink, setEntry_node, Function.update_self] at hnode
      obtain ⟨old, hold, hnew⟩ := Option.map_eq_some_iff.1 hnode
      cases old with
      | directory parent entries => cases hnew
      | file bytes => cases hnew
      | symlink target' =>
        cases hnew
        exact hold
    · rw [unlink, node_setEntry hi] at hnode
      exact hnode
  entry other name' i hentry _ := by
    by_cases hsame : other = directory ∧ name' = name
    · obtain ⟨rfl, rfl⟩ := hsame
      cases entry_setEntry_self hentry
    · exact (entry_setEntry_ne (not_and_or.1 hsame)).1 hentry

theorem Grows.unlink {after : FileSystem} (h : fs.Grows after) (directory : Inode) (name : Name) :
    (fs.unlink directory name).Grows (after.unlink directory name) where
  root := h.root
  working := h.working
  directory i parent entries hnode := by
    obtain ⟨old, hold⟩ := unlink_grows.directory i parent entries hnode
    obtain ⟨new, hnew⟩ := h.directory i parent old hold
    exact directory_setEntry hnew
  symlink i target hnode := plain_setEntry (h.symlink i target (unlink_grows.symlink i target hnode)) rfl
  entry other name' i hentry hfile := by
    by_cases hsame : other = directory ∧ name' = name
    · obtain ⟨rfl, rfl⟩ := hsame
      cases entry_setEntry_self hentry
    · have hne := not_and_or.1 hsame
      refine (entry_setEntry_ne hne).2 (h.entry other name' i ((entry_setEntry_ne hne).1 hentry) fun bytes hbytes => ?_)
      exact hfile bytes (plain_setEntry hbytes rfl)

end FileSystem

end Files
