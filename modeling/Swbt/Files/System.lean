import Mathlib.Logic.Function.Basic
import Mathlib.Data.List.Infix
/-!
# File systems

Files, directories and symbolic links, by the numbers of their nodes, and the
paths that lead to them. A file may have several names (hard links); a directory
is no entry of its own.

What a path resolves to is a relation: `Walk` follows every link on its way, and
`Names` leaves the last component as it is.
-/

set_option autoImplicit false

namespace Files

/-! ## Paths -/

abbrev Name := String

inductive Component
  | parent
  | normal (name : Name)
deriving DecidableEq

/-- What a path starts with: a root, a dot, or neither. -/
inductive Anchor
  | root
  | current
  | relative
deriving DecidableEq

structure Path where
  anchor : Anchor
  components : List Component
deriving DecidableEq

namespace Path

/-- `Path::parent`. -/
def parent (path : Path) : Option Path :=
  if path.components = [] then if path.anchor = .current then some ⟨.relative, []⟩ else none
  else some ⟨path.anchor, path.components.dropLast⟩

/-- `Path::file_name`. -/
def fileName (path : Path) : Option Name :=
  match path.components.getLast? with
  | some (.normal name) => some name
  | _ => none

/-- `Path::join`, of a name. -/
def join (path : Path) (name : Name) : Path := ⟨path.anchor, path.components ++ [.normal name]⟩

/-- The empty path. -/
def empty : Path := ⟨.relative, []⟩

theorem fileName_eq_some {path : Path} {name : Name} :
    path.fileName = some name ↔ path.components = path.components.dropLast ++ [.normal name] := by
  unfold fileName
  rcases path.components.eq_nil_or_concat with hnil | ⟨init, last, hconcat⟩
  · simp [hnil]
  · rw [hconcat, List.concat_eq_append, List.getLast?_concat, List.dropLast_concat]
    cases last <;> simp

end Path

/-! ## Nodes -/

abbrev Inode := Nat

inductive Node
  | file (bytes : List UInt8)
  | directory (parent : Inode) (entries : Name → Option Inode)
  | symlink (target : Path)

def Node.isDirectory : Node → Bool
  | .directory _ _ => true
  | .file _ | .symlink _ => false

/-- The entries of a node, which are none unless it is a directory. -/
def Node.entries : Node → Name → Option Inode
  | .directory _ entries => entries
  | .file _ | .symlink _ => fun _ => none

structure FileSystem where
  node : Inode → Option Node
  root : Inode
  working : Inode
  closed : ∀ directory found name i, node directory = some found → found.entries name = some i → (node i).isSome = true
  proper : ∀ directory found name, node directory = some found → found.entries name ≠ some directory

namespace FileSystem

variable (fs : FileSystem)

/-- The directory has this entry. -/
def Entry (directory : Inode) (name : Name) (i : Inode) : Prop :=
  ∃ parent entries, fs.node directory = some (.directory parent entries) ∧ entries name = some i

/-- The directory has no entry of this name. -/
def Free (directory : Inode) (name : Name) : Prop :=
  ∃ parent entries, fs.node directory = some (.directory parent entries) ∧ entries name = none

/-- Where a path begins, from a directory. -/
def start (directory : Inode) (anchor : Anchor) : Inode := if anchor = .root then fs.root else directory

/-- From a directory the components lead to this node. -/
inductive Walk : Inode → List Component → Inode → Prop
  | stay (directory : Inode) : Walk directory [] directory
  | up {directory parent : Inode} {entries : Name → Option Inode} {rest : List Component} {i : Inode}
      (hnode : fs.node directory = some (.directory parent entries)) (hrest : Walk parent rest i) :
      Walk directory (.parent :: rest) i
  | down {directory j : Inode} {name : Name} {rest : List Component} {i : Inode} (hentry : fs.Entry directory name j)
      (hreal : ∀ target, fs.node j ≠ some (.symlink target)) (hrest : Walk j rest i) : Walk directory (.normal name :: rest) i
  | follow {directory j : Inode} {name : Name} {target : Path} {rest : List Component} {i : Inode}
      (hentry : fs.Entry directory name j) (hlink : fs.node j = some (.symlink target))
      (hrest : Walk (fs.start directory target.anchor) (target.components ++ rest) i) :
      Walk directory (.normal name :: rest) i

/-- The path leads to this node, through every link. -/
def Resolves (path : Path) (i : Inode) : Prop := fs.Walk (fs.start fs.working path.anchor) path.components i

/-- The path leads to this node, which may itself be a link. -/
def Names (path : Path) (i : Inode) : Prop :=
  match path.fileName with
  | some name => ∃ directory, fs.Resolves ⟨path.anchor, path.components.dropLast⟩ directory ∧ fs.Entry directory name i
  | none => fs.Resolves path i

variable {fs}

theorem Entry.unique {directory i j : Inode} {name : Name} (h : fs.Entry directory name i) (h' : fs.Entry directory name j) :
    i = j := by
  obtain ⟨parent, entries, hnode, hentry⟩ := h
  obtain ⟨parent', entries', hnode', hentry'⟩ := h'
  rw [hnode] at hnode'
  cases hnode'
  exact Option.some.inj (hentry.symm.trans hentry')

theorem Entry.not_free {directory i : Inode} {name : Name} (h : fs.Entry directory name i) : ¬ fs.Free directory name := by
  obtain ⟨parent, entries, hnode, hentry⟩ := h
  rintro ⟨parent', entries', hnode', hfree⟩
  rw [hnode] at hnode'
  cases hnode'
  rw [hentry] at hfree
  cases hfree

theorem Entry.exists_node {directory i : Inode} {name : Name} (h : fs.Entry directory name i) : ∃ node, fs.node i = some node := by
  obtain ⟨parent, entries, hnode, hentry⟩ := h
  exact Option.isSome_iff_exists.1 (fs.closed directory _ name i hnode hentry)

theorem Entry.ne {directory i : Inode} {name : Name} (h : fs.Entry directory name i) : i ≠ directory := by
  obtain ⟨parent, entries, hnode, hentry⟩ := h
  rintro rfl
  exact fs.proper i _ name hnode hentry

/-- Components lead to one node at most. -/
theorem Walk.unique {directory i j : Inode} {components : List Component} (h : fs.Walk directory components i)
    (h' : fs.Walk directory components j) : i = j := by
  induction h with
  | stay =>
    cases h'
    rfl
  | up hnode hrest ih =>
    cases h' with
    | up hnode' hrest' =>
      rw [hnode] at hnode'
      cases hnode'
      exact ih hrest'
  | down hentry hreal hrest ih =>
    cases h' with
    | down hentry' hreal' hrest' =>
      cases hentry.unique hentry'
      exact ih hrest'
    | follow hentry' hlink' hrest' =>
      cases hentry.unique hentry'
      exact absurd hlink' (hreal _)
  | follow hentry hlink hrest ih =>
    cases h' with
    | down hentry' hreal' hrest' =>
      cases hentry.unique hentry'
      exact absurd hlink (hreal' _)
    | follow hentry' hlink' hrest' =>
      cases hentry.unique hentry'
      rw [hlink] at hlink'
      cases hlink'
      exact ih hrest'

theorem Walk.append {directory i j : Inode} {front back : List Component} (h : fs.Walk directory front i)
    (h' : fs.Walk i back j) : fs.Walk directory (front ++ back) j := by
  induction h with
  | stay => exact h'
  | up hnode hrest ih => exact .up hnode (ih h')
  | down hentry hreal hrest ih => exact .down hentry hreal (ih h')
  | follow hentry hlink hrest ih =>
    have hlater := ih h'
    rw [List.append_assoc] at hlater
    exact .follow hentry hlink hlater

/-- A walk passes a node at every one of its components. -/
theorem Walk.split {directory j : Inode} {front back : List Component} (h : fs.Walk directory (front ++ back) j) :
    ∃ i, fs.Walk directory front i ∧ fs.Walk i back j := by
  generalize hwhole : front ++ back = components at h
  induction h generalizing front with
  | stay directory =>
    obtain ⟨rfl, rfl⟩ := List.append_eq_nil_iff.1 hwhole
    exact ⟨directory, .stay _, .stay _⟩
  | @up directory parent entries rest i hnode hrest ih =>
    cases front with
    | nil =>
      cases hwhole
      exact ⟨directory, .stay _, .up hnode hrest⟩
    | cons first front =>
      cases hwhole
      obtain ⟨middle, hfront, hback⟩ := ih rfl
      exact ⟨middle, .up hnode hfront, hback⟩
  | @down directory k name rest i hentry hreal hrest ih =>
    cases front with
    | nil =>
      cases hwhole
      exact ⟨directory, .stay _, .down hentry hreal hrest⟩
    | cons first front =>
      cases hwhole
      obtain ⟨middle, hfront, hback⟩ := ih rfl
      exact ⟨middle, .down hentry hreal hfront, hback⟩
  | @follow directory k name target rest i hentry hlink hrest ih =>
    cases front with
    | nil =>
      cases hwhole
      exact ⟨directory, .stay _, .follow hentry hlink hrest⟩
    | cons first front =>
      cases hwhole
      obtain ⟨middle, hfront, hback⟩ := ih (List.append_assoc _ _ _)
      exact ⟨middle, .follow hentry hlink hfront, hback⟩

/-- A walk over a name finds the entry. -/
theorem Walk.entry {directory i : Inode} {name : Name} {rest : List Component}
    (h : fs.Walk directory (.normal name :: rest) i) : ∃ j, fs.Entry directory name j := by
  cases h with
  | down hentry => exact ⟨_, hentry⟩
  | follow hentry => exact ⟨_, hentry⟩

/-- A path with a file name is one of an entry of its parent. -/
theorem names_join {path : Path} {name : Name} {i : Inode} :
    fs.Names (path.join name) i ↔ ∃ directory, fs.Resolves path directory ∧ fs.Entry directory name i := by
  have hname : (path.join name).fileName = some name := by
    rw [Path.fileName_eq_some, Path.join, List.dropLast_concat]
  unfold Names
  rw [hname, Path.join, List.dropLast_concat]

/-- Where a path names something, it finds an entry at every name on its way. -/
theorem Names.passes {path : Path} {i : Inode} (h : fs.Names path i) {front back : List Component} {name : Name}
    (hpath : path.components = front ++ .normal name :: back) :
    ∃ directory, fs.Walk (fs.start fs.working path.anchor) front directory ∧ ∃ j, fs.Entry directory name j := by
  unfold Names Resolves at h
  cases hname : path.fileName with
  | none =>
    rw [hname, hpath] at h
    obtain ⟨directory, hfront, hback⟩ := Walk.split h
    exact ⟨directory, hfront, hback.entry⟩
  | some last =>
    rw [hname] at h
    obtain ⟨directory, hwalk, hentry⟩ := h
    have hconcat := Path.fileName_eq_some.1 hname
    rcases back.eq_nil_or_concat with rfl | ⟨init, final, rfl⟩
    · rw [hconcat] at hpath
      obtain ⟨hfront, hlast⟩ := List.append_inj' hpath rfl
      cases hlast
      rw [hfront] at hwalk
      exact ⟨directory, hwalk, i, hentry⟩
    · rw [hpath, List.concat_eq_append, ← List.cons_append, ← List.append_assoc, List.dropLast_concat] at hwalk
      obtain ⟨middle, hfront, hback⟩ := Walk.split hwalk
      exact ⟨middle, hfront, hback.entry⟩

/-! ## What keeps walks -/

variable (fs) in
/-- Directories and links stay where they are and as they are; directories may get entries. -/
structure Grows (after : FileSystem) : Prop where
  root : after.root = fs.root
  working : after.working = fs.working
  directory : ∀ i parent entries, fs.node i = some (.directory parent entries) → ∃ entries',
    after.node i = some (.directory parent entries')
  symlink : ∀ i target, fs.node i = some (.symlink target) → after.node i = some (.symlink target)
  entry : ∀ directory name i, fs.Entry directory name i → (∀ bytes, fs.node i ≠ some (.file bytes)) →
    after.Entry directory name i

theorem Grows.start {after : FileSystem} (h : fs.Grows after) (directory : Inode) (anchor : Anchor) :
    after.start directory anchor = fs.start directory anchor := by
  unfold FileSystem.start
  rw [h.root]

/-- A walk to a directory stays one. -/
theorem Walk.grows {after : FileSystem} (h : fs.Grows after) {directory i : Inode} {components : List Component}
    (hwalk : fs.Walk directory components i) (hdirectory : ∃ parent entries, fs.node i = some (.directory parent entries)) :
    after.Walk directory components i := by
  have hfirst : ∀ {components : List Component} {j : Inode}, fs.Walk j components i → ∀ bytes, fs.node j ≠ some (.file bytes) := by
    intro components j hwalk bytes hfile
    cases hwalk with
    | stay =>
      obtain ⟨parent, entries, hnode⟩ := hdirectory
      rw [hfile] at hnode
      cases hnode
    | up hnode =>
      rw [hfile] at hnode
      cases hnode
    | down hentry =>
      obtain ⟨parent, entries, hnode, -⟩ := hentry
      rw [hfile] at hnode
      cases hnode
    | follow hentry =>
      obtain ⟨parent, entries, hnode, -⟩ := hentry
      rw [hfile] at hnode
      cases hnode
  induction hwalk with
  | stay => exact .stay _
  | up hnode hrest ih =>
    obtain ⟨entries', hafter⟩ := h.directory _ _ _ hnode
    exact .up hafter (ih hdirectory hfirst)
  | @down directory j name rest i hentry hreal hrest ih =>
    have hnotfile := hfirst hrest
    refine .down (h.entry _ _ _ hentry hnotfile) (fun target hlink => ?_) (ih hdirectory hfirst)
    obtain ⟨found, hfound⟩ := hentry.exists_node
    cases found with
    | file bytes => exact hnotfile bytes hfound
    | symlink other => exact hreal other hfound
    | directory parent entries =>
      obtain ⟨entries', hafter⟩ := h.directory _ _ _ hfound
      rw [hlink] at hafter
      cases hafter
  | follow hentry hlink hrest ih =>
    refine .follow (h.entry _ _ _ hentry fun bytes hfile => ?_) (h.symlink _ _ hlink) ?_
    · rw [hlink] at hfile
      cases hfile
    · rw [h.start]
      exact ih hdirectory hfirst

theorem Resolves.grows {after : FileSystem} (h : fs.Grows after) {path : Path} {i : Inode} (hresolves : fs.Resolves path i)
    (hdirectory : ∃ parent entries, fs.node i = some (.directory parent entries)) : after.Resolves path i := by
  unfold Resolves
  rw [h.start, h.working]
  exact Walk.grows h hresolves hdirectory

end FileSystem

end Files
