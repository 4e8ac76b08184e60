import Swbt.Core.Input
import Swbt.Files.Calls
/-!
# The profile store

A new profile is written to a temporary file next to its target, and published
there by a second name of the file: a hard link, which replaces nothing.
-/

set_option autoImplicit false

open Files

namespace Swbt

def tempCreateAttempts : Nat := 128

/-- `usable_parent`: a path without a parent is one of the working directory. -/
def usableParent (path : Path) : Path :=
  match path.parent with
  | some parent => if parent = Path.empty then ⟨.current, []⟩ else parent
  | none => ⟨.current, []⟩

/-- The name of a temporary file, by the process and its counter. -/
def temporaryName (targetName : Name) (process : Nat) (sequence : UInt64) : Name :=
  "." ++ targetName ++ (".swbt-profile-" ++ toString process ++ "-" ++ toString sequence ++ ".tmp")

/-- The loop of `create_temporary`, which goes on where a name is taken. -/
def attemptTemporary (process : Nat) (parent : Path) (targetName : Name) : (attempts : Nat) → Io (Path × Inode)
  | 0 => throw ⟨.alreadyExists, some "could not allocate a unique profile temporary file"⟩
  | attempts + 1 => do
    let sequence ← Io.fetchAdd
    let temporaryPath := parent.join (temporaryName targetName process sequence)
    match ← Io.outcome (Io.createNew temporaryPath) with
    | .ok file => pure (temporaryPath, file)
    | .error source =>
      if source.kind = .alreadyExists then attemptTemporary process parent targetName attempts else throw source

/-- `create_temporary`. -/
def createTemporary (process : Nat) (parent target : Path) : Io (Path × Inode) :=
  match target.fileName with
  | none => throw ⟨.invalidInput, some "profile creation target must have a file name"⟩
  | some targetName => attemptTemporary process parent targetName tempCreateAttempts

/-- `sync_parent_directory`, which does nothing but on Unix. -/
def syncParentDirectory (unix : Bool) (parent : Path) : Io Unit :=
  if unix then do
    let directory ← Io.openFile parent
    Io.syncAll directory
  else pure ()

/-- The closure `publish`: what is done with the temporary file. -/
def publish (unix : Bool) (parent path temporaryPath : Path) (temporary : Inode) (bytes : List UInt8) : Io Unit := do
  Io.writeAll temporary bytes
  Io.flush temporary
  Io.syncAll temporary
  match ← Io.outcome (Io.hardLink temporaryPath path) with
  | .ok () => pure ()
  | .error source =>
    if ← Io.symlinkMetadata path then throw ⟨.alreadyExists, some "profile creation target already exists"⟩
    else throw source
  Io.removeFile temporaryPath
  syncParentDirectory unix parent

/-- `FileProfileStore::create_new`. -/
def FileProfileStore.createNew (unix : Bool) (process : Nat) (path : Path) (bytes : List UInt8) : Io Unit := do
  let parent := usableParent path
  Io.createDirAll parent
  let (temporaryPath, temporary) ← createTemporary process parent path
  match ← Io.outcome (publish unix parent path temporaryPath temporary bytes) with
  | .ok () => pure ()
  | .error source =>
    let _cleanup ← Io.outcome (Io.removeFile temporaryPath)
    throw source

/-- What `persist_and_configure` reports of it. -/
def persisted (result : Except IoError Unit) : Except Error Unit :=
  result.mapError fun source =>
    if source.kind = .alreadyExists then ⟨.profileAlreadyExists, "profile creation target already exists"⟩
    else ⟨.internal, "pairing profile could not be created"⟩

/-! ## Names -/

theorem temporaryName_ne (targetName : Name) (process : Nat) (sequence : UInt64) :
    temporaryName targetName process sequence ≠ targetName := by
  intro h
  have hlength := congrArg String.length h
  simp only [temporaryName, String.length_append] at hlength
  have hdot : ".".length = 1 := rfl
  omega

/-- A target with a file name is an entry of its usable parent. -/
theorem target_eq_join {path : Path} {name : Name} (h : path.fileName = some name) :
    path.components = (usableParent path).components ++ [.normal name] ∧
      (usableParent path = ⟨path.anchor, path.components.dropLast⟩ ∨
        path.anchor = .relative ∧ usableParent path = ⟨.current, []⟩) := by
  have hconcat := Path.fileName_eq_some.1 h
  have hcomponents : path.components ≠ [] := by
    rw [hconcat]
    exact List.append_ne_nil_of_right_ne_nil _ (List.cons_ne_nil _ _)
  have hparent : path.parent = some ⟨path.anchor, path.components.dropLast⟩ := by rw [Path.parent, if_neg hcomponents]
  unfold usableParent
  rw [hparent]
  dsimp only
  by_cases hempty : (⟨path.anchor, path.components.dropLast⟩ : Path) = Path.empty
  · rw [if_pos hempty]
    have hanchor : path.anchor = .relative := congrArg Path.anchor hempty
    have hnil : path.components.dropLast = [] := congrArg Path.components hempty
    rw [hnil] at hconcat
    exact ⟨hconcat, .inr ⟨hanchor, rfl⟩⟩
  · rw [if_neg hempty]
    exact ⟨hconcat, .inl rfl⟩

theorem fileName_join (parent : Path) (name : Name) : (parent.join name).fileName = some name := by
  rw [Path.fileName_eq_some, Path.join, List.dropLast_concat]

/-- The usable parent of a target is where its entry is. -/
theorem resolves_usableParent {fs : FileSystem} {parent : Path} {name : Name} {directory : Inode} :
    fs.Resolves (usableParent (parent.join name)) directory ↔ fs.Resolves parent directory := by
  obtain ⟨anchor, components⟩ := parent
  have hdropLast : (Path.join ⟨anchor, components⟩ name).components.dropLast = components := List.dropLast_concat
  rcases (target_eq_join (fileName_join ⟨anchor, components⟩ name)).2 with hparent | ⟨hanchor, hparent⟩
  · rw [hparent, hdropLast]
    rfl
  · have hconcat := (target_eq_join (fileName_join ⟨anchor, components⟩ name)).1
    rw [hparent] at hconcat ⊢
    have hnil : components = [] := (List.append_inj' hconcat rfl).1
    have hrelative : anchor = .relative := hanchor
    rw [hnil, hrelative]
    rfl

/-- The target is an entry of what its usable parent resolves to. -/
theorem names_target {fs : FileSystem} {path : Path} {name : Name} (h : path.fileName = some name) {i : Inode} :
    fs.Names path i ↔ ∃ directory, fs.Resolves (usableParent path) directory ∧ fs.Entry directory name i := by
  have hpath : path = Path.join ⟨path.anchor, path.components.dropLast⟩ name := by
    rw [Path.join, ← Path.fileName_eq_some.1 h]
  rw [hpath, FileSystem.names_join]
  exact exists_congr fun directory => and_congr_left fun _ => resolves_usableParent.symm

end Swbt
