import Swbt.Effects.Shared
import Swbt.Files.Changes
/-!
# Calls on files

What a program asks of a file system that it shares, and what each call may do
there. Any call may fail, and then leaves the file system as it is. One that
fails because something exists has found it at its path.
-/

set_option autoImplicit false

open Effects

namespace Files

inductive IoErrorKind
  | notFound
  | alreadyExists
  | invalidInput
  | writeZero
  | other (code : Nat)
deriving DecidableEq

/-- `io::Error`: of the system, or with a message of its own. -/
structure IoError where
  kind : IoErrorKind
  message : Option String
deriving DecidableEq

inductive Call
  | mkdir (path : Path)
  | isDir (path : Path)
  | createNew (path : Path)
  | write (file : Inode) (bytes : List UInt8)
  | flush (file : Inode)
  | syncAll (file : Inode)
  | hardLink (original link : Path)
  | symlinkMetadata (path : Path)
  | removeFile (path : Path)
  | open (path : Path)
  | fetchAdd

abbrev Call.Ans : Call → Type
  | .mkdir _ | .flush _ | .syncAll _ | .hardLink _ _ | .removeFile _ => Except IoErrorKind Unit
  | .createNew _ | .open _ => Except IoErrorKind Inode
  | .write _ _ => Except IoErrorKind Nat
  | .isDir _ | .symlinkMetadata _ => Bool
  | .fetchAdd => UInt64

/-- The calls of a program on files. It writes nowhere else. -/
abbrev FileCalls : Interface := ⟨Call, Call.Ans, Empty⟩

/-! ## What calls do -/

/-- A new node at a path where nothing was. -/
inductive Created (fs : FileSystem) (path : Path) (new : Inode → Node) (i : Inode) : FileSystem → Prop
  | here {parent : Path} {directory : Inode} {name : Name} (hpath : path = parent.join name)
      (hresolves : fs.Resolves parent directory) (hfree : fs.Free directory name) (hfresh : fs.node i = none)
      (hempty : ∀ name, (new directory).entries name = none) (hdirectory : directory ≠ i) :
      Created fs path new i (fs.create directory name i (new directory) hfresh hempty hdirectory)

/-- Another name for what is at `original`, at a path where nothing was. -/
inductive Linked (fs : FileSystem) (original link : Path) : FileSystem → Prop
  | here {parent : Path} {directory i : Inode} {name : Name} {node : Node} (horiginal : fs.Names original i)
      (hnode : fs.node i = some node) (hplain : node.isDirectory = false) (hlink : link = parent.join name)
      (hresolves : fs.Resolves parent directory) (hfree : fs.Free directory name)
      (hvalue : ∀ j ∈ some i, (fs.node j).isSome = true ∧ j ≠ directory) :
      Linked fs original link (fs.setEntry directory name (some i) hvalue)

/-- No name at a path where something was that is no directory. -/
inductive Removed (fs : FileSystem) (path : Path) : FileSystem → Prop
  | here {parent : Path} {directory i : Inode} {name : Name} {node : Node} (hpath : path = parent.join name)
      (hresolves : fs.Resolves parent directory) (hentry : fs.Entry directory name i) (hnode : fs.node i = some node)
      (hplain : node.isDirectory = false) : Removed fs path (fs.unlink directory name)

/-- More bytes at the end of a file. -/
inductive Appended (fs : FileSystem) (file : Inode) (bytes : List UInt8) : FileSystem → Prop
  | here {old : List UInt8} (hold : fs.node file = some (.file old)) :
      Appended fs file bytes (fs.setBytes file (old ++ bytes) ⟨old, hold⟩)

def FileSystem.IsDir (fs : FileSystem) (path : Path) : Prop :=
  ∃ i parent entries, fs.Resolves path i ∧ fs.node i = some (.directory parent entries)

/-- Something is at the path. -/
def FileSystem.Exists (fs : FileSystem) (path : Path) : Prop := ∃ i, fs.Names path i

/-- What a call does, with its answer. -/
def Does (fs : FileSystem) : (call : Call) → call.Ans → FileSystem → Prop
  | .mkdir path, .ok (), after => ∃ i, Created fs path (fun directory => .directory directory fun _ => none) i after
  | .createNew path, .ok i, after => Created fs path (fun _ => .file []) i after
  | .hardLink original link, .ok (), after => Linked fs original link after
  | .mkdir path, .error kind, after | .createNew path, .error kind, after | .hardLink _ path, .error kind, after =>
    after = fs ∧ (kind = .alreadyExists → fs.Exists path)
  | .write file bytes, .ok count, after => count ≤ bytes.length ∧ Appended fs file (bytes.take count) after
  | .removeFile path, .ok (), after => Removed fs path after
  | .open path, .ok i, after => after = fs ∧ fs.Resolves path i
  | .flush _, .ok (), after | .syncAll _, .ok (), after => after = fs
  | .write _ _, .error kind, after | .removeFile _, .error kind, after | .open _, .error kind, after
  | .flush _, .error kind, after | .syncAll _, .error kind, after => after = fs ∧ kind ≠ .alreadyExists
  | .isDir path, answer, after => after = fs ∧ (answer = true → fs.IsDir path)
  | .symlinkMetadata path, answer, after => after = fs ∧ (answer = true → fs.Exists path)
  | .fetchAdd, _, after => after = fs

/-- Another process makes a file, a directory or a link where nothing was. -/
inductive Others (fs : FileSystem) : FileSystem → Prop
  | creates {directory i : Inode} {name : Name} {new : Node} (hfree : fs.Free directory name) (hfresh : fs.node i = none)
      (hempty : ∀ name, new.entries name = none) (hdirectory : directory ≠ i) :
      Others fs (fs.create directory name i new hfresh hempty hdirectory)

def files : World FileCalls FileSystem := ⟨Does, Others⟩

/-! ## Programs on files -/

/-- A program on files that may end in an error. -/
abbrev Io (α : Type) := ExceptT IoError (Act FileCalls Unit) α

namespace Io

variable {α β : Type}

def perform (call : Call) : Io call.Ans := ExceptT.lift (Act.perform (E := FileCalls) call)

/-- `?`, on an answer of the system. -/
def checked (answer : Except IoErrorKind α) : Io α :=
  match answer with
  | .ok a => pure a
  | .error kind => throw ⟨kind, none⟩

/-- The outcome of a program, whichever it is. -/
def outcome (x : Io α) : Io (Except IoError α) := ExceptT.lift x.run

def mkdir (path : Path) : Io Unit := do checked (← perform (.mkdir path))

def isDir (path : Path) : Io Bool := perform (.isDir path)

def createNew (path : Path) : Io Inode := do checked (← perform (.createNew path))

def write (file : Inode) (bytes : List UInt8) : Io Nat := do checked (← perform (.write file bytes))

def flush (file : Inode) : Io Unit := do checked (← perform (.flush file))

def syncAll (file : Inode) : Io Unit := do checked (← perform (.syncAll file))

def hardLink (original link : Path) : Io Unit := do checked (← perform (.hardLink original link))

/-- `symlink_metadata(path).is_ok()`. -/
def symlinkMetadata (path : Path) : Io Bool := perform (.symlinkMetadata path)

def removeFile (path : Path) : Io Unit := do checked (← perform (.removeFile path))

def openFile (path : Path) : Io Inode := do checked (← perform (.open path))

def fetchAdd : Io UInt64 := perform .fetchAdd

/-- `Write::write_all`. A write that is interrupted writes nothing and is made again. -/
def writeAll (file : Inode) (bytes : List UInt8) : Io Unit :=
  match bytes with
  | [] => pure ()
  | byte :: rest => do
    match ← write file (byte :: rest) with
    | 0 => throw ⟨.writeZero, none⟩
    | count + 1 => writeAll file (rest.drop count)
termination_by bytes.length
decreasing_by rw [List.length_drop, List.length_cons]; omega

/-- A directory that could not be made is there if another made it. -/
def existing (path : Path) (source : IoError) : Io Unit := do
  if ← isDir path then pure () else throw source

theorem parent_shorter {path parent : Path} (h : path.parent = some parent) :
    parent.components.length + (if parent.anchor = .current then 1 else 0) <
      path.components.length + if path.anchor = .current then 1 else 0 := by
  unfold Path.parent at h
  split at h
  · rename_i hnil
    split at h
    · rename_i hcurrent
      cases h
      rw [hnil, hcurrent]
      decide
    · cases h
  · rename_i hcomponents
    cases h
    have hlength := List.length_pos_iff.2 hcomponents
    simp only [List.length_dropLast]
    omega

/-- `create_dir_all`. -/
def createDirAll (path : Path) : Io Unit :=
  if path = Path.empty then pure ()
  else do
    match ← outcome (mkdir path) with
    | .ok () => pure ()
    | .error source =>
      if source.kind = .notFound then
        match _h : path.parent with
        | some parent => do
          createDirAll parent
          match ← outcome (mkdir path) with
          | .ok () => pure ()
          | .error source => existing path source
        | none => throw ⟨.other 0, some "failed to create whole tree"⟩
      else existing path source
termination_by path.components.length + if path.anchor = .current then 1 else 0
decreasing_by exact parent_shorter _h

/-! ## What programs guarantee -/

variable (G : Turn FileCalls FileSystem → Prop)

/-- The program takes only turns that satisfy `G`, and where it ends, `Q` holds. -/
def wp (x : Io α) (turns : List (Turn FileCalls FileSystem)) (fs : FileSystem)
    (Q : List (Turn FileCalls FileSystem) → FileSystem → Except IoError α → Prop) : Prop :=
  files.wp G (x.run ()) turns fs fun turns fs _ result => Q turns fs result

variable {G} {turns : List (Turn FileCalls FileSystem)} {fs : FileSystem}

theorem wp_pure {a : α} {Q : List (Turn FileCalls FileSystem) → FileSystem → Except IoError α → Prop} :
    wp G (pure a) turns fs Q ↔ Q turns fs (.ok a) := Iff.rfl

theorem wp_throw {error : IoError} {Q : List (Turn FileCalls FileSystem) → FileSystem → Except IoError α → Prop} :
    wp G (throw error) turns fs Q ↔ Q turns fs (.error error) := Iff.rfl

/-- What a program does after an error: nothing. -/
def onward (f : α → Io β) (Q : List (Turn FileCalls FileSystem) → FileSystem → Except IoError β → Prop)
    (turns : List (Turn FileCalls FileSystem)) (fs : FileSystem) : Except IoError α → Prop
  | .ok a => wp G (f a) turns fs Q
  | .error error => Q turns fs (.error error)

theorem wp_bind {x : Io α} {f : α → Io β} {Q : List (Turn FileCalls FileSystem) → FileSystem → Except IoError β → Prop} :
    wp G (x >>= f) turns fs Q ↔ wp G x turns fs (onward (G := G) f Q) := by
  have hbind := @World.wp_bind _ _ _ _ _ files G (x.run ()) (fun r s => ExceptT.bindCont (fun a => f a) r s) turns fs
    fun turns fs _ result => Q turns fs result
  refine hbind.trans (iff_of_eq (congrArg _ ?_))
  funext turns fs s result
  cases result <;> rfl

theorem wp_mono {x : Io α} {Q Q' : List (Turn FileCalls FileSystem) → FileSystem → Except IoError α → Prop}
    (hx : wp G x turns fs Q) (hQ : ∀ turns fs result, Q turns fs result → Q' turns fs result) : wp G x turns fs Q' :=
  World.wp_mono hx fun turns fs _ result => hQ turns fs result

theorem wp_outcome {x : Io α} {Q : List (Turn FileCalls FileSystem) → FileSystem → Except IoError (Except IoError α) → Prop} :
    wp G (outcome x) turns fs Q ↔ wp G x turns fs fun turns fs result => Q turns fs (.ok result) :=
  World.wp_bind _ _ _ _ _

/-- A call from an assertion that others keep. -/
theorem wp_perform {call : Call} {Q : List (Turn FileCalls FileSystem) → FileSystem → Except IoError call.Ans → Prop}
    {R : FileSystem → Prop} (hstable : ∀ fs fs', R fs → Others fs fs' → R fs') (hR : R fs)
    (hcall : ∀ fs' ans fs'', R fs' → Does fs' call ans fs'' →
      G ⟨fs', call, ans, fs''⟩ ∧ Q (⟨fs', call, ans, fs''⟩ :: turns) fs'' (.ok ans)) :
    wp G (perform call) turns fs Q :=
  World.wp_call (E := FileCalls) hstable hR hcall

/-- A call, and what follows its answer. -/
theorem wp_call {call : Call} {k : call.Ans → Io α} {Q : List (Turn FileCalls FileSystem) → FileSystem → Except IoError α → Prop}
    {R : FileSystem → Prop} (hstable : ∀ fs fs', R fs → Others fs fs' → R fs') (hR : R fs)
    (hcall : ∀ fs' ans fs'', R fs' → Does fs' call ans fs'' →
      G ⟨fs', call, ans, fs''⟩ ∧ wp G (k ans) (⟨fs', call, ans, fs''⟩ :: turns) fs'' Q) :
    wp G (perform call >>= k) turns fs Q :=
  wp_bind.2 (wp_perform hstable hR hcall)

end Io

end Files
