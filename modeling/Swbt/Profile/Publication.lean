import Swbt.Profile.Store
/-!
# Creating a profile

Whatever fails and wherever the process stops, a profile that is created
replaces nothing and appears complete. That it exists already is said only
where something is at its path, but for three cases: a directory that its path
leaves again by `..`, something in the way of its parents, and temporary names
that are all taken.
-/

set_option autoImplicit false

open Effects Files

namespace Swbt

abbrev FileTurn := Turn FileCalls FileSystem

/-! ## The contract -/

/-- A turn leaves what is at the target, and makes nothing appear there but the whole file. -/
structure Contract (path : Path) (bytes : List UInt8) (before after : FileSystem) : Prop where
  kept : ∀ i, before.Names path i → after.Names path i ∧ after.node i = before.node i
  complete : ¬ before.Exists path → ∀ i, after.Names path i → after.node i = some (.file bytes)

/-- A directory is made that the path leaves again by `..`. -/
def BacksOut (path : Path) (turn : FileTurn) : Prop :=
  ∃ (made : Path) (w₀ w₁ : FileSystem), turn = ⟨w₀, .mkdir made, .ok (), w₁⟩ ∧ made.anchor = path.anchor ∧
    made.components ++ [.parent] <+: path.components

/-- A parent of the target was found taken, and not found to be a directory. -/
def Blocked (turns : List FileTurn) : Prop :=
  ∃ (dir : Path) (later earlier : List FileTurn) (w₀ w₁ w₂ w₃ : FileSystem),
    turns = later ++ ⟨w₂, .isDir dir, false, w₃⟩ :: ⟨w₀, .mkdir dir, .error .alreadyExists, w₁⟩ :: earlier

/-- The name of a temporary file was found taken. -/
def takenName (turn : FileTurn) : Bool :=
  match turn with
  | ⟨_, .createNew _, .error .alreadyExists, _⟩ => true
  | _ => false

/-- None of the three cases came up. -/
structure Undisturbed (path : Path) (turns : List FileTurn) : Prop where
  forward : ∀ turn ∈ turns, ¬ BacksOut path turn
  unblocked : ¬ Blocked turns
  named : turns.countP takenName < tempCreateAttempts

/-- The target is the only name of a file with these bytes. -/
def Published (path : Path) (bytes : List UInt8) (fs : FileSystem) : Prop :=
  ∃ name directory file, path.fileName = some name ∧ fs.Resolves (usableParent path) directory ∧
    fs.node file = some (.file bytes) ∧ ∀ other name', fs.Entry other name' file ↔ other = directory ∧ name' = name

variable {path : Path} {bytes : List UInt8} {before after fs : FileSystem} {turns : List FileTurn}

/-- What the turns of `create_new` satisfy. -/
def Guarantee (path : Path) (bytes : List UInt8) (turn : FileTurn) : Prop :=
  BacksOut path turn ∨ Contract path bytes turn.before turn.after

theorem Contract.refl : Contract path bytes fs fs where
  kept _ h := ⟨h, rfl⟩
  complete hnone i h := absurd ⟨i, h⟩ hnone

/-! ## The place of the target -/

theorem isDirectory_of_entry {directory i : Inode} {name : Name} (h : fs.Entry directory name i) :
    ∃ parent entries, fs.node directory = some (.directory parent entries) := by
  obtain ⟨parent, entries, hnode, -⟩ := h
  exact ⟨parent, entries, hnode⟩

theorem isDirectory_of_free {directory : Inode} {name : Name} (h : fs.Free directory name) :
    ∃ parent entries, fs.node directory = some (.directory parent entries) := by
  obtain ⟨parent, entries, hnode, -⟩ := h
  exact ⟨parent, entries, hnode⟩

/-- A turn that keeps the entry of the target and its node keeps the contract. -/
theorem Contract.ofPlace {name : Name} {directory : Inode} (hname : path.fileName = some name)
    (hbefore : before.Resolves (usableParent path) directory) (hafter : after.Resolves (usableParent path) directory)
    (hentry : ∀ i, after.Entry directory name i ↔ before.Entry directory name i)
    (hnode : ∀ i, before.Entry directory name i → after.node i = before.node i) : Contract path bytes before after where
  kept i h := by
    obtain ⟨other, hother, hi⟩ := (names_target hname).1 h
    cases hother.unique hbefore
    exact ⟨(names_target hname).2 ⟨directory, hafter, (hentry i).2 hi⟩, hnode i hi⟩
  complete hnone i h := by
    obtain ⟨other, hother, hi⟩ := (names_target hname).1 h
    cases hother.unique hafter
    exact absurd ⟨i, (names_target hname).2 ⟨directory, hbefore, (hentry i).1 hi⟩⟩ hnone

theorem join_injective {parent other : Path} {name name' : Name} (h : parent.join name = other.join name') :
    parent = other ∧ name = name' := by
  obtain ⟨anchor, components⟩ := parent
  obtain ⟨anchor', components'⟩ := other
  have hanchor : anchor = anchor' := congrArg Path.anchor h
  obtain ⟨hcomponents, hlast⟩ := List.append_inj' (congrArg Path.components h) rfl
  cases hlast
  exact ⟨by rw [hanchor, show components = components' from hcomponents], rfl⟩

/-! ## Directories that are made -/

/-- A parent of the target, or the working directory. -/
def Parental (path dir : Path) : Prop :=
  dir.components = [] ∨ dir.anchor = path.anchor ∧ ∃ next rest, path.components = dir.components ++ next :: rest

theorem parental_usableParent (path : Path) : Parental path (usableParent path) := by
  unfold usableParent
  cases hparent : path.parent with
  | none => exact .inl rfl
  | some parent =>
    dsimp only
    split
    · exact .inl rfl
    · unfold Path.parent at hparent
      split at hparent
      · split at hparent
        · cases hparent
          exact .inl rfl
        · cases hparent
      · rename_i hcomponents
        cases hparent
        exact .inr ⟨rfl, _, [], (List.dropLast_append_getLast hcomponents).symm⟩

theorem Parental.parent {dir parent : Path} (h : Parental path dir) (hparent : dir.parent = some parent) :
    Parental path parent := by
  unfold Path.parent at hparent
  split at hparent
  · split at hparent
    · cases hparent
      exact .inl rfl
    · cases hparent
  · rename_i hcomponents
    cases hparent
    rcases h with hnil | ⟨hanchor, next, rest, hpath⟩
    · exact absurd hnil hcomponents
    · refine .inr ⟨hanchor, dir.components.getLast hcomponents, next :: rest, ?_⟩
      have hdir := List.dropLast_append_getLast hcomponents
      calc path.components = dir.components ++ next :: rest := hpath
        _ = dir.components.dropLast ++ [dir.components.getLast hcomponents] ++ next :: rest := by rw [hdir]
        _ = _ := List.append_assoc _ _ _

/-- A directory is made where nothing was on the way to the target, so the target
appears only if the way goes back out of it. -/
theorem mkdir_guarantee {dir : Path} (hdir : Parental path dir) {ans : Except IoErrorKind Unit}
    (hdoes : Does before (.mkdir dir) ans after) : Guarantee path bytes ⟨before, .mkdir dir, ans, after⟩ := by
  cases ans with
  | error kind =>
    obtain ⟨rfl, -⟩ := hdoes
    exact .inr .refl
  | ok =>
    obtain ⟨made, hcreated⟩ := hdoes
    cases hcreated with
    | @here parent directory name hpath hresolves hfree hfresh hempty hdirectory =>
      subst hpath
      rcases hdir with hnil | ⟨hanchor, next, rest, hway⟩
      · exact absurd hnil (List.append_ne_nil_of_right_ne_nil _ (List.cons_ne_nil _ _))
      · have hfront : path.components = parent.components ++ .normal name :: next :: rest := by
          rw [hway, Path.join, List.append_assoc]
          rfl
        have habsent : ∀ i, ¬ before.Names path i := by
          intro i hnames
          obtain ⟨other, hother, j, hentry⟩ := hnames.passes hfront
          rw [← hanchor] at hother
          cases hother.unique hresolves
          exact hentry.not_free hfree
        have hgrows : before.Grows (before.create directory name made _ hfresh hempty hdirectory) := hfree.grows_create
        have hafter := hresolves.grows hgrows (isDirectory_of_free hfree)
        refine or_iff_not_imp_left.2 fun hforward => ⟨fun i h => absurd h (habsent i), fun hnone i h => ?_⟩
        cases next with
        | parent =>
          refine absurd ⟨parent.join name, _, _, rfl, hanchor, ⟨rest, ?_⟩⟩ hforward
          rw [hway, List.append_assoc]
          rfl
        | normal next =>
          -- The new directory has no entry for the way to go on.
          have hback : path.components = (parent.components ++ [.normal name]) ++ .normal next :: rest := by
            rw [hfront, List.append_assoc]
            rfl
          obtain ⟨other, hother, j, hentry⟩ := h.passes hback
          rw [← hanchor] at hother
          have hinto := FileSystem.Walk.append hafter (.down hfree.entry_create (fun target hlink => by
            rw [FileSystem.node_create_self] at hlink
            cases hlink) (.stay made))
          cases hother.unique hinto
          obtain ⟨up, entries, hnode, hfound⟩ := hentry
          rw [FileSystem.node_create_self] at hnode
          cases hnode
          cases hfound

theorem stable_true : ∀ fs fs', True → Others fs fs' → True := fun _ _ _ _ => trivial

/-- What making a directory satisfies: an error that says that something exists comes after one that found it so. -/
theorem wp_existing {dir : Path} {source : IoError} {w₀ w₁ : FileSystem} {kind : IoErrorKind} {earlier : List FileTurn}
    (hsource : source.kind = kind) :
    Io.wp (Guarantee path bytes) (Io.existing dir source) (⟨w₀, .mkdir dir, .error kind, w₁⟩ :: earlier) fs
      fun turns _ result => ∀ error, result = .error error → error.kind = .alreadyExists → Blocked turns := by
  unfold Io.existing Io.isDir
  refine Io.wp_call stable_true trivial fun fs' ans fs'' _ hdoes => ?_
  obtain ⟨rfl, -⟩ := hdoes
  refine ⟨.inr .refl, ?_⟩
  cases ans with
  | true => exact nofun
  | false =>
    rintro error herror hkind
    cases herror
    rw [hsource] at hkind
    subst hkind
    exact ⟨dir, [], earlier, w₀, w₁, _, _, rfl⟩

/-- The turn that makes a directory comes last. -/
theorem wp_mkdir {dir : Path} (hdir : Parental path dir) :
    Io.wp (Guarantee path bytes) (Io.outcome (Io.mkdir dir)) turns fs fun turns' _ result =>
      ∃ outcome, result = .ok outcome ∧ ∀ source, outcome = .error source →
        ∃ w₀ w₁, turns' = ⟨w₀, .mkdir dir, .error source.kind, w₁⟩ :: turns := by
  rw [Io.wp_outcome]
  unfold Io.mkdir
  refine Io.wp_call stable_true trivial fun fs' ans fs'' _ hdoes => ⟨mkdir_guarantee hdir hdoes, ?_⟩
  cases ans with
  | ok => exact ⟨_, rfl, nofun⟩
  | error kind =>
    refine ⟨_, rfl, ?_⟩
    rintro source hsource
    cases hsource
    exact ⟨_, _, rfl⟩

/-- All the parents of the target are made so. -/
theorem wp_createDirAll {dir : Path} (hdir : Parental path dir) :
    Io.wp (Guarantee path bytes) (Io.createDirAll dir) turns fs
      fun turns _ result => ∀ error, result = .error error → error.kind = .alreadyExists → Blocked turns := by
  induction hsize : dir.components.length + (if dir.anchor = .current then 1 else 0) using Nat.strong_induction_on
    generalizing dir turns fs with
  | _ size ih =>
    rw [Io.createDirAll]
    split
    · exact nofun
    · refine Io.wp_bind.2 (Io.wp_mono (wp_mkdir hdir) fun turns' fs' result hresult => ?_)
      obtain ⟨outcome, rfl, hsource⟩ := hresult
      cases outcome with
      | ok => exact nofun
      | error source =>
        obtain ⟨w₀, w₁, rfl⟩ := hsource source rfl
        dsimp only [Io.onward]
        split
        · split
          · rename_i parent hparent
            have hshorter := Io.parent_shorter hparent
            rw [hsize] at hshorter
            refine Io.wp_bind.2 (Io.wp_mono (ih _ hshorter (hdir.parent hparent) rfl) fun turns' fs' result hmade => ?_)
            cases result with
            | error error => exact hmade
            | ok =>
              refine Io.wp_bind.2 (Io.wp_mono (wp_mkdir hdir) fun turns' fs' result hresult => ?_)
              obtain ⟨outcome, rfl, hsource⟩ := hresult
              cases outcome with
              | ok => exact nofun
              | error source =>
                obtain ⟨w₂, w₃, rfl⟩ := hsource source rfl
                exact wp_existing rfl
          · intro error herror hkind
            cases herror
            cases hkind
        · exact wp_existing rfl

/-! ## The temporary file -/

/-- The directory of the target, found without the entry of the temporary file. -/
structure Place (path : Path) (temporary : Name) (directory : Inode) (fs : FileSystem) : Prop where
  walk : (fs.unlink directory temporary).Resolves (usableParent path) directory
  isDirectory : ∃ parent entries, fs.node directory = some (.directory parent entries)

/-- A file with these bytes, and its names in one directory. -/
structure Holds (directory file : Inode) (content : List UInt8) (names : List Name) (fs : FileSystem) : Prop where
  node : fs.node file = some (.file content)
  entries : ∀ other name, fs.Entry other name file ↔ other = directory ∧ name ∈ names

variable {directory file : Inode} {content : List UInt8} {names : List Name} {temporary : Name}

theorem Place.resolves (h : Place path temporary directory fs) : fs.Resolves (usableParent path) directory := by
  obtain ⟨parent, entries, hnode⟩ := h.isDirectory
  exact h.walk.grows FileSystem.unlink_grows ⟨parent, FileSystem.directory_setEntry hnode⟩

theorem Place.grows (h : Place path temporary directory before) (hgrows : before.Grows after) :
    Place path temporary directory after := by
  obtain ⟨parent, entries, hnode⟩ := h.isDirectory
  obtain ⟨entries', hafter⟩ := hgrows.directory _ _ _ hnode
  exact ⟨h.walk.grows (hgrows.unlink directory temporary) ⟨parent, FileSystem.directory_setEntry hnode⟩, parent, entries', hafter⟩

/-- The place stays when the entry of the temporary file goes, whatever it led to. -/
theorem Place.unlink (h : Place path temporary directory fs) : Place path temporary directory (fs.unlink directory temporary) := by
  obtain ⟨parent, entries, hnode⟩ := h.isDirectory
  have hdirectory : ∃ entries', (fs.unlink directory temporary).node directory = some (.directory parent entries') :=
    FileSystem.directory_setEntry hnode
  refine ⟨h.walk.grows (FileSystem.grows_unlink fun i hentry => ?_) ⟨parent, hdirectory⟩, parent, hdirectory⟩
  cases FileSystem.entry_setEntry_self hentry

theorem Others.grows (h : Others before after) : before.Grows after := by
  cases h with
  | creates hfree => exact hfree.grows_create

theorem Place.others (h : Place path temporary directory before) (hothers : Others before after) :
    Place path temporary directory after := h.grows (Others.grows hothers)

theorem Holds.others (h : Holds directory file content names before) (hothers : Others before after) :
    Holds directory file content names after := by
  cases hothers with
  | @creates other i name new hfree hfresh hempty hother =>
    have hi : file ≠ i := by
      rintro rfl
      rw [h.node] at hfresh
      cases hfresh
    have hfile : file ≠ other := by
      rintro rfl
      obtain ⟨parent, entries, hnode, -⟩ := hfree
      rw [h.node] at hnode
      cases hnode
    refine ⟨by rw [FileSystem.node_create hfile hi]; exact h.node, fun other' name' => ?_⟩
    rw [← h.entries]
    by_cases hsame : other' = other ∧ name' = name
    · obtain ⟨rfl, rfl⟩ := hsame
      exact iff_of_false (fun hentry => hi (FileSystem.entry_create_self hentry)) fun hentry => hentry.not_free hfree
    · exact FileSystem.entry_create_ne (not_and_or.1 hsame)

/-- What is at the target path, by its place. -/
def Taken (path : Path) (fs : FileSystem) : Prop :=
  ∃ name directory i, path.fileName = some name ∧ fs.Resolves (usableParent path) directory ∧ fs.Entry directory name i

theorem Taken.exists (h : Taken path fs) : fs.Exists path := by
  obtain ⟨name, directory, i, hname, hresolves, hentry⟩ := h
  exact ⟨i, (names_target hname).2 ⟨directory, hresolves, hentry⟩⟩

theorem taken_of_exists {name : Name} (hname : path.fileName = some name) (h : fs.Exists path) : Taken path fs := by
  obtain ⟨i, hnames⟩ := h
  obtain ⟨directory, hresolves, hentry⟩ := (names_target hname).1 hnames
  exact ⟨name, directory, i, hname, hresolves, hentry⟩

theorem Taken.kept (h : Taken path before) (hcontract : Contract path bytes before after) : Taken path after := by
  obtain ⟨name, directory, i, hname, hresolves, hentry⟩ := h
  exact taken_of_exists hname ⟨i, (hcontract.kept i ((names_target hname).2 ⟨directory, hresolves, hentry⟩)).1⟩

theorem Taken.others (h : Taken path before) (hothers : Others before after) : Taken path after := by
  obtain ⟨name, directory, i, hname, hresolves, hentry⟩ := h
  refine ⟨name, directory, i, hname, hresolves.grows (Others.grows hothers) (isDirectory_of_entry hentry), ?_⟩
  cases hothers with
  | @creates other j name' new hfree hfresh hempty hother =>
    refine (FileSystem.entry_create_ne ?_).2 hentry
    by_contra hsame
    obtain ⟨hother', hname'⟩ := not_or.1 hsame
    rw [not_not.1 hother', not_not.1 hname'] at hentry
    exact hentry.not_free hfree

/-- A new temporary file is one of its own beside the target. -/
theorem created_temporary {name : Name} (hname : path.fileName = some name) (hne : temporary ≠ name)
    (hcreated : Created before ((usableParent path).join temporary) (fun _ => .file []) file after) :
    Contract path bytes before after ∧
      ∃ directory, Place path temporary directory after ∧ Holds directory file [] [temporary] after := by
  generalize hpath : (usableParent path).join temporary = temporaryPath at hcreated
  cases hcreated with
  | @here parent directory name' hjoin hresolves hfree hfresh hempty hdirectory =>
    subst hjoin
    obtain ⟨rfl, rfl⟩ := join_injective hpath
    have hgrows : before.Grows (before.create directory temporary file (.file []) hfresh hempty hdirectory) :=
      hfree.grows_create
    have hafter := hresolves.grows hgrows (isDirectory_of_free hfree)
    have hplace : Place path temporary directory before := by
      obtain ⟨parent, entries, hnode⟩ := isDirectory_of_free hfree
      refine ⟨hresolves.grows (FileSystem.grows_unlink fun i hentry => absurd hfree hentry.not_free) ?_, parent, entries, hnode⟩
      exact ⟨parent, entries, hnode⟩
    refine ⟨.ofPlace hname hresolves hafter (fun i => FileSystem.entry_create_ne (.inr hne.symm)) fun i hentry => ?_,
      directory, hplace.grows hgrows, FileSystem.node_create_self, fun other name' => ?_⟩
    · refine FileSystem.node_create hentry.ne ?_
      rintro rfl
      obtain ⟨found, hfound⟩ := hentry.exists_node
      rw [hfresh] at hfound
      cases hfound
    · constructor
      · intro hentry
        by_cases hsame : other = directory ∧ name' = temporary
        · exact ⟨hsame.1, List.mem_singleton.2 hsame.2⟩
        · obtain ⟨found, hfound⟩ := ((FileSystem.entry_create_ne (not_and_or.1 hsame)).1 hentry).exists_node
          rw [hfresh] at hfound
          cases hfound
      · rintro ⟨rfl, hmem⟩
        rw [List.mem_singleton.1 hmem]
        exact hfree.entry_create

/-- The loop over the names of temporary files ends with a file, or with every name taken. -/
theorem wp_attemptTemporary {process attempts : Nat} {name : Name} (hname : path.fileName = some name)
    (hattempts : tempCreateAttempts ≤ turns.countP takenName + attempts) :
    Io.wp (Guarantee path bytes) (attemptTemporary process (usableParent path) name attempts) turns fs fun turns fs result =>
      (∀ made, result = .ok made → ∃ temporary directory, temporary ≠ name ∧ made.1 = (usableParent path).join temporary ∧
        Place path temporary directory fs ∧ Holds directory made.2 [] [temporary] fs) ∧
      ∀ error, result = .error error → error.kind = .alreadyExists → tempCreateAttempts ≤ turns.countP takenName := by
  induction attempts generalizing turns fs with
  | zero => exact ⟨nofun, fun _ _ _ => hattempts⟩
  | succ attempts ih =>
    rw [attemptTemporary]
    unfold Io.fetchAdd
    refine Io.wp_call stable_true trivial fun fs' sequence fs'' _ hdoes => ⟨.inr ?_, ?_⟩
    · rw [show fs'' = fs' from hdoes]
      exact .refl
    · refine Io.wp_bind.2 (Io.wp_outcome.2 ?_)
      unfold Io.createNew
      refine Io.wp_call stable_true trivial fun w ans w' _ hdoes => ?_
      cases ans with
      | ok file =>
        obtain ⟨hcontract, directory, hplace, hholds⟩ := created_temporary hname (temporaryName_ne name process sequence) hdoes
        refine ⟨.inr hcontract, ?_, nofun⟩
        rintro made hmade
        cases hmade
        exact ⟨_, directory, temporaryName_ne name process sequence, rfl, hplace, hholds⟩
      | error kind =>
        obtain ⟨rfl, -⟩ := hdoes
        refine ⟨.inr .refl, ?_⟩
        change Io.wp _ (if kind = .alreadyExists then _ else _) _ _ _
        by_cases hkind : kind = .alreadyExists
        · rw [if_pos hkind, hkind]
          refine ih ?_
          rw [List.countP_cons, List.countP_cons]
          simp only [takenName, Bool.false_eq_true, if_false, if_true]
          omega
        · rw [if_neg hkind]
          refine ⟨nofun, ?_⟩
          rintro error herror halready
          cases herror
          exact absurd halready hkind

/-! ## Publication -/

/-- The temporary file stands beside the target. -/
structure Staged (path : Path) (temporary : Name) (directory file : Inode) (content : List UInt8) (names : List Name)
    (fs : FileSystem) : Prop where
  place : Place path temporary directory fs
  holds : Holds directory file content names fs

theorem Staged.others (h : Staged path temporary directory file content names before) (hothers : Others before after) :
    Staged path temporary directory file content names after := ⟨h.place.others hothers, h.holds.others hothers⟩

/-- A call that leaves the file system, and fails for some other reason than that something exists. -/
theorem wp_quiet {R : FileSystem → Prop} (hstable : ∀ fs fs', R fs → Others fs fs' → R fs') (hR : R fs) {call : Call}
    {α : Type} {k : call.Ans → Io α} (hquiet : ∀ fs ans fs', Does fs call ans fs' → fs' = fs)
    (hresult : ∀ fs ans fs' turns, Does fs call ans fs' → Io.wp (Guarantee path bytes) (k ans) turns fs fun _ fs' result =>
      fs' = fs ∧ ∀ error, result = .error error → error.kind ≠ .alreadyExists) :
    Io.wp (Guarantee path bytes) (Io.perform call >>= k) turns fs fun _ fs result =>
      R fs ∧ ∀ error, result = .error error → error.kind ≠ .alreadyExists := by
  refine Io.wp_call hstable hR fun w ans w' hw hdoes => ?_
  cases hquiet w ans w' hdoes
  refine ⟨.inr .refl, Io.wp_mono (hresult w ans w _ hdoes) fun _ fs' result hend => ?_⟩
  obtain ⟨rfl, hkind⟩ := hend
  exact ⟨hw, hkind⟩

/-- An answer of the system is passed on. -/
theorem wp_checked {α : Type} {answer : Except IoErrorKind α} (hkind : ∀ kind, answer = .error kind → kind ≠ .alreadyExists) :
    Io.wp (Guarantee path bytes) (Io.checked answer) turns fs fun _ fs' result =>
      fs' = fs ∧ ∀ error, result = .error error → error.kind ≠ .alreadyExists := by
  cases answer with
  | ok => exact ⟨rfl, nofun⟩
  | error kind =>
    refine ⟨rfl, ?_⟩
    rintro error herror
    cases herror
    exact hkind kind rfl

section Calls

variable {R : FileSystem → Prop} (hstable : ∀ fs fs', R fs → Others fs fs' → R fs') (hR : R fs)

include hstable hR

theorem wp_flush : Io.wp (Guarantee path bytes) (Io.flush file) turns fs fun _ fs result =>
    R fs ∧ ∀ error, result = .error error → error.kind ≠ .alreadyExists := by
  refine wp_quiet hstable hR (fun fs ans fs' hdoes => ?_) fun fs ans fs' turns hdoes => wp_checked ?_
  · cases ans with
    | ok => exact hdoes
    | error kind => exact hdoes.1
  · rintro kind rfl
    exact hdoes.2

theorem wp_syncAll : Io.wp (Guarantee path bytes) (Io.syncAll file) turns fs fun _ fs result =>
    R fs ∧ ∀ error, result = .error error → error.kind ≠ .alreadyExists := by
  refine wp_quiet hstable hR (fun fs ans fs' hdoes => ?_) fun fs ans fs' turns hdoes => wp_checked ?_
  · cases ans with
    | ok => exact hdoes
    | error kind => exact hdoes.1
  · rintro kind rfl
    exact hdoes.2

theorem wp_syncParentDirectory {unix : Bool} {parent : Path} :
    Io.wp (Guarantee path bytes) (syncParentDirectory unix parent) turns fs fun _ fs result =>
      R fs ∧ ∀ error, result = .error error → error.kind ≠ .alreadyExists := by
  cases unix with
  | false => exact ⟨hR, nofun⟩
  | true =>
    change Io.wp _ (Io.openFile parent >>= fun directory => Io.syncAll directory) _ _ _
    have hopen : Io.wp (Guarantee path bytes) (Io.openFile parent) turns fs fun _ fs result =>
        R fs ∧ ∀ error, result = .error error → error.kind ≠ .alreadyExists := by
      refine wp_quiet hstable hR (fun fs ans fs' hdoes => ?_) fun fs ans fs' turns hdoes => wp_checked ?_
      · cases ans with
        | ok => exact hdoes.1
        | error kind => exact hdoes.1
      · rintro kind rfl
        exact hdoes.2
    refine Io.wp_bind.2 (Io.wp_mono hopen fun turns' fs' result hresult => ?_)
    cases result with
    | ok directory => exact wp_syncAll hstable hresult.1
    | error error =>
      refine ⟨hresult.1, ?_⟩
      rintro _ herror
      cases herror
      exact hresult.2 error rfl

end Calls

/-- A temporary file has more bytes after a write, and the target is as it was. -/
theorem Staged.appended {name : Name} {more : List UInt8} (hname : path.fileName = some name) (hne : temporary ≠ name)
    (h : Staged path temporary directory file content [temporary] before) (happended : Appended before file more after) :
    Contract path bytes before after ∧ Staged path temporary directory file (content ++ more) [temporary] after := by
  cases happended with
  | @here old hold =>
    have hcontent : old = content := by
      rw [h.holds.node] at hold
      cases hold
      rfl
    subst hcontent
    have hgrows : before.Grows (before.setBytes file (old ++ more) ⟨old, hold⟩) := FileSystem.grows_setBytes
    have hplace := h.place.grows hgrows
    refine ⟨.ofPlace hname h.place.resolves hplace.resolves (fun i => FileSystem.entry_setBytes) fun i hentry => ?_, hplace,
      FileSystem.node_setBytes_self, fun other name' => FileSystem.entry_setBytes.trans (h.holds.entries other name')⟩
    refine FileSystem.node_setBytes ?_
    rintro rfl
    exact hne (List.mem_singleton.1 ((h.holds.entries _ _).1 hentry).2).symm

theorem wp_writeAll {name : Name} {more : List UInt8} (hname : path.fileName = some name) (hne : temporary ≠ name)
    (h : Staged path temporary directory file content [temporary] fs) :
    Io.wp (Guarantee path bytes) (Io.writeAll file more) turns fs fun _ fs result =>
      (∃ written, Staged path temporary directory file written [temporary] fs ∧ (result = .ok () → written = content ++ more)) ∧
      ∀ error, result = .error error → error.kind ≠ .alreadyExists := by
  -- Induction on what is left to write, which every write that goes on makes shorter.
  induction hsize : more.length using Nat.strong_induction_on generalizing more content turns fs with
  | _ size ih =>
    cases more with
    | nil =>
      rw [Io.writeAll]
      refine ⟨⟨content, h, fun _ => (List.append_nil content).symm⟩, ?_⟩
      intro error herror
      cases herror
    | cons byte rest =>
      rw [Io.writeAll]
      unfold Io.write
      refine Io.wp_bind.2 (Io.wp_call (fun _ _ => Staged.others) h fun w ans w' hw hdoes => ?_)
      cases ans with
      | error kind =>
        obtain ⟨rfl, hkind⟩ := hdoes
        refine ⟨.inr .refl, ⟨content, hw, ?_⟩, ?_⟩
        · intro hok
          cases hok
        · intro error herror
          cases herror
          exact hkind
      | ok count =>
        obtain ⟨hcount, happended⟩ := hdoes
        obtain ⟨hcontract, hstaged⟩ : Contract path bytes w w' ∧ _ := hw.appended hname hne happended
        refine ⟨.inr hcontract, ?_⟩
        cases count with
        | zero =>
          refine ⟨⟨_, hstaged, ?_⟩, ?_⟩
          · intro hok
            cases hok
          · intro error herror
            cases herror
            decide
        | succ count =>
          have hshorter : (rest.drop count).length < size := by
            rw [← hsize, List.length_drop, List.length_cons]
            omega
          change Io.wp _ (Io.writeAll file (rest.drop count)) _ _ _
          refine Io.wp_mono (ih _ hshorter hstaged rfl) fun _ fs' result hend => ?_
          obtain ⟨⟨written, hwritten, hall⟩, hkind⟩ := hend
          refine ⟨⟨written, hwritten, fun hok => ?_⟩, hkind⟩
          rw [hall hok, List.take_succ_cons, List.append_assoc, List.cons_append, List.take_append_drop]

/-- The whole file is given its name at the target, where nothing was. -/
theorem Staged.linked {name : Name} (hname : path.fileName = some name)
    (h : Staged path temporary directory file bytes [temporary] before)
    (hlinked : Linked before ((usableParent path).join temporary) path after) :
    Contract path bytes before after ∧ Staged path temporary directory file bytes [name, temporary] after := by
  cases hlinked with
  | @here parent other i name' node horiginal hnode hplain hlink hresolves hfree hvalue =>
    obtain ⟨from', hfrom, hentry⟩ := FileSystem.names_join.1 horiginal
    cases hfrom.unique h.place.resolves
    have hi : i = file := hentry.unique ((h.holds.entries _ _).2 ⟨rfl, List.mem_singleton.2 rfl⟩)
    subst hi
    subst hlink
    cases (fileName_join parent name').symm.trans hname
    cases (resolves_usableParent.2 hresolves).unique h.place.resolves
    have hgrows : before.Grows (before.setEntry directory name (some i) hvalue) :=
      FileSystem.grows_setEntry fun j hentry => absurd hfree hentry.not_free
    have hplace := h.place.grows hgrows
    have hown : i ≠ directory := hentry.ne
    have hafter : (before.setEntry directory name (some i) hvalue).Entry directory name i := by
      obtain ⟨up, entries, hdirectory, -⟩ := hfree
      exact ⟨up, _, FileSystem.setEntry_directory hdirectory, Function.update_self _ _ _⟩
    refine ⟨⟨fun j hnames => ?_, fun _ j hnames => ?_⟩, hplace, ?_, fun other name' => ?_⟩
    · obtain ⟨other, hother, hj⟩ := (names_target hname).1 hnames
      cases hother.unique h.place.resolves
      exact absurd hfree hj.not_free
    · obtain ⟨other, hother, hj⟩ := (names_target hname).1 hnames
      cases hother.unique hplace.resolves
      cases FileSystem.entry_setEntry_self hj
      rw [FileSystem.node_setEntry hown]
      exact h.holds.node
    · rw [FileSystem.node_setEntry hown]
      exact h.holds.node
    · by_cases hsame : other = directory ∧ name' = name
      · obtain ⟨rfl, rfl⟩ := hsame
        exact iff_of_true hafter ⟨rfl, List.mem_cons_self⟩
      · rw [FileSystem.entry_setEntry_ne (not_and_or.1 hsame), h.holds.entries]
        refine and_congr_right fun hother => (List.mem_cons.trans (or_iff_right ?_)).symm
        rintro rfl
        exact hsame ⟨hother, rfl⟩

/-- The temporary name goes, and the target is as it was. -/
theorem Place.removed {name : Name} (hname : path.fileName = some name) (hne : temporary ≠ name)
    (h : Place path temporary directory before) (hremoved : Removed before ((usableParent path).join temporary) after) :
    after = before.unlink directory temporary ∧ Contract path bytes before after := by
  generalize hpath : (usableParent path).join temporary = temporaryPath at hremoved
  cases hremoved with
  | @here parent other i name' node hjoin hresolves hentry hnode hplain =>
    subst hjoin
    obtain ⟨rfl, rfl⟩ := join_injective hpath
    cases hresolves.unique h.resolves
    exact ⟨rfl, .ofPlace hname h.resolves h.walk (fun j => FileSystem.entry_setEntry_ne (.inr hne.symm))
      fun j hj => FileSystem.node_setEntry hj.ne⟩

/-- The published file has no other name once the temporary one is gone. -/
theorem Staged.unlinked {name : Name} (hne : temporary ≠ name)
    (h : Staged path temporary directory file bytes [name, temporary] before) :
    Staged path temporary directory file bytes [name] (before.unlink directory temporary) := by
  refine ⟨h.place.unlink, FileSystem.plain_setEntry h.holds.node rfl, fun other name' => ?_⟩
  by_cases hsame : other = directory ∧ name' = temporary
  · obtain ⟨rfl, rfl⟩ := hsame
    refine iff_of_false (fun hentry => ?_) fun hmem => hne (List.mem_singleton.1 hmem.2)
    cases FileSystem.entry_setEntry_self hentry
  · have hentry : (before.unlink directory temporary).Entry other name' file ↔ before.Entry other name' file :=
      FileSystem.entry_setEntry_ne (not_and_or.1 hsame)
    rw [hentry, h.holds.entries, List.mem_cons, List.mem_cons, List.mem_singleton]
    refine and_congr_right fun hother => ?_
    constructor
    · rintro (hmem | hmem | hmem)
      · exact hmem
      · exact absurd ⟨hother, hmem⟩ hsame
      · cases hmem
    · exact .inl

theorem Staged.published {name : Name} (hname : path.fileName = some name)
    (h : Staged path temporary directory file bytes [name] fs) : Published path bytes fs :=
  ⟨name, directory, file, hname, h.place.resolves, h.holds.node, fun other name' => by
    rw [h.holds.entries, List.mem_singleton]⟩

theorem wp_removeFile {name : Name} (R' : FileSystem → Prop) (hname : path.fileName = some name) (hne : temporary ≠ name)
    {R : FileSystem → Prop}
    (hstable : ∀ fs fs', R fs → Others fs fs' → R fs') (hR : R fs) (hplace : ∀ fs, R fs → Place path temporary directory fs)
    (hafter : ∀ fs, R fs → Contract path bytes fs (fs.unlink directory temporary) → R' (fs.unlink directory temporary)) :
    Io.wp (Guarantee path bytes) (Io.removeFile ((usableParent path).join temporary)) turns fs fun _ fs result =>
      (result = .ok () → R' fs) ∧ ∀ error, result = .error error → R fs ∧ error.kind ≠ .alreadyExists := by
  unfold Io.removeFile
  refine Io.wp_call hstable hR fun w ans w' hw hdoes => ?_
  cases ans with
  | ok =>
    obtain ⟨rfl, hcontract⟩ : w' = _ ∧ Contract path bytes w w' := (hplace w hw).removed hname hne hdoes
    exact ⟨.inr hcontract, fun _ => hafter w hw hcontract, nofun⟩
  | error kind =>
    obtain ⟨rfl, hkind⟩ := hdoes
    refine ⟨.inr .refl, nofun, ?_⟩
    rintro error herror
    cases herror
    exact ⟨hw, hkind⟩

/-- The link is made, or the target is there already, or neither. -/
theorem wp_hardLink {name : Name} (hname : path.fileName = some name)
    (h : Staged path temporary directory file bytes [temporary] fs) :
    Io.wp (Guarantee path bytes) (Io.hardLink ((usableParent path).join temporary) path) turns fs fun _ fs result =>
      (result = .ok () → Staged path temporary directory file bytes [name, temporary] fs) ∧
      ∀ error, result = .error error → Place path temporary directory fs ∧ (error.kind = .alreadyExists → Taken path fs) := by
  unfold Io.hardLink
  refine Io.wp_call (fun _ _ => Staged.others) h fun w ans w' hw hdoes => ?_
  cases ans with
  | ok =>
    obtain ⟨hcontract, hstaged⟩ := hw.linked hname hdoes
    exact ⟨.inr hcontract, fun _ => hstaged, nofun⟩
  | error kind =>
    obtain ⟨rfl, hexists⟩ := hdoes
    refine ⟨.inr .refl, nofun, ?_⟩
    rintro error herror
    cases herror
    exact ⟨hw.place, fun hkind => taken_of_exists hname (hexists hkind)⟩

/-- What `publish` leaves, of whatever outcome. -/
structure PublishOutcome (path : Path) (bytes : List UInt8) (temporary : Name) (directory : Inode) (fs : FileSystem)
    (result : Except IoError Unit) : Prop where
  place : Place path temporary directory fs
  published : result = .ok () → Published path bytes fs
  taken : ∀ error, result = .error error → error.kind = .alreadyExists → Taken path fs

theorem PublishOutcome.failed {error : IoError} (hplace : Place path temporary directory fs) (hkind : error.kind ≠ .alreadyExists) :
    PublishOutcome path bytes temporary directory fs (.error error) where
  place := hplace
  published := nofun
  taken _ herror halready := by
    cases herror
    exact absurd halready hkind

/-- Others move neither the temporary file nor what is found at the target. -/
theorem Place.stable_taken {error : IoError} (fs fs' : FileSystem)
    (h : Place path temporary directory fs ∧ (error.kind = .alreadyExists → Taken path fs)) (hothers : Others fs fs') :
    Place path temporary directory fs' ∧ (error.kind = .alreadyExists → Taken path fs') :=
  ⟨h.1.others hothers, fun hkind => (h.2 hkind).others hothers⟩

theorem wp_publish {unix : Bool} {name : Name} (hname : path.fileName = some name) (hne : temporary ≠ name)
    (h : Staged path temporary directory file [] [temporary] fs) :
    Io.wp (Guarantee path bytes)
      (publish unix (usableParent path) path ((usableParent path).join temporary) file bytes) turns fs fun _ fs result =>
      PublishOutcome path bytes temporary directory fs result := by
  unfold publish
  refine Io.wp_bind.2 (Io.wp_mono (wp_writeAll hname hne h) fun turns fs result hwrite => ?_)
  obtain ⟨⟨written, hstaged, hall⟩, hkind⟩ := hwrite
  cases result with
  | error error => exact .failed hstaged.place (hkind error rfl)
  | ok =>
    rw [hall rfl, List.nil_append] at hstaged
    refine Io.wp_bind.2 (Io.wp_mono (wp_flush (fun _ _ => Staged.others) hstaged) fun turns fs result hflush => ?_)
    obtain ⟨hstaged, hkind⟩ := hflush
    cases result with
    | error error => exact .failed hstaged.place (hkind error rfl)
    | ok =>
      refine Io.wp_bind.2 (Io.wp_mono (wp_syncAll (fun _ _ => Staged.others) hstaged) fun turns fs result hsync => ?_)
      obtain ⟨hstaged, hkind⟩ := hsync
      cases result with
      | error error => exact .failed hstaged.place (hkind error rfl)
      | ok =>
        -- The link is the one call that gives the file its name at the target.
        refine Io.wp_bind.2 (Io.wp_outcome.2 (Io.wp_mono (wp_hardLink hname hstaged) fun turns fs result hlink => ?_))
        obtain ⟨hlinked, hunlinked⟩ := hlink
        cases result with
        | error error =>
          -- Only an AlreadyExists that the target bears out is passed on as one.
          dsimp only [Io.onward, Io.symlinkMetadata]
          refine Io.wp_call Place.stable_taken (hunlinked error rfl) fun w ans w' hw hdoes => ?_
          obtain ⟨rfl, hexists⟩ := hdoes
          refine ⟨.inr .refl, ?_⟩
          cases ans with
          | true => exact ⟨hw.1, nofun, fun _ _ _ => taken_of_exists hname (hexists rfl)⟩
          | false =>
            refine ⟨hw.1, nofun, ?_⟩
            rintro source hsource hkind
            cases hsource
            exact hw.2 hkind
        | ok =>
          dsimp only [Io.onward]
          refine Io.wp_bind.2 (Io.wp_mono (wp_removeFile (Staged path temporary directory file bytes [name]) hname hne
            (fun _ _ => Staged.others) (hlinked rfl) (fun _ => Staged.place) fun _ h _ => h.unlinked hne)
            fun turns fs result hremove => ?_)
          cases result with
          | error error =>
            obtain ⟨hstaged, hkind⟩ := hremove.2 error rfl
            exact .failed hstaged.place hkind
          | ok =>
            refine Io.wp_mono (wp_syncParentDirectory (fun _ _ => Staged.others) (hremove.1 rfl)) fun _ fs result hsync => ?_
            exact ⟨hsync.1.place, fun _ => hsync.1.published hname,
              fun error herror hkind => absurd hkind (hsync.2 error herror)⟩

/-- What `create_new` leaves, of whatever outcome. -/
structure CreateOutcome (path : Path) (bytes : List UInt8) (turns : List FileTurn) (fs : FileSystem)
    (result : Except IoError Unit) : Prop where
  published : result = .ok () → Published path bytes fs
  taken : ∀ error, result = .error error → error.kind = .alreadyExists →
    Taken path fs ∨ Blocked turns ∨ tempCreateAttempts ≤ turns.countP takenName

theorem Published.others (h : Published path bytes before) (hothers : Others before after) : Published path bytes after := by
  obtain ⟨name, directory, file, hname, hresolves, hnode, hentries⟩ := h
  have hholds : Holds directory file bytes [name] before := ⟨hnode, fun other name' => by
    rw [hentries, List.mem_singleton]⟩
  have hentry : before.Entry directory name file := (hentries directory name).2 ⟨rfl, rfl⟩
  have hafter := hholds.others hothers
  exact ⟨name, directory, file, hname, hresolves.grows (Others.grows hothers) (isDirectory_of_entry hentry), hafter.node,
    fun other name' => by rw [hafter.entries, List.mem_singleton]⟩

theorem CreateOutcome.others {result : Except IoError Unit} (h : CreateOutcome path bytes turns before result)
    (hothers : Others before after) : CreateOutcome path bytes turns after result where
  published hok := (h.published hok).others hothers
  taken error herror hkind := (h.taken error herror hkind).imp_left fun htaken => htaken.others hothers

theorem wp_createNew (unix : Bool) (process : Nat) (path : Path) (bytes : List UInt8) (fs : FileSystem) :
    Io.wp (Guarantee path bytes) (FileProfileStore.createNew unix process path bytes) [] fs (CreateOutcome path bytes) := by
  unfold FileProfileStore.createNew
  refine Io.wp_bind.2 (Io.wp_mono (wp_createDirAll (parental_usableParent path)) fun turns fs result hmade => ?_)
  cases result with
  | error error =>
    refine ⟨nofun, ?_⟩
    rintro _ herror hkind
    cases herror
    -- Something stands in the way of the parents.
    exact .inr (.inl (hmade error rfl hkind))
  | ok =>
    cases hname : path.fileName with
    | none =>
      dsimp only [Io.onward, createTemporary]
      rw [hname]
      refine ⟨nofun, ?_⟩
      rintro _ herror hkind
      cases herror
      cases hkind
    | some name =>
      dsimp only [Io.onward, createTemporary]
      rw [hname]
      refine Io.wp_bind.2 (Io.wp_mono (wp_attemptTemporary hname (Nat.le_add_left _ _)) fun turns fs result hattempt => ?_)
      cases result with
      | error error =>
        refine ⟨nofun, ?_⟩
        rintro _ herror hkind
        cases herror
        -- All names that were tried are taken.
        exact .inr (.inr (hattempt.2 error rfl hkind))
      | ok made =>
        obtain ⟨temporary, directory, hne, hmade, hplace, hholds⟩ := hattempt.1 made rfl
        obtain ⟨temporaryPath, file⟩ := made
        cases hmade
        refine Io.wp_bind.2 (Io.wp_outcome.2 (Io.wp_mono (wp_publish hname hne ⟨hplace, hholds⟩) fun turns fs result hend => ?_))
        cases result with
        | ok => exact ⟨fun _ => hend.published rfl, nofun⟩
        | error error =>
          -- The temporary file is removed again, and the first error stays the one that is returned.
          refine Io.wp_bind.2 (Io.wp_outcome.2 (Io.wp_mono (wp_removeFile
            (fun fs => error.kind = .alreadyExists → Taken path fs) hname hne Place.stable_taken
            ⟨hend.place, hend.taken error rfl⟩ (fun _ h => h.1) fun _ h hcontract hkind => (h.2 hkind).kept hcontract)
            fun turns fs result hcleanup => ?_))
          refine ⟨nofun, ?_⟩
          rintro _ herror hkind
          cases herror
          cases result with
          | ok => exact .inl (hcleanup.1 rfl hkind)
          | error source => exact .inl ((hcleanup.2 source rfl).1.2 hkind)

/-- Unless a directory that is made leads back to the target, something blocks its
parents, or every temporary name is taken: in every run of `create_new`, whatever
fails, whatever others make meanwhile and wherever it stops, what is at the
target stays as it is, nothing but the whole file appears there, and it is said to
exist already only where something is. -/
theorem create_new_contract {unix : Bool} {process : Nat} {start : FileSystem} {rest : Prog FileCalls Unit (Except IoError Unit)}
    (hrun : files.Run ((FileProfileStore.createNew unix process path bytes).run ()) start turns fs rest)
    (hundisturbed : Undisturbed path turns) :
    (∀ turn ∈ turns, (∀ i, turn.before.Names path i → turn.after.Names path i ∧ turn.after.node i = turn.before.node i) ∧
      (¬ turn.before.Exists path → ∀ i, turn.after.Names path i → turn.after.node i = some (.file bytes))) ∧
    ∀ result, rest = .done () result →
      (result = .ok () → Published path bytes fs) ∧
      (∀ source, result = .error source → source.kind = .alreadyExists → fs.Exists path) ∧
      (∀ error, persisted result = .error error → error.kind = .profileAlreadyExists → fs.Exists path) := by
  have hsound := World.Run.sound (fun turns w w' _ result => CreateOutcome.others) (wp_createNew unix process path bytes start)
    hrun
  refine ⟨fun turn hturn => ?_, fun result hrest => ?_⟩
  · obtain ⟨hkept, hcomplete⟩ := (hsound.1 turn hturn).resolve_left (hundisturbed.forward turn hturn)
    exact ⟨hkept, hcomplete⟩
  · subst hrest
    have houtcome : CreateOutcome path bytes turns fs result := hsound.2
    have hexists (source : IoError) (hsource : result = .error source) (hkind : source.kind = .alreadyExists) :
        fs.Exists path := by
      rcases houtcome.taken source hsource hkind with htaken | hblocked | hnamed
      · exact htaken.exists
      · exact absurd hblocked hundisturbed.unblocked
      · exact absurd hnamed (Nat.not_le.2 hundisturbed.named)
    refine ⟨houtcome.published, hexists, fun error herror hkind => ?_⟩
    cases result with
    | ok => cases herror
    | error source =>
      refine hexists source rfl ?_
      by_contra hother
      have hreported : persisted (.error source) = .error ⟨.internal, "pairing profile could not be created"⟩ :=
        congrArg Except.error (if_neg hother)
      rw [hreported] at herror
      cases herror
      cases hkind

/-! ## Runs -/

/-- One entry: the node 1, by the name `f`. -/
def sampleEntries (name : Name) : Option Inode := if name = "f" then some 1 else none

theorem sampleEntries_eq_some {name : Name} {i : Inode} (h : sampleEntries name = some i) : name = "f" ∧ i = 1 := by
  unfold sampleEntries at h
  split at h
  · rename_i hname
    exact ⟨hname, (Option.some.inj h).symm⟩
  · cases h

/-- A working directory with a file `f`. -/
def sampleFiles : FileSystem where
  node i := if i = 0 then some (.directory 0 sampleEntries) else if i = 1 then some (.file [0x7B]) else none
  root := 0
  working := 0
  closed directory found name i hfound hentry := by
    split at hfound
    · cases hfound
      rw [(sampleEntries_eq_some hentry).2]
      rfl
    · split at hfound
      · cases hfound
        cases hentry
      · cases hfound
  proper directory found name hfound hentry := by
    split at hfound
    · rename_i hdirectory
      cases hfound
      exact absurd (hdirectory.symm.trans (sampleEntries_eq_some hentry).2) (by decide)
    · split at hfound
      · cases hfound
        cases hentry
      · cases hfound

/-- A target below the file `f`. -/
def sampleBelow : Path := ⟨.relative, [.normal "f", .normal "p"]⟩

/-- Where a file stands in the way of its parent, a profile is said to exist that does not. -/
theorem create_new_blocked : ∃ turns fs source,
    files.Run ((FileProfileStore.createNew true 1 sampleBelow []).run ()) sampleFiles turns fs (.done () (.error source)) ∧
      source.kind = .alreadyExists ∧ ¬ fs.Exists sampleBelow ∧
      persisted (.error source) = .error ⟨.profileAlreadyExists, "profile creation target already exists"⟩ := by
  have hentry : sampleFiles.Entry 0 "f" 1 := ⟨0, sampleEntries, rfl, rfl⟩
  have hexists : sampleFiles.Exists (usableParent sampleBelow) := ⟨1, 0, .stay 0, hentry⟩
  have habsent : ¬ sampleFiles.Exists sampleBelow := by
    rintro ⟨i, directory, hwalk, hbelow⟩
    have hfile : directory = 1 := FileSystem.Walk.unique hwalk (.down hentry (fun target hlink => by cases hlink) (.stay 1))
    obtain ⟨parent, entries, hnode⟩ := isDirectory_of_entry hbelow
    rw [hfile] at hnode
    cases hnode
  have hprogram : ∃ k, (FileProfileStore.createNew true 1 sampleBelow []).run () = .call () (.mkdir ⟨.relative, [.normal "f"]⟩) k ∧
      ∃ k', k (.error .alreadyExists) = .call () (.isDir ⟨.relative, [.normal "f"]⟩) k' ∧
        k' false = .done () (.error ⟨.alreadyExists, none⟩) := by
    have hdirs := Io.createDirAll.eq_def ⟨.relative, [.normal "f"]⟩
    rw [if_neg (by decide)] at hdirs
    change ∃ k, (Io.createDirAll ⟨.relative, [.normal "f"]⟩ >>= _ : Io Unit).run () = .call () _ k ∧ _
    rw [hdirs]
    exact ⟨_, rfl, _, rfl, rfl⟩
  obtain ⟨k, hk, k', hk', hend⟩ := hprogram
  have hmkdir : files.does sampleFiles (.mkdir ⟨.relative, [.normal "f"]⟩) (.error .alreadyExists) sampleFiles :=
    ⟨rfl, fun _ => hexists⟩
  have hisDir : files.does sampleFiles (.isDir ⟨.relative, [.normal "f"]⟩) false sampleFiles := ⟨rfl, nofun⟩
  have hstart : files.Run ((FileProfileStore.createNew true 1 sampleBelow []).run ()) sampleFiles [] sampleFiles _ := .start
  have hrun := (hstart.next hk hmkdir).next hk' hisDir
  rw [hend] at hrun
  exact ⟨_, _, _, hrun, rfl, habsent, rfl⟩

/-- A target beside the file `f`. -/
def sampleTarget : Path := ⟨.relative, [.normal "p"]⟩

def sampleTemporary : Name := temporaryName "p" 1 0

/-- The bytes of the profile. -/
def sampleBytes : List UInt8 := [0x7B, 0x7D]

/-- With the temporary file beside `f`. -/
def sampleCreated : FileSystem := sampleFiles.create 0 sampleTemporary 2 (.file []) rfl (fun _ => rfl) (by decide)

/-- With one of the bytes in it. -/
def sampleBegun : FileSystem := sampleCreated.setBytes 2 ([] ++ [0x7B]) ⟨[], rfl⟩

def sampleWritten : FileSystem := sampleBegun.setBytes 2 ([0x7B] ++ [0x7D]) ⟨[0x7B], rfl⟩

/-- With the target beside both. -/
def sampleLinked : FileSystem := sampleWritten.setEntry 0 "p" (some 2) (by
  rintro i hi
  cases hi
  exact ⟨rfl, by decide⟩)

/-- `Io.writeAll` of the bytes, write by write. -/
def sampleWrite (file : Inode) : Io Unit := do
  match ← Io.write file [0x7B, 0x7D] with
  | 0 => throw ⟨.writeZero, none⟩
  | 1 =>
    match ← Io.write file [0x7D] with
    | 0 => throw ⟨.writeZero, none⟩
    | _ + 1 => pure ()
  | _ + 2 => pure ()

theorem writeAll_sample (file : Inode) : Io.writeAll file sampleBytes = sampleWrite file := by
  have hnil : Io.writeAll file [] = pure () := Io.writeAll.eq_1 file
  unfold sampleBytes sampleWrite
  rw [Io.writeAll.eq_2]
  refine congrArg (Io.write file [0x7B, 0x7D] >>= ·) (funext fun count => ?_)
  rcases count with _ | _ | count
  · rfl
  · change Io.writeAll file [0x7D] = _
    rw [Io.writeAll.eq_2]
    refine congrArg (Io.write file [0x7D] >>= ·) (funext fun count => ?_)
    cases count with
    | zero => rfl
    | succ count =>
      change Io.writeAll file (List.drop count []) = pure ()
      rw [List.drop_nil, hnil]
  · change Io.writeAll file (List.drop (count + 1) [0x7D]) = pure ()
    rw [List.drop_succ_cons, List.drop_nil, hnil]

/-- What a creation of the sample profile does. -/
theorem createNew_sample : (FileProfileStore.createNew true 1 sampleTarget sampleBytes).run () =
    (Io.createDirAll ⟨.current, []⟩ >>= fun _ => createTemporary 1 ⟨.current, []⟩ sampleTarget >>= fun made => do
      match ← Io.outcome (do
        sampleWrite made.2
        Io.flush made.2
        Io.syncAll made.2
        match ← Io.outcome (Io.hardLink made.1 sampleTarget) with
        | .ok () => pure ()
        | .error source =>
          if ← Io.symlinkMetadata sampleTarget then
            throw ⟨.alreadyExists, some "profile creation target already exists"⟩
          else throw source
        Io.removeFile made.1
        syncParentDirectory true ⟨.current, []⟩) with
      | .ok () => pure ()
      | .error source =>
        let _cleanup ← Io.outcome (Io.removeFile made.1)
        throw source : Io Unit).run () := by
  unfold FileProfileStore.createNew publish
  simp only [writeAll_sample]
  rfl

/-- With the temporary file gone again. -/
def sampleCleared : FileSystem := sampleLinked.unlink 0 sampleTemporary

/-- The calls of a creation in the working directory, the last of them first: the bytes take two writes. -/
def sampleTurns : List FileTurn :=
  [⟨sampleCleared, .syncAll 0, .ok (), sampleCleared⟩,
   ⟨sampleCleared, .open ⟨.current, []⟩, .ok 0, sampleCleared⟩,
   ⟨sampleLinked, .removeFile ⟨.current, [.normal sampleTemporary]⟩, .ok (), sampleCleared⟩,
   ⟨sampleWritten, .hardLink ⟨.current, [.normal sampleTemporary]⟩ sampleTarget, .ok (), sampleLinked⟩,
   ⟨sampleWritten, .syncAll 2, .ok (), sampleWritten⟩,
   ⟨sampleWritten, .flush 2, .ok (), sampleWritten⟩,
   ⟨sampleBegun, .write 2 [0x7D], .ok 1, sampleWritten⟩,
   ⟨sampleCreated, .write 2 [0x7B, 0x7D], .ok 1, sampleBegun⟩,
   ⟨sampleFiles, .createNew ⟨.current, [.normal sampleTemporary]⟩, .ok 2, sampleCreated⟩,
   ⟨sampleFiles, .fetchAdd, (0 : UInt64), sampleFiles⟩,
   ⟨sampleFiles, .isDir ⟨.current, []⟩, true, sampleFiles⟩,
   ⟨sampleFiles, .mkdir ⟨.current, []⟩, .error .alreadyExists, sampleFiles⟩]

theorem sampleTurns_run : files.Run ((FileProfileStore.createNew true 1 sampleTarget sampleBytes).run ()) sampleFiles
    sampleTurns sampleCleared (.done () (.ok ())) := by
  have hexists : sampleFiles.Exists ⟨.current, []⟩ := ⟨0, .stay 0⟩
  have hisDirectory : sampleFiles.IsDir ⟨.current, []⟩ := ⟨0, 0, sampleEntries, .stay 0, rfl⟩
  have hdirs := Io.createDirAll.eq_def ⟨.current, []⟩
  rw [if_neg (by decide)] at hdirs
  have hmkdir : files.does sampleFiles (.mkdir ⟨.current, []⟩) (.error .alreadyExists) sampleFiles :=
    ⟨rfl, fun _ => hexists⟩
  have hisDir : files.does sampleFiles (.isDir ⟨.current, []⟩) true sampleFiles := ⟨rfl, fun _ => hisDirectory⟩
  have hsequence : files.does sampleFiles .fetchAdd (0 : UInt64) sampleFiles := rfl
  have hprogram := createNew_sample
  rw [hdirs] at hprogram
  have hcurrent (fs : FileSystem) (hworking : fs.working = 0) : fs.Resolves ⟨.current, []⟩ 0 := by
    rw [FileSystem.Resolves, hworking]
    exact .stay 0
  have hfree : sampleFiles.Free 0 sampleTemporary := ⟨0, sampleEntries, rfl, by decide +kernel⟩
  have htarget : sampleWritten.Free 0 "p" :=
    ⟨0, Function.update sampleEntries sampleTemporary (some 2), rfl, by decide +kernel⟩
  -- The temporary file has its name up to the remove_file, beside the target.
  have htemporary : sampleCreated.Entry 0 sampleTemporary 2 := hfree.entry_create
  have hwritten : sampleWritten.Entry 0 sampleTemporary 2 :=
    FileSystem.entry_setBytes.2 (FileSystem.entry_setBytes.2 htemporary)
  have hlinked : sampleLinked.Entry 0 sampleTemporary 2 :=
    (FileSystem.entry_setEntry_ne (.inr (temporaryName_ne "p" 1 0))).2 hwritten
  have hcreate : files.does sampleFiles (.createNew ⟨.current, [.normal sampleTemporary]⟩) (.ok 2) sampleCreated :=
    Created.here (show _ = Path.join ⟨.current, []⟩ sampleTemporary from rfl) (hcurrent _ rfl) hfree rfl (fun _ => rfl)
      (by decide)
  have hfirst : files.does sampleCreated (.write 2 [0x7B, 0x7D]) (.ok 1) sampleBegun := ⟨by decide, .here rfl⟩
  have hsecond : files.does sampleBegun (.write 2 [0x7D]) (.ok 1) sampleWritten := ⟨by decide, .here rfl⟩
  have hflush : files.does sampleWritten (.flush 2) (.ok ()) sampleWritten := rfl
  have hsync : files.does sampleWritten (.syncAll 2) (.ok ()) sampleWritten := rfl
  have hlink : files.does sampleWritten (.hardLink ⟨.current, [.normal sampleTemporary]⟩ sampleTarget) (.ok ())
      sampleLinked :=
    Linked.here (FileSystem.names_join.2 ⟨0, hcurrent _ rfl, hwritten⟩) rfl rfl
      (show sampleTarget = Path.join ⟨.relative, []⟩ "p" from rfl) (.stay 0) htarget _
  have hremove : files.does sampleLinked (.removeFile ⟨.current, [.normal sampleTemporary]⟩) (.ok ()) sampleCleared :=
    Removed.here (show _ = Path.join ⟨.current, []⟩ sampleTemporary from rfl) (hcurrent _ rfl) hlinked rfl rfl
  have hopen : files.does sampleCleared (.open ⟨.current, []⟩) (.ok 0) sampleCleared := ⟨rfl, hcurrent _ rfl⟩
  have hsyncParent : files.does sampleCleared (.syncAll 0) (.ok ()) sampleCleared := rfl
  have hstart : files.Run ((FileProfileStore.createNew true 1 sampleTarget sampleBytes).run ()) sampleFiles []
      sampleFiles _ := .start
  have hrun := ((hstart.next (hprogram.trans rfl) hmkdir).next rfl hisDir).next rfl hsequence
  have hrun := (((hrun.next rfl hcreate).next rfl hfirst).next rfl hsecond).next rfl hflush
  exact ((((hrun.next rfl hsync).next rfl hlink).next rfl hremove).next rfl hopen).next rfl hsyncParent

/-- The one mkdir finds the working directory, and no is_dir is answered with no. -/
theorem sampleTurns_answers : ∀ turn ∈ sampleTurns, (∀ dir w₀ w₁, turn ≠ ⟨w₀, .mkdir dir, .ok (), w₁⟩) ∧
    ∀ dir w₀ w₁, turn ≠ ⟨w₀, .isDir dir, false, w₁⟩ := by
  intro turn hturn
  simp only [sampleTurns, List.mem_cons, List.not_mem_nil, or_false] at hturn
  rcases hturn with rfl | rfl | rfl | rfl | rfl | rfl | rfl | rfl | rfl | rfl | rfl | rfl <;>
    exact ⟨nofun, nofun⟩

/-- A profile is created in the working directory, in two writes: the target appears with both of them. -/
theorem create_new_contract_published : ∃ (turns : List FileTurn) (fs : FileSystem) (wrote : FileTurn),
    files.Run ((FileProfileStore.createNew true 1 sampleTarget sampleBytes).run ()) sampleFiles turns fs
      (.done () (.ok ())) ∧
    wrote ∈ turns ∧ wrote.after.node 2 = some (.file [0x7B]) ∧ ¬ wrote.before.Exists sampleTarget ∧
    (∀ turn ∈ turns, ¬ turn.before.Exists sampleTarget → ∀ i, turn.after.Names sampleTarget i →
      turn.after.node i = some (.file sampleBytes)) ∧ Published sampleTarget sampleBytes fs := by
  have habsent : ¬ sampleCreated.Exists sampleTarget := by
    rintro ⟨i, hnames⟩
    obtain ⟨directory, hresolves, hentry⟩ := hnames
    cases hresolves
    exact hentry.not_free ⟨0, Function.update sampleEntries sampleTemporary (some 2), rfl, by decide +kernel⟩
  have hwrote : (⟨sampleCreated, .write 2 [0x7B, 0x7D], .ok 1, sampleBegun⟩ : FileTurn) ∈ sampleTurns := by
    simp only [sampleTurns, List.mem_cons, true_or, or_true]
  refine ⟨sampleTurns, sampleCleared, _, sampleTurns_run, hwrote, rfl, habsent, ?_⟩
  refine (fun hkept => ⟨fun turn hturn => (hkept.1 turn hturn).2, (hkept.2 (.ok ()) rfl).1 rfl⟩)
    (create_new_contract sampleTurns_run ⟨?_, ?_, by decide⟩)
  · rintro turn hturn ⟨made, w₀, w₁, hmade, -⟩
    exact (sampleTurns_answers turn hturn).1 made w₀ w₁ hmade
  · rintro ⟨dir, later, earlier, w₀, w₁, w₂, w₃, hturns⟩
    have hturn : (⟨w₂, .isDir dir, false, w₃⟩ : FileTurn) ∈ sampleTurns := by
      rw [hturns]
      exact List.mem_append_right _ List.mem_cons_self
    exact (sampleTurns_answers _ hturn).2 dir w₂ w₃ rfl

end Swbt
