/-
Surrogates.Proofs.Files.Writing — source files that are written one after
another.

A command that succeeds leads from one disk to another (`Leads`). Directories
that are made on the way keep all files, and a file that is written keeps those
of other names. So in the end the last of the files of one path stands there:
`holds_writeSources`.
-/
import Surrogates.CommandLine.Output
import Surrogates.Proofs.Files.Disk

namespace Surrogates

/-! ## §1 Paths -/

namespace Files

theorem splitChars_of_notMem {cs : List Char} (h : '/' ∉ cs) : splitChars cs = [cs] := by
  induction cs with
  | nil => rfl
  | cons c rest ih =>
    obtain ⟨hc, hrest⟩ := not_or.mp (mt List.mem_cons.mpr h)
    rw [splitChars, if_neg (Ne.symm hc), ih hrest]

theorem splitChars_ne_nil (cs : List Char) : splitChars cs ≠ [] := by
  fun_cases splitChars cs <;> simp

theorem splitChars_append_slash (cs ds : List Char) :
    splitChars (cs ++ '/' :: ds) = splitChars cs ++ splitChars ds := by
  induction cs with
  | nil => simp [splitChars]
  | cons c rest ih =>
    rw [List.cons_append, splitChars, splitChars, ih]
    split
    · rfl
    · cases hrest : splitChars rest with
      | nil => exact absurd hrest (splitChars_ne_nil rest)
      | cons first more => rfl

/-- A name in a directory is the last piece of its path, and the other pieces are
those of the directory, but for an empty one at the end. -/
theorem exists_pieces_join (directory : String) {name : String} (h : '/' ∉ name.toList) :
    ∃ above, pieces (join directory name) = above ++ [name] ∧
      (pieces directory = above ∨ pieces directory = above ++ [""]) := by
  have hname : splitChars name.toList = [name.toList] := splitChars_of_notMem h
  unfold join pieces
  split
  · next hend =>
    rcases (Bool.or_eq_true ..).mp hend with hempty | hslash
    · obtain rfl := of_decide_eq_true hempty
      exact ⟨[], by simp [hname], .inr (by simp [splitChars])⟩
    · obtain ⟨init, hinit⟩ := List.getLast?_eq_some_iff.mp (beq_iff_eq.mp hslash)
      exact ⟨(splitChars init).map String.ofList,
        by simp [hinit, splitChars_append_slash, hname],
        .inr (by simp [hinit, splitChars_append_slash, splitChars])⟩
  · exact ⟨(splitChars directory.toList).map String.ofList,
      by simp [splitChars_append_slash, hname], .inl rfl⟩

theorem isAbsolute_join (directory : String) {name : String} (h : '/' ∉ name.toList) :
    isAbsolute (join directory name) = isAbsolute directory := by
  unfold join isAbsolute
  by_cases hempty : directory = ""
  · have hhead : name.toList.head? ≠ some '/' := fun hhead => h (List.mem_of_head? hhead)
    simp [hempty, hhead]
  · obtain ⟨first, rest, hcons⟩ : ∃ first rest, directory.toList = first :: rest :=
      List.exists_cons_of_ne_nil fun hnil => hempty (String.toList_eq_nil_iff.mp hnil)
    split <;> simp [hcons]

end Files

/-- A file name: no path of several pieces, and no name of a directory that is
there already. -/
structure Files.IsName (name : String) : Prop where
  noSlash : '/' ∉ name.toList
  ne_empty : name ≠ ""
  ne_here : name ≠ "."
  ne_up : name ≠ ".."

theorem Files.IsName.endsWith {name : String} (h : Files.IsName name) (directory : String) :
    ∃ above, Disk.EndsWith (Files.join directory name) name above := by
  obtain ⟨above, habove, -⟩ := exists_pieces_join directory h.noSlash
  exact ⟨above, habove, h.ne_empty, h.ne_here, h.ne_up⟩

/-! ## §2 Making directories -/

namespace Disk

variable {α β : Type}

/-- What a program gives, and the disk that it leaves. -/
def run (disk : Disk) (program : StateM Disk α) : α × Disk :=
  program disk

theorem run_bind (disk : Disk) (program : StateM Disk α) (next : α → StateM Disk β) :
    disk.run (program >>= next) = (disk.run program).2.run (next (disk.run program).1) :=
  rfl

/-- A program that leaves a disk related to the one before, whatever it gives. -/
def Always (R : Disk → Disk → Prop) (program : StateM Disk α) : Prop :=
  ∀ disk, R disk (disk.run program).2

/-- A relation of disks that holds along programs that make directories. -/
structure AllowsDirectories (R : Disk → Disk → Prop) : Prop where
  refl : ∀ disk, R disk disk
  trans : ∀ {before middle after}, R before middle → R middle after → R before after
  makeDirectory : ∀ {before path after}, before.makeDirectory path = .ok after → R before after

theorem allowsDirectories_keeps (name : String) : AllowsDirectories (Keeps name) where
  refl := .refl name
  trans := .trans
  makeDirectory := keeps_makeDirectory name

variable {R : Disk → Disk → Prop}

theorem always_pure (h : AllowsDirectories R) (a : α) : Always R (pure a) := h.refl

theorem always_bind (h : AllowsDirectories R) {program : StateM Disk α} {next : α → StateM Disk β}
    (hprogram : Always R program) (hnext : ∀ a, Always R (next a)) : Always R (program >>= next) :=
  fun disk => h.trans (hprogram disk) (hnext _ _)

theorem always_update (h : AllowsDirectories R) {step : Disk → Except FileError Disk}
    (hstep : ∀ before after, step before = .ok after → R before after) :
    Always R (update step) := by
  intro disk
  show R disk (update step disk).2
  unfold update
  split
  · next after hafter => exact hstep disk after hafter
  · exact h.refl disk

theorem always_ensureDirectory (h : AllowsDirectories R) (path : String) :
    Always R (Files.ensureDirectory path : StateM Disk (Except FileError Unit)) := by
  refine always_bind h (always_update h fun _ _ => h.makeDirectory) fun result => ?_
  cases result with
  | ok => exact always_pure h _
  | error e => exact always_bind h h.refl fun _ => always_pure h _

theorem always_createFirst (h : AllowsDirectories R) (paths : List String) :
    Always R (Files.createFirst paths : StateM Disk (Except FileError Unit)) := by
  induction paths with
  | nil => exact always_pure h _
  | cons path above ih =>
    unfold Files.createFirst
    split
    · exact always_pure h _
    · refine always_bind h (always_ensureDirectory h path) fun result => ?_
      split
      · refine always_bind h ih fun result => ?_
        split
        · exact always_ensureDirectory h path
        · exact always_pure h _
      · exact always_pure h _

/-- What new directories allow holds along the making of directories. -/
theorem always_createDirectories (h : AllowsDirectories R) (path : String) :
    Always R (Files.createDirectories path : StateM Disk (Except FileError Unit)) :=
  always_createFirst h _

end Disk

/-! ## §3 Commands that succeed -/

namespace CommandLine

open Source (File)

variable {before middle after : Disk} {directory : String} {file : File} {files : List File}

/-- A command succeeds on a disk and leaves another. -/
def Leads (command : ExceptT Failure (StateM Disk) Unit) (before after : Disk) : Prop :=
  before.run command.run = (.ok (), after)

variable {command : ExceptT Failure (StateM Disk) Unit}
  {next : Unit → ExceptT Failure (StateM Disk) Unit}

theorem leads_of_isSome (h : (before.run command.run).1.toOption.isSome = true) :
    Leads command before (before.run command.run).2 := by
  unfold Leads
  rcases hrun : before.run command.run with ⟨_ | ⟨⟩, after⟩
  · rw [hrun] at h
    cases h
  · rfl

theorem leads_pure : Leads (pure ()) before after ↔ before = after := by
  show ((.ok (), before) : Except Failure Unit × Disk) = (.ok (), after) ↔ _
  simp

theorem leads_bind : Leads (command >>= next) before after ↔
    ∃ middle, Leads command before middle ∧ Leads (next ()) middle after := by
  unfold Leads
  rw [ExceptT.run_bind, Disk.run_bind]
  rcases before.run command.run with ⟨_ | ⟨⟩, middle⟩
  · show ((.error _, _) : Except Failure Unit × Disk) = _ ↔ _
    simp
  · simp

theorem leads_attempt {failure : FileError → Failure}
    {operation : StateM Disk (Except FileError Unit)} :
    Leads (attempt failure operation) before after ↔ before.run operation = (.ok (), after) := by
  have hrun : before.run (attempt failure operation).run =
      ((before.run operation).1.mapError failure, (before.run operation).2) := by
    have hlift : before.run (liftM operation : ExceptT Failure (StateM Disk) _).run =
        (.ok (before.run operation).1, (before.run operation).2) := rfl
    unfold attempt
    rw [ExceptT.run_bind, Disk.run_bind, hlift]
    cases (before.run operation).1 <;> rfl
  unfold Leads
  rw [hrun]
  rcases before.run operation with ⟨_ | ⟨⟩, middle⟩
  · constructor <;> intro h <;> cases h
  · constructor <;> intro h <;> cases h <;> rfl

/-! ## §4 Writing -/

theorem keeps_of_createDirectories {failure : FileError → Failure} {path : String}
    (h : Leads (attempt failure (Files.createDirectories path)) before after) (name : String) :
    Disk.Keeps name before after := by
  have hkeeps := Disk.always_createDirectories (Disk.allowsDirectories_keeps name) path before
  rwa [leads_attempt.mp h] at hkeeps

/-- A source file is written to a disk on which the directories that it needs were
made. -/
theorem of_writeSource (h : Leads (writeSource directory file) before after) :
    ∃ made, (∀ name, Disk.Keeps name before made) ∧
      made.write (Files.join directory file.path) file.contents = .ok after := by
  have hmade : ∃ made, (∀ name, Disk.Keeps name before made) ∧
      made.run (FileSystem.write (Files.join directory file.path) file.contents) =
        (.ok (), after) := by
    unfold writeSource at h
    dsimp only at h
    split at h
    · obtain ⟨made, hmade, hwrite⟩ := leads_bind.mp h
      exact ⟨made, keeps_of_createDirectories hmade, leads_attempt.mp hwrite⟩
    · exact ⟨before, (.refl · before), leads_attempt.mp h⟩
  obtain ⟨made, hkeeps, hwrite⟩ := hmade
  refine ⟨made, hkeeps, ?_⟩
  have hupdate : Disk.update (·.write (Files.join directory file.path) file.contents) made =
      ((.ok (), after) : Except FileError Unit × Disk) := hwrite
  unfold Disk.update at hupdate
  split at hupdate
  · next changed hchanged =>
    cases hupdate
    exact hchanged
  · cases hupdate

theorem keeps_writeSource {name : String} (hname : Files.IsName file.path)
    (hne : file.path ≠ name) (h : Leads (writeSource directory file) before after) :
    Disk.Keeps name before after := by
  obtain ⟨made, hkeeps, hwrite⟩ := of_writeSource h
  obtain ⟨above, hends⟩ := hname.endsWith directory
  exact (hkeeps name).trans (Disk.keeps_write hends hne hwrite)

theorem read_writeSource (hname : Files.IsName file.path)
    (h : Leads (writeSource directory file) before after) :
    after.read (Files.join directory file.path) = .ok file.contents := by
  obtain ⟨made, -, hwrite⟩ := of_writeSource h
  obtain ⟨above, hends⟩ := hname.endsWith directory
  exact Disk.read_write hends hwrite

/-- Files of other names are kept. -/
theorem keeps_writeEach {name : String} (hnames : ∀ file ∈ files, Files.IsName file.path)
    (hne : ∀ file ∈ files, file.path ≠ name) (h : Leads (writeEach directory files) before after) :
    Disk.Keeps name before after := by
  induction files generalizing before with
  | nil =>
    obtain rfl := leads_pure.mp h
    exact .refl name before
  | cons first rest ih =>
    obtain ⟨hfirst, hrest⟩ := List.forall_mem_cons.mp hnames
    obtain ⟨hneFirst, hneRest⟩ := List.forall_mem_cons.mp hne
    obtain ⟨middle, hwrite, hlater⟩ := leads_bind.mp h
    exact (keeps_writeSource hfirst hneFirst hwrite).trans (ih hrest hneRest hlater)

theorem of_find?_path {path : String} (h : files.find? (·.path == path) = some file) :
    file ∈ files ∧ file.path = path :=
  ⟨List.mem_of_find?_eq_some h, by simpa using List.find?_some h⟩

/-- A path holds the text of the last file that has it. -/
theorem read_writeEach (hnames : ∀ file ∈ files, Files.IsName file.path)
    (h : Leads (writeEach directory files) before after) {path : String} {last : File}
    (hlast : files.reverse.find? (·.path == path) = some last) :
    after.read (Files.join directory path) = .ok last.contents := by
  induction files generalizing before with
  | nil => cases hlast
  | cons first rest ih =>
    obtain ⟨hfirst, hrest⟩ := List.forall_mem_cons.mp hnames
    obtain ⟨middle, hwrite, hlater⟩ := leads_bind.mp h
    rw [List.reverse_cons, List.find?_append, Option.or_eq_some_iff] at hlast
    rcases hlast with hlast | ⟨hnone, hlast⟩
    · exact ih hrest hlater hlast
    · -- No later file has the path, so that the first one stays.
      obtain ⟨hmem, rfl⟩ := of_find?_path hlast
      obtain rfl : last = first := List.mem_singleton.mp hmem
      have hother : ∀ file ∈ rest, file.path ≠ last.path := by
        simpa using hnone
      obtain ⟨above, hends⟩ := hfirst.endsWith directory
      exact Disk.read_of_keeps hends (keeps_writeEach hrest hother hlater)
        (read_writeSource hfirst hwrite)

/-- A source file stands with its text below a directory. -/
def Holds (disk : Disk) (directory : String) (file : File) : Prop :=
  disk.read (Files.join directory file.path) = .ok file.contents

/-- **The last file of a path.** When source files have been written, the last of
those of one path stands there. -/
theorem holds_writeSources (hnames : ∀ file ∈ files, Files.IsName file.path)
    (h : Leads (writeSources directory files) before after) {path : String} {last : File}
    (hlast : files.reverse.find? (·.path == path) = some last) : Holds after directory last := by
  obtain ⟨made, -, heach⟩ := leads_bind.mp h
  obtain ⟨-, rfl⟩ := of_find?_path hlast
  exact read_writeEach hnames heach hlast

/-- Files of one path that both stand there have one text. -/
theorem Holds.contents_eq {disk : Disk} {other : File} (h : Holds disk directory file)
    (h' : Holds disk directory other) (hpath : file.path = other.path) :
    file.contents = other.contents := by
  unfold Holds at h
  rw [hpath, h'] at h
  exact (Except.ok.inj h).symm

theorem Holds.of_eq {disk : Disk} {other : File} (h : Holds disk directory other)
    (hpath : other.path = file.path) (hcontents : other.contents = file.contents) :
    Holds disk directory file := by
  rwa [Holds, ← hpath, ← hcontents]

theorem exists_last (hfile : file ∈ files) :
    ∃ last, files.reverse.find? (·.path == file.path) = some last ∧ last ∈ files ∧
      last.path = file.path := by
  have hsome : (files.reverse.find? (·.path == file.path)).isSome = true :=
    List.find?_isSome.mpr ⟨file, List.mem_reverse.mpr hfile, beq_self_eq_true _⟩
  obtain ⟨last, hlast⟩ := Option.isSome_iff_exists.mp hsome
  obtain ⟨hmem, hpath⟩ := of_find?_path hlast
  exact ⟨last, hlast, List.mem_reverse.mp hmem, hpath⟩

end CommandLine

end Surrogates
