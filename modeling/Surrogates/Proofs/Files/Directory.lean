/-
Surrogates.Proofs.Files.Directory — writing that stays in a directory.

A plain file name behind the path of a directory leads to an entry of that
directory (`reaches_of_write`), and where a file is put there, no file stands
elsewhere that did not stand there before: `fileAt_insert_iff`. Making directories
changes no file at all. So whatever becomes of writing source files, with or
without success, only their names in the directory are touched:
`onlyWrites_writeSources`.
-/
import Surrogates.Proofs.Files.Writing

namespace Surrogates

/-! ## §1 Trees -/

namespace FileTree

variable {tree new : FileTree} {directory location : List String} {name : String}
  {entries : List (String × FileTree)}

/-- Where there was nothing, there is nothing still, if what is new has nothing
below it. -/
theorem at?_insert_of_none (hnew : new.entries = [])
    (h : tree.at? directory = some (.directory entries)) (hnone : tree.at? location = none)
    (hne : location ≠ directory ++ [name]) :
    (insert new (directory ++ [name]) tree).at? location = none := by
  induction directory generalizing tree location with
  | nil =>
    cases h
    cases location with
    | nil => cases hnone
    | cons first rest =>
      by_cases hfirst : first = name
      · subst hfirst
        obtain ⟨second, more, rfl⟩ : ∃ second more, rest = second :: more :=
          List.exists_cons_of_ne_nil fun heq => hne (by rw [heq]; rfl)
        have hbelow : new.at? (second :: more) = none := by rw [at?, hnew]; rfl
        show (Assoc.get? first (Assoc.put first new entries)).bind (·.at? (second :: more)) = none
        rwa [Assoc.get?_put_self]
      · simpa [insert, at?, FileTree.entries, Assoc.get?_put_of_ne _ _ hfirst] using hnone
  | cons top deeper ih =>
    obtain ⟨above, sub, rfl, hsub, hbelow⟩ := at?_cons h
    cases location with
    | nil => cases hnone
    | cons first rest =>
      by_cases hfirst : first = top
      · subst hfirst
        have hnone' : sub.at? rest = none := by
          simpa [at?, FileTree.entries, hsub] using hnone
        have hne' : rest ≠ deeper ++ [name] := fun heq => hne (congrArg (first :: ·) heq)
        simpa [insert, at?, FileTree.entries, hsub, Assoc.get?_put_self] using ih hbelow hnone' hne'
      · simpa [insert, at?, FileTree.entries, Assoc.get?_put_of_ne _ _ hfirst] using hnone

/-- A new tree with nothing below it, in place of a file or nothing, changes no
file elsewhere. -/
theorem fileAt_insert_iff (hnew : new.entries = [])
    (h : tree.at? directory = some (.directory entries))
    (hplace : ∀ below, tree.at? (directory ++ [name]) ≠ some (.directory below))
    (hne : location ≠ directory ++ [name]) (contents : String) :
    (insert new (directory ++ [name]) tree).at? location = some (.file contents) ↔
      tree.at? location = some (.file contents) := by
  cases hold : tree.at? location with
  | none => rw [at?_insert_of_none hnew h hold hne]
  | some old =>
    obtain ⟨kept, hkept, hstays⟩ := kept_insert new h hplace hold hne
    rw [hkept]
    cases hstays with
    | file => rfl
    | directory => simp

end FileTree

/-! ## §2 Disks -/

namespace Disk

variable {disk before middle after : Disk} {directory path name contents : String}
  {names : List String} {location above : List String}

/-- Whether a path leads to a location. -/
def Reaches (disk : Disk) (path : String) (location : List String) : Prop :=
  disk.walk (disk.start path) (Files.pieces path) = .ok location

/-- Whether a location is that of one of some names in the directory that a path
leads to. -/
def IsIn (disk : Disk) (directory : String) (names : List String) (location : List String) :
    Prop :=
  ∃ above, disk.Reaches directory above ∧ ∃ name ∈ names, location = above ++ [name]

/-- A disk on which all is still there, and no file has another text or is new but
for those of some names in a directory. -/
structure OnlyWrites (path : String) (names : List String) (before after : Disk) : Prop
    extends Stays before after where
  fileAt_iff : ∀ location contents, ¬after.IsIn path names location →
    (after.root.at? location = some (.file contents) ↔
      before.root.at? location = some (.file contents))

theorem Reaches.of_stays (h : Stays before after) (hreaches : before.Reaches path location) :
    after.Reaches path location := by
  unfold Reaches
  rw [h.start_eq]
  exact walk_of_stays h hreaches

theorem IsIn.of_stays (h : Stays before after) (hin : before.IsIn directory names location) :
    after.IsIn directory names location := by
  obtain ⟨above, hreaches, hname⟩ := hin
  exact ⟨above, hreaches.of_stays h, hname⟩

namespace OnlyWrites

theorem refl (directory : String) (names : List String) (disk : Disk) :
    OnlyWrites directory names disk disk where
  toStays := (Keeps.refl "" disk).toStays
  fileAt_iff _ _ _ := Iff.rfl

theorem trans (h : OnlyWrites directory names before middle)
    (h' : OnlyWrites directory names middle after) : OnlyWrites directory names before after where
  workingDirectory := h'.workingDirectory.trans h.workingDirectory
  directory location entries hentries := by
    obtain ⟨entries', hentries'⟩ := h.directory location entries hentries
    exact h'.directory location entries' hentries'
  file location contents hcontents := by
    obtain ⟨contents', hcontents'⟩ := h.file location contents hcontents
    exact h'.file location contents' hcontents'
  fileAt_iff location contents hnot :=
    (h'.fileAt_iff location contents hnot).trans
      (h.fileAt_iff location contents fun hin => hnot (hin.of_stays h'.toStays))

end OnlyWrites

/-- A new directory changes no file. -/
theorem onlyWrites_makeDirectory (directory : String) (names : List String)
    (h : disk.makeDirectory path = .ok after) : OnlyWrites directory names disk after where
  toStays := (keeps_makeDirectory "" h).toStays
  fileAt_iff location contents _ := by
    obtain ⟨place, hplace, h⟩ := Except.bind_eq_ok.mp h
    cases place with
    | unnamed => cases h
    | entry above other slashed =>
      obtain ⟨entries, hentries⟩ := isDirectory_of_place hplace
      dsimp only at h
      split at h
      · cases h
      · next hnone =>
        cases h
        rw [Option.not_isSome_iff_eq_none] at hnone
        by_cases heq : location = above ++ [other]
        · have hself : (disk.insert (above ++ [other]) (.directory [])).root.at?
              (above ++ [other]) = some (.directory []) := FileTree.at?_insert_self hentries
          rw [heq, hself, hnone]
          simp
        · exact FileTree.fileAt_insert_iff rfl hentries (by simp [hnone]) heq contents

theorem allowsDirectories_onlyWrites (directory : String) (names : List String) :
    AllowsDirectories (OnlyWrites directory names) where
  refl := .refl directory names
  trans := .trans
  makeDirectory := onlyWrites_makeDirectory directory names

/-- A path that leads to a directory leads there with an empty piece too. -/
theorem reaches_of_walk {entries : List (String × FileTree)}
    (hpieces : Files.pieces path = above ∨ Files.pieces path = above ++ [""])
    (hwalk : disk.walk (disk.start path) above = .ok location)
    (hentries : disk.root.at? location = some (.directory entries)) :
    disk.Reaches path location := by
  unfold Reaches
  rcases hpieces with heq | heq
  · rw [heq, hwalk]
  · rw [heq, walk_append, hwalk]
    simp [Except.bind, walk, hentries, Files.isIdle]

/-- A file that is written to a name in a directory changes no other. -/
theorem onlyWrites_write (hname : Files.IsName name) (hmem : name ∈ names)
    (h : disk.write (Files.join directory name) contents = .ok after) :
    OnlyWrites directory names disk after := by
  obtain ⟨above, hpieces, habove⟩ := Files.exists_pieces_join directory hname.noSlash
  obtain ⟨top, entries, hentries, -, hwalk, -, hnot, rfl⟩ :=
    write_eq_ok ⟨hpieces, hname.ne_empty, hname.ne_here, hname.ne_up⟩ h
  have hstays := stays_insert hentries hnot (.inr ⟨contents, rfl⟩)
  have hstart : disk.start (Files.join directory name) = disk.start directory := by
    rw [start, start, Files.isAbsolute_join directory hname.noSlash]
  rw [hstart] at hwalk
  have hreaches := (reaches_of_walk habove hwalk hentries).of_stays hstays
  refine ⟨hstays, fun location text hout => FileTree.fileAt_insert_iff rfl hentries hnot ?_ text⟩
  exact fun heq => hout ⟨top, hreaches, name, hmem, heq⟩

end Disk

/-! ## §3 Commands -/

namespace CommandLine

open Disk (Always OnlyWrites allowsDirectories_onlyWrites)
open Source (File)

variable {R : Disk → Disk → Prop} {directory : String} {names : List String}

theorem always_run_bind (h : Disk.AllowsDirectories R)
    {command : ExceptT Failure (StateM Disk) Unit}
    {next : Unit → ExceptT Failure (StateM Disk) Unit} (hcommand : Always R command.run)
    (hnext : ∀ a, Always R (next a).run) : Always R (command >>= next).run := by
  rw [ExceptT.run_bind]
  refine Disk.always_bind h hcommand fun result => ?_
  cases result with
  | ok a => exact hnext a
  | error e => exact Disk.always_pure h _

theorem always_run_attempt (h : Disk.AllowsDirectories R) (failure : FileError → Failure)
    {operation : StateM Disk (Except FileError Unit)} (hoperation : Always R operation) :
    Always R (attempt failure operation).run := by
  unfold attempt
  rw [ExceptT.run_bind]
  refine Disk.always_bind h hoperation fun result => ?_
  cases result with
  | ok result => cases result <;> exact Disk.always_pure h _
  | error e => exact Disk.always_pure h _

theorem onlyWrites_writeSource {file : File} (hname : Files.IsName file.path)
    (hmem : file.path ∈ names) :
    Always (OnlyWrites directory names) (writeSource directory file).run := by
  have h := allowsDirectories_onlyWrites directory names
  have hwrite : Always (OnlyWrites directory names)
      (attempt (.access (Files.join directory file.path))
        (FileSystem.write (m := StateM Disk) (Files.join directory file.path) file.contents)).run :=
    always_run_attempt h _ (Disk.always_update h fun _ _ => Disk.onlyWrites_write hname hmem)
  unfold writeSource
  dsimp only
  split
  · exact always_run_bind h (always_run_attempt h _ (Disk.always_createDirectories h _))
      fun _ => hwrite
  · exact hwrite

theorem onlyWrites_writeEach {files : List File} (hnames : ∀ file ∈ files, Files.IsName file.path)
    (hmem : ∀ file ∈ files, file.path ∈ names) :
    Always (OnlyWrites directory names) (writeEach directory files).run := by
  have h := allowsDirectories_onlyWrites directory names
  induction files with
  | nil => exact Disk.always_pure h _
  | cons first rest ih =>
    obtain ⟨hfirst, hrest⟩ := List.forall_mem_cons.mp hnames
    obtain ⟨hmemFirst, hmemRest⟩ := List.forall_mem_cons.mp hmem
    exact always_run_bind h (onlyWrites_writeSource hfirst hmemFirst) fun _ => ih hrest hmemRest

/-- **Writing stays in the directory.** Whatever becomes of writing source files
with plain names, no other file is changed or new than those of their names in the
directory, and nothing is taken away. -/
theorem onlyWrites_writeSources (directory : String) {files : List File}
    (hnames : ∀ file ∈ files, Files.IsName file.path) (before : Disk) :
    OnlyWrites directory (files.map (·.path)) before
      (before.run (writeSources directory files).run).2 := by
  have h := allowsDirectories_onlyWrites directory (files.map (·.path))
  have hmem : ∀ file ∈ files, file.path ∈ files.map (·.path) :=
    fun _ hfile => List.mem_map_of_mem hfile
  exact always_run_bind h (always_run_attempt h _ (Disk.always_createDirectories h directory))
    (fun _ => onlyWrites_writeEach hnames hmem) before

end CommandLine

end Surrogates
