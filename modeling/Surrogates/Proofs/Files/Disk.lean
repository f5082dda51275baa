/-
Surrogates.Proofs.Files.Disk — what a change to a disk leaves as it was.

A new tree goes to a name in a directory where there was a file or nothing.
Everything else stays what it is, and a file stays with its text unless it has
that very location: `kept_insert`. So the ways along which paths are followed
stay as they are (`walk_of_stays`), both operations that change a disk keep
the files of every other name (`keeps_makeDirectory`, `keeps_write`), and what
is written is what is read (`read_write`), until a file of that name is
written again (`read_of_keeps`).
-/
import Surrogates.Files.Disk
import Surrogates.Proofs.Results

namespace Surrogates

/-! ## §1 Trees -/

namespace FileTree

variable {tree new old : FileTree} {directory location : List String} {name : String}
  {entries : List (String × FileTree)}

theorem at?_append (tree : FileTree) (above below : List String) :
    tree.at? (above ++ below) = (tree.at? above).bind (·.at? below) := by
  induction above generalizing tree with
  | nil => rfl
  | cons name rest ih =>
    rw [List.cons_append, at?, at?, Option.bind_assoc]
    congr 1
    funext sub
    exact ih sub

/-- The tree at a name in a directory. -/
theorem at?_entry (h : tree.at? directory = some (.directory entries)) (name : String) :
    tree.at? (directory ++ [name]) = Assoc.get? name entries := by
  simp [at?_append, h, at?, FileTree.entries]

theorem at?_cons {first : String} {rest : List String} (h : tree.at? (first :: rest) = some old) :
    ∃ entries sub, tree = .directory entries ∧ Assoc.get? first entries = some sub ∧
      sub.at? rest = some old := by
  cases tree with
  | file contents => cases h
  | directory entries =>
    obtain ⟨sub, hsub, hrest⟩ := Option.bind_eq_some_iff.mp h
    exact ⟨entries, sub, rfl, hsub, hrest⟩

/-- A new tree stands where it was put. -/
theorem at?_insert_self (h : tree.at? directory = some (.directory entries)) :
    (insert new (directory ++ [name]) tree).at? (directory ++ [name]) = some new := by
  induction directory generalizing tree with
  | nil =>
    cases h
    simp [insert, at?, FileTree.entries, Assoc.get?_put_self]
  | cons first rest ih =>
    obtain ⟨above, sub, rfl, hsub, hrest⟩ := at?_cons h
    simp only [List.cons_append, insert, at?, FileTree.entries, hsub, Option.getD_some,
      Assoc.get?_put_self, Option.bind_some]
    exact ih hrest

/-- Below a file there is nothing. -/
theorem at?_file (contents : String) (h : location ≠ []) : (file contents).at? location = none := by
  cases location with
  | nil => exact absurd rfl h
  | cons first rest => rfl

/-- What a tree becomes when the tree that it is in changes elsewhere: a file
stays as it is, and a directory stays a directory. -/
inductive Kept : FileTree → FileTree → Prop where
  | file (contents : String) : Kept (.file contents) (.file contents)
  | directory (before after : List (String × FileTree)) :
      Kept (.directory before) (.directory after)

theorem Kept.refl : (tree : FileTree) → Kept tree tree
  | .file contents => .file contents
  | .directory entries => .directory entries entries

/-- **What a new tree leaves in place.** Where a directory has a file or nothing
under a name and gets a new tree there, everything at another location stays. -/
theorem kept_insert (new : FileTree) (h : tree.at? directory = some (.directory entries))
    (hplace : ∀ below, tree.at? (directory ++ [name]) ≠ some (.directory below))
    (hold : tree.at? location = some old) (hne : location ≠ directory ++ [name]) :
    ∃ kept, (insert new (directory ++ [name]) tree).at? location = some kept ∧ Kept old kept := by
  induction directory generalizing tree location with
  | nil =>
    cases h
    cases location with
    | nil =>
      cases hold
      exact ⟨_, rfl, .directory _ _⟩
    | cons first rest =>
      obtain ⟨_, sub, heq, hsub, hrest⟩ := at?_cons hold
      cases heq
      by_cases hfirst : first = name
      · -- The old tree would lie below a file or nothing.
        subst hfirst
        have hrest' : rest ≠ [] := fun heq => hne (by rw [heq]; rfl)
        cases sub with
        | file contents => simp [at?_file contents hrest'] at hrest
        | directory below => exact absurd (by simp [at?, FileTree.entries, hsub]) (hplace below)
      · refine ⟨old, ?_, .refl old⟩
        simp [insert, at?, FileTree.entries, Assoc.get?_put_of_ne _ _ hfirst, hsub, hrest]
  | cons top deeper ih =>
    obtain ⟨above, sub, rfl, hsub, hbelow⟩ := at?_cons h
    cases location with
    | nil =>
      cases hold
      exact ⟨_, rfl, .directory _ _⟩
    | cons first rest =>
      obtain ⟨_, found, heq, hfound, hrest⟩ := at?_cons hold
      cases heq
      by_cases hfirst : first = top
      · subst hfirst
        obtain rfl : sub = found := Option.some.inj (hsub.symm.trans hfound)
        have hplace' : ∀ below, sub.at? (deeper ++ [name]) ≠ some (.directory below) := by
          simpa [at?, FileTree.entries, hsub] using hplace
        obtain ⟨kept, hkept, hstays⟩ :=
          ih hbelow hplace' hrest fun heq => hne (congrArg (first :: ·) heq)
        refine ⟨kept, ?_, hstays⟩
        simpa [insert, at?, FileTree.entries, hsub, Assoc.get?_put_self] using hkept
      · refine ⟨old, ?_, .refl old⟩
        simp [insert, at?, FileTree.entries, Assoc.get?_put_of_ne _ _ hfirst, hfound, hrest]

end FileTree

/-! ## §2 Disks -/

namespace Disk

variable {disk before middle after : Disk} {name path contents : String}

/-- A disk on which all that was there is still there: directories are directories
and files are files, perhaps with other texts. -/
structure Stays (before after : Disk) : Prop where
  workingDirectory : after.workingDirectory = before.workingDirectory
  directory : ∀ location entries, before.root.at? location = some (.directory entries) →
    ∃ entries, after.root.at? location = some (.directory entries)
  file : ∀ location contents, before.root.at? location = some (.file contents) →
    ∃ contents, after.root.at? location = some (.file contents)

/-- A disk on which all is still there and the files of a name have their texts. -/
structure Keeps (name : String) (before after : Disk) : Prop extends Stays before after where
  contents : ∀ above contents, before.root.at? (above ++ [name]) = some (.file contents) →
    after.root.at? (above ++ [name]) = some (.file contents)

theorem Stays.isSome_at? (h : Stays before after) {location : List String}
    (hsome : (before.root.at? location).isSome = true) :
    (after.root.at? location).isSome = true := by
  obtain ⟨tree, htree⟩ := Option.isSome_iff_exists.mp hsome
  cases tree with
  | file contents =>
    obtain ⟨_, hcontents⟩ := h.file location contents htree
    simp [hcontents]
  | directory entries =>
    obtain ⟨_, hentries⟩ := h.directory location entries htree
    simp [hentries]

theorem Stays.start_eq (h : Stays before after) (path : String) :
    after.start path = before.start path := by
  rw [start, start, h.workingDirectory]

namespace Keeps

theorem refl (name : String) (disk : Disk) : Keeps name disk disk where
  workingDirectory := rfl
  directory _ entries h := ⟨entries, h⟩
  file _ contents h := ⟨contents, h⟩
  contents _ _ h := h

theorem trans (h : Keeps name before middle) (h' : Keeps name middle after) :
    Keeps name before after where
  workingDirectory := h'.workingDirectory.trans h.workingDirectory
  directory location entries hentries := by
    obtain ⟨entries', hentries'⟩ := h.directory location entries hentries
    exact h'.directory location entries' hentries'
  file location contents hcontents := by
    obtain ⟨contents', hcontents'⟩ := h.file location contents hcontents
    exact h'.file location contents' hcontents'
  contents above contents hcontents :=
    h'.contents above contents (h.contents above contents hcontents)

end Keeps

/-! ## §3 Ways -/

theorem walk_append (disk : Disk) (location pieces more : List String) :
    disk.walk location (pieces ++ more) =
      (disk.walk location pieces).bind (disk.walk · more) := by
  fun_induction disk.walk location pieces with
  | case1 location => rfl
  | case2 location piece rest h => simp [walk, h, Except.bind]
  | case3 location piece rest contents h => simp [walk, h, Except.bind]
  | case4 location piece rest entries h hidle ih => simpa [walk, h, hidle] using ih
  | case5 location rest entries h hidle ih => simpa [walk, h, hidle] using ih
  | case6 location piece rest entries h hidle hup hlong => 
    simp [walk, h, hidle, hup, hlong, Except.bind]
  | case7 location piece rest entries h hidle hup hlong hsome ih =>
    simpa [walk, h, hidle, hup, hlong, hsome] using ih
  | case8 location piece rest entries h hidle hup hlong hnone => 
    simp [walk, h, hidle, hup, hlong, hnone, Except.bind]

/-- A way stays where directories and files do. -/
theorem walk_of_stays (h : Stays before after) {location pieces : List String}
    {last : List String} (hwalk : before.walk location pieces = .ok last) :
    after.walk location pieces = .ok last := by
  fun_induction before.walk location pieces with
  | case1 location => exact hwalk
  | case4 location piece rest entries hentries hidle ih =>
    obtain ⟨_, hkept⟩ := h.directory location entries hentries
    simpa [walk, hkept, hidle] using ih hwalk
  | case5 location rest entries hentries hidle ih =>
    obtain ⟨_, hkept⟩ := h.directory location entries hentries
    simpa [walk, hkept, hidle] using ih hwalk
  | case7 location piece rest entries hentries hidle hup hlong hsome ih =>
    obtain ⟨_, hkept⟩ := h.directory location entries hentries
    rw [← FileTree.at?_entry hentries] at hsome
    have hthere := h.isSome_at? hsome
    rw [FileTree.at?_entry hkept] at hthere
    simpa [walk, hkept, hidle, hup, hlong, hthere] using ih hwalk
  | case2 => cases hwalk
  | case3 => cases hwalk
  | case6 => cases hwalk
  | case8 => cases hwalk

/-! ## §4 Names at the end of a path -/

/-- A path whose last piece is a name of its own, in the directory that the other
pieces lead to. -/
structure EndsWith (path name : String) (above : List String) : Prop where
  pieces : Files.pieces path = above ++ [name]
  ne_empty : name ≠ ""
  ne_here : name ≠ "."
  ne_up : name ≠ ".."

variable {directory above : List String} {other : String} {entries : List (String × FileTree)}

/-- A new entry has its place in a directory. -/
theorem isDirectory_of_place {slashed : Bool}
    (h : disk.place path = .ok (.entry directory name slashed)) :
    ∃ entries, disk.root.at? directory = some (.directory entries) := by
  obtain ⟨-, -, h⟩ := Except.bind_eq_ok.mp h
  dsimp only at h
  split at h
  · cases h
  · obtain ⟨found, -, h⟩ := Except.bind_eq_ok.mp h
    split at h
    · next entries hentries =>
      split at h
      · cases h
      · split at h
        · cases h
        · cases h
          exact ⟨entries, hentries⟩
    · cases h
    · cases h

/-- The place of a path that ends with a name. -/
theorem place_of_endsWith (hpath : EndsWith path name above) {place : Place}
    (h : disk.place path = .ok place) :
    ∃ directory, place = .entry directory name false ∧ checkPath path = .ok () ∧
      disk.walk (disk.start path) above = .ok directory ∧
      ¬name.utf8ByteSize > maxNameBytes := by
  obtain ⟨⟨⟩, hcheck, h⟩ := Except.bind_eq_ok.mp h
  simp only [hpath.pieces, List.reverse_append, List.reverse_singleton, List.singleton_append,
    List.dropWhile_cons, beq_eq_false_iff_ne.mpr hpath.ne_empty, Bool.false_eq_true, if_false,
    List.reverse_reverse, List.head?_cons] at h
  obtain ⟨directory, hwalk, h⟩ := Except.bind_eq_ok.mp h
  split at h
  · rw [if_neg (by simp [hpath.ne_here, hpath.ne_up])] at h
    split at h
    · cases h
    · next hlong =>
      cases h
      exact ⟨directory, by simp [hpath.ne_empty], hcheck, hwalk, hlong⟩
  · cases h
  · cases h

/-! ## §5 Changes -/

/-- A new tree where there was nothing, or a file where there was one, leaves all
that was there. -/
theorem stays_insert {new : FileTree} (h : disk.root.at? directory = some (.directory entries))
    (hplace : ∀ below, disk.root.at? (directory ++ [other]) ≠ some (.directory below))
    (hnew : disk.root.at? (directory ++ [other]) = none ∨ ∃ contents, new = .file contents) :
    Stays disk (disk.insert (directory ++ [other]) new) where
  workingDirectory := rfl
  directory location below hbelow := by
    by_cases hlocation : location = directory ++ [other]
    · exact absurd (hlocation ▸ hbelow) (hplace below)
    · obtain ⟨kept, hkept, hstays⟩ :=
        FileTree.kept_insert new h hplace hbelow hlocation
      cases hstays
      exact ⟨_, hkept⟩
  file location contents hcontents := by
    by_cases hlocation : location = directory ++ [other]
    · subst hlocation
      rcases hnew with hnone | ⟨contents', rfl⟩
      · rw [hnone] at hcontents
        cases hcontents
      · exact ⟨contents', FileTree.at?_insert_self h⟩
    · obtain ⟨kept, hkept, hstays⟩ :=
        FileTree.kept_insert new h hplace hcontents hlocation
      cases hstays
      exact ⟨_, hkept⟩

/-- A new tree leaves the texts of files at other locations. -/
theorem contents_insert {new : FileTree} {location : List String}
    (h : disk.root.at? directory = some (.directory entries))
    (hplace : ∀ below, disk.root.at? (directory ++ [other]) ≠ some (.directory below))
    (hcontents : disk.root.at? location = some (.file contents))
    (hne : location ≠ directory ++ [other]) :
    (disk.insert (directory ++ [other]) new).root.at? location = some (.file contents) := by
  obtain ⟨kept, hkept, hstays⟩ := FileTree.kept_insert new h hplace hcontents hne
  cases hstays
  exact hkept

/-- A new directory keeps all files. -/
theorem keeps_makeDirectory (name : String) (h : disk.makeDirectory path = .ok after) :
    Keeps name disk after := by
  obtain ⟨place, hplace, h⟩ := Except.bind_eq_ok.mp h
  cases place with
  | unnamed => cases h
  | entry directory other slashed =>
    obtain ⟨entries, hentries⟩ := isDirectory_of_place hplace
    dsimp only at h
    split at h
    · cases h
    · next hnone =>
      cases h
      rw [Option.not_isSome_iff_eq_none] at hnone
      have hplace : ∀ below, disk.root.at? (directory ++ [other]) ≠ some (.directory below) := by
        simp [hnone]
      refine ⟨stays_insert hentries hplace (.inl hnone), fun above contents hcontents => ?_⟩
      refine contents_insert hentries hplace hcontents fun heq => ?_
      rw [heq, hnone] at hcontents
      cases hcontents

/-- A file is written to its place in a directory. -/
theorem write_eq_ok (hpath : EndsWith path name above)
    (h : disk.write path contents = .ok after) :
    ∃ directory entries, disk.root.at? directory = some (.directory entries) ∧
      checkPath path = .ok () ∧ disk.walk (disk.start path) above = .ok directory ∧
      ¬name.utf8ByteSize > maxNameBytes ∧
      (∀ below, disk.root.at? (directory ++ [name]) ≠ some (.directory below)) ∧
      after = disk.insert (directory ++ [name]) (.file contents) := by
  obtain ⟨place, hplace, h⟩ := Except.bind_eq_ok.mp h
  obtain ⟨directory, rfl, hcheck, hwalk, hlong⟩ := place_of_endsWith hpath hplace
  obtain ⟨entries, hentries⟩ := isDirectory_of_place hplace
  dsimp only at h
  split at h
  · cases h
  · next hnot =>
    cases h
    exact ⟨directory, entries, hentries, hcheck, hwalk, hlong, hnot, rfl⟩

/-- A written file keeps the files of other names. -/
theorem keeps_write (hpath : EndsWith path other above) (hne : other ≠ name)
    (h : disk.write path contents = .ok after) : Keeps name disk after := by
  obtain ⟨directory, entries, hentries, -, -, -, hnot, rfl⟩ := write_eq_ok hpath h
  refine ⟨stays_insert hentries hnot (.inr ⟨contents, rfl⟩), fun above text htext => ?_⟩
  refine contents_insert hentries hnot htext fun heq => hne ?_
  simpa using (congrArg List.getLast? heq).symm

/-! ## §6 Reading -/

theorem read_eq_ok_iff :
    disk.read path = .ok contents ↔ checkPath path = .ok () ∧
      ∃ location, disk.walk (disk.start path) (Files.pieces path) = .ok location ∧
        disk.root.at? location = some (.file contents) := by
  simp only [read, find, locate, bind_assoc, Except.bind_eq_ok]
  constructor
  · rintro ⟨⟨⟩, hcheck, location, hwalk, tree, htree, h⟩
    refine ⟨hcheck, location, hwalk, ?_⟩
    split at htree
    · next found hfound =>
      cases htree
      split at h
      · cases h
        exact hfound
      · cases h
    · cases htree
  · rintro ⟨hcheck, location, hwalk, hfile⟩
    exact ⟨(), hcheck, location, hwalk, .file contents, by rw [hfile], rfl⟩

/-- A way of one name leads to that name, if it is there. -/
theorem walk_name (hpath : EndsWith path name above) {location : List String} :
    disk.walk directory [name] = .ok location ↔ location = directory ++ [name] ∧
      ¬name.utf8ByteSize > maxNameBytes ∧ ∃ entries,
        disk.root.at? directory = some (.directory entries) ∧
          (Assoc.get? name entries).isSome = true := by
  have hidle : Files.isIdle name = false := by
    simp [Files.isIdle, hpath.ne_empty, hpath.ne_here]
  simp only [walk, hidle, hpath.ne_up, Bool.false_eq_true, if_false]
  constructor
  · intro h
    split at h
    · cases h
    · cases h
    · next entries hentries =>
      split at h
      · cases h
      · next hlong =>
        split at h
        · next hsome =>
          cases h
          exact ⟨rfl, hlong, entries, hentries, hsome⟩
        · cases h
  · rintro ⟨rfl, hlong, entries, hentries, hsome⟩
    simp [hentries, hlong, hsome]

/-- **What is written is read.** -/
theorem read_write (hpath : EndsWith path name above) (h : disk.write path contents = .ok after) :
    after.read path = .ok contents := by
  obtain ⟨directory, entries, hentries, hcheck, hwalk, hlong, hnot, rfl⟩ := write_eq_ok hpath h
  have hself : (disk.insert (directory ++ [name]) (.file contents)).root.at?
      (directory ++ [name]) = some (.file contents) := FileTree.at?_insert_self hentries
  have hstays := stays_insert hentries hnot (.inr ⟨contents, rfl⟩)
  obtain ⟨below, hbelow⟩ := hstays.directory directory entries hentries
  refine read_eq_ok_iff.mpr ⟨hcheck, directory ++ [name], ?_, hself⟩
  rw [hpath.pieces, walk_append, hstays.start_eq, walk_of_stays hstays hwalk]
  rw [FileTree.at?_entry hbelow] at hself
  exact (walk_name hpath).mpr ⟨rfl, hlong, below, hbelow, by simp [hself]⟩

/-- What is read stays while files of other names are written. -/
theorem read_of_keeps (hpath : EndsWith path name above) (hkeeps : Keeps name before after)
    (h : before.read path = .ok contents) : after.read path = .ok contents := by
  obtain ⟨hcheck, location, hwalk, hfile⟩ := read_eq_ok_iff.mp h
  refine read_eq_ok_iff.mpr ⟨hcheck, location,
    hkeeps.start_eq path ▸ walk_of_stays hkeeps.toStays hwalk, ?_⟩
  rw [hpath.pieces, walk_append] at hwalk
  obtain ⟨directory, -, hname⟩ := Except.bind_eq_ok.mp hwalk
  obtain ⟨rfl, -⟩ := (walk_name hpath).mp hname
  exact hkeeps.contents directory contents hfile

end Disk

end Surrogates
