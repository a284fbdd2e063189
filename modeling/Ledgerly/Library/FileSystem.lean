/-
This file is about a file system: files, symbolic links and directories by their paths in
components, where everything lies in a directory.

A path is read by following it from the root; a symbolic link on the way leads on from the root
along its target, and too many of them lead nowhere. What is removed can be read no more, and
nothing can be read after a removal that could not be read before.
-/

import Ledgerly.Library.KeyMap
import Mathlib.Data.List.Induction

/-- What is at a path. -/
inductive FileNode (Name Content : Type*) where
  | directory
  | file (content : Content)
  | symlink (target : List Name)
  deriving DecidableEq

namespace FileNode

variable {Name Content : Type*}

/-- The node is a symbolic link. -/
def isSymlink : FileNode Name Content → Bool
  | symlink _ => true
  | _ => false

/-- The content of a file, or what is found along the target of a symbolic link. -/
def content (jump : List Name → Option Content) : FileNode Name Content → Option Content
  | directory => none
  | file content => some content
  | symlink target => jump target

end FileNode

/-- A file system. -/
structure FileSystem (Name Content : Type*) [DecidableEq Name] where
  nodes : KeyMap (List Name) (FileNode Name Content)
  rooted : nodes.lookup [] = some .directory
  inDirectory : ∀ path name, (nodes.lookup (path ++ [name])).isSome →
    nodes.lookup path = some .directory

namespace FileSystem

variable {Name Content : Type*} [DecidableEq Name]

/-- What is at a path, which is not resolved. -/
def lookup (fs : FileSystem Name Content) (path : List Name) : Option (FileNode Name Content) :=
  fs.nodes.lookup path

/-- Everything above a path that is there is a directory. -/
theorem lookup_above {fs : FileSystem Name Content} {above rest : List Name} (below : rest ≠ [])
    (present : (fs.lookup (above ++ rest)).isSome) : fs.lookup above = some .directory := by
  induction rest using List.reverseRecOn with
  | nil => exact absurd rfl below
  | append_singleton rest name inductionHypothesis =>
    rw [← List.append_assoc] at present
    have directory := fs.inDirectory _ name present
    by_cases last : rest = []
    · rw [last, List.append_nil] at directory
      exact directory
    · exact inductionHypothesis last (Option.isSome_of_eq_some directory)

/-! ### Writing -/

/-- Nothing but the root. -/
def empty : FileSystem Name Content where
  nodes := AList.insert [] .directory ∅
  rooted := AList.lookup_insert _
  inDirectory := by
    intro path name present
    rw [AList.lookup_insert_ne (by simp), AList.lookup_empty] at present
    cases present

/-- An entry of a directory is written, in place of any that is no directory itself. Where there is
no directory, or one in the way, nothing is. -/
def put [DecidableEq Content] (fs : FileSystem Name Content) (dir : List Name) (name : Name)
    (node : FileNode Name Content) : FileSystem Name Content :=
  if free : fs.lookup dir = some .directory ∧ fs.lookup (dir ++ [name]) ≠ some .directory then
    { nodes := fs.nodes.insert (dir ++ [name]) node
      rooted := by
        rw [AList.lookup_insert_ne (by simp)]
        exact fs.rooted
      inDirectory := by
        intro path other present
        rw [KeyMap.lookup_insert_eq] at present
        have directory : fs.lookup path = some .directory := by
          split at present
          · rename_i same
            rw [(List.append_inj' same rfl).1]
            exact free.1
          · exact fs.inDirectory path other present
        rw [AList.lookup_insert_ne]
        · exact directory
        · rintro rfl
          exact free.2 directory }
  else fs

/-! ### Entries of a directory -/

/-- The name of the entry of a directory that is at a path. -/
def entryName (dir path : List Name) : Option Name :=
  match path.drop dir.length with
  | [name] => if dir <+: path then some name else none
  | _ => none

theorem entryName_eq_some_iff {dir path : List Name} {name : Name} :
    entryName dir path = some name ↔ path = dir ++ [name] := by
  unfold entryName
  constructor
  · intro found
    split at found
    · rename_i only dropped
      split at found
      · rename_i isPrefix
        obtain ⟨rest, rfl⟩ := isPrefix
        rw [List.drop_left] at dropped
        rw [dropped, Option.some.inj found]
      · cases found
    · cases found
  · rintro rfl
    rw [List.drop_left]
    exact if_pos (List.prefix_append _ _)

/-- The names in a directory, in the order of no one in particular. -/
def entries (fs : FileSystem Name Content) (dir : List Name) : List Name :=
  fs.nodes.keys.filterMap (entryName dir)

theorem mem_entries_iff {fs : FileSystem Name Content} {dir : List Name} {name : Name} :
    name ∈ fs.entries dir ↔ (fs.lookup (dir ++ [name])).isSome := by
  rw [entries, List.mem_filterMap]
  constructor
  · rintro ⟨path, member, found⟩
    rw [entryName_eq_some_iff.mp found] at member
    exact AList.lookup_isSome.mpr member
  · intro present
    exact ⟨_, AList.lookup_isSome.mp present, entryName_eq_some_iff.mpr rfl⟩

theorem entries_nodup (fs : FileSystem Name Content) (dir : List Name) : (fs.entries dir).Nodup :=
  fs.nodes.keys_nodup.filterMap fun one two name ofOne ofTwo => by
    rw [entryName_eq_some_iff.mp ofOne, entryName_eq_some_iff.mp ofTwo]

/-! ### Reading -/

/-- A path followed from a directory on, with a way to go on from the root at a symbolic link. -/
def walk (fs : FileSystem Name Content) (jump : List Name → Option Content) :
    List Name → List Name → Option Content
  | _, [] => none
  | above, name :: rest =>
    match fs.lookup (above ++ [name]) with
    | none => none
    | some .directory => walk fs jump (above ++ [name]) rest
    | some (.file content) => if rest = [] then some content else none
    | some (.symlink target) => jump (target ++ rest)

/-- The content of the file at a path, with fewer than so many symbolic links on the way. -/
def readLinks (fs : FileSystem Name Content) : Nat → List Name → Option Content
  | 0, _ => none
  | links + 1, path => walk fs (readLinks fs links) [] path

/-- The content of the file at a path. There may be forty symbolic links on the way. -/
def read (fs : FileSystem Name Content) (path : List Name) : Option Content := fs.readLinks 41 path

/-- The directories above a directory lead to it. -/
theorem walk_append (fs : FileSystem Name Content) (jump : List Name → Option Content)
    {above between : List Name} (rest : List Name)
    (directory : fs.lookup (above ++ between) = some .directory) :
    fs.walk jump above (between ++ rest) = fs.walk jump (above ++ between) rest := by
  induction between generalizing above with
  | nil => rw [List.nil_append, List.append_nil]
  | cons name between inductionHypothesis =>
    have onward : above ++ name :: between = above ++ [name] ++ between := by simp
    rw [onward] at directory ⊢
    have first : fs.lookup (above ++ [name]) = some .directory := by
      by_cases last : between = []
      · rw [last, List.append_nil] at directory
        exact directory
      · exact lookup_above last (Option.isSome_of_eq_some directory)
    rw [List.cons_append, walk, first]
    exact inductionHypothesis directory

/-- What is read in a directory is a file there, or what a symbolic link leads to. -/
theorem read_entry (fs : FileSystem Name Content) {dir : List Name} (name : Name)
    (directory : fs.lookup dir = some .directory) :
    fs.read (dir ++ [name]) =
      (fs.lookup (dir ++ [name])).bind
        (FileNode.content fun target => fs.readLinks 40 (target ++ [])) := by
  have reached := @walk_append _ _ _ fs (fs.readLinks 40) [] dir [name] directory
  rw [List.nil_append] at reached
  rw [read, readLinks, reached, walk]
  cases node : fs.lookup (dir ++ [name]) with
  | none => rfl
  | some node' =>
    cases node' with
    | directory => rfl
    | file content => exact if_pos rfl
    | symlink target => rfl

/-! ### Removals -/

/-- The second file system is what a removal has left of the first. -/
def LeftOf (after fs : FileSystem Name Content) : Prop :=
  ∀ path, after.lookup path = none ∨ after.lookup path = fs.lookup path

/-- What can be read after a removal could be read before. -/
theorem LeftOf.walk {fs after : FileSystem Name Content} (left : after.LeftOf fs)
    {jump before : List Name → Option Content} (rest above : List Name) {content : Content}
    (jumps : ∀ path, jump path = some content → before path = some content)
    (found : after.walk jump above rest = some content) :
    fs.walk before above rest = some content := by
  induction rest generalizing above with
  | nil => cases found
  | cons name rest inductionHypothesis =>
    rw [FileSystem.walk] at found ⊢
    rcases left (above ++ [name]) with gone | same
    · rw [gone] at found
      cases found
    · rw [← same]
      cases node : after.lookup (above ++ [name]) with
      | none =>
        rw [node] at found
        cases found
      | some node' =>
        rw [node] at found
        cases node' with
        | directory => exact inductionHypothesis _ found
        | file other => exact found
        | symlink target => exact jumps _ found

theorem LeftOf.readLinks {fs after : FileSystem Name Content} (left : after.LeftOf fs) (links : Nat)
    {path : List Name} {content : Content}
    (found : after.readLinks links path = some content) :
    fs.readLinks links path = some content := by
  induction links generalizing path with
  | zero => cases found
  | succ links inductionHypothesis =>
    exact left.walk path [] (fun _ found => inductionHypothesis found) found

theorem LeftOf.read {fs after : FileSystem Name Content} (left : after.LeftOf fs)
    {path : List Name} {content : Content} (found : after.read path = some content) :
    fs.read path = some content := left.readLinks 41 found

/-- `remove_dir_all`: an entry of a directory is gone, with all beneath it. -/
def removeEntry (fs : FileSystem Name Content) (dir : List Name) (name : Name) :
    FileSystem Name Content where
  nodes := fs.nodes.filterKeys fun path => ¬dir ++ [name] <+: path
  rooted := by
    rw [KeyMap.lookup_filterKeys, if_pos (by simp)]
    exact fs.rooted
  inDirectory := by
    intro path other present
    rw [KeyMap.lookup_filterKeys] at present ⊢
    split at present
    · rename_i kept
      rw [if_pos fun gone => kept (gone.trans (List.prefix_append _ _))]
      exact fs.inDirectory path other present
    · cases present

theorem lookup_removeEntry (fs : FileSystem Name Content) (dir : List Name) (name : Name)
    (path : List Name) :
    (fs.removeEntry dir name).lookup path =
      if dir ++ [name] <+: path then none else fs.lookup path := by
  rw [lookup, removeEntry, KeyMap.lookup_filterKeys, ite_not]
  rfl

/-- Several entries of a directory are gone. -/
theorem lookup_removeEntries (fs : FileSystem Name Content) (dir : List Name) (names : List Name)
    (path : List Name) :
    (names.foldl (fun fs name => fs.removeEntry dir name) fs).lookup path =
      if ∃ name ∈ names, dir ++ [name] <+: path then none else fs.lookup path := by
  induction names generalizing fs with
  | nil => rw [List.foldl_nil, if_neg (by simp)]
  | cons name rest inductionHypothesis =>
    rw [List.foldl_cons, inductionHypothesis, lookup_removeEntry]
    simp only [List.exists_mem_cons_iff]
    by_cases first : dir ++ [name] <+: path
    · rw [if_pos first, if_pos (Or.inl first), ite_self]
    · rw [if_neg first]
      by_cases later : ∃ other ∈ rest, dir ++ [other] <+: path
      · rw [if_pos later, if_pos (Or.inr later)]
      · rw [if_neg later, if_neg (not_or.mpr ⟨first, later⟩)]

end FileSystem
