/-
This file models the files of backups and their paths: texts that name a file beneath a
directory, their components, and the check that a text names nothing outside of the directory.
Texts that are cut at their slashes stay different, so that different texts name different
files.
-/

import Ledgerly.Text
import Ledgerly.Library.FileTree

namespace Ledgerly

/-- The SHA-256 digest of bytes in hexadecimal digits. -/
class Sha256 where
  hex : List UInt8 → String

/-- A stand-in for the digest: whatever the bytes, the digest of no bytes. -/
@[reducible] def emptySha256 : Sha256 where
  hex _ := "e3b0c44298fc1c149afbf4c8996fb92427ae41e4649b934ca495991b7852b855"

/-- The files beneath a directory. -/
abbrev Directory := FileTree String (List UInt8)

/-- The components of a path. -/
def segments (path : String) : List String := (path.toList.splitOn '/').map String.ofList

/-- Components joined by slashes. -/
def joined (names : List String) : String :=
  String.ofList (['/'].intercalate (names.map String.toList))

/-- Components without slashes are the components of the path they are joined to. -/
theorem segments_joined {names : List String} (nonempty : names ≠ [])
    (plain : ∀ name ∈ names, '/' ∉ name.toList) : segments (joined names) = names := by
  rw [segments, joined, String.toList_ofList, List.splitOn_intercalate, List.map_map]
  · have same : String.ofList ∘ String.toList = id := funext fun _ => String.ofList_toList
    rw [same, List.map_id]
  · intro characters member
    obtain ⟨name, inNames, rfl⟩ := List.mem_map.mp member
    exact plain name inNames
  · exact fun empty => nonempty (List.map_eq_nil_iff.mp empty)

/-- A path that is not within a directory: empty, with a backslash, absolute, or with an empty
component or one that stands for a directory. -/
def escapes (path : String) : Bool :=
  path = "" || path.toList.contains (Char.ofNat 0x5C) || path.toList.head? = some '/' ||
    (segments path).any fun segment => segment = "" || segment = "." || segment = ".."

end Ledgerly
