import SiteGateway.Files.Tree

/-!
# File names

The last name of a path, and its parts before and after the last dot. A name that starts with its
only dot has no extension.
-/

namespace SiteGateway

namespace FileName

/-- The last name of a path; empty names and `.` do not count, and `..` is no name. -/
def ofPath? (path : Bytes) : Option FileName :=
  match ((FileTree.names path).filter fun n => n ≠ [] ∧ n ≠ [0x2E]).getLast? with
  | some n => if n = [0x2E, 0x2E] then none else some n
  | none => none

/-- The parts before and after the last dot, if there is one inside the name. -/
def cutExtension? (n : FileName) : Option (Bytes × Bytes) :=
  let back := n.reverse
  let after := back.takeWhile (· ≠ 0x2E)
  let before := (back.drop (after.length + 1)).reverse
  if before.isEmpty then none else some (before, after.reverse)

def extension? (n : FileName) : Option Bytes := (cutExtension? n).map (·.2)

def stem (n : FileName) : Bytes := ((cutExtension? n).map (·.1)).getD n

/-- Whether the name ends in `.md`, letter case aside. -/
def isMarkdown (n : FileName) : Bool :=
  (extension? n).any fun e => e == [0x6D, 0x64] || e == [0x4D, 0x64] || e == [0x6D, 0x44] ||
    e == [0x4D, 0x44]

end FileName

def isMarkdownPath (path : Bytes) : Bool := (FileName.ofPath? path).any FileName.isMarkdown

/-- The title of a document: its file's name without the extension. -/
def titleOfPath (path : Bytes) : Text :=
  Utf8.decodeLossy (((FileName.ofPath? path).map FileName.stem).getD [])

end SiteGateway
