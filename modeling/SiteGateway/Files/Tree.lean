import SiteGateway.Text.Utf8
import SiteGateway.Time.Calendar

/-!
# File trees

The files the gateway can see: every place, a list of names from the top, holds a file, a directory
or a symbolic link. `FileTree.locate` follows a path the way the system does, through links and
`..`, and `FileTree.read`, `FileTree.list` and `FileTree.kind` look at what it leads to.
-/

namespace SiteGateway

abbrev FileName := Bytes

/-- Names from the top of the tree down. -/
abbrev Place := List FileName

inductive FileEntry
  | file (content : Bytes) (modified : Instant)
  | directory
  | link (target : Bytes)
deriving DecidableEq, Repr

/-- Why a path leads nowhere or to something that cannot be read. -/
inductive FileFault
  | notFound
  | notDirectory
  | isDirectory
  | linkLoop
  | nameTooLong
  | nulByte
  | notText
deriving DecidableEq, Repr

def FileFault.message : FileFault → String
  | notFound => "No such file or directory (os error 2)"
  | notDirectory => "Not a directory (os error 20)"
  | isDirectory => "Is a directory (os error 21)"
  | linkLoop => "Too many levels of symbolic links (os error 40)"
  | nameTooLong => "File name too long (os error 36)"
  | nulByte => "file name contained an unexpected NUL byte"
  | notText => "stream did not contain valid UTF-8"

/-- The entries below the top, each place once. The top is a directory. -/
structure FileTree where
  entries : List (Place × FileEntry)
deriving Repr

namespace FileTree

/-- What stands at a place, links not followed. -/
def entry? (t : FileTree) : Place → Option FileEntry
  | [] => some .directory
  | p => (t.entries.find? (·.1 == p)).map (·.2)

/-- The names of a path between slashes; an empty last one asks for a directory. -/
def names (path : Bytes) : List FileName :=
  match path with
  | [] => [[]]
  | b :: rest =>
    if b = 0x2F then [] :: names rest
    else
      match names rest with
      | n :: ns => (b :: n) :: ns
      | [] => [[b]]

/-- How many symbolic links one path may lead through. -/
def linkLimit : Nat := 40

/-- Follows names from a place; what is left to do at a symbolic link is left to `follow`. -/
def walkWith (t : FileTree) (follow : Place → List FileName → Except FileFault Place) :
    Place → List FileName → Except FileFault Place
  | at', [] => .ok at'
  | at', n :: todo =>
    if t.entry? at' ≠ some .directory then .error .notDirectory
    else if n = [] ∨ n = [0x2E] then walkWith t follow at' todo
    else if n = [0x2E, 0x2E] then walkWith t follow at'.dropLast todo
    else if n.length > 255 then .error .nameTooLong
    else
      match t.entry? (at' ++ [n]) with
      | none => .error .notFound
      -- A relative target starts where the link stands.
      | some (.link target) =>
        follow (if target.head? = some 0x2F then [] else at') (names target ++ todo)
      | some _ => walkWith t follow (at' ++ [n]) todo

/-- Follows names from a place, through at most so many symbolic links. -/
def walk (t : FileTree) : Nat → Place → List FileName → Except FileFault Place
  | 0 => walkWith t fun _ _ => .error .linkLoop
  | links + 1 => walkWith t (walk t links)

/-- The place that a path leads to; a relative path starts at `base`. -/
def locate (t : FileTree) (base : Place) (path : Bytes) : Except FileFault Place :=
  if path.contains 0 then .error .nulByte
  else if path.isEmpty then .error .notFound
  else if path.length > 4095 then .error .nameTooLong
  else t.walk linkLimit (if path.head? = some 0x2F then [] else base) (names path)

/-- What a path leads to, links followed. -/
def kind (t : FileTree) (base : Place) (path : Bytes) : Except FileFault FileEntry := do
  let p ← t.locate base path
  match t.entry? p with
  | some e => .ok e
  | none => .error .notFound

def isDirectory (t : FileTree) (base : Place) (path : Bytes) : Bool :=
  match t.kind base path with
  | .ok .directory => true
  | _ => false

/-- Whether a path leads to something other than a directory. -/
def isFile (t : FileTree) (base : Place) (path : Bytes) : Bool :=
  match t.kind base path with
  | .ok .directory => false
  | .ok _ => true
  | .error _ => false

/-- Content and time of the file that a path leads to. -/
def read (t : FileTree) (base : Place) (path : Bytes) : Except FileFault (Bytes × Instant) := do
  match ← t.kind base path with
  | .file content modified => .ok (content, modified)
  | .directory => .error .isDirectory
  | .link _ => .error .linkLoop

/-- The text of the file that a path leads to. -/
def readText (t : FileTree) (base : Place) (path : Bytes) : Except FileFault Text := do
  let (content, _) ← t.read base path
  match Utf8.decode? content with
  | some text => .ok text
  | none => .error .notText

/-- The names in a directory, in the order of the tree. -/
def children (t : FileTree) (p : Place) : List FileName :=
  t.entries.filterMap fun (q, _) => if q.dropLast = p ∧ q ≠ [] then q.getLast? else none

/-- The names in the directory that a path leads to. -/
def list (t : FileTree) (base : Place) (path : Bytes) : Except FileFault (List FileName) := do
  let p ← t.locate base path
  if t.entry? p = some .directory then .ok (t.children p) else .error .notDirectory

def pathOf (p : Place) : Bytes :=
  if p.isEmpty then [0x2F] else p.flatMap (0x2F :: ·)

/-! ## Changing a tree -/

def remove (t : FileTree) (p : Place) : FileTree :=
  ⟨t.entries.filter fun (q, _) => !p.isPrefixOf q⟩

/-- Puts an entry at a place, in the position of the one that stood there. -/
def set (t : FileTree) (p : Place) (e : FileEntry) : FileTree :=
  if t.entries.any (·.1 == p) then ⟨t.entries.map fun (q, d) => if q = p then (q, e) else (q, d)⟩
  else ⟨t.entries ++ [(p, e)]⟩

def withParents (t : FileTree) (p : Place) : FileTree :=
  (List.range p.length).foldl (fun t n =>
    if (t.entry? (p.take n)).isSome then t else t.set (p.take n) .directory) t

/-- Puts an entry at a place and makes the directories above it. -/
def put (t : FileTree) (p : Place) (e : FileEntry) : FileTree := (t.withParents p).set p e

end FileTree

end SiteGateway
