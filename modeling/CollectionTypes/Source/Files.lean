import CollectionTypes.Source.Path
import CollectionTypes.Text.Newline
import CollectionTypes.Text.Quoted
import CollectionTypes.Text.Utf8

/-!
# Files

`Files` is what a program finds in its working directory: directories, and
files that hold a text or bytes of any kind. A path is followed part by
part (`walk`), each but the last of which has to be a directory; two full
stops lead back to the directory above, if need be out of the working
directory. `Files.has` asks whether a path leads to something,
`Files.content` is what a file holds, and `Files.write` puts a text where a
path leads.

The system may refuse any of this: to look up a part in a directory, which it
does if the part is too long; to open a file; to write one. What it refuses
(`Refusals`) is a part of what is found.
-/

namespace CollectionTypes

/-- **What a file holds**: a text, or bytes that need not be one. -/
inductive Content where
  | text (s : String)
  | bytes (bs : List Nat)
  deriving DecidableEq, Repr

/-- A file or a directory. -/
inductive Node where
  | file (content : Content)
  | directory
  deriving DecidableEq, Repr

/-- **What stands in the way of a file**: a number of the system's, and its
wording. -/
structure FileFault where
  number : Nat
  reason : String
  deriving DecidableEq, Repr

namespace FileFault

/-- There is nothing of that name. -/
def noSuchFile : FileFault := ⟨2, "No such file or directory"⟩

/-- A file where a directory should be. -/
def notDirectory : FileFault := ⟨20, "Not a directory"⟩

/-- A directory where a file should be. -/
def isDirectory : FileFault := ⟨21, "Is a directory"⟩

/-- A part of a path, or the path, is too long. -/
def nameTooLong : FileFault := ⟨36, "File name too long"⟩

/-- The wording of a fault at a path. -/
def message (path : String) (fault : FileFault) : String :=
  "[Errno " ++ toString fault.number ++ "] " ++ fault.reason ++ ": " ++ Text.quoted path

/-- Whether the fault means that there is nothing to be found: no such name,
no directory on the way, nothing open, or links that go round in circles. -/
def isAbsence (fault : FileFault) : Bool :=
  [2, 9, 20, 40].contains fault.number

/-- The greatest length of a part of a path, in bytes. -/
def partLimit : Nat := 255

/-- What is wrong with a part that is too long. -/
def ofPart? (part : String) : Option FileFault :=
  if partLimit < part.utf8ByteSize then some nameTooLong else none

end FileFault

/-- **What the system refuses**, and with what fault. If nothing else is
said, that is only to look up parts that are too long. A file that may be
written may also be read. -/
structure Refusals where
  /-- To look up a part in the directory at a place. -/
  lookup : List String → String → Option FileFault := fun _ => FileFault.ofPart?
  /-- To open the file at a place. -/
  opening : List String → Option FileFault := fun _ => none
  /-- To write the file at a place, or to put one there. -/
  writing : List String → Option FileFault := fun _ => none

/-- **Files and directories**, each under its parts, latest first. -/
structure Files where
  nodes : List (List String × Node)
  refusals : Refusals := {}

namespace Files

/-- No files. -/
def empty : Files where
  nodes := []

/-- Whether a part leads out of the working directory: upwards, or to the
root of all directories. -/
def isOutward (part : String) : Bool :=
  ["..", "/", "//"].contains part

/-- What is found at a place. The working directory and the directories
above it are always there. -/
def node? (fs : Files) (place : List String) : Option Node :=
  if place.all isOutward then some .directory
  else (fs.nodes.find? fun n => n.1 == place).map Prod.snd

/-- The place one part further. Above the root there is nothing but the
root. -/
def further (place : List String) (part : String) : List String :=
  if part = ".." then
    match place.getLast? with
    | none => [".."]
    | some ".." => place ++ [".."]
    | some last => if isOutward last then place else place.dropLast
  else place ++ [part]

/-- What keeps a part from being looked up at a place. -/
def hurdle? (fs : Files) (place : List String) (part : String) : Option FileFault :=
  match fs.node? place with
  | none => some .noSuchFile
  | some (.file _) => some .notDirectory
  | some .directory => fs.refusals.lookup place part

/-- The place that parts lead to, from a place on. Every part before the
last has to be a directory; the last need not exist. -/
def walk (fs : Files) (place : List String) : List String → Except FileFault (List String)
  | [] => .ok place
  | part :: rest =>
    match fs.hurdle? place part with
    | some fault => .error fault
    | none => fs.walk (further place part) rest

/-- Where a path starts: in the working directory, or at the root. -/
def start (p : Path) : List String :=
  if p.root = "" then [] else [p.root]

/-- **The place that a path leads to.** -/
def lead (fs : Files) (p : Path) : Except FileFault (List String) :=
  if p.isTooLong then .error .nameTooLong else fs.walk (start p) p.parts

/-- The place that a path leads to, and what is there. -/
def follow (fs : Files) (p : Path) : Except FileFault (List String × Node) := do
  let place ← fs.lead p
  match fs.node? place with
  | some node => return (place, node)
  | none => .error .noSuchFile

/-- **Whether a path leads to something.** That nothing is there is an
answer; another fault on the way is none. A path with a nul character is
not even followed. -/
def has (fs : Files) (p : Path) : Except FileFault Bool :=
  if p.hasNul then .ok false
  else
    match fs.follow p with
    | .ok _ => .ok true
    | .error fault => if fault.isAbsence then .ok false else .error fault

/-- **The content of the file that a path leads to.** -/
def content (fs : Files) (p : Path) : Except FileFault Content := do
  let (place, node) ← fs.follow p
  match fs.refusals.opening place, node with
  | some fault, _ => .error fault
  | none, .directory => .error .isDirectory
  | none, .file c => return c

/-- Put a node under parts. -/
def put (fs : Files) (parts : List String) (node : Node) : Files :=
  { fs with nodes := (parts, node) :: fs.nodes.filter fun n => n.1 != parts }

/-- What keeps a text from being written at a place. -/
def writeFault? (fs : Files) (place : List String) : Option FileFault :=
  if fs.node? place = some .directory then some .isDirectory
  else (fs.refusals.opening place).or (fs.refusals.writing place)

/-- **Write a text where a path leads.** -/
def write (fs : Files) (p : Path) (s : String) : Except FileFault Files := do
  let place ← fs.lead p
  match fs.writeFault? place with
  | some fault => .error fault
  | none => return fs.put place (.file (.text s))

/-- Put a node under parts, with the directories above it. -/
def place (fs : Files) (parts : List String) (node : Node) : Files :=
  let above := (List.range parts.length).filterMap fun n =>
    if n = 0 then none else some (parts.take n)
  let fs := above.foldl
    (fun fs d => if (fs.node? d).isSome then fs else fs.put d .directory) fs
  fs.put parts node

/-- The text files in the working directory that `fs` has and `old` had
not, or had otherwise. -/
def changedFrom (fs old : Files) : List (String × String) :=
  fs.nodes.filterMap fun n =>
    match n.2 with
    | .file (.text s) =>
      if old.node? n.1 = some n.2 ∨ n.1.head?.any isOutward then none
      else some ("/".intercalate n.1, s)
    | _ => none

end Files

namespace Content

/-- The characters of a content. -/
def chars : Content → Except Text.Utf8Error (List Char)
  | text s => .ok s.toList
  | bytes bs => Text.decodeBytes bs

/-- The characters of a file, its line ends unified. -/
def read (c : Content) : Except Text.Utf8Error (List Char) :=
  c.chars.map Text.unifyLineEnds

/-- A text is a content. -/
instance : Coe String Content := ⟨text⟩

end Content

end CollectionTypes
