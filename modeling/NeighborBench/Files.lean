import NeighborBench.Text.Quoted
import NeighborBench.Text.Utf8

/-! # Files -/

namespace NeighborBench

/-! ## What can go wrong -/

inductive FileFault where
  | notFound
  | notDirectory
  | isDirectory
  | nameTooLong
  | nulInPath
  | unexpectedEnd
  | notText
  | other (text : String)
  deriving DecidableEq, Repr

namespace FileFault

/-- A fault that the operating system numbers: number, kind and description. -/
def system? : FileFault → Option (Nat × String × String)
  | notFound => some (2, "NotFound", "No such file or directory")
  | notDirectory => some (20, "NotADirectory", "Not a directory")
  | isDirectory => some (21, "IsADirectory", "Is a directory")
  | nameTooLong => some (36, "InvalidFilename", "File name too long")
  | _ => none

/-- Kind and description of a fault that has no number. -/
def simple : FileFault → String × String
  | nulInPath => ("InvalidInput", "file name contained an unexpected NUL byte")
  | unexpectedEnd => ("UnexpectedEof", "failed to fill whole buffer")
  | notText => ("InvalidData", "stream did not contain valid UTF-8")
  | other text => ("Other", text)
  | _ => ("Other", "")

def message (fault : FileFault) : String :=
  match fault.system? with
  | some (code, _, text) => s!"{text} (os error {code})"
  | none => fault.simple.2

def diagnostic (fault : FileFault) : String :=
  match fault.system?, fault with
  | some (code, kind, text), _ =>
    s!"Os \x7b code: {code}, kind: {kind}, message: {Text.quoted text} \x7d"
  | none, other text => s!"Custom \x7b kind: Other, error: {Text.quoted text} \x7d"
  | none, fault =>
    s!"Error \x7b kind: {fault.simple.1}, message: {Text.quoted fault.simple.2} \x7d"

end FileFault

/-! ## Paths -/

namespace Path

/-- The last component, once slashes and single dots at the end are dropped. -/
def fileName? (path : String) : Option String :=
  match ((path.splitOn "/").filter fun part => part ≠ "" && part ≠ ".").getLast? with
  | some ".." => none
  | name => name

/-- What follows the last dot of the file name. A dot in front of the name begins no extension. -/
def extension? (path : String) : Option String :=
  match fileName? path with
  | none => none
  | some name =>
    match (name.splitOn ".").reverse with
    | [] => none
    | [_] => none
    | [_, ""] => none
    | last :: _ => some last

end Path

/-! ## A directory and what it holds -/

/-- What opening a path gives. -/
inductive Entry where
  | file (bytes : ByteArray)
  | directory

namespace Entry

def bytes : Entry → Except FileFault ByteArray
  | file bytes => .ok bytes
  | directory => .error .isDirectory

def text (entry : Entry) : Except FileFault String :=
  match entry.bytes with
  | .error fault => .error fault
  | .ok bytes =>
    match Text.utf8? bytes.toList with
    | some text => .ok text
    | none => .error .notText

end Entry

/-- Files under the components of their paths. -/
structure FileTree where
  files : List (List String × ByteArray)

namespace FileTree

def ofFiles (files : List (String × ByteArray)) : FileTree :=
  ⟨files.map fun (path, bytes) =>
    ((path.splitOn "/").filter fun part => part ≠ "" && part ≠ ".", bytes)⟩

/-- The entry at a place below the directory itself. -/
def at? (tree : FileTree) (place : List String) : Option Entry :=
  match tree.files.find? (·.1 = place) with
  | some (_, bytes) => some (.file bytes)
  | none =>
    if place.isEmpty || tree.files.any (fun (other, _) => place.isPrefixOf other) then some .directory
    else none

def nameLimit : Nat := 255

def pathLimit : Nat := 4095

/-- Walks from a place along components to a place; `none` is above the directory, where nothing is
known. A file has nothing below it, not even itself. -/
def walk (tree : FileTree) :
    Option (List String) → List String → Except FileFault (Option (List String))
  | place, [] => .ok place
  | place, part :: rest =>
    match place.bind tree.at? with
    | some (.file _) => .error .notDirectory
    | _ =>
      if part = "" || part = "." then walk tree place rest
      else if part = ".." then
        walk tree (place.bind fun place => if place.isEmpty then none else some place.dropLast) rest
      else if nameLimit < part.utf8ByteSize then .error .nameTooLong
      else
        match place with
        | none => .error .notFound
        | some place =>
          match tree.at? (place ++ [part]) with
          | none => .error .notFound
          | some _ => walk tree (some (place ++ [part])) rest

/-- The components of a path that may name something in the directory. -/
def components (path : String) : Except FileFault (List String) :=
  if path = "" then .error .notFound
  else if path.toList.contains '\x00' then .error .nulInPath
  else if pathLimit < path.utf8ByteSize then .error .nameTooLong
  else if path.startsWith "/" then .error .notFound
  else .ok (path.splitOn "/")

def openPath (tree : FileTree) (path : String) : Except FileFault Entry := do
  let parts ← components path
  match ← tree.walk (some []) parts with
  | none => .ok .directory
  | some place => (tree.at? place).elim (.error .notFound) .ok

/-- Writes a file where its directory exists, over the file that may stand there. -/
def writePath (tree : FileTree) (path : String) (bytes : ByteArray) : Except FileFault FileTree := do
  let parts ← components path
  let name := parts.getLast?.getD ""
  if name = "" || name = "." || name = ".." then
    let _ ← tree.walk (some []) parts
    throw .isDirectory
  match ← tree.walk (some []) parts.dropLast with
  | none => throw .notFound
  | some place =>
    if nameLimit < name.utf8ByteSize then throw .nameTooLong
    match tree.at? place, tree.at? (place ++ [name]) with
    | some (.file _), _ => throw .notDirectory
    | _, some .directory => throw .isDirectory
    | _, _ => pure ⟨(place ++ [name], bytes) :: tree.files.filter (·.1 ≠ place ++ [name])⟩

end FileTree

end NeighborBench
