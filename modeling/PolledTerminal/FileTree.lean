import PolledTerminal.FilePath
set_option autoImplicit false

/-!
# File trees

Files and directories as a value, with the faults that looking up, writing and
creating them can meet.  A path is walked part by part from the root or from the
working directory, so every part but the last has to be a directory.
-/

namespace PolledTerminal

open PolledTerminal.Text (Bytes)

/-- Why a file or directory cannot be used. -/
inductive FileFault where
  | notFound
  | alreadyExists
  | notDirectory
  | isDirectory
  | nameTooLong
  | nulInPath
  /-- any other reason, in the words of the system -/
  | other (reason : String)
  deriving DecidableEq, Repr, Inhabited

/-- The sentence that tells the fault. -/
def FileFault.message : FileFault → String
  | .notFound => "No such file or directory (os error 2)"
  | .alreadyExists => "File exists (os error 17)"
  | .notDirectory => "Not a directory (os error 20)"
  | .isDirectory => "Is a directory (os error 21)"
  | .nameTooLong => "File name too long (os error 36)"
  | .nulInPath => "file name contained an unexpected NUL byte"
  | .other reason => reason

/-- Why a file's contents cannot be had. -/
inductive ReadFailure where
  | opening (why : FileFault)
  /-- it opens, but there is nothing to read in it -/
  | reading (why : FileFault)
  deriving DecidableEq, Repr, Inhabited

/-- What a path leads to. -/
inductive FileEntry where
  | file (bytes : Bytes)
  | directory
  deriving DecidableEq, Repr, Inhabited

/-- Files and directories by the names that lead to them from the root. -/
structure FileTree where
  entries : List (List String × FileEntry) := []
  /-- where relative paths start -/
  workingDirectory : List String := []
  deriving Repr, Inhabited

namespace FileTree

/-- The greatest length of one name, in octets. -/
def longestName : Nat := 255

/-- The length that no path reaches, in octets. -/
def pathLimit : Nat := 4096

/-- What stands under these names; the root is always a directory. -/
def entry? (t : FileTree) (names : List String) : Option FileEntry :=
  if names.isEmpty then some .directory
  else (t.entries.find? fun e => e.1 = names).map Prod.snd

/-- Put an entry under these names. -/
def put (t : FileTree) (names : List String) (e : FileEntry) : FileTree :=
  { t with entries := (names, e) :: t.entries.filter fun old => old.1 ≠ names }

/-- Walk from a directory along some names; what the last one leads to need not
be there. -/
def walk (t : FileTree) : List String → List String → Except FileFault (List String)
  | here, [] => .ok here
  | here, name :: names =>
    match t.entry? here with
    | none => .error .notFound
    | some (.file _) => .error .notDirectory
    | some .directory =>
      if name = "" ∨ name = "." then t.walk here names
      else if name = ".." then t.walk here.dropLast names
      else if longestName < name.utf8ByteSize then .error .nameTooLong
      else t.walk (here ++ [name]) names

/-- The names of a path's parts. -/
def namesOf (path : String) : List String :=
  (FilePath.pieces path.toList).map String.ofList

/-- Where a path leads. -/
def locate (t : FileTree) (path : String) : Except FileFault (List String) :=
  if path.toList.any (·.toNat = 0) then .error .nulInPath
  else if path.isEmpty then .error .notFound
  else if pathLimit ≤ path.utf8ByteSize then .error .nameTooLong
  else t.walk (if FilePath.isAbsolute path then [] else t.workingDirectory) (namesOf path)

/-- The contents of a file. -/
def contents (t : FileTree) (path : String) : Except ReadFailure Bytes :=
  match t.locate path with
  | .error why => .error (.opening why)
  | .ok names =>
    match t.entry? names with
    | none => .error (.opening .notFound)
    | some .directory => .error (.reading .isDirectory)
    | some (.file bytes) => .ok bytes

/-- A path that can only lead to a directory. -/
def endsInSlash (path : String) : Bool := path.toList.getLast? == some '/'

/-- A path without the slashes at its end, unless it is all slashes. -/
def withoutLastSlashes (path : String) : String :=
  let cs := (path.toList.reverse.dropWhile (· = '/')).reverse
  if cs.isEmpty then path else String.ofList cs

/-- Write a file, over an older one. -/
def writeFile (t : FileTree) (path : String) (bytes : Bytes) : Except FileFault FileTree := do
  let names ← t.locate (withoutLastSlashes path)
  match t.entry? names with
  | some .directory => throw .isDirectory
  | some (.file _) => if endsInSlash path then throw .notDirectory
  | none => if endsInSlash path then throw .isDirectory
  return t.put names (.file bytes)

/-- Create one directory. -/
def createDirectory (t : FileTree) (path : String) : Except FileFault FileTree := do
  let names ← t.locate (withoutLastSlashes path)
  if (t.entry? names).isSome then throw .alreadyExists
  return t.put names .directory

/-- The path leads to a directory. -/
def isDirectory (t : FileTree) (path : String) : Bool :=
  match t.locate path with
  | .ok names => t.entry? names = some .directory
  | .error _ => false

/-- Create a directory, and first whatever is missing on the way; `depth` bounds
how much that is. -/
def createWithin (t : FileTree) : Nat → String → Except FileFault FileTree
  | 0, _ => .error (.other "failed to create whole tree")
  | depth + 1, path =>
    if path.isEmpty then .ok t
    else match t.createDirectory path with
    | .ok t => .ok t
    | .error .notFound =>
      match FilePath.parent? path with
      | none => .error (.other "failed to create whole tree")
      | some outer =>
        match t.createWithin depth outer with
        | .error why => .error why
        | .ok t =>
          match t.createDirectory path with
          | .ok t => .ok t
          | .error why => if t.isDirectory path then .ok t else .error why
    | .error why => if t.isDirectory path then .ok t else .error why

/-- Create a directory and the directories that lead to it. -/
def createDirectories (t : FileTree) (path : String) : Except FileFault FileTree :=
  t.createWithin (path.length + 1) path

/-- Add a file and the directories that lead to it, from the working directory
on. -/
def addFile (t : FileTree) (path : String) (bytes : Bytes) : FileTree :=
  let names := t.workingDirectory ++ namesOf path
  let outer := (List.range names.length).map fun n => names.take n
  (outer.foldl (fun t d => if (t.entry? d).isSome then t else t.put d .directory) t).put names
    (.file bytes)

end FileTree

end PolledTerminal
