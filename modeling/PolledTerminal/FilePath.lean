import PolledTerminal.Text.Utf8
set_option autoImplicit false

/-!
# File paths

A path is text whose parts are separated by slashes.  Empty parts and `.` say
nothing, except that a path may start with `.`; nothing is looked up to take a
path apart.
-/

namespace PolledTerminal.FilePath

/-- The pieces between separators; there is always one. -/
def pieces : List Char → List (List Char)
  | [] => [[]]
  | c :: cs =>
    if c = '/' then [] :: pieces cs
    else match pieces cs with
      | p :: ps => (c :: p) :: ps
      | [] => [[c]]

/-- Put separators between pieces. -/
def joinPieces : List (List Char) → List Char
  | [] => []
  | [p] => p
  | p :: ps => p ++ '/' :: joinPieces ps

/-- The path starts at the root. -/
def isAbsolute (path : String) : Bool := path.toList.head? == some '/'

/-- A piece that says nothing. -/
def isIdle (piece : List Char) : Bool := piece = [] || piece = ['.']

/-- How many characters in front are the root or a leading `.`. -/
def headLength : List Char → Nat
  | '/' :: _ => 1
  | ['.'] => 1
  | '.' :: '/' :: _ => 1
  | _ => 0

/-- The path without its last part; a root and the empty path have none. -/
def parent? (path : String) : Option String :=
  let cs := path.toList
  let head := cs.take (headLength cs)
  match ((pieces (cs.drop head.length)).reverse.dropWhile isIdle) with
  | _ :: outer =>
    some (String.ofList (head ++ joinPieces (outer.dropWhile isIdle).reverse))
  | [] => if head = ['.'] then some "" else none

/-- A path that starts from another one, unless it starts at the root. -/
def join (base path : String) : String :=
  if isAbsolute path then path
  else
    let between := if base.isEmpty || base.toList.getLast? == some '/' then "" else "/"
    base ++ between ++ path

/-- A path that is relative to a file. -/
def beside (file path : String) : String := join ((parent? file).getD ".") path

end PolledTerminal.FilePath
