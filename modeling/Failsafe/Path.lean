/-
  Paths as they are written: names with slashes between them.

  What a path leads to depends on the files that there are; here are only the questions that its
  text answers. Empty names say nothing, and neither does a dot that comes after another name.
-/

namespace Failsafe.Path

/-- The path starts at the root of all files. -/
def isRooted (path : String) : Bool := path.startsWith "/"

/-- The path ends with a slash: it can only lead to a directory. -/
def isClosed (path : String) : Bool := path.endsWith "/"

/-- The names in a path, dots included. -/
def names (path : String) : List String :=
  ((path.toList.splitOn '/').map String.ofList).filter fun name => name ≠ ""

/-- The names in a path that say something. -/
def parts (path : String) : List String :=
  let isDot (name : String) : Bool := name = "."
  match isRooted path, names path with
  | false, "." :: rest => "." :: rest.filter fun name => !isDot name
  | _, l => l.filter fun name => !isDot name

/-- The path with the given names. -/
def ofParts (rooted : Bool) (l : List String) : String :=
  (if rooted then "/" else "") ++ String.intercalate "/" l

/-- The paths of the directories above, innermost first, as far as the text names them. -/
def above (path : String) : List String :=
  let l := parts path
  let shorter := (List.range l.length).reverse.map l.take
  (shorter.filter fun l => isRooted path || !l.isEmpty).map (ofParts (isRooted path))

/-- A path below a directory; a path that starts at the root stays as it is. -/
def below (directory path : String) : String :=
  if isRooted path then path
  else if directory.isEmpty || isClosed directory then directory ++ path
  else directory ++ "/" ++ path

/-- The name of the file that a path leads to. -/
def fileName? (path : String) : Option String :=
  (parts path).getLast?.filter fun name => name ≠ "." && name ≠ ".."

/-- The path with an ending added to the name of the file. -/
def withEnding? (ending path : String) : Option String :=
  (fileName? path).map fun name =>
    ofParts (isRooted path) ((parts path).dropLast ++ [name ++ "." ++ ending])

/-- The ending of the file's name; a name that only begins with a point has none. -/
def ending? (path : String) : Option String :=
  (fileName? path).bind fun name =>
    match (name.splitOn ".").reverse with
    | [] | [_] => none
    | [_, ""] => none
    | ending :: _ => some ending

/-- The path as people are shown it. -/
def shown (path : String) : String :=
  ofParts (isRooted path) ((parts path).filter fun name => name ≠ ".")

end Failsafe.Path
