import ZodCatalog.Text.Split

/-!
Paths as text. Only slashes separate; a part may be any other text.
-/

namespace ZodCatalog.Path

open Text

/-- The parts of a path; empty ones do not count. -/
def parts (path : String) : List String :=
  ((splitOnChar '/' path.toList).filter (!·.isEmpty)).map String.ofList

def isAbsolute (path : String) : Bool := path.toList.head? == some '/'

def endsInSlash (path : String) : Bool := path.toList.getLast? == some '/'

/-- A name under a directory; an absolute name stands for itself. -/
def join (directory name : String) : String :=
  if isAbsolute name || directory.isEmpty then name
  else if endsInSlash directory then directory ++ name
  else directory ++ "/" ++ name

/-- The last part, unless it leads up or is the directory itself. -/
def name? (path : String) : Option String :=
  match ((parts path).filter (· != ".")).getLast? with
  | some ".." => none
  | last => last

/-- The text without slashes and `.` parts at its end. -/
def trimEnd (path : String) : String :=
  let kept := (splitOnChar '/' path.toList).reverse.dropWhile fun part =>
    part.isEmpty || part == ['.']
  String.ofList (joinWith ['/'] kept.reverse)

/-- The path of the directory that holds a path; empty for a relative path of one part. -/
def parent (path : String) : String :=
  match (splitOnChar '/' (trimEnd path).toList).reverse with
  | [] => ""
  | [_] => ""
  | [_, []] => "/"
  | _ :: above => String.ofList (joinWith ['/'] above.reverse)

/-- The path with its last part replaced. -/
def withName (path name : String) : String := join (parent path) name

/-- What follows a directory in a path below it, without slashes and `.` parts at either end. -/
def relativeTo (directory path : String) : String :=
  let rest := (after? directory.toList path.toList).getD path.toList
  let kept := (splitOnChar '/' (trimEnd (String.ofList rest)).toList).dropWhile fun part =>
    part.isEmpty || part == ['.']
  String.ofList (joinWith ['/'] kept)

/-- What follows the last dot of a name, unless the name starts with that dot. -/
def extension? (name : String) : Option String :=
  match cutLast (· == '.') name.toList with
  | some (stem, ending) => if stem.isEmpty then none else some (String.ofList ending)
  | none => none

end ZodCatalog.Path
