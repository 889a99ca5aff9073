/-!
Reading files by path. Paths are resolved as texts; what lies at a path is asked of a function, so
a set of files in memory serves as well as a directory on disk.
-/
namespace QueryCatalog

inductive ReadError where
  | notFound
  | isDirectory
  | notDirectory
  | other (text : String)
  deriving DecidableEq, Repr

def ReadError.message : ReadError → String
  | .notFound => "No such file or directory (os error 2)"
  | .isDirectory => "Is a directory (os error 21)"
  | .notDirectory => "Not a directory (os error 20)"
  | .other text => text

abbrev Files := String → Except ReadError String

namespace Files

def found (files : Files) (path : String) : Bool :=
  match files path with
  | .ok _ => true
  | .error .isDirectory => true
  | .error _ => false

def splitAt (current : List Char) : List Char → List String
  | [] => [String.ofList current.reverse]
  | c :: rest =>
    if c == '/' then String.ofList current.reverse :: splitAt [] rest
    else splitAt (c :: current) rest

/-- The parts of a path between slashes. -/
def segments (path : String) : List String := splitAt [] path.toList

def isIdle (segment : String) : Bool := segment == "" || segment == "."

/-- The last part that names something, unless it leads upwards. -/
def fileName? (path : String) : Option String :=
  match (segments path).reverse.dropWhile isIdle with
  | name :: _ => if name == ".." then none else some name
  | [] => none

/-- What follows the last dot of the file's name, if something stands before it. -/
def extension? (path : String) : Option String :=
  (fileName? path).bind fun name =>
    let reversed := name.toList.reverse
    let tail := reversed.takeWhile (· != '.')
    match reversed.dropWhile (· != '.') with
    | _ :: _ :: _ => some (String.ofList tail.reverse)
    | _ => none

def dropIdle : List String → List String
  | [] => []
  | [segment] => [segment]
  | segment :: rest => if isIdle segment then dropIdle rest else segment :: rest

/-- The directory of a file: its path without the last part. -/
def parent (path : String) : String :=
  match (dropIdle ((dropIdle (segments path).reverse).drop 1)).reverse with
  | [] => ""
  | [""] => "/"
  | parts => "/".intercalate parts

def isAbsolute (path : String) : Bool := path.toList.head? == some '/'

/-- A path as seen from a directory. -/
def join (directory path : String) : String :=
  if isAbsolute path || directory.isEmpty then path
  else if directory.toList.getLast? == some '/' then directory ++ path
  else directory ++ "/" ++ path

/-- Files in memory, by the parts of their paths. -/
abbrev Tree := List (List String × String)

def Tree.ofList (files : List (String × String)) : Tree :=
  files.map fun file => ((segments file.1).filter fun s => !isIdle s, file.2)

def Tree.isDirectory (tree : Tree) (path : List String) : Bool :=
  tree.any fun file => path.isPrefixOf file.1

def Tree.walk (tree : Tree) (directory : List String) : List String → Except ReadError String
  | [] => .error .isDirectory
  | segment :: rest =>
    if isIdle segment then tree.walk directory rest
    else if segment == ".." then
      if directory.isEmpty then .error .notFound else tree.walk directory.dropLast rest
    else
      let path := directory ++ [segment]
      match tree.lookup path with
      | some content => if rest.isEmpty then .ok content else .error .notDirectory
      | none => if tree.isDirectory path then tree.walk path rest else .error .notFound

/-- Nothing lies outside of the tree. -/
def ofTree (tree : Tree) : Files := fun path =>
  if path.isEmpty || isAbsolute path then .error .notFound else tree.walk [] (segments path)

end Files

end QueryCatalog
