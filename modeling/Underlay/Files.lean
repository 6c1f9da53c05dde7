/-!
Trees of files. A tree is given by its entries: the path of each from the root, and the content of
a file or nothing for a directory. The directories on the way to an entry need no entries of their
own. A written path is followed name by name; `.` stays, `..` goes up, and a path that ends in a
slash names a directory.
-/

namespace Underlay

structure Files where
  entries : List (List String × Option String) := []
deriving DecidableEq, Repr, Inhabited

namespace Files

def splitSlash : List Char → List (List Char)
  | [] => [[]]
  | '/' :: rest => [] :: splitSlash rest
  | c :: rest =>
      match splitSlash rest with
      | [] => [[c]]
      | part :: more => (c :: part) :: more

def names (path : String) : List String :=
  ((splitSlash path.toList).map String.ofList).filter fun name => name != "" && name != "."

/-- Whether a written path can only name a directory. -/
def namesDirectory (path : String) : Bool :=
  match (splitSlash path.toList).getLast? with
  | some [] | some ['.'] => true
  | _ => false

/-- The places that names lead through from a place, up to the last. -/
def route (place : List String) : List String → List (List String)
  | [] => []
  | ".." :: rest => place.dropLast :: route place.dropLast rest
  | name :: rest => (place ++ [name]) :: route (place ++ [name]) rest

/-- Have a file or a directory at a place, instead of what was there. -/
def set (files : Files) (place : List String) (content : Option String) : Files :=
  { entries := (files.entries.filter fun entry => entry.1 != place) ++ [(place, content)] }

/-- Put a file or a directory where a written path leads. A directory that the path only passes
through, and leaves again by `..`, is made as well. -/
def put (files : Files) (path : String) (content : Option String) : Files :=
  let places := route [] (names path)
  match places.getLast? with
  | none => files
  | some last =>
      let passed := places.filter fun place => !place.isPrefixOf last
      (passed.foldl (fun files place => files.set place none) files).set last content

/-- The tree of files and directories by their written paths, put there one after the other. -/
def ofList (entries : List (String × Option String)) : Files :=
  entries.foldl (fun files entry => files.put entry.1 entry.2) {}

def contentAt? (files : Files) (place : List String) : Option String :=
  (files.entries.find? fun entry => entry.1 == place).bind Prod.snd

def isDirectoryAt (files : Files) (place : List String) : Bool :=
  place.isEmpty ||
    files.entries.any fun entry =>
      (entry.1 == place && entry.2.isNone) ||
        (place.isPrefixOf entry.1 && decide (place.length < entry.1.length))

def walk (files : Files) (place : List String) : List String → Option (List String)
  | [] => some place
  | ".." :: rest => walk files place.dropLast rest
  | name :: rest =>
      let next := place ++ [name]
      if files.isDirectoryAt next || (rest.isEmpty && (files.contentAt? next).isSome) then
        walk files next rest
      else
        none

/-- Where a written path leads. A path from the root of the system leads out of the tree. -/
def find? (files : Files) (path : String) : Option (List String) :=
  if path.startsWith "/" || path.isEmpty then none else files.walk [] (names path)

def read? (files : Files) (path : String) : Option String :=
  if namesDirectory path then none else (files.find? path).bind files.contentAt?

def list? (files : Files) (path : String) : Option (List String) := do
  let place ← files.find? path
  guard (files.isDirectoryAt place)
  let below := files.entries.filterMap fun entry =>
    if place.isPrefixOf entry.1 then (entry.1.drop place.length).head? else none
  return below.eraseDups

/-- Put a file into the tree, in place of the file of that path if there is one. The directory must
be there, and nothing may be written in place of a directory. -/
def write? (files : Files) (path content : String) : Option Files := do
  guard (!namesDirectory path)
  let parts := names path
  let name ← parts.getLast?
  let place := (← files.walk [] parts.dropLast) ++ [name]
  guard (!files.isDirectoryAt place && files.isDirectoryAt place.dropLast)
  return files.set place (some content)

def join (directory name : String) : String :=
  if directory.isEmpty || directory.endsWith "/" then directory ++ name
  else directory ++ "/" ++ name

/-- The extension of a file name: what follows its last dot, unless nothing stands in front. -/
def extension? (name : String) : Option String :=
  let back := name.toList.reverse
  let after := back.takeWhile (· != '.')
  match back.drop after.length with
  | '.' :: _ :: _ => if name = ".." then none else some (String.ofList after.reverse)
  | _ => none

end Files

end Underlay
