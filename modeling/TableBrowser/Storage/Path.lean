import TableBrowser.Failure.Fault
import TableBrowser.Text.LetterCase
/-!
# Paths

The names of files and directories, read without looking at what exists. Empty
parts and single points mean nothing in a path; two points lead to the parent.
-/

namespace TableBrowser

/-- Where a path starts; a path may start with exactly two slashes. -/
inductive PathRoot where
  | relative
  | absolute
  | doubleSlash
deriving DecidableEq, Repr

def PathRoot.text : PathRoot → String
  | .relative => ""
  | .absolute => "/"
  | .doubleSlash => "//"

structure Path where
  root : PathRoot
  parts : List String
deriving DecidableEq, Repr

namespace Path

/-- The parts between slashes, empty ones included. -/
def splitSlashes : List Char → List (List Char)
  | [] => [[]]
  | char :: chars =>
      if char = '/' then [] :: splitSlashes chars
      else match splitSlashes chars with
        | [] => [[char]]
        | part :: parts => (char :: part) :: parts

def rootOf (chars : List Char) : PathRoot :=
  match (chars.takeWhile (· = '/')).length with
  | 0 => .relative
  | 2 => .doubleSlash
  | _ => .absolute

/-- A part that leads anywhere. -/
def isStep (part : List Char) : Bool := !part.isEmpty && part != ['.']

def ofText (text : String) : Path where
  root := rootOf text.toList
  parts := ((splitSlashes text.toList).filter isStep).map String.ofList

def text (path : Path) : String :=
  if path.root = .relative ∧ path.parts = [] then "."
  else path.root.text ++ "/".intercalate path.parts

def isAbsolute (path : Path) : Bool := path.root != .relative

def fileName (path : Path) : String := path.parts.getLast?.getD ""

def parent (path : Path) : Path := { path with parts := path.parts.dropLast }

/-- The other path as seen from this directory. -/
def join (directory path : Path) : Path :=
  if path.isAbsolute then path else { directory with parts := directory.parts ++ path.parts }

/-- The end of a name from its last point on, when there is text on both sides of it. -/
def extension (path : Path) : String :=
  let name := path.fileName.toList
  let after := (name.reverse.takeWhile (· ≠ '.')).reverse
  if after.length + 1 < name.length ∧ 0 < after.length then String.ofList ('.' :: after) else ""

/-- The parts that are left when each pair of points takes back the part before it. -/
def withoutParents (done : List String) : List String → List String
  | [] => done
  | part :: parts =>
      if part = ".." then withoutParents done.dropLast parts
      else withoutParents (done ++ [part]) parts

end Path

/-- Where the program runs. -/
structure Surroundings where
  /-- The home directories of users; that of the user who runs the program has no name. -/
  homes : List (String × String)
  /-- The parts of the working directory, from the root on. -/
  directory : List String
deriving DecidableEq, Repr

namespace Surroundings

/-- The absolute path of a path without pairs of points. -/
def resolve (surroundings : Surroundings) (path : Path) : Path where
  root := .absolute
  parts := Path.withoutParents []
    (if path.isAbsolute then path.parts else surroundings.directory ++ path.parts)

/-- A path that may start with the home directory of a user, marked by a tilde. -/
def expandHome (surroundings : Surroundings) (path : Path) : Except Fault Path :=
  match path.root, path.parts with
  | .relative, first :: rest =>
      match first.toList with
      | '~' :: user =>
          match surroundings.homes.lookup (String.ofList user) with
          | some home => .ok ((Path.ofText home).join ⟨.relative, rest⟩)
          | none => .error (if user.contains '\x00' then .embeddedNull else .noHome)
      | _ => .ok path
  | _, _ => .ok path

end Surroundings

/-- The text names something on a network and is left as it is. -/
def isAddress (text : String) : Bool :=
  ["http://", "https://", "s3://"].any fun scheme => scheme.toList.isPrefixOf text.toList

/-- The name of a file in a plain form, and absolute when it is relative to a known directory. -/
def Surroundings.normalize (surroundings : Surroundings) (base : Option Path) (text : String) :
    Except Fault String :=
  if text.isEmpty || isAddress text then .ok text
  else do
    let path ← surroundings.expandHome (Path.ofText text)
    match base with
    | none => return path.text
    | some base =>
        if path.isAbsolute then return path.text
        else if text.contains '\x00' then throw .embeddedNull
        else return (surroundings.resolve (base.join path)).text

def formatOfExtension : List (String × String) := [
  (".csv", "csv"), (".tsv", "tsv"), (".tab", "tsv"), (".json", "json"), (".sqlite", "sqlite"),
  (".sqlite3", "sqlite"), (".db", "sqlite")]

def formatOf? (uri : String) : Option String :=
  formatOfExtension.lookup (Text.lower (Path.ofText uri).extension)

end TableBrowser
