import TableBrowser.Sql.Storage
import TableBrowser.Storage.Path
/-!
# Files

Files and directories as a value, seen from a working directory. A path is
followed part by part, and each part before the last must be a directory.
-/

namespace TableBrowser

/-- A table of a database, each column with its declared type. -/
structure StoredTable where
  name : String
  columns : List (String × String)
  rows : List (List Sql.Value)

/-- A table of cells, each stored as the declared type of its column asks for. -/
def StoredTable.ofRows (name : String) (columns : List (String × String))
    (rows : List (List Datum)) : Except Sql.Problem StoredTable := do
  let rows ← rows.mapM fun row =>
    (row.zip columns).mapM fun (cell, _, declared) => do
      return (Sql.Affinity.ofDeclared declared).store (← Sql.Value.ofStored (Sql.stored cell))
  return { name, columns, rows }

inductive FileContent where
  | bytes (content : List UInt8)
  | database (tables : List StoredTable)

structure FileTree where
  surroundings : Surroundings
  /-- The parts of the paths of directories, besides the working directory and those above it. -/
  directories : List (List String) := []
  files : List (List String × FileContent) := []

inductive FileEntry where
  | directory
  | file (content : FileContent)
  | nothing

namespace FileTree

def isDirectory (tree : FileTree) (place : List String) : Bool :=
  place.isPrefixOf tree.surroundings.directory || tree.directories.contains place

def entryAt (tree : FileTree) (place : List String) : FileEntry :=
  if tree.isDirectory place then .directory
  else match tree.files.lookup place with
    | some content => .file content
    | none => .nothing

def follow (tree : FileTree) (place : List String) : List String → Except AccessProblem (List String)
  | [] => .ok place
  | part :: parts =>
      match tree.entryAt place with
      | .file _ => .error .notADirectory
      | .nothing => .error .notFound
      | .directory => tree.follow (if part = ".." then place.dropLast else place ++ [part]) parts

/-- The place that the text of a path leads to; an empty text leads nowhere, and one with a null nowhere ever. -/
def locate (tree : FileTree) (text : String) : Except AccessProblem (List String) :=
  let path := Path.ofText text
  if text.contains '\x00' then .error .embeddedNull
  else if text.isEmpty then .error .notFound
  else tree.follow (if path.isAbsolute then [] else tree.surroundings.directory) path.parts

def entry (tree : FileTree) (text : String) : Except AccessProblem FileEntry := do
  return tree.entryAt (← tree.locate text)

def fileExists (tree : FileTree) (text : String) : Bool :=
  match tree.entry text with
  | .ok .nothing | .error _ => false
  | .ok _ => true

def directoryExists (tree : FileTree) (text : String) : Bool :=
  match tree.entry text with
  | .ok .directory => true
  | _ => false

def read (tree : FileTree) (text : String) : Except AccessProblem FileContent := do
  match ← tree.entry text with
  | .directory => .error .isADirectory
  | .nothing => .error .notFound
  | .file content => .ok content

def put (tree : FileTree) (place : List String) (content : FileContent) : FileTree :=
  { tree with files := (place, content) :: tree.files.filter (·.1 ≠ place) }

/-- Adds the directory at a place and the ones above it. -/
def putDirectory (tree : FileTree) (place : List String) : FileTree :=
  { tree with
    directories := (List.range (place.length + 1)).map place.take ++ tree.directories }

/-- Puts content at a place, below directories that are there from then on. -/
def putFile (tree : FileTree) (place : List String) (content : FileContent) : FileTree :=
  (tree.putDirectory place.dropLast).put place content

def writable (tree : FileTree) (text : String) : Except AccessProblem (List String) := do
  let place ← tree.locate text
  match tree.entryAt place with
  | .directory => .error .isADirectory
  | _ => .ok place

def write (tree : FileTree) (text : String) (bytes : List UInt8) :
    Except AccessProblem FileTree := do
  return tree.put (← tree.writable text) (.bytes bytes)

end FileTree

end TableBrowser
