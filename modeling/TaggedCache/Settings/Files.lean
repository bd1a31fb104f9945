import TaggedCache.Text.Words

/-!
# Files with settings

A path is a text with slashes. It leads from the working directory to a file, and every part that
another one follows has to be a directory. The name of a file has a stem and perhaps an extension,
and a settings file may be named without the extension that tells its format.
-/

namespace TaggedCache
namespace Settings

/-! ## Names -/

/-- True for a part of a path that leads nowhere: the empty one between two slashes and the point. -/
def isIdle (part : List Char) : Bool := part = [] || part = ['.']

/-- Splits a path into what stands before the name of its file and this name. A path that ends with
two points, or that has nothing but idle parts, names no file. -/
def splitName? (path : List Char) : Option (List Char × List Char) :=
  match (Text.splitOn '/' path).reverse.dropWhile isIdle with
  | [] => none
  | name :: before =>
    if name = ['.', '.'] then none
    else some (before.reverse.flatMap fun part => part ++ ['/'], name)

/-- Splits a name at its last point into its stem and its extension. A point in front of the whole name
begins no extension. -/
def splitExtension (name : List Char) : List Char × Option (List Char) :=
  match (Text.splitOn '.' name).reverse with
  | last :: rest =>
    if rest = [] ∨ rest = [[]] then (name, none)
    else (Text.joinChars ['.'] rest.reverse, some last)
  | [] => (name, none)

def extensionOf? (path : String) : Option String := do
  let (_, name) ← splitName? path.toList
  (splitExtension name).2.map String.ofList

/-- The path with this extension instead of the one that its file has, without idle parts behind it.
A path that names no file stays as it is. -/
def withExtension (extension path : String) : String :=
  match splitName? path.toList with
  | none => path
  | some (before, name) =>
    String.ofList (before ++ (splitExtension name).1) ++ "." ++ extension

/-! ## Formats -/

/-- The format of a file. -/
inductive Format where
  | toml
  | json
deriving DecidableEq, Repr

namespace Format

/-- The formats in the order in which they are looked for. -/
def all : List Format := [.toml, .json]

def extension : Format → String
  | .toml => "toml"
  | .json => "json"

def ofPath? (path : String) : Option Format :=
  (extensionOf? path).bind fun e => all.find? fun f => f.extension = e

end Format

/-- The path whose extension may be replaced: an extension that the path has already is a part of the
name, and another one is put behind it. -/
def extensible (path : String) : String :=
  if (extensionOf? path).isSome then path ++ ".dummy" else path

/-- The path of the file of a format that a path may stand for. -/
def Format.pathFor (format : Format) (path : String) : String :=
  withExtension format.extension (extensible path)

/-- The paths of the files that a path may stand for, the first one first. -/
def candidates (path : String) : List String := path :: Format.all.map fun f => f.pathFor path

/-- The text of a file and its format: of the file at this very path, or else of the first one with the
extension of a format. -/
def findFile? (file : String → Option String) (path : String) : Option (Format × String) :=
  match file path with
  | some text => (Format.ofPath? path).map fun format => (format, text)
  | none =>
    Format.all.findSome? fun format => (file (format.pathFor path)).map fun text => (format, text)

/-! ## The working directory -/

/-- A place below the working directory: the names on the way down to it. -/
abbrev Place := List (List Char)

/-- The place that one part of a path leads to. Nothing is known of what lies above the working
directory. -/
def Place.step? (here : Place) (part : List Char) : Option Place :=
  if isIdle part then some here
  else if part = ['.', '.'] then (if here = [] then none else some here.dropLast)
  else some (here ++ [part])

/-- The directories and files below the working directory. -/
structure FileTree where
  directories : List Place
  /-- The files with their texts, the latest first. -/
  files : List (Place × String)

namespace FileTree

/-- The tree that has only a directory for settings. -/
def bare : FileTree := ⟨[[], ["config".toList]], []⟩

/-- Goes along the parts of a path, and makes the directories on the way. -/
def make? (tree : FileTree) (here : Place) : List (List Char) → Option (FileTree × Place)
  | [] => some (tree, here)
  | part :: rest => do
    let next ← here.step? part
    make? { tree with directories := here :: tree.directories } next rest

def insert (tree : FileTree) (path text : String) : FileTree :=
  match make? tree [] (Text.splitOn '/' path.toList) with
  | some (tree, place) => { tree with files := (place, text) :: tree.files }
  | none => tree

def ofFiles (files : List (String × String)) : FileTree :=
  files.foldl (fun tree file => tree.insert file.1 file.2) bare

/-- The place that the parts of a path lead to. Only a directory can be left. -/
def place? (tree : FileTree) (here : Place) : List (List Char) → Option Place
  | [] => some here
  | part :: rest => do
    guard (tree.directories.contains here)
    place? tree (← here.step? part) rest

/-- The text of the file at a path. No path from the root leads below the working directory. -/
def file? (tree : FileTree) (path : String) : Option String :=
  match path.toList with
  | '/' :: _ => none
  | cs => do
    let place ← place? tree [] (Text.splitOn '/' cs)
    (tree.files.find? fun file => file.1 = place).map (·.2)

end FileTree
end Settings
end TaggedCache
