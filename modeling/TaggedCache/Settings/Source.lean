import TaggedCache.Json.Reader
import TaggedCache.Settings.Check
import TaggedCache.Settings.Decoder
import TaggedCache.Settings.Files
import TaggedCache.Settings.KeyPath
import TaggedCache.Text.Words
import TaggedCache.Toml.Reader

/-!
# Where settings come from

Settings come from files and from variables, and later sources are laid over earlier ones: a file of
defaults, a file of this place, the file that was named, and the variables. The extension of a file
tells its format. Only the file that was named has to be there, but every file that is there has to be
readable.
-/

namespace TaggedCache
namespace Settings

/-- What settings can be read from. -/
structure Surroundings where
  /-- The text of a file, if there is such a file. -/
  file : String → Option String
  /-- The variables in order. -/
  environment : List (String × String)

def Surroundings.ofFiles (files environment : List (String × String)) : Surroundings where
  file := (FileTree.ofFiles files).file?
  environment := environment

/-! ## Files -/

/-- Reads the text of a file, which has to be a table. -/
def readFile? (format : Format) (s : String) : Option Layer :=
  let v : Option Json := match format with
    | .toml => Toml.readChars? (Text.withoutMark s.toList)
    | .json => (Json.readChars? (Text.withoutMark s.toList)).map Json.canonical
  match v with
  | some (.object members) => some members
  | _ => none

def fileLayer (file : String → Option String) (required : Bool) (name : String) :
    Except Fault Layer :=
  match findFile? file name with
  | none => if required then .error .unreadable else .ok []
  | some (format, text) =>
    match readFile? format text with
    | some layer => .ok layer
    | none => .error .unreadable

/-! ## Variables -/

/-- What the names of the variables for settings begin with, in lower case. -/
def variableMark : List Char := "tagcache__".toList

/-- A character in lower case, as far as that makes it one of a key: the sign of the unit kelvin does
too. -/
def lowerChar (c : Char) : Char := if c = '\u212A' then 'k' else c.toLower

/-- The path that the name of a variable stands for: two underscores are a point. -/
def pointed : List Char → List Char
  | '_' :: '_' :: rest => '.' :: pointed rest
  | c :: rest => c :: pointed rest
  | [] => []

def variablePath? (name : String) : Option String :=
  let lower := name.toList.map lowerChar
  if variableMark.isPrefixOf lower then
    some (String.ofList (pointed (lower.drop variableMark.length)))
  else none

/-- The settings whose variables hold several texts with commas between them. -/
def listPaths : List String := ["cache.required_bins"]

/-- The value of a variable: a truth value, an integer or a float where it reads as one, and otherwise
a text, or several where a list is expected. -/
def variableValue (path s : String) : Json :=
  let lower := String.ofList (s.toList.map Char.toLower)
  if lower = "true" then .bool true
  else if lower = "false" then .bool false
  else
    match Numeral.readInt 64 s.toList with
    | .ok i => Json.int i
    | .error _ =>
      match Decimal.read? Floating.binary64 s.toList with
      | some x => .number (.float x)
      | none =>
        if listPaths.contains path then
          Json.texts ((Text.splitOn ',' s.toList).map String.ofList)
        else .text s

def variableLayer (environment : List (String × String)) : Layer :=
  environment.filterMap fun (name, s) => (variablePath? name).map fun path =>
    (path, variableValue path s)

/-! ## All of them -/

def defaultName : String := "config/default"

def localName : String := "tagcache"

def sourceNames (named : Option String) : List String := [defaultName, localName] ++ named.toList

def tree (s : Surroundings) (named : Option String) : Except Fault Json := do
  let defaults ← fileLayer s.file false defaultName
  let here ← fileLayer s.file false localName
  let chosen ← match named with
    | some name => fileLayer s.file true name
    | none => .ok []
  .ok ([defaults, here, chosen, variableLayer s.environment].foldl (fun t l => l.over t)
    (.object []))

/-- The settings of all sources, with what is given on the command line in the place of what was
chosen. -/
def load (s : Surroundings) (named : Option String) (o : Overrides) : Except Fault Settings := do
  let tree ← tree s named
  match Reading.lenient.draft tree with
  | some draft => (draft.override o).check
  | none => .error .unreadable

end Settings
end TaggedCache
