import TaggedCache.Toml.Scalar
import TaggedCache.Toml.Table
import TaggedCache.Toml.Text

/-!
# Reading a settings file

A file is a sequence of lines: headers of tables, keys with values, and comments. The result is a JSON
object, in which dates and times are texts.
-/

namespace TaggedCache
namespace Toml

/-! ## Keys -/

/-- True for the characters of a key without quotes. -/
def isKeyChar (c : Char) : Bool := c.isAlphanum || c = '_' || c = '-'

def readKeyPart? (cs : List Char) : Option (String × List Char) :=
  match cs.span isKeyChar with
  | ([], rest) => readLineText? rest
  | (key, rest) => some (String.ofList key, rest)

/-- Reads a key: parts with points between them, and blanks around these. -/
def readKey : Nat → List Char → Option (List String × List Char)
  | 0, _ => none
  | fuel + 1, cs => do
    let (part, rest) ← readKeyPart? (skipBlanks cs)
    match skipBlanks rest with
    | '.' :: rest =>
      let (parts, rest) ← readKey fuel rest
      some (part :: parts, rest)
    | rest => some ([part], rest)

def partLimit : Nat := 80

def readKey? (cs : List Char) : Option (List String × List Char) := do
  let (parts, rest) ← readKey (cs.length + 1) cs
  guard (parts.length ≤ partLimit)
  some (parts, rest)

/-! ## Comments and line breaks -/

def skipComment : List Char → List Char
  | '#' :: rest => rest.dropWhile isPlain
  | cs => cs

def endLine? (cs : List Char) : Option (List Char) :=
  match skipComment (skipBlanks cs) with
  | [] => some []
  | rest => lineBreak? rest

def skipLines : Nat → List Char → List Char
  | 0, cs => cs
  | fuel + 1, cs =>
    match lineBreak? (skipComment (skipBlanks cs)) with
    | some rest => skipLines fuel rest
    | none => skipBlanks cs

def skipSpace (cs : List Char) : List Char := skipLines (cs.length + 1) cs

/-! ## Values -/

def depthLimit : Nat := 80

mutual
def readValue (depth : Nat) : Nat → List Char → Option (Json × List Char)
  | 0, _ => none
  | fuel + 1, cs =>
    match cs with
    | '[' :: rest => do
      guard (depth < depthLimit)
      let (items, rest) ← readItems (depth + 1) fuel (skipSpace rest)
      some (.array items, rest)
    | '\x7b' :: rest => do
      guard (depth < depthLimit)
      let (members, rest) ← readMembers (depth + 1) [] fuel (skipSpace rest)
      some (.object (Node.membersJson members), rest)
    | '"' :: _ | '\'' :: _ => (readText? cs).map fun (s, rest) => (.text s, rest)
    | cs => readScalar? cs

/-- Reads the items of an array up to its closing bracket. -/
def readItems (depth : Nat) : Nat → List Char → Option (List Json × List Char)
  | 0, _ => none
  | fuel + 1, cs =>
    match cs with
    | ']' :: rest => some ([], rest)
    | cs => do
      let (item, rest) ← readValue depth fuel cs
      match skipSpace rest with
      | ']' :: rest => some ([item], rest)
      | ',' :: rest =>
        let (items, rest) ← readItems depth fuel (skipSpace rest)
        some (item :: items, rest)
      | _ => none

/-- Reads the members of a table in braces up to the closing one. Its lines may end anywhere but within
a key. -/
def readMembers (depth : Nat) (done : List (String × Node)) :
    Nat → List Char → Option (List (String × Node) × List Char)
  | 0, _ => none
  | fuel + 1, cs =>
    match cs with
    | '\x7d' :: rest => some (done, rest)
    | cs => do
      let (key, rest) ← readKey? cs
      let rest ← mark? '=' (skipSpace rest)
      let (v, rest) ← readValue depth fuel (skipSpace rest)
      let done ← Node.assign key v done
      match skipSpace rest with
      | '\x7d' :: rest => some (done, rest)
      | ',' :: rest => readMembers depth done fuel (skipSpace rest)
      | _ => none
end

/-! ## Lines -/

/-- What has been read of a file. -/
structure Document where
  root : List (String × Node)
  /-- The keys of the table whose header came last. -/
  path : List String

def readHeader? (doc : Document) (cs : List Char) : Option (Document × List Char) := do
  let (path, rest) ← readKey? cs
  let key ← path.getLast?
  let root ← Node.within path.dropLast (Node.openTable key) doc.root
  some (⟨root, path⟩, ← mark? ']' rest)

def readItemHeader? (doc : Document) (cs : List Char) : Option (Document × List Char) := do
  let (path, rest) ← readKey? cs
  let key ← path.getLast?
  let root ← Node.within path.dropLast (Node.openItem key) doc.root
  some (⟨root, path⟩, ← mark? ']' (← mark? ']' rest))

def readMember? (doc : Document) (cs : List Char) : Option (Document × List Char) := do
  let (key, rest) ← readKey? cs
  let (v, rest) ← readValue 0 (cs.length + 1) (skipBlanks (← mark? '=' rest))
  let root ← Node.within doc.path (Node.assign key v) doc.root
  some ({ doc with root }, rest)

def readLinesOf (doc : Document) : Nat → List Char → Option Document
  | 0, _ => none
  | fuel + 1, cs =>
    match skipSpace cs with
    | [] => some doc
    | '#' :: rest => if rest.all isPlain then some doc else none
    | '[' :: '[' :: rest => do
      let (doc, rest) ← readItemHeader? doc rest
      readLinesOf doc fuel (← endLine? rest)
    | '[' :: rest => do
      let (doc, rest) ← readHeader? doc rest
      readLinesOf doc fuel (← endLine? rest)
    | cs => do
      let (doc, rest) ← readMember? doc cs
      readLinesOf doc fuel (← endLine? rest)

/-- Reads a whole file, in front of which the mark of a byte order may stand. -/
def readChars? (cs : List Char) : Option Json := do
  let doc ← readLinesOf ⟨[], []⟩ (cs.length + 1) (Text.withoutMark cs)
  some (Json.object (Node.membersJson doc.root)).canonical

end Toml
end TaggedCache
