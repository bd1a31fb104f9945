import TaggedCache.Json.Basic
import TaggedCache.Numeral

/-!
# Key paths

A setting is named by the keys that lead to it. Values are laid over a tree at the end of a path: a
table goes into what is there key by key, and anything else takes its place. What stands in the way is
replaced by what the path needs. A text that is no path is a single key.
-/

namespace TaggedCache
namespace Settings

/-- One step into a value. -/
inductive PathStep where
  | key (name : String)
  /-- To an item of a list, counted from its end when negative. -/
  | index (i : Int)
deriving DecidableEq, Repr

/-- The way to a setting. -/
abbrev KeyPath := List PathStep

namespace KeyPath

/-! ## Reading -/

/-- True for the characters of a key in a path. -/
def isKeyChar (c : Char) : Bool := c.isAlphanum || c = '_' || c = '-'

def readName? (cs : List Char) : Option (PathStep × List Char) :=
  match cs.span isKeyChar with
  | ([], _) => none
  | (name, rest) => some (.key (String.ofList name), rest)

def skipBlanks (cs : List Char) : List Char := cs.dropWhile fun c => c = ' ' || c = '\t'

/-- Reads an index, whose opening bracket has been read. Blanks may stand around it. -/
def readIndex? (cs : List Char) : Option (PathStep × List Char) := do
  let (negative, body) := match skipBlanks cs with
    | '-' :: rest => (true, rest)
    | cs => (false, cs)
  let (digits, rest) := body.span Char.isDigit
  let n ← Numeral.value? digits
  let i : Int := if negative then -(n : Int) else n
  match skipBlanks rest with
  | ']' :: rest => if Numeral.isInt64 i then some (.index i, rest) else none
  | _ => none

/-- Reads the steps behind the first one. -/
def readSteps : Nat → List Char → Option KeyPath
  | _, [] => some []
  | 0, _ => none
  | fuel + 1, '.' :: rest => do
    let (step, rest) ← readName? rest
    some (step :: (← readSteps fuel rest))
  | fuel + 1, '[' :: rest => do
    let (step, rest) ← readIndex? rest
    some (step :: (← readSteps fuel rest))
  | _, _ => none

def read? (s : String) : Option KeyPath := do
  let (first, rest) ← readName? s.toList
  some (first :: (← readSteps rest.length rest))

def ofText (s : String) : KeyPath := (read? s).getD [.key s]

end KeyPath

/-! ## Laying values over a tree -/

/-- The members of a table; anything else has none. -/
def membersOf : Json → List (String × Json)
  | .object members => members
  | _ => []

/-- The items of a list; anything else has none. -/
def itemsOf : Json → List Json
  | .array items => items
  | _ => []

def memberOf (key : String) (members : List (String × Json)) : Json :=
  ((members.find? fun m => m.1 = key).map (·.2)).getD .null

mutual
/-- Lays a value over another: a table goes in key by key, anything else takes its place. -/
def overlay : Json → Json → Json
  | .object members, tree => .object (overlayMembers members (membersOf tree))
  | v, _ => v

/-- Lays the values of some keys over those of a table. -/
def overlayMembers : List (String × Json) → List (String × Json) → List (String × Json)
  | [], done => done
  | (key, v) :: rest, done =>
    overlayMembers rest (Json.insertMember key (overlay v (memberOf key done)) done)
end

/-- Changes an item of a list. A list that is too short is filled up with nulls, in front when the index
counts from the end. -/
def changeItem (i : Int) (f : Json → Json) (items : List Json) : List Json :=
  let padded :=
    if 0 ≤ i then items ++ List.replicate (i.toNat + 1 - items.length) .null
    else List.replicate (i.natAbs - items.length) .null ++ items
  padded.modify (if 0 ≤ i then i.toNat else padded.length - i.natAbs) f

/-- Lays a value over what is at the end of a path. -/
def putAt : KeyPath → Json → Json → Json
  | [], v, tree => overlay v tree
  | .key name :: rest, v, tree =>
    let members := membersOf tree
    .object (Json.insertMember name (putAt rest v (memberOf name members)) members)
  | .index i :: rest, v, tree => .array (changeItem i (putAt rest v) (itemsOf tree))

/-! ## Layers -/

/-- Values under the texts of their paths. -/
abbrev Layer := List (String × Json)

/-- Lays the values of a layer over a tree, one after another. -/
def Layer.over (layer : Layer) (tree : Json) : Json :=
  layer.foldl (fun tree entry => putAt (.ofText entry.1) entry.2 tree) tree

end Settings
end TaggedCache
