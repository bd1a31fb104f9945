import TaggedCache.Decimal.Notation
import TaggedCache.Fault
import TaggedCache.Json.Basic

/-!
# Tags

A tag names a piece of data, such as `node:5`, that cached items depend on. It is any text but the
empty one.
-/

namespace TaggedCache

/-- A name of data: a text that is not empty. -/
structure Tag where
  text : String
  /-- A tag is not empty. -/
  text_ne_empty : text ≠ ""
deriving DecidableEq, Repr

namespace Tag

instance : LT Tag := ⟨fun a b => a.text < b.text⟩

instance (a b : Tag) : Decidable (a < b) := inferInstanceAs (Decidable (a.text < b.text))

/-- Why the empty text is refused. -/
def emptyReason : String := "tag must not be empty"

def kindReason (v : Json) : String := "expected a string, found " ++ v.kind

/-- The tag with this text; `index` is its position in the list it comes from. -/
def ofText (index : Nat) (text : String) : Except Fault Tag :=
  if h : text = "" then .error (.invalidTag index emptyReason) else .ok ⟨text, h⟩

/-- The tag of a JSON value at a position of a list. -/
def ofValue (index : Nat) : Json → Except Fault Tag
  | .text s => ofText index s
  | v => .error (.invalidTag index (kindReason v))

/-- The tags of a list whose first element has the given position; the first bad element counts. -/
def listFrom {α : Type} (tag : Nat → α → Except Fault Tag) (index : Nat) :
    List α → Except Fault (List Tag)
  | [] => .ok []
  | x :: rest => do
    let t ← tag index x
    let ts ← listFrom tag (index + 1) rest
    .ok (t :: ts)

/-! ## Families of tags -/

/-- What stands behind the colon of a tag. -/
inductive Suffix where
  /-- Nothing. -/
  | absent
  | bool (value : Bool)
  | integer (value : Int)
  | float (value : Floating)
  | text (value : String)
deriving DecidableEq, Repr

/-- The text of a suffix: what is absent or false leaves no trace, and true is a one. -/
def Suffix.chars : Suffix → List Char
  | .absent | .bool false => []
  | .bool true => ['1']
  | .integer i => Numeral.ofInt i
  | .float x => Decimal.plain.text x
  | .text s => s.toList

def Suffix.toText (s : Suffix) : String := String.ofList s.chars

/-- The tag `stem:suffix`. -/
def under (stem : String) (suffix : Suffix) : Tag where
  text := String.ofList (stem.toList ++ ':' :: suffix.chars)
  text_ne_empty := by
    intro h
    have := congrArg String.toList h
    simp at this

/-- The tags `stem:suffix`, in the order of the suffixes. -/
def family (stem : String) (suffixes : List Suffix) : List Tag := suffixes.map (under stem)

end Tag
end TaggedCache
