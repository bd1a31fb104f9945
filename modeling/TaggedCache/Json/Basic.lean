import TaggedCache.Decimal.Floating

/-!
# JSON values

Objects keep their members as a list of pairs, so the order and the repetitions of a text are not
lost; `Json.canonical` sorts the members by key and lets the last of equal keys win. Integers of 64
bits are kept apart from floats.
-/

namespace TaggedCache

/-- A JSON number. -/
inductive Json.Number where
  /-- An integer between `-2^63` and `2^64 - 1`. -/
  | integer (value : Int)
  /-- Any other number, as a float of 64 bits. -/
  | float (value : Floating)
deriving DecidableEq, Inhabited

/-- A JSON value. -/
inductive Json where
  | null
  | bool (value : Bool)
  | number (value : Json.Number)
  | text (value : String)
  | array (items : List Json)
  | object (members : List (String × Json))
deriving Inhabited

namespace Json

def kind : Json → String
  | .null => "null"
  | .bool _ => "boolean"
  | .number _ => "number"
  | .text _ => "string"
  | .array _ => "array"
  | .object _ => "object"

def int (i : Int) : Json := .number (.integer i)

def nat (n : Nat) : Json := .int n

def texts (xs : List String) : Json := .array (xs.map .text)

/-- Puts a member into a list sorted by key, replacing one of the same key. -/
def insertMember (key : String) (value : Json) : List (String × Json) → List (String × Json)
  | [] => [(key, value)]
  | (k, v) :: rest =>
    if key < k then (key, value) :: (k, v) :: rest
    else if key = k then (key, value) :: rest
    else (k, v) :: insertMember key value rest

mutual
/-- The value with the members of every object sorted by key, the last of equal keys kept. -/
def canonical : Json → Json
  | .array items => .array (canonicalItems items)
  | .object members => .object (canonicalMembers members [])
  | v => v

/-- The canonical forms of some values, in order. -/
def canonicalItems : List Json → List Json
  | [] => []
  | v :: rest => canonical v :: canonicalItems rest

/-- The canonical forms of some members, put into a sorted list one after another. -/
def canonicalMembers : List (String × Json) → List (String × Json) → List (String × Json)
  | [], done => done
  | (k, v) :: rest, done => canonicalMembers rest (insertMember k (canonical v) done)
end

/-- The value of the last member with this key. -/
def field? (v : Json) (key : String) : Option Json :=
  match v with
  | .object members => (members.reverse.find? fun m => m.1 = key).map (·.2)
  | _ => none

end Json
end TaggedCache
