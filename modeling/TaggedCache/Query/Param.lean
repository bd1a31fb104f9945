import TaggedCache.Json.Writer

/-!
# Query parameters

The values that a query may take, from single numbers to nested records, and their canonical text.
The text is JSON. Two kinds of values have none: floats that are no numbers, which JSON would all
write as null, and maps whose keys have no text of their own.
-/

namespace TaggedCache

/-- A parameter of a query. -/
inductive Param where
  | absent
  | bool (value : Bool)
  | integer (value : Int)
  | float32 (value : Floating)
  | float64 (value : Floating)
  | char (value : Char)
  | text (value : String)
  | bytes (value : Bytes)
  /-- A value inside a wrapper that leaves no trace. -/
  | wrapped (value : Param)
  | label (name : String)
  | labelled (name : String) (value : Param)
  | list (items : List Param)
  /-- A map with keys of any kind, in its own order. -/
  | map (entries : List (Param × Param))
  /-- Named fields in their own order. -/
  | record (fields : List (String × Param))
  | sealed (reason : String)

namespace Param

mutual
def ofJson : Json → Param
  | .null => .absent
  | .bool b => .bool b
  | .number (.integer i) => .integer i
  | .number (.float x) => .float64 x
  | .text s => .text s
  | .array items => .list (ofItems items)
  | .object members => .record (ofMembers members)

def ofItems : List Json → List Param
  | [] => []
  | v :: rest => ofJson v :: ofItems rest

def ofMembers : List (String × Json) → List (String × Param)
  | [] => []
  | (k, v) :: rest => (k, ofJson v) :: ofMembers rest
end

/-! ## Values without a text -/

/-- What is wrong with a float, if anything is. -/
def floatFlaw? (x : Floating) : Option String :=
  if x.isFinite then none else some ("non-finite float parameter " ++ Decimal.plainText x)

mutual
/-- The first thing inside a value, keys included, that cannot be written. -/
def flaw? : Param → Option String
  | .float32 x | .float64 x => floatFlaw? x
  | .wrapped p | .labelled _ p => flaw? p
  | .list items => itemFlaw? items
  | .map entries => entryFlaw? entries
  | .record fields => fieldFlaw? fields
  | .sealed reason => some reason
  | _ => none

/-- The first flaw among some values. -/
def itemFlaw? : List Param → Option String
  | [] => none
  | p :: rest =>
    match flaw? p with
    | some reason => some reason
    | none => itemFlaw? rest

/-- The first flaw among some entries; a key comes before its value. -/
def entryFlaw? : List (Param × Param) → Option String
  | [] => none
  | (k, v) :: rest =>
    match flaw? k with
    | some reason => some reason
    | none =>
      match flaw? v with
      | some reason => some reason
      | none => entryFlaw? rest

/-- The first flaw among some fields. -/
def fieldFlaw? : List (String × Param) → Option String
  | [] => none
  | (_, v) :: rest =>
    match flaw? v with
    | some reason => some reason
    | none => fieldFlaw? rest
end

/-! ## Canonical text -/

def keyReason : String := "key must be a string"

def inQuotes (cs : List Char) : List Char := '"' :: cs ++ ['"']

/-- A value as a map key: texts, and what has a text of one word. -/
def keyChars : Param → Except String (List Char)
  | .text s | .label s => .ok (Json.quote s)
  | .char c => .ok (Json.quote (String.singleton c))
  | .bool b => .ok (inQuotes (Json.boolChars b))
  | .integer i => .ok (inQuotes (Numeral.ofInt i))
  | .float32 x => .ok (inQuotes (Json.floatText Json.narrowFloatNotation x))
  | .float64 x => .ok (inQuotes (Json.floatText Json.floatNotation x))
  | .wrapped p => keyChars p
  | _ => .error keyReason

def separated : List (List Char) → List Char
  | [] => []
  | [p] => p
  | p :: rest => p ++ ',' :: separated rest

def bracketed (parts : List (List Char)) : List Char := '[' :: separated parts ++ [']']

def braced (parts : List (List Char)) : List Char := '\x7b' :: separated parts ++ ['\x7d']

mutual
def chars : Param → Except String (List Char)
  | .absent => .ok Json.null.chars
  | .bool b => .ok (Json.boolChars b)
  | .integer i => .ok (Numeral.ofInt i)
  | .float32 x => .ok (Json.floatText Json.narrowFloatNotation x)
  | .float64 x => .ok (Json.floatText Json.floatNotation x)
  | .char c => .ok (Json.quote (String.singleton c))
  | .text s | .label s => .ok (Json.quote s)
  | .bytes bs => .ok (bracketed (bs.map fun b => Numeral.digits b.toNat))
  | .wrapped p => chars p
  | .labelled name p => do .ok (braced [Json.quote name ++ ':' :: (← chars p)])
  | .list items => do .ok (bracketed (← itemChars items))
  | .map entries => do .ok (braced (← entryChars entries))
  | .record fields => do .ok (braced (← fieldChars fields))
  | .sealed reason => .error reason

def itemChars : List Param → Except String (List (List Char))
  | [] => .ok []
  | p :: rest => do
    let first ← chars p
    .ok (first :: (← itemChars rest))

def entryChars : List (Param × Param) → Except String (List (List Char))
  | [] => .ok []
  | (k, v) :: rest => do
    let key ← keyChars k
    let value ← chars v
    .ok ((key ++ ':' :: value) :: (← entryChars rest))

def fieldChars : List (String × Param) → Except String (List (List Char))
  | [] => .ok []
  | (k, v) :: rest => do
    let value ← chars v
    .ok ((Json.quote k ++ ':' :: value) :: (← fieldChars rest))
end

end Param
end TaggedCache
