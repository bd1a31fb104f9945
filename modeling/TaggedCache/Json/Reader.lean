import TaggedCache.Bytes
import TaggedCache.Json.Number

/-!
# Reading JSON

A text is cut into tokens, and a stack of the containers still open takes one token after another.
Nothing beyond the grammar is accepted: no raw control characters, no lone surrogates, no trailing
commas, no text behind the value, and at most 127 containers inside one another.
-/

namespace TaggedCache
namespace Json

/-- A token of a JSON text. -/
inductive Token where
  | openArray
  | closeArray
  | openObject
  | closeObject
  | comma
  | colon
  | null
  | bool (value : Bool)
  | number (value : Number)
  | text (value : String)

/-! ## Tokens -/

def isBlank (c : Char) : Bool := c = ' ' || c = '\n' || c = '\t' || c = '\r'

def readHex4? : List Char → Option (Nat × List Char)
  | a :: b :: c :: d :: rest => do
    let a ← Bytes.hexValue? a
    let b ← Bytes.hexValue? b
    let c ← Bytes.hexValue? c
    let d ← Bytes.hexValue? d
    some (4096 * a + 256 * b + 16 * c + d, rest)
  | _ => none

def escaped? : Char → Option Char
  | '"' => some '"'
  | '\\' => some '\\'
  | '/' => some '/'
  | 'b' => some '\x08'
  | 'f' => some '\x0c'
  | 'n' => some '\n'
  | 'r' => some '\r'
  | 't' => some '\t'
  | _ => none

/-- The character of a `\u` escape, whose letter has been read, and the rest. A high surrogate takes
the low one behind it; any other surrogate is refused. -/
def readUnicode? (cs : List Char) : Option (Char × List Char) := do
  let (high, rest) ← readHex4? cs
  if 0xD800 ≤ high ∧ high ≤ 0xDBFF then
    match rest with
    | '\\' :: 'u' :: tail =>
      let (low, rest) ← readHex4? tail
      if 0xDC00 ≤ low ∧ low ≤ 0xDFFF then
        some (Char.ofNat (0x10000 + (high - 0xD800) * 0x400 + (low - 0xDC00)), rest)
      else none
    | _ => none
  else if 0xDC00 ≤ high ∧ high ≤ 0xDFFF then none
  else some (Char.ofNat high, rest)

/-- Reads the characters of a text up to its closing quote. The fuel is the number of characters. -/
def readTextFrom : Nat → List Char → Option (List Char × List Char)
  | 0, _ => none
  | fuel + 1, cs =>
    match cs with
    | [] => none
    | '"' :: rest => some ([], rest)
    | '\\' :: 'u' :: rest => do
      let (c, rest) ← readUnicode? rest
      let (cs, rest) ← readTextFrom fuel rest
      some (c :: cs, rest)
    | '\\' :: e :: rest => do
      let c ← escaped? e
      let (cs, rest) ← readTextFrom fuel rest
      some (c :: cs, rest)
    | c :: rest =>
      if c.toNat < 0x20 ∨ c = '\\' then none
      else do
        let (cs, rest) ← readTextFrom fuel rest
        some (c :: cs, rest)

def isNumberChar (c : Char) : Bool :=
  (Numeral.digitValue? c).isSome || c = '-' || c = '+' || c = '.' || c = 'e' || c = 'E'

def punctuation? : Char → Option Token
  | '[' => some .openArray
  | ']' => some .closeArray
  | '\x7b' => some .openObject
  | '\x7d' => some .closeObject
  | ',' => some .comma
  | ':' => some .colon
  | _ => none

def word? (cs : List Char) : Option Token :=
  if cs = ['n', 'u', 'l', 'l'] then some .null
  else if cs = ['t', 'r', 'u', 'e'] then some (.bool true)
  else if cs = ['f', 'a', 'l', 's', 'e'] then some (.bool false)
  else none

/-- Cuts a text into tokens. The fuel is the number of characters. -/
def tokensFrom : Nat → List Char → Option (List Token)
  | _, [] => some []
  | 0, _ => none
  | fuel + 1, c :: rest =>
    if isBlank c then tokensFrom fuel rest
    else if c = '"' then do
      let (cs, rest) ← readTextFrom (rest.length + 1) rest
      let more ← tokensFrom fuel rest
      some (.text (String.ofList cs) :: more)
    else match punctuation? c with
      | some t => (tokensFrom fuel rest).map (t :: ·)
      | none =>
        if c.isLower then do
          let t ← word? (c :: rest.takeWhile Char.isLower)
          let more ← tokensFrom fuel (rest.dropWhile Char.isLower)
          some (t :: more)
        else if isNumberChar c then do
          let n ← readNumber? (c :: rest.takeWhile isNumberChar)
          let more ← tokensFrom fuel (rest.dropWhile isNumberChar)
          some (.number n :: more)
        else none

def tokens? (cs : List Char) : Option (List Token) := tokensFrom cs.length cs

/-! ## Values -/

/-- A container that is still open, with what it holds so far, the latest first. -/
inductive Frame where
  | items (done : List Json)
  | members (done : List (String × Json))
  /-- An object whose next member has this key and no value yet. -/
  | member (done : List (String × Json)) (key : String)

/-- What the next token has to be. -/
inductive Expected where
  | value
  | valueOrEnd
  | key
  | keyOrEnd
  /-- The colon behind a key. -/
  | colon
  | separator
  /-- Nothing: the value is complete. -/
  | nothing (value : Json)

/-- The most containers that may be open at once when a value is read. -/
def depthLimit : Nat := 127

def complete (v : Json) : List Frame → Option (List Frame × Expected)
  | [] => some ([], .nothing v)
  | .items done :: stack => some (.items (v :: done) :: stack, .separator)
  | .member done key :: stack => some (.members ((key, v) :: done) :: stack, .separator)
  | .members _ :: _ => none

/-- Opens a container unless too many are open. -/
def openFrame (limit : Nat) (frame : Frame) (next : Expected) (stack : List Frame) :
    Option (List Frame × Expected) :=
  if stack.length < limit then some (frame :: stack, next) else none

/-- Takes the first token of a value. -/
def beginValue (limit : Nat) (stack : List Frame) : Token → Option (List Frame × Expected)
  | .openArray => openFrame limit (.items []) .valueOrEnd stack
  | .openObject => openFrame limit (.members []) .keyOrEnd stack
  | .null => complete .null stack
  | .bool b => complete (.bool b) stack
  | .number n => complete (.number n) stack
  | .text s => complete (.text s) stack
  | _ => none

def step (limit : Nat) (stack : List Frame) (expected : Expected) (t : Token) :
    Option (List Frame × Expected) :=
  match expected, stack, t with
  | .value, stack, t => beginValue limit stack t
  | .valueOrEnd, .items done :: stack, .closeArray => complete (.array done.reverse) stack
  | .valueOrEnd, stack, t => beginValue limit stack t
  | .key, .members done :: stack, .text k => some (.member done k :: stack, .colon)
  | .keyOrEnd, .members done :: stack, .text k => some (.member done k :: stack, .colon)
  | .keyOrEnd, .members done :: stack, .closeObject => complete (.object done.reverse) stack
  | .colon, stack, .colon => some (stack, .value)
  | .separator, .items done :: stack, .comma => some (.items done :: stack, .value)
  | .separator, .items done :: stack, .closeArray => complete (.array done.reverse) stack
  | .separator, .members done :: stack, .comma => some (.members done :: stack, .key)
  | .separator, .members done :: stack, .closeObject => complete (.object done.reverse) stack
  | _, _, _ => none

/-- Takes all tokens, with at most `limit` containers open at once. -/
def run (limit : Nat) (stack : List Frame) (expected : Expected) : List Token → Option Json
  | [] =>
    match expected with
    | .nothing v => some v
    | _ => none
  | t :: rest => do
    let (stack, expected) ← step limit stack expected t
    run limit stack expected rest

/-- Reads a JSON text; members keep their order and repetitions. -/
def readChars? (cs : List Char) : Option Json := do run depthLimit [] .value (← tokens? cs)

/-- Reads a JSON text; members keep their order and repetitions. -/
def read? (s : String) : Option Json := readChars? s.toList

/-- Reads UTF-8 bytes as a JSON text. -/
def readBytes? (bs : Bytes) : Option Json := do read? (← Bytes.toText? bs)

end Json
end TaggedCache
