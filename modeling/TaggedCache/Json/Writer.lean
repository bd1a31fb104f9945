import TaggedCache.Bytes
import TaggedCache.Decimal.Notation
import TaggedCache.Json.Basic

/-!
# Writing JSON

Two layouts: `compact` without white space, and `pretty` with two spaces per level and every item on
a line of its own. Only quotes, backslashes and control characters are escaped.
-/

namespace TaggedCache
namespace Json

/-- Floats of 64 bits are written positionally from `0.00001` up to sixteen digits before the point,
whole ones with a fraction digit, and otherwise with a signed exponent. -/
def floatNotation : Decimal.Notation := ⟨Floating.binary64, some (-5, 15), true, .toEven⟩

def narrowFloatNotation : Decimal.Notation := ⟨Floating.binary32, some (-6, 12), true, .toEven⟩

/-- The text of a float; what is no finite number is written as null. -/
def floatText (n : Decimal.Notation) (x : Floating) : List Char :=
  if x.isFinite then n.text x else ['n', 'u', 'l', 'l']

/-- The letter that stands for a character behind a backslash; the other way round it is `escaped?`. -/
def escapeLetter? : Char → Option Char
  | '"' => some '"'
  | '\\' => some '\\'
  | '\x08' => some 'b'
  | '\t' => some 't'
  | '\n' => some 'n'
  | '\x0c' => some 'f'
  | '\r' => some 'r'
  | _ => none

/-- One character inside quotes. A control character without a letter is written as four digits. -/
def escapeChar (c : Char) : List Char :=
  match escapeLetter? c with
  | some letter => ['\\', letter]
  | none =>
    if c.toNat < 0x20 then
      ['\\', 'u', '0', '0', Bytes.hexDigit (c.toNat / 16), Bytes.hexDigit (c.toNat % 16)]
    else [c]

def quote (s : String) : List Char := '"' :: s.toList.flatMap escapeChar ++ ['"']

def Number.chars : Number → List Char
  | .integer i => Numeral.ofInt i
  | .float x => floatText floatNotation x

def boolChars (b : Bool) : List Char :=
  if b then ['t', 'r', 'u', 'e'] else ['f', 'a', 'l', 's', 'e']

/-! ## Without white space -/

mutual
/-- A value without white space. -/
def chars : Json → List Char
  | .null => ['n', 'u', 'l', 'l']
  | .bool b => boolChars b
  | .number n => n.chars
  | .text s => quote s
  | .array items => '[' :: itemChars items ++ [']']
  | .object members => '\x7b' :: memberChars members ++ ['\x7d']

def itemChars : List Json → List Char
  | [] => []
  | [v] => chars v
  | v :: rest => chars v ++ ',' :: itemChars rest

def memberChars : List (String × Json) → List Char
  | [] => []
  | [(k, v)] => quote k ++ ':' :: chars v
  | (k, v) :: rest => quote k ++ ':' :: chars v ++ ',' :: memberChars rest
end

/-- The text of a value without white space. -/
def compact (v : Json) : String := String.ofList v.chars

/-- The bytes of a value without white space. -/
def bytes (v : Json) : Bytes := Bytes.ofText v.compact

/-! ## With one item per line -/

def newline (level : Nat) : List Char := '\n' :: List.replicate (2 * level) ' '

mutual
/-- A value inside `level` containers. -/
def prettyChars (level : Nat) : Json → List Char
  | .array [] => ['[', ']']
  | .array (v :: rest) => '[' :: prettyItems level (v :: rest) ++ newline level ++ [']']
  | .object [] => ['\x7b', '\x7d']
  | .object (m :: rest) => '\x7b' :: prettyMembers level (m :: rest) ++ newline level ++ ['\x7d']
  | v => chars v

/-- The items of an array inside `level` containers, each on a line of its own. -/
def prettyItems (level : Nat) : List Json → List Char
  | [] => []
  | [v] => newline (level + 1) ++ prettyChars (level + 1) v
  | v :: rest => newline (level + 1) ++ prettyChars (level + 1) v ++ ',' :: prettyItems level rest

/-- The members of an object inside `level` containers, each on a line of its own. -/
def prettyMembers (level : Nat) : List (String × Json) → List Char
  | [] => []
  | [(k, v)] => newline (level + 1) ++ quote k ++ ':' :: ' ' :: prettyChars (level + 1) v
  | (k, v) :: rest =>
    newline (level + 1) ++ quote k ++ ':' :: ' ' :: prettyChars (level + 1) v
      ++ ',' :: prettyMembers level rest
end

def pretty (v : Json) : String := String.ofList (prettyChars 0 v)

end Json
end TaggedCache
