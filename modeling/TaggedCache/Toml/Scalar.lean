import TaggedCache.Bytes
import TaggedCache.Decimal.Reader
import TaggedCache.Json.Basic
import TaggedCache.Text.Words

/-!
# Numbers, truth values and dates of a settings file

An integer fits 64 bits and may be decimal, hexadecimal, octal or binary. Underscores may stand
between two digits. A date or a time has no type of its own here: it stands for its text.
-/

namespace TaggedCache
namespace Toml

/-! ## Numbers -/

/-- Digits without the single underscores between them. -/
def digits? (isDigit : Char → Bool) (cs : List Char) : Option (List Char) :=
  let groups := Text.splitOn '_' cs
  if groups.all fun g => !g.isEmpty && g.all isDigit then some groups.flatten else none

/-- True for a decimal digit. -/
def isDigit (c : Char) : Bool := (Numeral.digitValue? c).isSome

/-- Decimal digits without a leading zero before another digit. -/
def whole? (cs : List Char) : Option (List Char) := do
  let ds ← digits? isDigit cs
  guard (ds.length = 1 ∨ ds.head? ≠ some '0')
  some ds

/-- A sign and what stands behind it. -/
def splitSign : List Char → Option Bool × List Char
  | '-' :: rest => (some true, rest)
  | '+' :: rest => (some false, rest)
  | cs => (none, cs)

def inBase? (base : Nat) (cs : List Char) : Option Nat := do
  let ds ← digits? (fun c => (Bytes.hexValue? c).any (· < base)) cs
  some (ds.foldl (fun n c => base * n + (Bytes.hexValue? c).getD 0) 0)

def integer? (cs : List Char) : Option Int := do
  let i : Int ← match cs with
    | '0' :: 'x' :: rest => (inBase? 16 rest).map Int.ofNat
    | '0' :: 'o' :: rest => (inBase? 8 rest).map Int.ofNat
    | '0' :: 'b' :: rest => (inBase? 2 rest).map Int.ofNat
    | cs => do
      let (negative, ds) := splitSign cs
      let n ← Numeral.value? (← whole? ds)
      some (if negative = some true then -(n : Int) else n)
  guard (Numeral.isInt64 i)
  some i

/-- Splits a text before the first of some characters. -/
def splitBefore (marks : List Char) (cs : List Char) : List Char × List Char :=
  cs.span fun c => !marks.contains c

/-- Reads a float: one with a point or an exponent, an infinity or no number at all. -/
def float? (cs : List Char) : Option Floating := do
  let (negative, body) := splitSign cs
  let negative := negative = some true
  if body = ['i', 'n', 'f'] then return .infinite negative
  if body = ['n', 'a', 'n'] then return .nan
  let (mantissa, exponent) := splitBefore ['e', 'E'] body
  let (whole, fraction) := splitBefore ['.'] mantissa
  guard (exponent ≠ [] ∨ fraction ≠ [])
  let whole ← whole? whole
  let fraction ← if fraction = [] then some [] else digits? isDigit fraction.tail
  let exponent : Int ←
    if exponent = [] then some 0
    else do
      let (down, ds) := splitSign exponent.tail
      let n ← Numeral.value? (← digits? isDigit ds)
      some (if down = some true then -(n : Int) else n)
  let x := Floating.binary64.ofDecimal negative (← Numeral.value? (whole ++ fraction))
    (exponent - fraction.length)
  guard x.isFinite
  some x

/-! ## Dates and times -/

/-- A number of exactly that many digits within bounds, and the rest. -/
def field? (width lo hi : Nat) (cs : List Char) : Option (Nat × List Char) := do
  let ds := cs.take width
  guard (ds.length = width ∧ ds.all isDigit)
  let n ← Numeral.value? ds
  guard (lo ≤ n ∧ n ≤ hi)
  some (n, cs.drop width)

def mark? (c : Char) : List Char → Option (List Char)
  | d :: rest => if d = c then some rest else none
  | [] => none

def daysOf (year month : Nat) : Nat :=
  if month = 2 then
    if year % 4 = 0 ∧ (year % 100 ≠ 0 ∨ year % 400 = 0) then 29 else 28
  else if month ∈ [4, 6, 9, 11] then 30
  else 31

/-- Reads a date; the text read comes back. -/
def date? (cs : List Char) : Option (List Char × List Char) := do
  let (year, rest) ← field? 4 0 9999 cs
  let (month, rest) ← field? 2 1 12 (← mark? '-' rest)
  let (_, rest) ← field? 2 1 (daysOf year month) (← mark? '-' rest)
  some (cs.take 10, rest)

/-- Reads the fraction of a second, of which nine digits count and trailing zeros do not, but for the
first digit. -/
def fraction? : List Char → Option (List Char × List Char)
  | '.' :: rest => do
    let (ds, rest) := rest.span isDigit
    guard (ds ≠ [])
    let kept := ((ds.take 9).reverse.dropWhile (· = '0')).reverse
    some ('.' :: (if kept = [] then ['0'] else kept), rest)
  | cs => some ([], cs)

/-- Reads a time of day; seconds may be left out. -/
def time? (cs : List Char) : Option (List Char × List Char) := do
  let (_, rest) ← field? 2 0 23 cs
  let (_, rest) ← field? 2 0 59 (← mark? ':' rest)
  match rest with
  | ':' :: rest =>
    let (_, rest) ← field? 2 0 60 rest
    let (fraction, rest) ← fraction? rest
    some (cs.take 8 ++ fraction, rest)
  | rest => some (cs.take 5, rest)

def offset? (cs : List Char) : Option (List Char × List Char) := do
  match cs with
  | 'Z' :: rest | 'z' :: rest => some (['Z'], rest)
  | sign :: rest =>
    guard (sign = '+' ∨ sign = '-')
    let (hour, tail) ← field? 2 0 23 rest
    let (minute, tail) ← field? 2 0 59 (← mark? ':' tail)
    some ((if hour = 0 ∧ minute = 0 then '+' else sign) :: rest.take 5, tail)
  | [] => none

/-- The text of a date, of a time, or of both. -/
def moment? (cs : List Char) : Option String := do
  match date? cs with
  | some (date, []) => some (String.ofList date)
  | some (date, separator :: rest) =>
    guard (separator = 'T' ∨ separator = 't' ∨ separator = ' ')
    let (time, rest) ← time? rest
    let (offset, rest) ← if rest = [] then some ([], []) else offset? rest
    guard (rest = [])
    some (String.ofList (date ++ 'T' :: time ++ offset))
  | none =>
    let (time, rest) ← time? cs
    guard (rest = [])
    some (String.ofList time)

/-! ## Any of them -/

/-- True for the characters of numbers, words, dates and times. -/
def isScalarChar (c : Char) : Bool := c.isAlphanum || ['_', '+', '-', '.', ':'].contains c

/-- Splits off the characters of one value. A date may have a space and a time behind it. -/
def scalarText (cs : List Char) : List Char × List Char :=
  let (front, rest) := cs.span isScalarChar
  match date? front, rest with
  | some (_, []), ' ' :: tail =>
    let (back, rest) := tail.span isScalarChar
    if (time? back).isSome then (front ++ ' ' :: back, rest) else (front, ' ' :: tail)
  | _, _ => (front, rest)

/-- Reads a value that is no text and has no parts. -/
def readScalar? (cs : List Char) : Option (Json × List Char) := do
  let (front, rest) := scalarText cs
  let v ←
    if front = "true".toList then some (.bool true)
    else if front = "false".toList then some (.bool false)
    else
      ((integer? front).map fun i => Json.int i)
        <|> ((float? front).map fun x => .number (.float x))
        <|> ((moment? front).map .text)
  some (v, rest)

end Toml
end TaggedCache
