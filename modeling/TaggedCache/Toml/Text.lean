import TaggedCache.Bytes

/-!
# Texts of a settings file

A text stands between quotation marks or apostrophes, and three of them let it run over several lines.
Between quotation marks a backslash begins an escape; between apostrophes everything stands for
itself.
-/

namespace TaggedCache
namespace Toml

def skipBlanks (cs : List Char) : List Char := cs.dropWhile fun c => c = ' ' || c = '\t'

/-- True for all characters but the control characters; a tab is none of these here. -/
def isPlain (c : Char) : Bool := c = '\t' || (0x20 ≤ c.toNat && c.toNat ≠ 0x7f)

def lineBreak? : List Char → Option (List Char)
  | '\n' :: rest => some rest
  | '\r' :: '\n' :: rest => some rest
  | _ => none

/-- Drops a line break, if there is one. -/
def skipLineBreak (cs : List Char) : List Char := (lineBreak? cs).getD cs

def hexDigits? (acc : Nat) : Nat → List Char → Option (Nat × List Char)
  | 0, cs => some (acc, cs)
  | _ + 1, [] => none
  | n + 1, c :: rest => do hexDigits? (16 * acc + (← Bytes.hexValue? c)) n rest

/-- The character of a code point that is none of a surrogate. -/
def codePoint? (n : Nat) : Option Char :=
  if n < 0xD800 ∨ (0xDFFF < n ∧ n ≤ 0x10FFFF) then some (Char.ofNat n) else none

def codePointOf? (digits : Nat) (cs : List Char) : Option (Char × List Char) := do
  let (n, rest) ← hexDigits? 0 digits cs
  some (← codePoint? n, rest)

def escape? : List Char → Option (Char × List Char)
  | '"' :: rest => some ('"', rest)
  | '\\' :: rest => some ('\\', rest)
  | 'b' :: rest => some ('\x08', rest)
  | 'e' :: rest => some ('\x1b', rest)
  | 'f' :: rest => some ('\x0c', rest)
  | 'n' :: rest => some ('\n', rest)
  | 'r' :: rest => some ('\r', rest)
  | 't' :: rest => some ('\t', rest)
  | 'x' :: rest => codePointOf? 2 rest
  | 'u' :: rest => codePointOf? 4 rest
  | 'U' :: rest => codePointOf? 8 rest
  | _ => none

/-- Reads up to the closing quotation mark of a text on one line. -/
def readQuoted : Nat → List Char → Option (List Char × List Char)
  | 0, _ => none
  | fuel + 1, cs => do
    match cs with
    | '"' :: rest => some ([], rest)
    | '\\' :: rest =>
      let (c, rest) ← escape? rest
      let (text, rest) ← readQuoted fuel rest
      some (c :: text, rest)
    | c :: rest =>
      guard (isPlain c)
      let (text, rest) ← readQuoted fuel rest
      some (c :: text, rest)
    | [] => none

/-- The marks at the front of a text, when there are at least three: up to two of them belong to the
text that the last three close. -/
def closing? (mark : Char) (cs : List Char) : Option (List Char × List Char) :=
  let (marks, rest) := cs.span (· = mark)
  if marks.length < 3 then none
  else some (marks.take (min 2 (marks.length - 3)), marks.drop (min 5 marks.length) ++ rest)

/-- Drops blanks and line breaks. The fuel is the number of characters. -/
def skipBreaks : Nat → List Char → List Char
  | 0, cs => cs
  | fuel + 1, cs =>
    match lineBreak? (skipBlanks cs) with
    | some rest => skipBreaks fuel rest
    | none => skipBlanks cs

/-- Drops what a backslash at the end of a line leaves out: blanks and line breaks up to the next
character. -/
def continuedLine? (cs : List Char) : Option (List Char) := do
  let rest ← lineBreak? (skipBlanks cs)
  some (skipBreaks rest.length rest)

/-- Reads up to the closing marks of a text over several lines, whose line breaks stay as they are.
Escapes count only between quotation marks. -/
def readLines (mark : Char) : Nat → List Char → Option (List Char × List Char)
  | 0, _ => none
  | fuel + 1, cs => do
    match closing? mark cs with
    | some closed => some closed
    | none =>
      match cs with
      | [] => none
      | '\n' :: rest =>
        let (text, rest) ← readLines mark fuel rest
        some ('\n' :: text, rest)
      | '\r' :: '\n' :: rest =>
        let (text, rest) ← readLines mark fuel rest
        some ('\r' :: '\n' :: text, rest)
      | c :: rest =>
        if c = '\\' ∧ mark = '"' then
          match continuedLine? rest with
          | some rest => readLines mark fuel rest
          | none =>
            let (c, rest) ← escape? rest
            let (text, rest) ← readLines mark fuel rest
            some (c :: text, rest)
        else
          guard (isPlain c)
          let (text, rest) ← readLines mark fuel rest
          some (c :: text, rest)

def readLineText? : List Char → Option (String × List Char)
  | '"' :: rest => (readQuoted (rest.length + 1) rest).map fun (s, rest) => (String.ofList s, rest)
  | '\'' :: rest =>
    match rest.span fun c => isPlain c && c ≠ '\'' with
    | (s, '\'' :: rest) => some (String.ofList s, rest)
    | _ => none
  | _ => none

def readText? : List Char → Option (String × List Char)
  | '"' :: '"' :: '"' :: rest =>
    (readLines '"' (rest.length + 1) (skipLineBreak rest)).map fun (s, rest) =>
      (String.ofList s, rest)
  | '\'' :: '\'' :: '\'' :: rest =>
    (readLines '\'' (rest.length + 1) (skipLineBreak rest)).map fun (s, rest) =>
      (String.ofList s, rest)
  | cs => readLineText? cs

end Toml
end TaggedCache
