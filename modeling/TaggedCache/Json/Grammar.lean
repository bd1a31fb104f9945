import TaggedCache.Json.Reader

/-!
# The grammar of JSON

Bytes can be passed over as one JSON text without a value being made of them. Then only the grammar
counts: a number may be too large for a float, a text need be no UTF-8 and may name lone surrogates,
and containers may lie inside one another as deep as they like.
-/

namespace TaggedCache
namespace Json

def skipEscape? : List Char → Option (List Char)
  | 'u' :: rest => (readHex4? rest).map (·.2)
  | c :: rest => (escaped? c).map fun _ => rest
  | [] => none

/-- Passes over a text up to its closing quote. The fuel is the number of characters. -/
def skipTextFrom : Nat → List Char → Option (List Char)
  | 0, _ => none
  | _, [] => none
  | fuel + 1, c :: rest =>
    if c = '"' then some rest
    else if c = '\\' then do skipTextFrom fuel (← skipEscape? rest)
    else if c.toNat < 0x20 then none
    else skipTextFrom fuel rest

/-- Cuts a text into tokens. All texts and all other plain values are alike to the grammar, so the
empty text and the null stand for them. The fuel is the number of characters. -/
def outlineFrom : Nat → List Char → Option (List Token)
  | _, [] => some []
  | 0, _ => none
  | fuel + 1, c :: rest =>
    if isBlank c then outlineFrom fuel rest
    else if c = '"' then do
      let rest ← skipTextFrom (rest.length + 1) rest
      (outlineFrom fuel rest).map (Token.text "" :: ·)
    else match punctuation? c with
      | some t => (outlineFrom fuel rest).map (t :: ·)
      | none =>
        if c.isLower then do
          let _ ← word? (c :: rest.takeWhile Char.isLower)
          (outlineFrom fuel (rest.dropWhile Char.isLower)).map (Token.null :: ·)
        else if isNumberChar c then do
          let _ ← numberText? (c :: rest.takeWhile isNumberChar)
          (outlineFrom fuel (rest.dropWhile isNumberChar)).map (Token.null :: ·)
        else none

/-- True for characters that are one JSON text as far as the grammar goes. -/
def isText (cs : List Char) : Bool :=
  match outlineFrom cs.length cs with
  | some tokens => (run tokens.length [] .value tokens).isSome
  | none => false

/-- True for bytes that are one JSON text as far as the grammar goes. -/
def isTextBytes (bs : Bytes) : Bool := isText (bs.map fun b => Char.ofNat b.toNat)

end Json
end TaggedCache
