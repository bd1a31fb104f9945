/-!
# Words

The 25 characters that Unicode calls white space, trimming them from both ends of a text, the words
between them, and splitting and joining texts with a separator.
-/

namespace TaggedCache
namespace Text

def blankRanges : List (Nat × Nat) :=
  [(0x09, 0x0d), (0x20, 0x20), (0x85, 0x85), (0xa0, 0xa0), (0x1680, 0x1680), (0x2000, 0x200a),
   (0x2028, 0x2029), (0x202f, 0x202f), (0x205f, 0x205f), (0x3000, 0x3000)]

/-- True for white space. -/
def isBlank (c : Char) : Bool := blankRanges.any fun r => r.1 ≤ c.toNat && c.toNat ≤ r.2

/-- The text without white space at its ends. -/
def trim (cs : List Char) : List Char :=
  ((cs.dropWhile isBlank).reverse.dropWhile isBlank).reverse

/-- Splits off the words of a text; `word` holds the current one, last character first. -/
def wordsFrom (word : List Char) : List Char → List (List Char)
  | [] => if word = [] then [] else [word.reverse]
  | c :: rest =>
    if isBlank c then
      if word = [] then wordsFrom [] rest else word.reverse :: wordsFrom [] rest
    else wordsFrom (c :: word) rest

/-- The longest stretches without white space, in order. -/
def words (cs : List Char) : List (List Char) := wordsFrom [] cs

/-- The text without the mark of a byte order in front of it. -/
def withoutMark : List Char → List Char
  | '\uFEFF' :: rest => rest
  | cs => cs

/-- Splits a text at a character, which stands in none of the parts. There is at least one part. -/
def splitOn (c : Char) : List Char → List (List Char)
  | [] => [[]]
  | d :: rest =>
    if d = c then [] :: splitOn c rest
    else
      match splitOn c rest with
      | part :: parts => (d :: part) :: parts
      | [] => [[d]]

def joinChars (separator : List Char) : List (List Char) → List Char
  | [] => []
  | [p] => p
  | p :: rest => p ++ separator ++ joinChars separator rest

def join (separator : String) (parts : List String) : String :=
  String.ofList (joinChars separator.toList (parts.map String.toList))

end Text
end TaggedCache
