import TaggedCache.Unicode.Visible

/-!
# Quoted texts

A text between quotation marks, in which everything that could not be seen or told apart is written as
an escape.
-/

namespace TaggedCache
namespace Text

/-- The characters that have a letter of their own behind a backslash, each with that letter. -/
def quotedLetters : List (Char × Char) :=
  [('"', '"'), ('\\', '\\'), ('\x00', '0'), ('\t', 't'), ('\n', 'n'), ('\r', 'r')]

def quotedChar (c : Char) : List Char :=
  match quotedLetters.lookup c with
  | some letter => ['\\', letter]
  | none =>
    if Unicode.isVisible c then [c]
    else ['\\', 'u', '\x7b'] ++ Nat.toDigits 16 c.toNat ++ ['\x7d']

def quoted (s : String) : String := "\"" ++ String.ofList (s.toList.flatMap quotedChar) ++ "\""

end Text
end TaggedCache
