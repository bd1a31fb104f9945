import TaggedCache.Bytes
import TaggedCache.Text.Words

/-!
# Tables of code points

Properties of characters are given as texts of words. A word names a stretch of code points by its
first and its last one, `41-5A`, or a single code point, `41`; all numbers are hexadecimal. A word may
go on with an equals sign and the class of the stretch. All tables are those of Unicode 17.
-/

namespace TaggedCache
namespace Unicode

def number (cs : List Char) : Nat := cs.foldl (fun n c => 16 * n + (Bytes.hexValue? c).getD 0) 0

def numbers (cs : List Char) : List Nat := (Text.splitOn ',' cs).map number

/-- A stretch of code points. -/
structure Stretch where
  /-- The first code point. -/
  first : Nat
  /-- The last code point. -/
  last : Nat
deriving Repr

namespace Stretch

def ofWord (word : List Char) : Stretch :=
  match Text.splitOn '-' word with
  | [first, last] => ⟨number first, number last⟩
  | _ => ⟨number word, number word⟩

/-- True for the code points of a stretch. -/
def covers (s : Stretch) (c : Nat) : Bool := s.first ≤ c && c ≤ s.last

end Stretch

def stretches (table : String) : List Stretch := (Text.words table.toList).map Stretch.ofWord

/-- True for the code points of some stretches. -/
def within (ranges : List Stretch) (c : Nat) : Bool := ranges.any fun s => s.covers c

def classOfWord (word : List Char) : Stretch × Nat :=
  match Text.splitOn '=' word with
  | [range, name] => (.ofWord range, number name)
  | _ => (.ofWord word, 0)

def classes (table : String) : List (Stretch × Nat) := (Text.words table.toList).map classOfWord

/-- The class of a code point, if the table has one. -/
def classOf? (table : List (Stretch × Nat)) (c : Nat) : Option Nat :=
  (table.find? fun entry => entry.1.covers c).map (·.2)

end Unicode
end TaggedCache
