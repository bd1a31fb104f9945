import TaggedCache.Net.Domain.Mapping
import TaggedCache.Net.Domain.Punycode
import TaggedCache.Unicode.CombiningClass
import TaggedCache.Unicode.Direction
import TaggedCache.Unicode.Joining
import TaggedCache.Unicode.Mark
import TaggedCache.Unicode.Normalization

/-!
# Labels of domain names

The rules for one label: it begins with no mark, joiners stand only where they make a difference, and in
a name with characters from right to left its order is the same wherever it is shown. A label in
Punycode stands for one that could not be written otherwise.
-/

namespace TaggedCache
namespace Net
namespace Domain

/-- True for an ASCII character. -/
def isAscii (c : Char) : Bool := c.toNat < 0x80

/-! ## Joiners -/

def nonJoiner : Char := '\u200C'

def joiner : Char := '\u200D'

/-- True when two texts meet in letters that would join; the first one is given from its end. -/
def wouldJoin (before rest : List Char) : Bool :=
  (before.dropWhile Unicode.isTransparent).head?.any Unicode.joinsBehind &&
    (rest.dropWhile Unicode.isTransparent).head?.any Unicode.joinsBefore

/-- True when a character may stand between two texts, the first one given from its end. A joiner
stands behind a sign that takes away a vowel, and a non-joiner also between letters that would join. -/
def mayStand (before : List Char) (c : Char) (rest : List Char) : Bool :=
  if c = nonJoiner ∨ c = joiner then
    before.head?.any (fun d => Unicode.combiningClass d.toNat = Unicode.viramaClass) ||
      (c = nonJoiner && wouldJoin before rest)
  else true

/-- True when all joiners stand where they may; `before` is given from its end. -/
def joinersFit (before : List Char) : List Char → Bool
  | [] => true
  | c :: rest => mayStand before c rest && joinersFit (c :: before) rest

/-! ## Directions -/

/-- True for characters that are written from right to left. -/
def isRightward (c : Char) : Bool :=
  0x590 ≤ c.toNat && [.right, .arabic, .arabicDigit].contains (Unicode.direction c)

def rightLabel : List Unicode.Direction :=
  [.right, .arabic, .arabicDigit, .digit, .sign, .separator, .unit, .neutral, .boundary, .mark]

def leftLabel : List Unicode.Direction :=
  [.left, .digit, .sign, .separator, .unit, .neutral, .boundary, .mark]

/-- True when a label has a direction of its own: it begins with a letter, holds nothing of the other
direction, ends with a letter or a digit, marks apart, and does not mix two kinds of digits. -/
def isDirected (label : List Char) : Bool :=
  let ds := label.map Unicode.direction
  let last := (ds.reverse.dropWhile (· = .mark)).head?
  match ds with
  | [] => true
  | .left :: _ => ds.all leftLabel.contains && last.any [.left, .digit].contains
  | first :: _ =>
    [.right, .arabic].contains first && ds.all rightLabel.contains &&
      last.any [.right, .arabic, .digit, .arabicDigit].contains &&
      !(ds.contains .digit && ds.contains .arabicDigit)

/-! ## Labels -/

/-- The most characters of a label that is not all ASCII. -/
def characterLimit : Nat := 1000

def punycodeLimit : Nat := 2000

def punycodeMark : List Char := ['x', 'n', '-', '-']

/-- True for a label with characters beyond ASCII that keeps to the rules. -/
def isLabel (label : List Char) : Bool :=
  !punycodeMark.isPrefixOf label && !label.head?.any Unicode.isMark && joinersFit [] label

/-- True for a label that stands for itself: none of its characters stands for others, and it is in
normal form. -/
def isSettled (label : List Char) : Bool :=
  label.all (fun c => target? c.toNat = some [c.toNat]) && Unicode.normalize label = label

def ofPunycode? (cs : List Char) : Option (List Char) := do
  guard (cs.length ≤ punycodeLimit ∧ cs.all isAscii)
  let label ← Punycode.decode? cs
  guard (!label.all isAscii ∧ isSettled label ∧ isLabel label)
  some label

/-- The label that is meant by a mapped and normalized one. -/
def label? (cs : List Char) : Option (List Char) :=
  if punycodeMark.isPrefixOf cs then ofPunycode? (cs.drop punycodeMark.length)
  else if cs.all isAscii ∨ (cs.length ≤ characterLimit ∧ isLabel cs) then some cs
  else none

end Domain
end Net
end TaggedCache
