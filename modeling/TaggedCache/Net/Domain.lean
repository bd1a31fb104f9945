import TaggedCache.Net.Domain.Label

/-!
# Domain names

A domain name is written as bytes and stands for labels. Characters are mapped to those that they stand
for, the result is normalized and split at its points, and every label has to keep to the rules. A name
that holds characters from right to left has to have labels with directions.
-/

namespace TaggedCache
namespace Net
namespace Domain

def forbidden : List Char :=
  ['%', '#', '/', ':', '<', '>', '?', '@', '[', '\\', ']', '^', '|', '\x7f']

/-- True for a character that no domain name holds. -/
def isForbidden (c : Char) : Bool := c.toNat ≤ 0x20 || forbidden.contains c

def mapChar? (c : Char) : Option (List Char) :=
  if isAscii c then some [c.toLower] else (target? c.toNat).map fun cs => cs.map Char.ofNat

/-- The normal form of a text; one of ASCII characters is its own. -/
def normalized (cs : List Char) : List Char :=
  if cs.all isAscii then cs else Unicode.normalize cs

/-- The labels of a domain name, unless it is none. -/
def labels? (bs : Bytes) : Option (List (List Char)) := do
  let text ← Bytes.toText? bs
  let mapped ← text.toList.mapM mapChar?
  let cs := normalized mapped.flatten
  guard (!cs.any isForbidden)
  let labels ← (Text.splitOn '.' cs).mapM label?
  guard ((labels.any fun label => label.any isRightward) → labels.all isDirected)
  some labels

end Domain
end Net
end TaggedCache
