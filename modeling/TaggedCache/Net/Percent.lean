import TaggedCache.Bytes

/-!
# Percent decoding

A percent sign with two hexadecimal digits behind it stands for a byte. Any other percent sign stands
for itself.
-/

namespace TaggedCache
namespace Net

def hexPair? (high low : UInt8) : Option UInt8 := do
  let h ← Bytes.hexValue? (Char.ofNat high.toNat)
  let l ← Bytes.hexValue? (Char.ofNat low.toNat)
  some (UInt8.ofNat (16 * h + l))

def percentDecode : Bytes → Bytes
  | a :: b :: c :: rest =>
    match if a = 0x25 then hexPair? b c else none with
    | some byte => byte :: percentDecode rest
    | none => a :: percentDecode (b :: c :: rest)
  | bs => bs

end Net
end TaggedCache
