import TaggedCache.Unicode.CombiningClass
import TaggedCache.Unicode.Composition

/-!
# Normalization

The composed normal form of a text: all characters are taken apart, marks behind one character are put
in the order of their combining classes, and what can be put together is put together again. Texts that
mean the same characters have the same normal form.
-/

namespace TaggedCache
namespace Unicode

/-! ## Hangul syllables -/

namespace Hangul

/-- The first syllable. -/
def syllables : Nat := 0xAC00

def syllableCount : Nat := 11172

/-- The first leading consonant. -/
def leading : Nat := 0x1100

def leadingCount : Nat := 19

/-- The first vowel. -/
def vowel : Nat := 0x1161

def vowelCount : Nat := 21

/-- What stands before the first trailing consonant. -/
def trailing : Nat := 0x11A7

/-- The number of trailing consonants, with none as one of them. -/
def trailingCount : Nat := 28

/-- True for a syllable. -/
def isSyllable (c : Nat) : Bool := syllables ≤ c && c < syllables + syllableCount

def parts (c : Nat) : List Nat :=
  let i := c - syllables
  let front := [leading + i / (vowelCount * trailingCount), vowel + i / trailingCount % vowelCount]
  if i % trailingCount = 0 then front else front ++ [trailing + i % trailingCount]

/-- The syllable of a consonant and a vowel, or of a syllable and a trailing consonant. -/
def whole? (a b : Nat) : Option Nat :=
  if leading ≤ a ∧ a < leading + leadingCount ∧ vowel ≤ b ∧ b < vowel + vowelCount then
    some (syllables + ((a - leading) * vowelCount + (b - vowel)) * trailingCount)
  else if isSyllable a ∧ (a - syllables) % trailingCount = 0 ∧ trailing < b ∧
      b < trailing + trailingCount then
    some (a + (b - trailing))
  else none

end Hangul

/-! ## Taking apart -/

/-- The parts of a code point. A first part may have parts itself, three times at most. -/
def decomposeFrom : Nat → Nat → List Nat
  | 0, c => [c]
  | fuel + 1, c =>
    if Hangul.isSyllable c then Hangul.parts c
    else
      match composable.find? fun d => d.whole = c with
      | some ⟨_, [first, second]⟩ => decomposeFrom fuel first ++ [second]
      | _ => ((decomposable.find? fun d => d.whole = c).map (·.parts)).getD [c]

def decompose (c : Nat) : List Nat := decomposeFrom 4 c

/-- Puts a code point behind others, the last of which comes first. A mark goes in front of marks of
higher classes. -/
def settle : List Nat → Nat → List Nat
  | [], c => [c]
  | d :: rest, c =>
    if 0 < combiningClass c ∧ combiningClass c < combiningClass d then d :: settle rest c
    else c :: d :: rest

/-- The code points with their marks in order. -/
def ordered (cs : List Nat) : List Nat := (cs.foldl settle []).reverse

/-! ## Putting together -/

/-- The character of two code points, if there is one. -/
def compose? (a b : Nat) : Option Nat :=
  match Hangul.whole? a b with
  | some c => some c
  | none => (composable.find? fun d => d.parts = [a, b]).map (·.whole)

/-- Puts code points together. `base` is the last code point that marks can go into, and `marks` are
those behind it that could not, the last one first. A mark of the same class as one of these stays
behind it. -/
def composeFrom (base : Nat) (marks : List Nat) : List Nat → List Nat
  | [] => base :: marks.reverse
  | c :: rest =>
    let free := marks = [] || marks.head?.any fun m => combiningClass m < combiningClass c
    match if free then compose? base c else none with
    | some whole => composeFrom whole marks rest
    | none =>
      if combiningClass c = 0 then base :: marks.reverse ++ composeFrom c [] rest
      else composeFrom base (c :: marks) rest

/-- The code points put together, where nothing goes into marks at the front. -/
def composed (cs : List Nat) : List Nat :=
  let (front, rest) := cs.span fun c => combiningClass c ≠ 0
  match rest with
  | [] => front
  | base :: rest => front ++ composeFrom base [] rest

def normalize (cs : List Char) : List Char :=
  (composed (ordered (cs.flatMap fun c => decompose c.toNat))).map Char.ofNat

end Unicode
end TaggedCache
