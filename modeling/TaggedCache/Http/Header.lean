import TaggedCache.Bytes

/-!
# Header fields

A message has a list of header fields. Names are kept in lower case. A name may occur several times,
and then its values keep their order. Values are bytes; only those of printable ASCII have a text.
-/

namespace TaggedCache

/-- Header fields with lower-case names, in order. -/
abbrev Headers := List (String × Bytes)

namespace Headers

def tokenMarks : List Char :=
  ['!', '#', '$', '%', '&', '\'', '*', '+', '-', '.', '^', '_', '`', '|', '~']

/-- True for the characters of names and methods. -/
def isTokenChar (c : Char) : Bool := c.isAlphanum || tokenMarks.contains c

/-- True for a text that can be a name or a method. -/
def isToken (s : String) : Bool := s ≠ "" && s.toList.all isTokenChar

/-- A header name in lower case, if the text is one. -/
def name? (s : String) : Option String :=
  if isToken s ∧ s.utf8ByteSize < UInt16.size then some (String.ofList (s.toList.map Char.toLower))
  else none

/-- The bytes of header values: everything but control characters, and the tab. -/
def isValueByte (b : UInt8) : Bool := (0x20 ≤ b && b ≠ 0x7f) || b = 0x09

/-- True for bytes that can be a header value. -/
def isValue (bs : Bytes) : Bool := bs.all isValueByte

def ofText? (s : String) : Option Bytes := if isValue (.ofText s) then some (.ofText s) else none

/-- True for the bytes of values that have a text. -/
def isPrintable (b : UInt8) : Bool := (0x20 ≤ b && b < 0x7f) || b = 0x09

def text? (bs : Bytes) : Option String :=
  if bs.all isPrintable then some (String.ofList (bs.map fun b => Char.ofNat b.toNat)) else none

/-! ## Fields -/

/-- The first value of a name. -/
def get? (hs : Headers) (name : String) : Option Bytes :=
  (hs.find? fun h => h.1 = name).map (·.2)

/-- The fields without those of a name. -/
def remove (hs : Headers) (name : String) : Headers := hs.filter fun h => h.1 ≠ name

/-- The fields with one value for a name in place of those it had. -/
def insert (hs : Headers) (name : String) (value : Bytes) : Headers :=
  hs.remove name ++ [(name, value)]

/-- The fields in the order of their names and, for one name, of their values. -/
def sorted (hs : Headers) : Headers :=
  hs.mergeSort fun a b => a.1 < b.1 ∨ (a.1 = b.1 ∧ a.2 ≤ b.2)

/-- The fields with a value for a name, or without the name. -/
def assign (hs : Headers) (name : String) : Option Bytes → Headers
  | some value => hs.insert name value
  | none => hs.remove name

theorem get?_remove (hs : Headers) (name other : String) :
    (hs.remove name).get? other = if other = name then none else hs.get? other := by
  induction hs with
  | nil => simp [get?, remove]
  | cons h rest ih =>
    unfold get? remove at *
    by_cases hn : h.1 = name
    · by_cases ho : other = name
      · simp_all
      · have hne : ¬ h.1 = other := fun e => ho (e.symm.trans hn)
        simp_all
    · by_cases ho : h.1 = other
      · have hne : ¬ other = name := fun e => hn (ho.trans e)
        simp_all
      · simp_all

theorem get?_append (hs more : Headers) (name : String) :
    get? (hs ++ more) name = (hs.get? name).or (get? more name) := by
  induction hs with
  | nil => simp [get?]
  | cons h rest ih =>
    unfold get? at *
    by_cases hn : h.1 = name <;> simp_all

theorem get?_insert (hs : Headers) (name other : String) (value : Bytes) :
    (hs.insert name value).get? other = if other = name then some value else hs.get? other := by
  rw [insert, get?_append, get?_remove]
  by_cases h : other = name
  · simp [h, get?]
  · have h' : ¬ name = other := fun e => h e.symm
    simp [h, h', get?]

theorem get?_assign (hs : Headers) (name other : String) (value : Option Bytes) :
    (hs.assign name value).get? other = if other = name then value else hs.get? other := by
  cases value with
  | none => exact get?_remove hs name other
  | some v => exact get?_insert hs name other v

end Headers
end TaggedCache
