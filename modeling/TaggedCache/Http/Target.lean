import TaggedCache.Bytes

/-!
# Request targets

What a request asks for: a path and perhaps a query. A target is a path that starts with a slash, a
lone star, an authority alone, or an absolute address. Nothing is decoded, and a fragment is dropped.
-/

namespace TaggedCache

/-- The path and the query of a request. -/
structure Target where
  path : String
  /-- What stands behind the question mark, if there is one. -/
  query : Option String
deriving DecidableEq, Repr, Inhabited

namespace Target

def lengthLimit : Nat := 65534

/-- True when a character lies between two code points. -/
def within (lo hi : Nat) (c : Char) : Bool := lo ≤ c.toNat && c.toNat ≤ hi

/-- The characters of a path. Those beyond ASCII are accepted as they are, and so are the quotes and
braces of JSON. No control character is one. -/
def isPathChar (c : Char) : Bool :=
  c = '!' || within 0x24 0x3b c || c = '=' || within 0x40 0x5f c || within 0x61 0x7a c || c = '|'
    || c = '~' || 0x7f < c.toNat || c = '"' || c = '\x7b' || c = '\x7d'

def isQueryChar (c : Char) : Bool :=
  c = '!' || within 0x24 0x3b c || c = '=' || (0x3f ≤ c.toNat && c.toNat ≠ 0x7f)

/-- Splits a text before the first character with a property. -/
def splitAt (p : Char → Bool) (cs : List Char) : List Char × List Char := cs.span fun c => !p c

/-- Reads a path with its query, up to the fragment. The empty path stands for the root. -/
def readPath? (cs : List Char) : Option Target :=
  let (path, rest) := splitAt (· = '?') (splitAt (· = '#') cs).1
  let query := match rest with
    | _ :: q => some q
    | [] => none
  if path.all isPathChar ∧ (query.getD []).all isQueryChar then
    some ⟨if path = [] then "/" else String.ofList path, query.map String.ofList⟩
  else none

/-! ## Authorities -/

def authorityMarks : List Char :=
  ['!', '$', '&', '\'', '(', ')', '*', '+', ',', '-', '.', ':', ';', '=', '@', '[', ']', '_', '~', '%']

/-- True for the characters of an authority. -/
def isAuthorityChar (c : Char) : Bool := c.isAlphanum || authorityMarks.contains c

/-- What has been seen of an authority so far. -/
structure Scan where
  /-- Colons since the last `@` or `]`. -/
  colons : Nat
  /-- A percent sign since the last `@` or `]`. -/
  percent : Bool
  opened : Bool
  closed : Bool

def Scan.step (s : Scan) (c : Char) : Option Scan :=
  if c = ':' then if s.colons < 8 then some { s with colons := s.colons + 1 } else none
  else if c = '[' then if s.percent || s.opened then none else some { s with opened := true }
  else if c = ']' then
    if !s.opened || s.closed then none
    else some { s with closed := true, colons := 0, percent := false }
  else if c = '@' then some { s with colons := 0, percent := false }
  else if c = '%' then some { s with percent := true }
  else if isAuthorityChar c then some s
  else none

/-- True for an authority: matching brackets, at most one colon behind the user part, no percent sign
there, and something behind the last `@`. -/
def isAuthority (cs : List Char) : Bool :=
  match cs.foldlM Scan.step ⟨0, false, false, false⟩ with
  | some s => s.opened == s.closed && s.colons ≤ 1 && !s.percent && cs.getLast? ≠ some '@'
  | none => false

/-! ## Whole targets -/

/-- True for the characters of a scheme. -/
def isSchemeChar (c : Char) : Bool := c.isAlphanum || c = '+' || c = '-' || c = '.' || c = '~'

/-- What stands behind the scheme and its two slashes. A scheme that is too long makes the whole target
unusable. -/
def afterScheme? (cs : List Char) : Option (Option (List Char)) :=
  let (scheme, rest) := splitAt (fun c => !isSchemeChar c) cs
  match rest with
  | ':' :: '/' :: '/' :: tail => if scheme.length ≤ 64 then some (some tail) else none
  | _ => some none

def readChars? (cs : List Char) : Option Target :=
  match cs with
  | [] => none
  | '/' :: _ => readPath? cs
  | ['*'] => some ⟨"*", none⟩
  | cs => do
    match ← afterScheme? cs with
    | none => if isAuthority cs then some ⟨"", none⟩ else none
    | some tail =>
      let (authority, rest) := splitAt (fun c => c = '/' || c = '?' || c = '#') tail
      if authority ≠ [] ∧ isAuthority authority then readPath? rest else none

def read? (s : String) : Option Target :=
  if s.utf8ByteSize ≤ lengthLimit then readChars? s.toList else none

end Target
end TaggedCache
