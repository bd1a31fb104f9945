import TaggedCache.Text.Words

/-!
# Paths of locators

A path is built segment by segment. One point stands for nothing, and two points take back the segment
before, unless this is the letter of a drive. The path of a file begins with one slash, and its first
segment may be the letter of a drive.
-/

namespace TaggedCache
namespace Net
namespace Path

/-- True for the characters that do not count wherever they stand. -/
def isBreak (c : Char) : Bool := c = '\t' || c = '\n' || c = '\r'

def withoutBreaks (cs : List Char) : List Char := cs.filter fun c => !isBreak c

/-! ## Points -/

def plainPoints : List Char → List Char
  | '%' :: '2' :: 'e' :: rest => '.' :: plainPoints rest
  | '%' :: '2' :: 'E' :: rest => '.' :: plainPoints rest
  | c :: rest => c :: plainPoints rest
  | [] => []

/-- True for a segment that stands for nothing. -/
def isHere (segment : List Char) : Bool := plainPoints segment = ['.']

/-- True for a segment that takes back the one before. -/
def isParent (segment : List Char) : Bool := plainPoints segment = ['.', '.']

/-! ## Letters of drives -/

/-- True for a text that begins with the letter of a drive as a segment. -/
def beginsWithDrive : List Char → Bool
  | letter :: mark :: rest =>
    letter.isAlpha && (mark = ':' || mark = '|') && rest.head?.all ['/', '\\', '?', '#'].contains
  | _ => false

/-- True for the letter of a drive. -/
def isDrive (segment : List Char) : Bool := segment.length = 2 && beginsWithDrive segment

/-- True for the letter of a drive with a colon behind it. -/
def isUsualDrive (segment : List Char) : Bool := isDrive segment && segment.getLast? = some ':'

/-- The first segment of the path of a file. The letter of a drive has a colon behind it, and when a
line break follows the colon, what comes then is a segment of its own. -/
def firstOfFile (segment : List Char) : List Char :=
  let text := withoutBreaks segment
  let rest := (segment.dropWhile (· ≠ ':')).tail
  let drive := withoutBreaks (segment.takeWhile (· ≠ ':')) ++ [':']
  if isDrive text then text.take 1 ++ [':']
  else if isDrive drive ∧ rest.head?.any isBreak ∧ withoutBreaks rest ≠ [] then
    drive ++ '/' :: withoutBreaks rest
  else text

/-! ## Building -/

/-- Splits a path behind its last slash. -/
def splitLast (path : List Char) : List Char × List Char :=
  let name := (path.reverse.takeWhile (· ≠ '/')).reverse
  (path.take (path.length - name.length), name)

/-- The path without a slash at its end, unless this is its first one or the one behind the letter of a
drive. -/
def withoutSlash (path : List Char) : List Char :=
  if path.getLast? = some '/' then
    let (front, name) := splitLast path.dropLast
    if front = [] ∨ beginsWithDrive (name ++ ['/']) then path else path.dropLast
  else path

/-- The path without its last segment. The letter of a drive stays in the path of a file. -/
def parent (file : Bool) (path : List Char) : List Char :=
  let path := withoutSlash path
  let (front, name) := splitLast path
  if file ∧ isUsualDrive name then path else front

def closed (path : List Char) : List Char :=
  if path.getLast? = some '/' then path else path ++ ['/']

/-- Adds a segment to a path; `more` tells that a slash follows it. -/
def addSegment (file more : Bool) (path segment : List Char) : List Char :=
  let text := withoutBreaks segment
  if isParent text then
    let path := parent file path
    if more then closed path else path
  else if isHere text then closed path
  else
    let text := if file ∧ path = ['/'] then firstOfFile segment else text
    path ++ text ++ (if more then ['/'] else [])

/-- The segments of a path. In a special scheme a backslash is a slash. -/
def segments (special : Bool) (cs : List Char) : List (List Char) :=
  Text.splitOn '/' (cs.map fun c => if special ∧ c = '\\' then '/' else c)

def extend (file : Bool) (path : List Char) : List (List Char) → List Char
  | [] => path
  | [segment] => addSegment file false path segment
  | segment :: rest => extend file (addSegment file true path segment) rest

/-- The path of a file behind what there is of it. -/
def ofFile (path cs : List Char) : List Char :=
  '/' :: (extend true path (segments true cs)).dropWhile (· = '/')

end Path
end Net
end TaggedCache
