import TaggedCache.Net.Url.Basic
import TaggedCache.Net.Url.Path

/-!
# Reading locators

White space and control characters at the ends of a text do not count, and neither do line breaks and
tabs within it. Files have rules of their own: they need no server, and the letter of a drive is not
one.
-/

namespace TaggedCache
namespace Net
namespace Url

def special : List String := ["http", "https", "ws", "wss", "ftp"]

/-! ## The scheme -/

/-- True for the characters of a scheme behind its first letter. -/
def isSchemeChar (c : Char) : Bool := c.isAlphanum || c = '+' || c = '-' || c = '.'

def scheme? (cs : List Char) : Option (String × List Char) :=
  match cs.span isSchemeChar with
  | (c :: name, ':' :: rest) =>
    if c.isAlpha then some (String.ofList ((c :: name).map Char.toLower), rest) else none
  | _ => none

/-! ## Parts of the server -/

/-- Splits a text before the first of some characters. -/
def splitBefore (marks : List Char) (cs : List Char) : List Char × List Char :=
  cs.span fun c => !marks.contains c

/-- Reads a port. Nothing at all is no port. -/
def port? (cs : List Char) : Except UrlFault (Option Nat) :=
  if cs = [] then .ok none
  else
    match Numeral.value? cs with
    | some n => if n ≤ 65535 then .ok (some n) else .error .port
    | none => .error .port

/-- Splits a server at the colon before its port; colons within brackets belong to its name. -/
def splitPort (bracketed : Bool) : List Char → List Char × Option (List Char)
  | [] => ([], none)
  | c :: rest =>
    if c = ':' ∧ !bracketed then ([], some rest)
    else
      let (name, port) := splitPort (if c = '[' then true else if c = ']' then false else bracketed) rest
      (c :: name, port)

/-- Splits a text at the last `@`. -/
def splitUser (cs : List Char) : Option (List Char) × List Char :=
  match (Text.splitOn '@' cs).reverse with
  | [] | [_] => (none, cs)
  | host :: users => (some (Text.joinChars ['@'] users.reverse), host)

/-! ## Behind the server -/

/-- Splits off the query. A fragment is dropped. -/
def splitQuery (cs : List Char) : List Char × Option (List Char) :=
  match splitBefore ['?', '#'] cs with
  | (path, '?' :: rest) => (path, some (Path.withoutBreaks (splitBefore ['#'] rest).1))
  | (path, _) => (path, none)

/-- The path behind a server. A special scheme has one in any case. -/
def pathAfter (isSpecial : Bool) (cs : List Char) : List Char :=
  match isSpecial, cs with
  | false, [] => []
  | false, '/' :: _ => Path.extend false [] (Path.segments false cs)
  | false, _ => Path.extend false ['/'] (Path.segments false cs)
  | true, '/' :: rest | true, '\\' :: rest => Path.extend false ['/'] (Path.segments true rest)
  | true, _ => Path.extend false ['/'] (Path.segments true cs)

/-- Reads what stands behind the two slashes. -/
def withServer (url : Url) (isSpecial : Bool) (cs : List Char) : Except UrlFault Url := do
  let (server, rest) := splitBefore (if isSpecial then ['/', '?', '#', '\\'] else ['/', '?', '#']) cs
  let (user, host) := splitUser server
  if user = some [] ∧ host = [] ∧ rest ≠ [] then .error .emptyHost
  let (name, port) := splitPort false host
  if name = [] ∧ (isSpecial ∨ port.isSome) then .error .emptyHost
  let host ← if isSpecial then Host.readDomain name else Host.readText name
  let (digits, behind) := splitBefore ['\\'] (port.getD [])
  let port ← port? digits
  let user := user.getD []
  if name = [] ∧ user ≠ [] ∧ user ≠ [':'] then .error .emptyHost
  let (username, password) := splitBefore [':'] user
  let (path, query) := splitQuery (behind ++ rest)
  .ok { url with
    username
    password := if password = [] then none else some password.tail
    host := if name = [] then none else some host
    port
    path := pathAfter isSpecial path
    query }

/-! ## Files -/

/-- True for the two slashes. -/
def isSlash (c : Char) : Bool := c = '/' || c = '\\'

/-- What stands behind a slash at the front of a text, where breaks do not count. -/
def afterSlash? (cs : List Char) : Option (List Char) :=
  match cs.dropWhile Path.isBreak with
  | c :: rest => if isSlash c then some rest else none
  | [] => none

def withFilePath (url : Url) (path cs : List Char) : Url :=
  let (text, query) := splitQuery cs
  { url with path := Path.ofFile path text, query }

/-- Reads what stands behind the two slashes before a file. -/
def withFileServer (url : Url) (cs : List Char) : Except UrlFault Url :=
  let (server, rest) := splitBefore ['/', '\\', '?', '#'] cs
  let name := Path.withoutBreaks server
  if name = [] ∨ Path.isDrive name then .ok (withFilePath url ['/'] cs)
  else do
    let host ← Host.readDomain name
    if host = .domain ["localhost".toList] then .ok (withFilePath url ['/'] rest)
    else .ok (withFilePath { url with host := some host } ['/'] ((afterSlash? rest).getD rest))

/-- Reads what stands behind the scheme of a file. -/
def withFile (url : Url) (cs : List Char) : Except UrlFault Url :=
  match afterSlash? cs with
  | none => .ok (withFilePath url ['/'] cs)
  | some rest =>
    match afterSlash? rest with
    | none => .ok (withFilePath url [] cs)
    | some rest => withFileServer url rest

/-! ## Whole locators -/

/-- True for white space and control characters at the ends of a text. -/
def isEdge (c : Char) : Bool := c.toNat ≤ 0x20

/-- The text without edges. -/
def trimmed (cs : List Char) : List Char :=
  ((cs.dropWhile isEdge).reverse.dropWhile isEdge).reverse

def read (s : String) : Except UrlFault Url :=
  let cs := trimmed s.toList
  match scheme? (Path.withoutBreaks cs) with
  | none => .error .relative
  | some (scheme, rest) =>
    let url : Url := ⟨scheme, [], none, none, none, [], none⟩
    if scheme = "file" then withFile url (cs.dropWhile (· ≠ ':')).tail
    else if special.contains scheme then withServer url true (rest.dropWhile isSlash)
    else
      match rest with
      | '/' :: '/' :: rest => withServer url false rest
      | '/' :: _ =>
        let (path, query) := splitQuery rest
        .ok { url with path := pathAfter false path, query }
      | _ =>
        let (path, query) := splitQuery rest
        .ok { url with path, query }

end Url
end Net
end TaggedCache
