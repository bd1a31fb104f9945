import TaggedCache.Net.Url
import TaggedCache.Text.Quoted
import TaggedCache.Text.Utf8

/-!
# Addresses of databases

A database is named by a locator. The scheme does not matter. User, password and path are
percent-encoded texts, and some names of its query are options with values of their own kind.
-/

namespace TaggedCache
namespace Sql

/-- Why an address is not usable. -/
inductive AddressFault where
  | url (fault : Net.UrlFault)
  | text (fault : Utf8.Fault)
  | number (fault : Numeral.Fault)
  /-- The address of the server is none. -/
  | server
  | security (value : String)
deriving DecidableEq, Repr

def AddressFault.message (f : AddressFault) : String :=
  "error with configuration: " ++ match f with
    | .url fault => fault.message
    | .text fault => fault.message
    | .number fault => fault.message
    | .server => "invalid IP address syntax"
    | .security value =>
      "error with configuration: unknown value " ++ Text.quoted value ++ " for `ssl_mode`"

/-- The text behind percent-encoded characters. -/
def decoded (cs : List Char) : Bytes := Net.percentDecode (Bytes.ofText (String.ofList cs))

def checkText (cs : List Char) : Except AddressFault Unit :=
  match Utf8.fault? (decoded cs) with
  | some fault => .error (.text fault)
  | none => .ok ()

/-! ## Options -/

def securityWords : List String :=
  ["disable", "allow", "prefer", "require", "verify-ca", "verify-full"]

/-- The text of a name or value in a query, with plus signs for spaces. Bytes that are no text become
replacement characters. -/
def queryText (cs : List Char) : String :=
  Utf8.repaired (decoded (cs.map fun c => if c = '+' then ' ' else c))

def queryPairs (cs : List Char) : List (String × String) :=
  ((Text.splitOn '&' cs).filter (· ≠ [])).map fun part =>
    let (name, value) := Net.Url.splitBefore ['='] part
    (queryText name, queryText value.tail)

/-- Checks that a text is a number of at most this size. -/
def checkNumber (limit : Nat) (s : String) : Except AddressFault Unit :=
  match Numeral.readNat limit s.toList with
  | .ok _ => .ok ()
  | .error fault => .error (.number fault)

/-- Checks one option. Unknown ones are passed over. -/
def checkOption (name value : String) : Except AddressFault Unit :=
  match name with
  | "sslmode" | "ssl-mode" =>
    if securityWords.contains (String.ofList (value.toList.map Char.toLower)) then .ok ()
    else .error (.security value)
  | "statement-cache-capacity" => checkNumber Numeral.wordLimit value
  | "port" => checkNumber 65535 value
  | "hostaddr" => if Net.isAddress value.toList then .ok () else .error .server
  | _ => .ok ()

/-- Checks the address of a database: first the locator, then its texts, then its options in order. -/
def checkAddress (s : String) : Except AddressFault Unit := do
  let url ← (Net.Url.read s).mapError .url
  match url.host with
  | some (.text name) => if (decoded name).head? = some 0x2f then checkText name
  | _ => pure ()
  checkText url.username
  checkText (url.password.getD [])
  checkText (url.path.dropWhile (· = '/'))
  (queryPairs (url.query.getD [])).forM fun (name, value) => checkOption name value

end Sql
end TaggedCache
