import TaggedCache.Net.Domain
import TaggedCache.Net.Ip
import TaggedCache.Net.Percent

/-!
# Locators and servers

A locator names a scheme, and behind it perhaps a server with a user, a password and a port, a path
and a query. Some schemes are special: they always have a server, and its name is a domain or an
address of version 4. To other schemes the name of a server is a text of its own.
-/

namespace TaggedCache
namespace Net

/-- Why a text is no locator. -/
inductive UrlFault where
  | relative
  | emptyHost
  | port
  /-- The server looks like an address of version 4 and is none. -/
  | ipv4
  /-- The server looks like an address of version 6 and is none. -/
  | ipv6
  /-- The name of the server holds a character that none may hold. -/
  | hostCharacter
  | domain
deriving DecidableEq, Repr

def UrlFault.message : UrlFault → String
  | .relative => "relative URL without a base"
  | .emptyHost => "empty host"
  | .port => "invalid port number"
  | .ipv4 => "invalid IPv4 address"
  | .ipv6 => "invalid IPv6 address"
  | .hostCharacter => "invalid domain character"
  | .domain => "invalid international domain name"

/-- A server. -/
inductive Host where
  | text (cs : List Char)
  | domain (labels : List (List Char))
  /-- An address of version 4, as the labels that stand for it. -/
  | ipv4 (labels : List (List Char))
  | ipv6 (cs : List Char)
deriving DecidableEq, Repr

/-- The parts of a locator. -/
structure Url where
  scheme : String
  username : List Char
  password : Option (List Char)
  host : Option Host
  port : Option Nat
  /-- The path without points that lead upwards. -/
  path : List Char
  query : Option (List Char)
deriving DecidableEq, Repr

namespace Host

def forbidden : List Char :=
  ['\x00', '\t', '\n', '\r', ' ', '#', '/', ':', '<', '>', '?', '@', '[', '\\', ']', '^', '|']

/-- A number of an address of version 4, also octal or hexadecimal. -/
def looseNumber? (cs : List Char) : Option Nat :=
  let inBase (base : Nat) (cs : List Char) : Option Nat :=
    cs.foldlM (fun n c => do
      let d ← Bytes.hexValue? c
      if d < base then some (base * n + d) else none) 0
  match cs with
  | [] => none
  | '0' :: x :: rest =>
    if x = 'x' ∨ x = 'X' then inBase 16 rest else inBase 8 (x :: rest)
  | cs => inBase 10 cs

/-- True when the last label is a number. -/
def endsInNumber (labels : List (List Char)) : Bool :=
  match labels.getLast? with
  | some last => last ≠ [] && (last.all Char.isDigit || (looseNumber? last).isSome)
  | none => false

/-- True for the labels of a loosely written address of version 4. -/
def isLooseIpv4 (labels : List (List Char)) : Bool :=
  match labels.mapM looseNumber? with
  | none => false
  | some numbers =>
    numbers.length ≤ 4 && numbers.dropLast.all (· ≤ 255) &&
      numbers.getLast?.any fun n => n < Nat.pow 256 (5 - numbers.length)

/-- Reads an address of version 6, whose opening bracket has been read. -/
def readBracketed (cs : List Char) : Except UrlFault Host :=
  if cs.getLast? = some ']' ∧ isIpv6 cs.dropLast then .ok (.ipv6 cs.dropLast) else .error .ipv6

/-- Reads a server of a special scheme. An empty label at its end does not count. -/
def readDomain : List Char → Except UrlFault Host
  | '[' :: rest => readBracketed rest
  | cs =>
    match Domain.labels? (percentDecode (Bytes.ofText (String.ofList cs))) with
    | none => .error .domain
    | some labels =>
      let counted := if labels.getLast? = some [] then labels.dropLast else labels
      if labels = [[]] then .error .emptyHost
      else if !endsInNumber counted then .ok (.domain labels)
      else if isLooseIpv4 counted then .ok (.ipv4 counted)
      else .error .ipv4

def readText : List Char → Except UrlFault Host
  | '[' :: rest => readBracketed rest
  | cs => if cs.any forbidden.contains then .error .hostCharacter else .ok (.text cs)

end Host
end Net
end TaggedCache
