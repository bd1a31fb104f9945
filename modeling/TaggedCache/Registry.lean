import TaggedCache.Fault
import TaggedCache.Roster

/-!
# Registered bins

Every bin has a name of its own. Names are also used in table names of a database, so only lower-case
letters, digits and underscores are accepted.
-/

namespace TaggedCache

/-- The bins of a cache under their names, in name order. -/
abbrev Registry (β : Type) := Roster β

namespace Registry

variable {β : Type}

/-- True for the characters of a bin name. -/
def isNameChar (c : Char) : Bool :=
  ('a' ≤ c && c ≤ 'z') || ('0' ≤ c && c ≤ '9') || c = '_'

/-- True for a bin name: at least one character, and only accepted ones. -/
def isValidName (name : String) : Bool := name ≠ "" && name.toList.all isNameChar

def configKey (name : String) : String := "cache.bins." ++ name

def nameReason : String := "bin names may only contain lowercase letters, digits and `_`"

def duplicateReason : String := "bin registered more than once"

/-- Fails on what is no bin name. -/
def checkName (name : String) : Except Fault Unit :=
  if isValidName name then .ok () else .error (.configuration (configKey name) nameReason)

def add (r : Registry β) (name : String) (bin : β) : Except Fault (Registry β) := do
  checkName name
  if r.contains name then .error (.configuration (configKey name) duplicateReason)
  else .ok (r.insert name bin)

/-- Registers bins one after another; the first unusable name counts. -/
def build (bins : List (String × β)) : Except Fault (Registry β) :=
  bins.foldlM (fun r b => add r b.1 b.2) .empty

def bin (r : Registry β) (name : String) : Except Fault β :=
  match r.get? name with
  | some b => .ok b
  | none => .error (.unknownBin name)

/-- Fails on the first required name without a bin. What a registry holds is not touched; bins that are not made
yet are made after this (`Pending.validate`). -/
def validate (r : Registry β) (required : List String) : Except Fault Unit :=
  match required.find? fun name => !r.contains name with
  | some missing => .error (.unknownBin missing)
  | none => .ok ()

def describe (r : Registry β) : String :=
  "BackendRegistry \x7b bins: ["
    ++ Text.join ", " (r.names.map fun name => "\"" ++ name ++ "\"") ++ "] \x7d"

end Registry
end TaggedCache
