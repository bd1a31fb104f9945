import TaggedCache.Json.Basic

/-!
# Key parts

The key of an artifact is a list of parts: fixed texts, and contexts that stand for a value of the
request, such as the language or the user. In JSON a fixed text is a string and a context is an
object.
-/

namespace TaggedCache

/-- One component of a key. -/
inductive KeyPart where
  | literal (text : String)
  | context (token : String)
deriving DecidableEq, Repr, Inhabited

namespace KeyPart

/-- True for a context. -/
def isContext : KeyPart → Bool
  | .context _ => true
  | .literal _ => false

def token? : KeyPart → Option String
  | .context t => some t
  | .literal _ => none

def toJson : KeyPart → Json
  | .literal s => .text s
  | .context t => .object [("context", .text t)]

/-- Reads a part. A context is an object whose one member `context` is a text, whatever else it holds,
or an array of exactly one text. -/
def ofJson? : Json → Option KeyPart
  | .text s => some (.literal s)
  | .object members =>
    match members.filter fun m => m.1 = "context" with
    | [(_, .text t)] => some (.context t)
    | _ => none
  | .array [.text t] => some (.context t)
  | _ => none

def listToJson (parts : List KeyPart) : Json := .array (parts.map toJson)

def listOfJson? : Json → Option (List KeyPart)
  | .array items => items.mapM ofJson?
  | _ => none

theorem ofJson?_toJson (p : KeyPart) : ofJson? p.toJson = some p := by
  cases p with
  | literal s => rfl
  | context t => simp [toJson, ofJson?]

theorem listOfJson?_listToJson (parts : List KeyPart) :
    listOfJson? (listToJson parts) = some parts := by
  simp only [listToJson, listOfJson?]
  induction parts with
  | nil => rfl
  | cons p rest ih => simp [ofJson?_toJson, ih]

end KeyPart
end TaggedCache
