import TaggedCache.Json.Basic

/-!
# Tables of a settings file

Where a table comes from decides what may still be added to it. A table that a header only passed
through may get a header of its own once. It may also be extended by dotted keys, and then counts as
one of these. A table with a header is not extended from elsewhere, and a value is never touched
again.
-/

namespace TaggedCache
namespace Toml

/-- Where a table comes from. -/
inductive Origin where
  | implied
  | header
  | dotted
deriving DecidableEq, Repr

/-- What stands under a key. -/
inductive Node where
  | value (v : Json)
  | table (origin : Origin) (members : List (String × Node))
  /-- A list of tables, in order. -/
  | tables (items : List (List (String × Node)))
deriving Inhabited

namespace Node

/-- Changes what stands under a key, or adds it at the end. -/
def change (key : String) (f : Option Node → Option Node) :
    List (String × Node) → Option (List (String × Node))
  | [] => (f none).map fun n => [(key, n)]
  | (k, n) :: rest =>
    if k = key then (f (some n)).map fun n => (k, n) :: rest
    else (change key f rest).map fun rest => (k, n) :: rest

/-- Changes the table behind some keys. In a list of tables the last one counts, and missing tables are
made. -/
def within (path : List String) (f : List (String × Node) → Option (List (String × Node))) :
    List (String × Node) → Option (List (String × Node)) :=
  match path with
  | [] => f
  | key :: rest => change key fun
    | none => (within rest f []).map (.table .implied)
    | some (.table origin members) => (within rest f members).map (.table origin)
    | some (.tables items) => do
      let last ← items.getLast?
      some (.tables (items.dropLast ++ [← within rest f last]))
    | some (.value _) => none

def openTable (key : String) : List (String × Node) → Option (List (String × Node)) :=
  change key fun
    | none => some (.table .header [])
    | some (.table .implied members) => some (.table .header members)
    | some _ => none

def openItem (key : String) : List (String × Node) → Option (List (String × Node)) :=
  change key fun
    | none => some (.tables [[]])
    | some (.tables items) => some (.tables (items ++ [[]]))
    | some _ => none

/-- Puts a value under a dotted key. The tables on the way become tables of dotted keys. A way through
a list of tables leads on from its last one, which is itself not extended. -/
def assign (path : List String) (v : Json) :
    List (String × Node) → Option (List (String × Node)) :=
  match path with
  | [] => fun _ => none
  | [key] => change key fun
    | none => some (.value v)
    | some _ => none
  | key :: next :: rest => change key fun
    | none => (assign (next :: rest) v []).map (.table .dotted)
    | some (.table .header _) | some (.value _) => none
    | some (.table _ members) => (assign (next :: rest) v members).map (.table .dotted)
    | some (.tables items) => do
      guard (rest ≠ [])
      let last ← items.getLast?
      some (.tables (items.dropLast ++ [← assign (next :: rest) v last]))

/-! ## As values -/

mutual
def toJson : Node → Json
  | .value v => v
  | .table _ members => .object (membersJson members)
  | .tables items => .array (itemsJson items)

def membersJson : List (String × Node) → List (String × Json)
  | [] => []
  | (k, n) :: rest => (k, toJson n) :: membersJson rest

def itemsJson : List (List (String × Node)) → List Json
  | [] => []
  | members :: rest => .object (membersJson members) :: itemsJson rest
end

end Node
end Toml
end TaggedCache
