import TaggedCache.Command.Failure
import TaggedCache.Json.Reader
import TaggedCache.Json.Writer
import TaggedCache.Notifier
import TaggedCache.Query.Fingerprint

/-!
# What commands do and print

Each command prints one JSON value with one item per line, or fails and prints nothing.
-/

namespace TaggedCache
namespace Command

def rendered (v : Json) : String := v.pretty ++ "\n"

variable {β : Type} [Storage β]

/-- Lists the bins with their kinds, once every required one is there. -/
def listBins (bins : Registry β) (required : List String) : Except Failure String := do
  (Registry.validate bins required).mapError .cache
  .ok (rendered (.array (bins.toList.map fun (name, bin) =>
    .object [("bin", .text name), ("backend", .text (Storage.kind bin))])))

def applied (operation : Operation) (tags : TagSet) (bins : List String) (retried : Bool) : String :=
  rendered (.object [("operation", .text operation.word), ("tags", tags.toJson),
    ("bins", Json.texts bins), ("retried", .bool retried)])

/-- Broadcasts an operation, and tries once more if some bin failed: the second try takes the oldest
record of the failure log. When that fails as well, the latest record names the bins. -/
def applyTags (operation : Operation) (tags : List String) (n : Notifier β) :
    Except Failure String × Notifier β :=
  match n.notifyTexts operation tags with
  | (.error fault, n) => (.error (.cache fault), n)
  | (.ok (.applied report), n) =>
    (.ok (applied report.operation report.tags report.bins false), n)
  | (.ok (.deferred record), n) =>
    match n.retryFailed 1 with
    | (summary, n) =>
      if summary.recovered = 0 then
        let latest := (n.log.records.getLast?.map (·.failedBins)).getD record.failedBins
        (.error (.incomplete operation latest), n)
      else (.ok (applied operation record.tags n.broadcaster.bins.names true), n)

/-- A parameter as given on a command line: JSON if it can be read as such, otherwise a text. -/
def argument (s : String) : Json :=
  match Json.read? s with
  | some v => v.canonical
  | none => .text s

def fingerprint (sql : String) (arguments : List String) : Except Failure String := do
  let params := arguments.map argument
  let digest ← (Query.fingerprint sql (params.map .ofJson)).mapError .cache
  let key ← (Query.key sql (params.map .ofJson)).mapError .cache
  .ok (rendered (.object [("scheme", .text Query.scheme), ("sql", .text sql),
    ("params", .array params), ("fingerprint", .text digest), ("key", .text key)]))

end Command
end TaggedCache
