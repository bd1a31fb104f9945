import TaggedCache.Duration
import TaggedCache.Operation
import TaggedCache.Text.Words

/-!
# What can go wrong

Three layers: a database statement, one call of a bin, and an operation of the cache as a whole. Each
layer has its causes and one function that words them.
-/

namespace TaggedCache

/-- Why a database statement gave no answer. -/
inductive DatabaseFault where
  | poolClosed
  | poolTimedOut
  /-- A row was expected and none came. -/
  | rowNotFound
  | unreachable (reason : String)
  | refused (reason : String)
deriving DecidableEq, Repr, Inhabited

def DatabaseFault.message : DatabaseFault → String
  | .poolClosed => "attempted to acquire a connection on a closed pool"
  | .poolTimedOut => "pool timed out while waiting for an open connection"
  | .rowNotFound => "no rows returned by a query that expected to return at least one row"
  | .unreachable reason => "error communicating with database: " ++ reason
  | .refused reason => "error returned from database: " ++ reason

/-- Why one call of a bin failed. -/
inductive BinFault where
  | timeout (limit : Duration)
  | unavailable (reason : String)
  | storage (reason : String)
  | database (cause : DatabaseFault)
deriving DecidableEq, Repr, Inhabited

def BinFault.message : BinFault → String
  | .timeout limit => "call did not complete within " ++ limit.text
  | .unavailable reason => "backend unavailable: " ++ reason
  | .storage reason => "backend storage error: " ++ reason
  | .database cause => "database error: " ++ cause.message

/-- A bin fault beside the name of its bin. -/
structure BinFailure where
  bin : String
  fault : BinFault
deriving DecidableEq, Repr

/-- A broadcast that did not reach every bin. Every bin was tried. -/
structure BroadcastFault where
  operation : Operation
  /-- The bins that failed, in name order. -/
  failures : List BinFailure
  /-- The bins that applied the operation, in name order. -/
  succeeded : List String
deriving DecidableEq, Repr

/-- The names of the bins that failed, in name order. -/
def BroadcastFault.failedBins (b : BroadcastFault) : List String := b.failures.map (·.bin)

/-- The wording of an incomplete broadcast: it names every bin that failed with the reason. -/
def BroadcastFault.message (b : BroadcastFault) : String :=
  "tag " ++ b.operation.word ++ " failed for " ++ toString b.failures.length ++ " bin(s): "
    ++ Text.join ", " (b.failures.map fun f => f.bin ++ " (" ++ f.fault.message ++ ")")

/-- Why a header does not carry cache metadata. -/
inductive HeaderReason where
  /-- A text holds a character that no header value may hold. -/
  | unwritable
  | unprintable
  | number (fault : Numeral.Fault)
  | keys
  /-- Any other reason, in words. -/
  | other (reason : String)
deriving DecidableEq, Repr

def HeaderReason.message : HeaderReason → String
  | .unwritable => "failed to parse header value"
  | .unprintable => "failed to convert header to a str"
  | .number fault => fault.message
  | .keys => "expected a list of key parts"
  | .other reason => reason

/-- Why an operation of the cache failed. -/
inductive Fault where
  | invalidTag (index : Nat) (reason : String)
  | unknownBin (bin : String)
  | broadcast (cause : BroadcastFault)
  | unfingerprintable (reason : String)
  | unresolvedContext (token : String)
  | badHeader (name : String) (reason : HeaderReason)
  | configuration (key : String) (reason : String)
  | binFailed (bin : String) (cause : BinFault)
deriving DecidableEq, Repr

def Fault.message : Fault → String
  | .invalidTag index reason =>
    "invalid cache tag at position " ++ toString index ++ ": " ++ reason
  | .unknownBin bin => "no cache backend registered for bin `" ++ bin ++ "`"
  | .broadcast cause => cause.message
  | .unfingerprintable reason => "query cannot be fingerprinted: " ++ reason
  | .unresolvedContext token => "cache context `" ++ token ++ "` could not be resolved"
  | .badHeader name reason =>
    "cache metadata cannot be encoded as header `" ++ name ++ "`: " ++ reason.message
  | .configuration key reason => "invalid cache configuration for `" ++ key ++ "`: " ++ reason
  | .binFailed bin cause => "cache bin `" ++ bin ++ "` failed: " ++ cause.message

/-- The wording of what lies behind a fault, for the faults that have a cause of their own. The causes
of an incomplete broadcast are part of its own wording. -/
def Fault.causeMessage? : Fault → Option String
  | .binFailed _ cause => some cause.message
  | _ => none

end TaggedCache
