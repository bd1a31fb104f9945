import TaggedCache.Fault

/-!
# How a command fails

A command fails because of the cache, because of what it runs on, or because a broadcast stayed
incomplete. Each failure has a wording and an exit code: two for names and tags that are not usable,
three for an incomplete broadcast, one for everything else.
-/

namespace TaggedCache
namespace Command

/-- What a command runs on has failed. -/
inductive Infrastructure where
  | io (reason : String)
  | telemetry (reason : String)
  | settings (reason : String)
  | cache (fault : Fault)
deriving DecidableEq, Repr

/-- Why a command failed. -/
inductive Failure where
  | cache (fault : Fault)
  | infrastructure (cause : Infrastructure)
  /-- A broadcast did not reach every bin, although it was tried twice. -/
  | incomplete (operation : Operation) (bins : List String)
  | unexpected (reason : String)
deriving DecidableEq, Repr

def Infrastructure.message : Infrastructure → String
  | .io reason => "io error: " ++ reason
  | .telemetry reason => "telemetry initialization failed: " ++ reason
  | .settings reason => "configuration error: " ++ reason
  | .cache fault => fault.message

namespace Failure

def message : Failure → String
  | .cache fault => fault.message
  | .infrastructure cause => cause.message
  | .incomplete operation bins =>
    "tag " ++ operation.word ++ " did not reach bin(s): " ++ Text.join ", " bins
  | .unexpected reason => "unexpected error: " ++ reason

def exitCode : Failure → Nat
  | .cache (.invalidTag ..) | .cache (.unknownBin _) => 2
  | .incomplete .. => 3
  | _ => 1

/-- The fault of the cache behind a failure, if there is one. -/
def fault? : Failure → Option Fault
  | .cache fault | .infrastructure (.cache fault) => some fault
  | _ => none

end Failure
end Command
end TaggedCache
