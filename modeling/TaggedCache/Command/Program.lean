import TaggedCache.Command.Line
import TaggedCache.Command.Report
import TaggedCache.Settings.Source

/-!
# The program

A run reads its command line, loads the settings and carries out the command. The first of these that
goes wrong ends it.
-/

namespace TaggedCache
namespace Command

def fileVariable : String := "TAGCACHE_CONFIG_FILE"

/-- How a run of the program ends. -/
inductive Ending where
  | printed (text : String)
  | line (fault : LineFault)
  | settings (fault : Settings.Fault)
  /-- Its command fails. -/
  | failed (cause : Failure)
deriving DecidableEq, Repr

def Ending.exitCode : Ending → Nat
  | .printed _ => 0
  | .line fault => fault.exitCode
  | .settings _ => 1
  | .failed cause => cause.exitCode

variable {σ : Type} [Sql.Server σ]

def Request.run (server : σ) (s : CacheSettings) : Request → Except Failure String
  | .bins => do
    let bins ← (s.registry server).mapError .cache
    listBins bins s.requiredBins
  | .apply operation tags => do
    let n ← (s.notifier server).mapError .cache
    (applyTags operation tags n).1
  | .fingerprint sql params => Command.fingerprint sql params

def lineOf (s : Settings.Surroundings) (arguments : List String) : Except LineFault Line :=
  Line.read arguments ((s.environment.find? fun v => v.1 = fileVariable).map (·.2))

def settingsOf (s : Settings.Surroundings) (l : Line) : Except Settings.Fault Settings :=
  Settings.load s l.configFile l.overrides

def run (server : σ) (s : Settings.Surroundings) (arguments : List String) : Ending :=
  match lineOf s arguments with
  | .error fault => .line fault
  | .ok line =>
    match settingsOf s line with
    | .error fault => .settings fault
    | .ok settings =>
      match line.request.run server settings.cache with
      | .ok text => .printed text
      | .error cause => .failed cause

end Command
end TaggedCache
