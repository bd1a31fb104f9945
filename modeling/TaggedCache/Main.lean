import TaggedCache.Command.Program

/-!
# The command line program

The outer layer: it looks up the files and variables that settings can come from, runs the program on
the arguments, and prints how that ended. It has no connection to a database, so bins in one never
answer.
-/

namespace TaggedCache

/-- What is printed when help is asked for. -/
def usage : String :=
  "Inspect cache bins and broadcast tag invalidations\n\n"
    ++ "Usage: tagcache [OPTIONS] <COMMAND>\n\n"
    ++ "Commands:\n"
    ++ "  bins                           List configured bins and their backends\n"
    ++ "  invalidate <TAG>...            Mark every item carrying any of the tags stale\n"
    ++ "  delete <TAG>...                Remove every item carrying any of the tags\n"
    ++ "  fingerprint --sql <SQL> [PARAM]...  Print the cache fingerprint of a query\n\n"
    ++ "Options:\n"
    ++ "  --config-file <PATH>           Settings file [env: TAGCACHE_CONFIG_FILE]\n"
    ++ "  --log-level <LEVEL>            Log level\n"
    ++ "  --log-json <BOOL>              JSON log lines\n"
    ++ "  --invalidation-timeout-ms <MILLIS>  How long a broadcast waits for a bin\n"
    ++ "  --database-url <URL>           Where the database is\n"
    ++ "  -h, --help                     Print help\n"
    ++ "  -V, --version                  Print version"

/-- What is printed about a command line that is not carried out. -/
def describeLine : Command.LineFault → String
  | .help | .nothing => usage
  | .version => "tagcache 0.1.0"
  | .noCommand => "error: a command is missing"
  | .unknownCommand => "error: there is no such command"
  | .unknownArgument => "error: an argument was not expected"
  | .unneededValue => "error: an option takes no value"
  | .missingValue => "error: the value of an option is missing"
  | .repeated => "error: an option is given more than once"
  | .badValue => "error: the value of an option is not valid"
  | .missingArgument => "error: a required argument is missing"

/-- The text of a file, if it can be read. -/
def readText (path : String) : IO (Option String) := do
  try
    let bytes ← IO.FS.readBinFile path
    return some (Utf8.repaired bytes.toList)
  catch _ => return none

/-- The variables of the process, in order. -/
def readVariables : IO (List (String × String)) := do
  match ← readText "/proc/self/environ" with
  | none => return []
  | some text =>
    return (Text.splitOn '\x00' text.toList).filterMap fun entry =>
      match entry.span (· ≠ '=') with
      | (name, _ :: value) => some (String.ofList name, String.ofList value)
      | _ => none

/-- What settings can come from, as far as a command line asks for it. -/
def readSurroundings (arguments : List String) : IO Settings.Surroundings := do
  let environment ← readVariables
  let bare : Settings.Surroundings := ⟨fun _ => none, environment⟩
  let named := (Command.lineOf bare arguments).toOption.bind (·.configFile)
  let paths := Settings.sourceNames named |>.flatMap Settings.candidates
  let files ← paths.filterMapM fun path => do
    return (← readText path).map fun text => (path, text)
  return ⟨fun path => (files.find? fun file => file.1 = path).map (·.2), environment⟩

end TaggedCache

open TaggedCache in
def main (arguments : List String) : IO UInt32 := do
  let surroundings ← readSurroundings arguments
  let ending := Command.run Sql.Unreachable.silent surroundings arguments
  match ending with
  | .printed text => IO.print text
  | .line fault =>
    if fault.exitCode = 0 then IO.println (describeLine fault)
    else IO.eprintln (describeLine fault)
  | .settings fault =>
    IO.eprintln ("configuration error: failed to load configuration: " ++ fault.message)
  | .failed cause => IO.eprintln cause.message
  return UInt32.ofNat ending.exitCode
