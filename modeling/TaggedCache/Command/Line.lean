import TaggedCache.Operation
import TaggedCache.Settings.Check

/-!
# Command lines

A command line names one command, with options before and behind its name. Options behind the name
come before those in front of it, and both before the variable that names a settings file. The value
of an option stands behind an equals sign or is the next argument, and everything behind two dashes is
an argument of the command.
-/

namespace TaggedCache
namespace Command

/-! ## What can be asked for -/

/-- The words for commands. -/
inductive Word where
  | bins
  | invalidate
  | delete
  | fingerprint
deriving DecidableEq, Repr

namespace Word

def text : Word → String
  | .bins => "bins"
  | .invalidate => "invalidate"
  | .delete => "delete"
  | .fingerprint => "fingerprint"

def ofText? (s : String) : Option Word :=
  [Word.bins, .invalidate, .delete, .fingerprint].find? fun w => w.text = s

/-- True for the commands with arguments. -/
def takesArguments : Word → Bool
  | .bins => false
  | _ => true

end Word

/-- What a command line asks for. -/
inductive Request where
  | bins
  | apply (operation : Operation) (tags : List String)
  | fingerprint (sql : String) (params : List String)
deriving DecidableEq, Repr

/-- Options with a value. -/
inductive Key where
  | configFile
  | logLevel
  | logJson
  | timeout
  | databaseUrl
  | sql
deriving DecidableEq, Repr

/-- Why a command line is not carried out. -/
inductive LineFault where
  | help
  | version
  /-- It is empty. -/
  | nothing
  | noCommand
  | unknownCommand
  | unknownArgument
  /-- A value stands behind an option without one. -/
  | unneededValue
  /-- The value of an option is missing or empty. -/
  | missingValue
  | repeated
  | badValue
  /-- Something that a command needs is missing. -/
  | missingArgument
deriving DecidableEq, Repr

/-- The exit code. Asking for help or for the version is no failure. -/
def LineFault.exitCode : LineFault → Nat
  | .help | .version => 0
  | _ => 2

/-! ## Options with values -/

/-- The values of the options. -/
structure Given where
  configFile : Option String := none
  overrides : Settings.Overrides := {}
  sql : Option String := none
deriving DecidableEq, Repr, Inhabited

def truth? (s : String) : Option Bool :=
  let lower := String.ofList (s.toList.map Char.toLower)
  if lower ∈ ["y", "yes", "t", "true", "on", "1"] then some true
  else if lower ∈ ["n", "no", "f", "false", "off", "0"] then some false
  else none

/-- A value for an option that has none yet. -/
def once {α : Type} (before : Option α) (v : Except LineFault α) : Except LineFault (Option α) :=
  if before.isSome then .error .repeated else v.map some

def valid {α : Type} (v : Option α) : Except LineFault α :=
  match v with
  | some a => .ok a
  | none => .error .badValue

/-- Checks the name of a settings file, which is not empty. -/
def checkFile (s : String) : Except LineFault String :=
  if s = "" then .error .missingValue else .ok s

/-- Takes the value of an option, which may be given once. -/
def Given.put (g : Given) (key : Key) (s : String) : Except LineFault Given := do
  let o := g.overrides
  match key with
  | .configFile => .ok { g with configFile := ← once g.configFile (checkFile s) }
  | .logLevel => .ok { g with overrides := { o with level := ← once o.level (.ok s) } }
  | .logJson => .ok { g with overrides := { o with json := ← once o.json (valid (truth? s)) } }
  | .timeout =>
    let n := (Numeral.readNat Numeral.wordLimit s.toList).toOption
    .ok { g with overrides := { o with timeoutMillis := ← once o.timeoutMillis (valid n) } }
  | .databaseUrl =>
    .ok { g with overrides := { o with databaseUrl := ← once o.databaseUrl (.ok s) } }
  | .sql => .ok { g with sql := ← once g.sql (.ok s) }

/-- The values of the options behind the name of a command, and where there are none those in front of
it. -/
def Given.over (behind front : Given) : Given where
  configFile := behind.configFile <|> front.configFile
  overrides := {
    level := behind.overrides.level <|> front.overrides.level
    json := behind.overrides.json <|> front.overrides.json
    timeoutMillis := behind.overrides.timeoutMillis <|> front.overrides.timeoutMillis
    databaseUrl := behind.overrides.databaseUrl <|> front.overrides.databaseUrl }
  sql := behind.sql <|> front.sql

/-! ## One side of the name -/

/-- What has been read in front of the name of a command, or behind it. -/
structure Side where
  /-- The command, behind its name. -/
  word : Option Word
  given : Given
  /-- The option that came last, and its value if that has been read: it is taken when something else
  follows. -/
  pending : Option (Key × Option String)
  /-- The arguments of the command, the last one first. -/
  arguments : List String

namespace Side

/-- Nothing has been read. -/
def empty (word : Option Word) : Side := ⟨word, {}, none, []⟩

/-- Takes the value of the option that came last. -/
def settle (s : Side) : Except LineFault Side :=
  match s.pending with
  | none => .ok s
  | some (_, none) => .error .missingValue
  | some (key, some v) => do .ok { s with given := ← s.given.put key v, pending := none }

/-- True when the next argument is the value of an option. -/
def waits (s : Side) : Bool := s.pending.any fun p => p.2.isNone

def key? (s : Side) (name : String) : Option Key :=
  match name with
  | "config-file" => some .configFile
  | "log-level" => some .logLevel
  | "log-json" => some .logJson
  | "invalidation-timeout-ms" => some .timeout
  | "database-url" => some .databaseUrl
  | "sql" => if s.word = some .fingerprint then some .sql else none
  | _ => none

/-- What an option without a value asks for. The version is asked for in front only. -/
def flag? (s : Side) (name : String) : Option LineFault :=
  match name with
  | "help" | "h" => some .help
  | "version" | "V" => if s.word = none then some .version else none
  | _ => none

/-- Answers an option without a value, once the one before it is settled. -/
def ask (s : Side) (name : String) : Except LineFault Side := do
  match s.flag? name with
  | none => .error .unknownArgument
  | some answer => let _ ← s.settle; .error answer

/-- Reads an option behind its two dashes. -/
def readLong (s : Side) (cs : List Char) : Except LineFault Side := do
  let (name, rest) := cs.span (· ≠ '=')
  let name := String.ofList name
  match s.key? name with
  | some key =>
    let s ← s.settle
    match rest with
    | [] => .ok { s with pending := some (key, none) }
    | _ :: v => .ok { s with given := ← s.given.put key (String.ofList v) }
  | none =>
    if name.length = 1 ∨ (s.flag? name).isNone then .error .unknownArgument
    else if rest ≠ [] then .error .unneededValue
    else s.ask name

def readArgument (s : Side) (a : String) : Except LineFault Side := do
  match s.word with
  | none => .error .unknownCommand
  | some word =>
    if word.takesArguments then
      let s ← s.settle
      .ok { s with arguments := a :: s.arguments }
    else .error .unknownArgument

/-- Reads an argument behind two dashes. In front of the command even its name is none. -/
def readTrailing (s : Side) (a : String) : Except LineFault Side :=
  if s.word = none ∧ (a = "help" ∨ (Word.ofText? a).isSome) then .error .unknownArgument
  else s.readArgument a

def read (s : Side) (a : String) : Except LineFault Side :=
  match a.toList with
  | '-' :: '-' :: c :: cs => s.readLong (c :: cs)
  | '-' :: c :: _ => s.ask (String.singleton c)
  | _ =>
    match s.pending with
    | some (key, none) => .ok { s with pending := some (key, some a) }
    | _ => s.readArgument a

/-- What follows the word `help`: the name of at most one command. -/
def helpOn : List String → LineFault
  | [] => .help
  | [a] => if a = "help" ∨ (Word.ofText? a).isSome then .help else .unknownCommand
  | _ => .unknownCommand

/-- Reads arguments up to the name of a command, which comes back with what follows it. -/
def readAll (s : Side) : List String → Except LineFault (Side × Option (Word × List String))
  | [] => .ok (s, none)
  | a :: rest => do
    if a = "--" then .ok (← rest.foldlM readTrailing s, none)
    else if s.word = none ∧ !s.waits ∧ a = "help" then .error (helpOn rest)
    else
      match if s.word = none ∧ !s.waits then Word.ofText? a else none with
      | some word => .ok (s, some (word, rest))
      | none => readAll (← s.read a) rest

/-- Ends a side. Where no file with settings is given the one of the variable counts, and its name may
not be empty. -/
def finish (fallback : Option String) (s : Side) : Except LineFault Side := do
  let s ← s.settle
  if s.given.configFile.isNone then
    let _ ← fallback.mapM checkFile
  .ok s

end Side

/-! ## Whole lines -/

/-- A command line that can be carried out. -/
structure Line where
  request : Request
  configFile : Option String
  overrides : Settings.Overrides
deriving DecidableEq, Repr

namespace Line

/-- What a command asks for. Tags and the text of a query have to be there. -/
def request? (word : Word) (sql : Option String) (arguments : List String) :
    Except LineFault Request :=
  match word with
  | .bins => .ok .bins
  | .invalidate =>
    if arguments = [] then .error .missingArgument else .ok (.apply .invalidate arguments)
  | .delete => if arguments = [] then .error .missingArgument else .ok (.apply .delete arguments)
  | .fingerprint =>
    match sql with
    | some sql => .ok (.fingerprint sql arguments)
    | none => .error .missingArgument

/-- Reads the arguments of the program and the variable that names a file with settings. What is wrong
behind the name of the command is found first. -/
def read (arguments : List String) (fallback : Option String) : Except LineFault Line := do
  match ← (Side.empty none).readAll arguments with
  | (front, none) =>
    let front ← front.finish fallback
    .error (if front.given = {} ∧ fallback = none then .nothing else .noCommand)
  | (front, some (word, rest)) =>
    let (behind, _) ← (Side.empty (some word)).readAll rest
    let behind ← behind.finish fallback
    let request ← request? word behind.given.sql behind.arguments.reverse
    let front ← front.finish fallback
    let given := behind.given.over front.given
    .ok ⟨request, given.configFile <|> fallback, given.overrides⟩

end Line
end Command
end TaggedCache
