import ScriptGraph.LogFilter
import ScriptGraph.Report

/-! The command line: what the words ask for, and what is answered. Reading files and printing is
left to the caller. -/

namespace ScriptGraph

/-- How to run a scenario: the ticks and the seconds per tick, if they are given, replace those that
the scenario asks for. -/
structure RunRequest where
  path : String
  ticks : Option UInt32
  deltaTime : Option Single
  format : ReportFormat
deriving DecidableEq, Repr

/-- What help is asked on; on running there is a short and a long form. -/
inductive HelpTopic where
  | program
  | run (long : Bool)
  | sample
  | help
deriving DecidableEq, Repr

inductive Request where
  | run (r : RunRequest)
  | sample
  | version
  | help (topic : HelpTopic)
deriving DecidableEq, Repr

/-- What the program does in the end: its exit code, what it prints, and the error it logs. -/
structure Response where
  code : Nat
  output : String
  error : Option String
deriving DecidableEq, Repr

namespace CommandLine

def programName : String := "ordoplay_behavior"

def versionText : String := programName ++ " 0.1.0\n"

inductive RunOption where
  | ticks
  | deltaTime
  | format
deriving DecidableEq, Repr

structure RunDraft where
  path : Option String
  ticks : Option UInt32
  deltaTime : Option Single
  format : Option ReportFormat

namespace RunDraft

def blank : RunDraft := ⟨none, none, none, none⟩

def hasOption (d : RunDraft) : RunOption → Bool
  | .ticks => d.ticks.isSome
  | .deltaTime => d.deltaTime.isSome
  | .format => d.format.isSome

def readTicks? (s : String) : Option UInt32 := do
  let signed := DecimalLiteral.takeSign s.toList
  let n ← readNat? signed.2
  if n ≤ 0xffffffff && (!signed.1 || n = 0) then some (UInt32.ofNat n) else none

def readFormat? : String → Option ReportFormat
  | "ron" => some .ron
  | "json" => some .json
  | _ => none

def set? (d : RunDraft) (option : RunOption) (value : String) : Option RunDraft :=
  if d.hasOption option then none
  else
    match option with
    | .ticks => (readTicks? value).map fun n => { d with ticks := some n }
    | .deltaTime => (Single.ofChars? value.toList).map fun x => { d with deltaTime := some x }
    | .format => (readFormat? value).map fun f => { d with format := some f }

def setPath? (d : RunDraft) (path : String) : Option RunDraft :=
  if d.path.isSome || path.isEmpty then none else some { d with path := some path }

def finish? (d : RunDraft) : Option Request :=
  d.path.map fun path => .run ⟨path, d.ticks, d.deltaTime, d.format.getD .ron⟩

end RunDraft

/-- What a word is by its form. Behind a separator only plain words follow, and to an option its
value may be attached. -/
inductive Word where
  | plain
  | separator
  | long (name : String) (value : Option String)
  | short (letter : Char) (attached : List Char)
deriving DecidableEq, Repr

def Word.ofChars : List Char → Word
  | ['-', '-'] => .separator
  | '-' :: '-' :: rest =>
    let name := String.ofList (rest.takeWhile fun c => c ≠ '=')
    match rest.dropWhile fun c => c ≠ '=' with
    | _ :: value => .long name (some (String.ofList value))
    | [] => .long name none
  | '-' :: letter :: attached => .short letter attached
  | _ => .plain

def Word.ofText (s : String) : Word := .ofChars s.toList

/-- The value attached to a short option, which an equals sign may part from it. -/
def attachedValue : List Char → Option String
  | [] => none
  | '=' :: value => some (String.ofList value)
  | value => some (String.ofList value)

def runOption? : Word → Option (RunOption × Option String)
  | .long "ticks" value => some (.ticks, value)
  | .long "dt" value => some (.deltaTime, value)
  | .long "format" value => some (.format, value)
  | .short 't' attached => some (.ticks, attachedValue attached)
  | .short 'f' attached => some (.format, attachedValue attached)
  | _ => none

/-- Reads the words after `run` from left to right; none if they cannot be meant so. -/
def readRun (d : RunDraft) : List String → Option Request
  | [] => d.finish?
  | word :: rest =>
    match Word.ofText word with
    | .plain => (d.setPath? word).bind fun d => readRun d rest
    | .separator => (rest.foldlM RunDraft.setPath? d).bind RunDraft.finish?
    | .long "help" none => some (.help (.run true))
    | .short 'h' _ => some (.help (.run false))
    | w =>
      match runOption? w, rest with
      | some (option, some value), rest => (d.set? option value).bind fun d => readRun d rest
      | some (option, none), value :: rest =>
        if Word.ofText value = .plain then (d.set? option value).bind fun d => readRun d rest
        else none
      | _, _ => none

def readSample : List String → Option Request
  | [] => some .sample
  | word :: rest =>
    match Word.ofText word with
    | .separator => if rest = [] then some .sample else none
    | .long "help" none => some (.help .sample)
    | .short 'h' _ => some (.help .sample)
    | _ => none

def readHelp : List String → Option Request
  | [] => some (.help .program)
  | ["run"] => some (.help (.run true))
  | ["sample"] => some (.help .sample)
  | ["help"] => some (.help .help)
  | _ => none

/-- Reads a command line; none if it makes no sense. -/
def read : List String → Option Request
  | "run" :: rest => readRun .blank rest
  | "sample" :: rest => readSample rest
  | "help" :: rest => readHelp rest
  | word :: _ =>
    match Word.ofText word with
    | .long "version" none => some .version
    | .short 'V' _ => some .version
    | .long "help" none => some (.help .program)
    | .short 'h' _ => some (.help .program)
    | _ => none
  | [] => none

def helpText : HelpTopic → String
  | .program =>
    "Headless host for OrdoPlay behavior graphs - loads a scenario, ticks it, reports state\n\n" ++
    "Usage: ordoplay_behavior <COMMAND>\n\n" ++
    "Commands:\n" ++
    "  run     Tick a scenario and print the final state\n" ++
    "  sample  Print a sample scenario\n" ++
    "  help    Print this message or the help of the given subcommand(s)\n\n" ++
    "Options:\n" ++
    "  -h, --help     Print help\n" ++
    "  -V, --version  Print version\n"
  | .run false =>
    "Tick a scenario and print the final state\n\n" ++
    "Usage: ordoplay_behavior run [OPTIONS] <SCENARIO>\n\n" ++
    "Arguments:\n" ++
    "  <SCENARIO>  Path to the scenario RON file\n\n" ++
    "Options:\n" ++
    "  -t, --ticks <TICKS>    Ticks to run, overriding the scenario\n" ++
    "      --dt <DT>          Seconds per tick, overriding the scenario\n" ++
    "  -f, --format <FORMAT>  Report encoding [default: ron] [possible values: ron, json]\n" ++
    "  -h, --help             Print help (see more with '--help')\n"
  | .run true =>
    "Tick a scenario and print the final state\n\n" ++
    "Usage: ordoplay_behavior run [OPTIONS] <SCENARIO>\n\n" ++
    "Arguments:\n" ++
    "  <SCENARIO>\n          Path to the scenario RON file\n\n" ++
    "Options:\n" ++
    "  -t, --ticks <TICKS>\n          Ticks to run, overriding the scenario\n\n" ++
    "      --dt <DT>\n          Seconds per tick, overriding the scenario\n\n" ++
    "  -f, --format <FORMAT>\n          Report encoding\n\n" ++
    "          Possible values:\n" ++
    "          - ron:  Pretty RON\n" ++
    "          - json: Pretty JSON\n" ++
    "          \n          [default: ron]\n\n" ++
    "  -h, --help\n          Print help (see a summary with '-h')\n"
  | .sample =>
    "Print a sample scenario\n\n" ++
    "Usage: ordoplay_behavior sample\n\n" ++
    "Options:\n" ++
    "  -h, --help  Print help\n"
  | .help =>
    "Print this message or the help of the given subcommand(s)\n\n" ++
    "Usage: ordoplay_behavior help [COMMAND]...\n\n" ++
    "Arguments:\n" ++
    "  [COMMAND]...  Print help for the subcommand(s)\n"

def misuse : Response := ⟨2, "", none⟩

def printed (text : String) : Response := ⟨0, text, none⟩

/-- How a character of a logged text is written. Those that could steer a terminal are escaped. -/
def loggedChar (c : Char) : List Char :=
  let hex := (hexDigits 2 c.toNat).map hexChar
  if [0x07, 0x08, 0x0c, 0x1b, 0x7f].contains c.toNat then '\\' :: 'x' :: hex
  else if 0x80 ≤ c.toNat && c.toNat ≤ 0x9f then ['\\', 'u', '\x7b'] ++ hex ++ ['\x7d']
  else [c]

/-- The first line of a text. A carriage return that ends it belongs to the line break. -/
def firstLine (cs : List Char) : List Char :=
  let line := cs.takeWhile fun c => c ≠ '\n'
  if line.getLast? = some '\r' then line.dropLast else line

def loggedLine (s : String) : String := String.ofList ((firstLine s.toList).flatMap loggedChar)

/-- The answer after a failure, which is logged if the filter lets it through. -/
def failed (e : ScenarioError) (filter : LogFilter) : Response :=
  ⟨1, "", if filter.showsErrors programName then some (loggedLine e.message) else none⟩

def broken : Response := ⟨101, "", none⟩

def report (r : RunRequest) (s : Scenario) (ids : IdSource) : Except ScenarioError String := do
  let timed := { s with deltaTime := r.deltaTime.getD s.deltaTime }
  let (simulation, _) ← timed.build ids
  let ended := simulation.run (r.ticks.getD s.ticks).toNat
  return (Report.capture ended.simulation ended.stats).render r.format

/-- Runs the scenario in a file, of which nothing is given if it is missing. -/
def runFile (r : RunRequest) (content : Option ByteArray) (ids : IdSource) : Response :=
  match Scenario.ofFile content with
  | .error e => failed e (.upTo .info)
  | .ok s =>
    match LogFilter.ofText? s.settings.logLevel with
    | none => broken
    | some filter =>
      match report r s ids with
      | .error e => failed e filter
      | .ok text => printed (text ++ "\n")

end CommandLine

namespace Request

def file? : Request → Option String
  | .run r => some r.path
  | _ => none

/-- Answers a request; `content` is what the requested file holds, if it is there. -/
def answer (request : Request) (content : Option ByteArray) (ids : IdSource) : Response :=
  match request with
  | .run r => CommandLine.runFile r content ids
  | .sample => CommandLine.printed (Scenario.sample.toRonText ++ "\n")
  | .version => CommandLine.printed CommandLine.versionText
  | .help topic => CommandLine.printed (CommandLine.helpText topic)

end Request

end ScriptGraph
