import NeighborBench.EnvFile
import NeighborBench.Plan.File
import NeighborBench.Plan.Run
import NeighborBench.Query.Step
import NeighborBench.Search.HttpClient

/-! # The command line -/

namespace NeighborBench

/-! ## Arguments -/

inductive Invocation where
  | test (config : String) (output : Option String)
  | version
  | help
  | testHelp
  | misuse
  deriving DecidableEq, Repr

namespace Invocation

/-- What an argument asks for if it is an option: the first letter of several decides. -/
def option? (arg : String) : Option Invocation :=
  if arg = "--help" then some help
  else
    match arg.toList with
    | '-' :: 'h' :: _ => some help
    | '-' :: _ :: _ => some misuse
    | _ => none

/-- The arguments of a test. After two hyphens all are files; a file has a name. -/
def ofTestArgs (onlyFiles : Bool) (files : List String) : List String → Invocation
  | [] =>
    match files with
    | [config] => test config none
    | [config, output] => test config (some output)
    | _ => misuse
  | arg :: rest =>
    if !onlyFiles && arg = "--" then ofTestArgs true files rest
    else
      match if onlyFiles then none else option? arg with
      | some asked => if asked = help then testHelp else misuse
      | none =>
        if arg = "" || files.length = 2 then misuse else ofTestArgs onlyFiles (files ++ [arg]) rest

def ofHelpArgs : List String → Invocation
  | [] => help
  | ["test"] => testHelp
  | ["help"] => help
  | _ => misuse

/-- The first argument says what to do. -/
def ofArgs : List String → Invocation
  | "test" :: rest => ofTestArgs false [] rest
  | "help" :: rest => ofHelpArgs rest
  | "--version" :: _ => version
  | arg :: _ => if arg.startsWith "-V" then version else (option? arg).getD misuse
  | [] => misuse

end Invocation

/-! ## Texts -/

namespace Program

def name : String := "knnperf"

def versionText : String := name ++ " 0.1.0"

def helpText : String :=
  "Benchmark de búsquedas k-NN contra un servicio compatible con OpenSearch\n\n" ++
  "Usage: knnperf <COMMAND>\n\n" ++
  "Commands:\n" ++
  "  test  Ejecuta un archivo de test y escribe el reporte JSON\n" ++
  "  help  Print this message or the help of the given subcommand(s)\n\n" ++
  "Options:\n" ++
  "  -h, --help     Print help\n" ++
  "  -V, --version  Print version"

def testHelpText : String :=
  "Ejecuta un archivo de test y escribe el reporte JSON\n\n" ++
  "Usage: knnperf test <CONFIG> [OUTPUT]\n\n" ++
  "Arguments:\n" ++
  "  <CONFIG>  Archivo de test YAML\n" ++
  "  [OUTPUT]  Destino del reporte (stdout si se omite)\n\n" ++
  "Options:\n" ++
  "  -h, --help  Print help"

def usageText : String := "Usage: knnperf <COMMAND>\n\nFor more information, try '--help'."

end Program

/-! ## Running -/

/-- What the program needs from outside. -/
structure Outside (m : Type → Type) where
  vars : EnvFile.Variables
  /-- The nearest file of environment variables. -/
  envFile : m (Option (List UInt8))
  entryAt : String → m (Except FileFault Entry)
  store : String → String → m (Except FileFault Unit)
  transport : Transport m
  /-- A clock in nanoseconds. -/
  clock : m Nat
  marks : Marks m

/-- What the program leaves: a status, what it printed, and its complaint. -/
structure Outcome where
  status : Nat
  output : String := ""
  complaint : Option String := none

namespace Outcome

def failed (diagnostic : String) : Outcome := { status := 1, complaint := some s!"Error: {diagnostic}" }

/-- An error of a test, unless the program ended itself. -/
def ofError : TestError → Outcome
  | .step e =>
    if e.endsProgram then { status := 101, complaint := some e.message }
    else failed (TestError.step e).diagnostic
  | e => failed e.diagnostic

def printed (text : String) : Outcome := { status := 0, output := text ++ "\n" }

end Outcome

namespace Outside

variable {m : Type → Type} [Monad m]

/-- Datasets are files, and clients speak HTTP. -/
def services (o : Outside m) : Services m BigAnn where
  openDataset ref := ref.openWith o.entryAt
  connect c := pure (.ok (c.client o.transport))
  clock := o.clock

def environment (o : Outside m) : m ConnectionDefaults := do
  let vars := match ← o.envFile with
    | some bytes => EnvFile.load o.vars bytes
    | none => o.vars
  pure (.ofLookup fun name => Keyed.get? name vars)

def report (o : Outside m) (config : String) : m (Except TestError Report) := do
  let environment ← o.environment
  match TestPlan.ofEntry (← o.entryAt config) with
  | .error e => pure (.error e)
  | .ok plan =>
    let (outcome, _) ← plan.run (Registry.builtin o.services) environment o.marks
    pure outcome

/-- Runs a test and prints its report, or writes it to a file. -/
def test (o : Outside m) (config : String) (output : Option String) : m Outcome := do
  match ← o.report config with
  | .error e => pure (.ofError e)
  | .ok report =>
    match output with
    | none => pure (.printed report.text)
    | some path =>
      match ← o.store path report.text with
      | .error fault => pure (.failed fault.diagnostic)
      | .ok () => pure { status := 0 }

def execute (o : Outside m) : Invocation → m Outcome
  | .test config output => o.test config output
  | .version => pure (.printed Program.versionText)
  | .help => pure (.printed Program.helpText)
  | .testHelp => pure (.printed Program.testHelpText)
  | .misuse => pure { status := 2, complaint := some Program.usageText }

end Outside

end NeighborBench
