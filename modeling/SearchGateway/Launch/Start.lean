import SearchGateway.Gateway.Reloading
import SearchGateway.Launch.Directive
import SearchGateway.Launch.Variables

/-!
# Starting the gateway

A start reads a file of variables, finds the configuration and loads it, makes the runtime
of it, and listens.  What it needs from the machine are the questions of a dialogue; what it
has to say goes to the log and, if it concerns the operator, to the error output.

    configPath     where the configuration is, and who says so
    start          a start from its arguments and environment
-/

namespace SearchGateway.Launch

open Config (Found Settings)
open Gateway (Reloading Runtime)

/-! ## Questions -/

/-- What keeps one from listening at an address. -/
inductive Obstacle
  /-- Somebody listens there. -/
  | taken
  /-- It is no address of this machine. -/
  | elsewhere
  deriving DecidableEq, Repr

def Obstacle.message : Obstacle → String
  | taken => "Address already in use (os error 98)"
  | elsewhere => "Cannot assign requested address (os error 99)"

/-- What a start asks of the machine. -/
inductive Errand
  | read (path : String)
  | listen (address : String)
  deriving DecidableEq, Repr

abbrev Errand.Answer : Errand → Type
  | read _ => Found
  | listen _ => Option Obstacle

abbrev Starting := Dialogue Errand Errand.Answer

/-! ## Where the configuration is -/

inductive Origin
  | argument
  | environment
  | standard
  deriving DecidableEq, Repr

def Origin.text : Origin → String
  | argument => "CLI argument (--config)"
  | environment => "environment variable (SOLRGATE_CONFIG)"
  | standard => "default"

def standardPath : String := "solrgate.toml"

/-- What follows the first `--config` that something follows. -/
def argumentPath? : List String → Option String
  | "--config" :: path :: _ => some path
  | _ :: r => argumentPath? r
  | [] => none

/-- The path of the configuration: an argument goes before a variable. -/
def configPath (args : List String) (env : Environment) : String × Origin :=
  match argumentPath? args, (env.find? "SOLRGATE_CONFIG").filter (· ≠ "") with
  | some p, _ => (p, .argument)
  | none, some p => (p, .environment)
  | none, none => (standardPath, .standard)

/-- A path read from its end, without what may follow the name of a folder. -/
def withoutTail : List Char → List Char
  | '/' :: r => withoutTail r
  | '.' :: '/' :: r => withoutTail r
  | r => r

/-- The file beside a folder that bears its name and `.toml`: it may hold the configuration
in place of the folder.  The folders `.`, `..` and `/` are no names. -/
def besideFolder? (path : String) : Option String :=
  match withoutTail path.toList.reverse with
  | [] | ['.'] | ['.', '.'] | '.' :: '.' :: '/' :: _ => none
  | r => some (String.ofList r.reverse ++ ".toml")

/-! ## What is shown -/

/-- The variable that decides about the log, for good. -/
def filterVariable : String := "RUST_LOG"

/-- The filter at a level that is named; a name that is no level stands for `info`. -/
def filterAt (level : String) : LogFilter := .upTo ((Level.read? level.toList).getD .info)

/-- The filter at a level, unless the environment has one; one that cannot be read stands
for `info`. -/
def logFilter (env : Environment) (level : String) : LogFilter :=
  match env.find? filterVariable with
  | some text => (LogFilter.read? text).getD (filterAt "info")
  | none => filterAt level

def loadedEntry (path : String) (o : Origin) : Entry :=
  ⟨.info, "Configuration loaded", [("path", path), ("source", o.text)]⟩

def watchingEntry : Entry := ⟨.info, "Hot-reload enabled", []⟩

/-! ## The start -/

/-- What has been said so far, and what the log shows. -/
structure Voice where
  complaints : List String
  log : List Entry
  filter : LogFilter

namespace Voice

def complain (v : Voice) (line : String) : Voice :=
  { v with complaints := v.complaints ++ [line] }

def say (v : Voice) (e : Entry) : Voice :=
  if v.filter.shows e then { v with log := v.log ++ [e] } else v

end Voice

/-- How a start ends. -/
inductive Ending
  /-- The configuration or what it asks for is of no use. -/
  | failed
  | barred (why : Obstacle)
  | serving (gateway : Reloading)

def Ending.exitCode : Ending → Nat
  | failed => 2
  | barred _ => 0
  | serving .. => 0

/-- The environment with the definitions of a file of variables; a file that is not there
defines nothing. -/
def withVariables (env : Environment) : Found → Environment × Option Malformed
  | .text s => load env s
  | _ => (env, none)

/-- Listens, once the configuration is loaded and its runtime made. -/
def listen (v : Voice) (gateway : Reloading) : Starting (Voice × Ending) :=
  .ask (.listen gateway.state.runtime.settings.address) fun (why? : Option Obstacle) => .done <|
    match why? with
    | none => (v, .serving gateway)
    | some why => (v.complain s!"Server error: {why.message}", .barred why)

/-- What a folder stands for, given what is beside it: a file there is taken in its place. -/
def folderOr : Found → Found
  | .nothing | .folder => .folder
  | file => file

/-- Goes on with what is found at the configuration's path. -/
def startWith (v : Voice) (env : Environment) (path : String) (o : Origin) (found : Found) :
    Starting (Voice × Ending) :=
  match Settings.loadFound path env.entries found with
  | .error e => .done (v.complain s!"Configuration error: {e.message}", .failed)
  | .ok s =>
    let v := v.say (loadedEntry path o)
    let v := { v with filter := logFilter env s.logging.level }
    match Runtime.build s with
    | .error e => .done (v.complain s!"Server initialization failed: {e.message}", .failed)
    | .ok r => listen (v.say watchingEntry) (.begin path env.entries found (.ofRuntime r))

/-- A start: the file of variables first, then the configuration. -/
def start (args : List String) (env : Environment) : Starting (Voice × Ending) :=
  .ask (.read ".env") fun (found : Found) =>
    let (env, fault?) := withVariables env found
    let v : Voice := ⟨[], [], logFilter env "info"⟩
    let v := match fault? with
      | some m => v.complain s!"Warning: Failed to load .env file: {m.message}"
      | none => v
    let (path, o) := configPath args env
    .ask (.read path) fun (found : Found) =>
      match found, besideFolder? path with
      | .folder, some other => .ask (.read other) fun (beside : Found) =>
        startWith v env path o (folderOr beside)
      | found, _ => startWith v env path o found

end SearchGateway.Launch
