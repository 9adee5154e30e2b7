import LedgerExport.CommandLine.Arguments
import LedgerExport.Text.Utf8

/-!
# A run from the command line

The arguments are read first, then the settings, then the input is opened and
the output made, and only then is anything read. What was written before a
failure stays written.

## Implementation notes

A session sees the machine through a host, so what it does is the same for any
of them. Opening an input gives the action that reads it, since an output of the
same name empties it in between. What the machine cannot do it refuses with a
reason in its own words.
-/

namespace LedgerExport.CommandLine

/-- What a session needs of the machine that it runs on. -/
structure Host (m : Type → Type) where
  environment : String → m (Option String)
  contents : String → m (Option Octets)
  standardInput : m (Except String Octets)
  openNamed : String → m (Except String (m (Except String Octets)))
  createNamed : String → m (Except String Unit)
  writeNamed : String → String → m (Except String Unit)
  standardOutput : String → m (Except String Unit)

/-- Why a session failed. -/
inductive Trouble
  | bothNetworks
  | settingsFile (path : String)
  | settings (invalid : Settings.Invalid)
  | openInput (path reason : String)
  | createOutput (path reason : String)
  | run (failure : Failure)
  | write (reason : String)
deriving DecidableEq

namespace Trouble

/-- What failed. -/
def message : Trouble → String
  | .bothNetworks => "--testnet and --mainnet are mutually exclusive"
  | .settingsFile path => "Failed to load configuration from " ++ path
  | .settings invalid => invalid.message
  | .openInput path _ => "Failed to open " ++ path
  | .createOutput path _ => "Failed to create " ++ path
  | .run failure => failure.stage.message
  | .write reason => reason

/-- Why it failed, the outermost cause first. -/
def causes : Trouble → List String
  | .openInput _ reason => [reason]
  | .createOutput _ reason => [reason]
  | .run failure => failure.error.causes
  | _ => []

/-- A list of causes, numbered from a number on. -/
def numbered : Nat → List String → List String
  | _, [] => []
  | n, cause :: more => ("    " ++ Decimal.nat n ++ ": " ++ cause) :: numbered (n + 1) more

/-- The lines that tell of a failure; several causes are numbered. -/
def lines (trouble : Trouble) : List String :=
  ("Error: " ++ trouble.message) ::
    match trouble.causes with
    | [] => []
    | [cause] => ["", "Caused by:", "    " ++ cause]
    | causes => "" :: "Caused by:" :: numbered 0 causes

end Trouble

/-- How a session ends. -/
inductive Ending
  | done
  | failed (trouble : Trouble)
  | stopped (stop : Stop)
deriving DecidableEq

namespace Ending

/-- The number that a session reports. -/
def code : Ending → Nat
  | .done => 0
  | .failed _ => 1
  | .stopped .usage => 2
  | .stopped _ => 0

end Ending

/-- The settings after a choice of a network, which counts only where there is a file. -/
def Invocation.settings (invocation : Invocation) (file : Option Settings)
    (environment : String → Option String) : Settings :=
  match file with
  | some settings =>
    let settings := settings.override environment
    if invocation.mainnet then { settings with network := .mainnet }
    else if invocation.testnet then { settings with network := .testnet }
    else settings
  | none =>
    (if invocation.mainnet then Settings.mainnet else Settings.testnet).override environment

/-- A hyphen means the standard streams, also with slashes behind it that lead nowhere else. -/
def isStandard (path : String) : Bool :=
  match path.toList.splitOnP (· == '/') with
  | ['-'] :: parts => parts.all fun part => part == [] || part == ['.']
  | _ => false

namespace Session

variable {m : Type → Type} [Monad m]

/-- The settings of an invocation. -/
def settings (host : Host m) (invocation : Invocation) : m (Except Trouble Settings) := do
  if invocation.testnet && invocation.mainnet then return .error .bothNetworks
  let file : Except Trouble (Option Settings) ←
    match invocation.settingsFile with
    | none => pure (.ok none)
    | some path =>
      let read ← host.contents path
      match (read.bind Utf8.string?).bind Settings.parse with
      | some settings => pure (.ok (some settings))
      | none => pure (.error (.settingsFile path))
  let passphrase ← host.environment Settings.passphraseVariable
  let level ← host.environment Settings.logLevelVariable
  let format ← host.environment Settings.logFormatVariable
  let environment := fun name =>
    if name = Settings.passphraseVariable then passphrase
    else if name = Settings.logLevelVariable then level
    else if name = Settings.logFormatVariable then format
    else none
  return do
    let settings := invocation.settings (← file) environment
    match settings.invalid? with
    | some invalid => .error (.settings invalid)
    | none => .ok settings

/-- The action that reads the input. -/
def openInput (host : Host m) (path : String) :
    m (Except Trouble (m (Except String Octets))) := do
  if isStandard path then return .ok host.standardInput
  match ← host.openNamed path with
  | .ok read => return .ok read
  | .error reason => return .error (.openInput path reason)

/-- The action that writes the output. -/
def openOutput (host : Host m) (path : Option String) :
    m (Except Trouble (String → m (Except String Unit))) := do
  match path with
  | none => return .ok host.standardOutput
  | some path =>
    if isStandard path then return .ok host.standardOutput
    match ← host.createNamed path with
    | .ok _ => return .ok (host.writeNamed path)
    | .error reason => return .error (.createOutput path reason)

/-- How the documents of a view are laid out. -/
def style (settings : Settings) : View → Style
  | .ledgers => if settings.output.pretty then .pretty else .compact
  | .events _ => .compact

/-- How a session ends after a run whose text was written, or could not be. -/
def ending (run : Run) (written : Except String Unit) : Ending :=
  match run.outcome, written with
  | .error failure, _ => .failed (.run failure)
  | .ok _, .error reason => .failed (.write reason)
  | .ok _, .ok _ => .done

/-- Exports a stream; one that cannot be read fails at its first ledger. -/
def run (host : Host m) (settings : Settings) (view : View) (format : Stream.Format)
    (input : String) (output : Option String) : m Ending := do
  match ← openInput host input with
  | .error trouble => return .failed trouble
  | .ok read =>
    match ← openOutput host output with
    | .error trouble => return .failed trouble
    | .ok write =>
      match ← read with
      | .error reason => return .failed (.run ⟨.reading 1, .unreadable reason⟩)
      | .ok bytes =>
        let run := Run.ofStream settings.exportOptions view format bytes
        return ending run (← write (run.text (style settings view)))

/-- Does what the arguments say. -/
def start (host : Host m) (words : List String) : m Ending := do
  match Invocation.parse words with
  | .error stop => return .stopped stop
  | .ok invocation =>
    match invocation.command with
    | .sample =>
      match ← host.standardOutput (Settings.sample ++ "\n") with
      | .ok _ => return .done
      | .error reason => return .failed (.write reason)
    | .run view format input output =>
      match ← settings host invocation with
      | .error trouble => return .failed trouble
      | .ok settings => run host settings view format input output

end Session

end LedgerExport.CommandLine
