import LedgerExport.Json.Printer
import LedgerExport.Options
import LedgerExport.Text.Blank
import LedgerExport.Toml.Document

/-!
# Settings

What a run does is set in a document of four sections, each with a default for
whatever it leaves out. Variables of the environment come after the document,
and an explicit choice of a network comes last where there is a document.

## Implementation notes

A section may also be an array of its values in order. A date in the place of a
section says nothing, so the section has its defaults.
-/

namespace LedgerExport

/-! ## Sections -/

/-- The network that the ledgers were closed in. -/
structure NetworkSettings where
  passphrase : String
deriving DecidableEq

/-- How events are treated. -/
structure EventSettings where
  decodeAssetEvents : Bool
  includeDiagnosticEvents : Bool
  useDiagnosticEvents : Bool
deriving DecidableEq

/-- What documents show and how they are laid out. -/
structure OutputSettings where
  includeLedgerChanges : Bool
  pretty : Bool
deriving DecidableEq

/-- What is logged, by the names that were given. -/
structure LogSettings where
  level : String
  format : String
deriving DecidableEq

/-- All settings. -/
structure Settings where
  network : NetworkSettings
  events : EventSettings
  output : OutputSettings
  log : LogSettings
deriving DecidableEq

namespace NetworkSettings

def testnet : NetworkSettings := ⟨NetworkId.testnetPassphrase⟩

def mainnet : NetworkSettings := ⟨NetworkId.mainnetPassphrase⟩

end NetworkSettings

namespace Settings

/-- Everything is shown, on one line for each document, of ledgers of the test network. -/
def testnet : Settings where
  network := .testnet
  events := ⟨true, true, false⟩
  output := ⟨true, false⟩
  log := ⟨"info", "text"⟩

def mainnet : Settings :=
  { testnet with network := .mainnet }

/-- The sections by name, and the values in each. -/
def sections (settings : Settings) : List (String × List (String × Json)) :=
  [("network", [("passphrase", .str settings.network.passphrase)]),
    ("events", [("decode_asset_events", .bool settings.events.decodeAssetEvents),
      ("include_diagnostic_events", .bool settings.events.includeDiagnosticEvents),
      ("use_diagnostic_events", .bool settings.events.useDiagnosticEvents)]),
    ("output", [("include_ledger_changes", .bool settings.output.includeLedgerChanges),
      ("pretty", .bool settings.output.pretty)]),
    ("logging", [("level", .str settings.log.level), ("format", .str settings.log.format)])]

/-- A section as it stands in a document. -/
def sectionText (name : String) (values : List (String × Json)) : String :=
  "[" ++ name ++ "]\n"
    ++ String.join (values.map fun (key, value) => key ++ " = " ++ value.compact ++ "\n")

/-- A document that sets everything to its default. -/
def sample : String :=
  "\n".intercalate (testnet.sections.map fun (name, values) => sectionText name values)

end Settings

/-! ## Reading a document -/

namespace Toml.Value

/-- What a section gives for a value, by name or by place; nothing if it is no section at all. -/
def entry? (name : String) (place : Nat) : Value → Option (Option Value)
  | .table _ members => some (Members.get? members name)
  | .array items => some items[place]?
  | .tables items => some (items[place]?.map (.table .header))
  | .date _ => some none
  | _ => none

/-- A flag of a section. -/
def flag? (block : Value) (name : String) (place : Nat) (default : Bool) : Option Bool :=
  match block.entry? name place with
  | some none => some default
  | some (some (.bool b)) => some b
  | _ => none

/-- A text of a section. -/
def text? (block : Value) (name : String) (place : Nat) (default : String) : Option String :=
  match block.entry? name place with
  | some none => some default
  | some (some (.text s)) => some s
  | _ => none

/-- A section that says nothing. -/
def emptySection : Value := .table .implied []

end Toml.Value

namespace Settings

def readNetwork (block : Toml.Value) : Option NetworkSettings := do
  return ⟨← block.text? "passphrase" 0 testnet.network.passphrase⟩

def readEvents (block : Toml.Value) : Option EventSettings := do
  return ⟨← block.flag? "decode_asset_events" 0 testnet.events.decodeAssetEvents,
    ← block.flag? "include_diagnostic_events" 1 testnet.events.includeDiagnosticEvents,
    ← block.flag? "use_diagnostic_events" 2 testnet.events.useDiagnosticEvents⟩

def readOutput (block : Toml.Value) : Option OutputSettings := do
  return ⟨← block.flag? "include_ledger_changes" 0 testnet.output.includeLedgerChanges,
    ← block.flag? "pretty" 1 testnet.output.pretty⟩

def readLog (block : Toml.Value) : Option LogSettings := do
  return ⟨← block.text? "level" 0 testnet.log.level, ← block.text? "format" 1 testnet.log.format⟩

/-- The settings of a document; names that mean nothing are passed over. -/
def ofMembers (members : Toml.Members) : Option Settings := do
  let block := fun name => (Toml.Members.get? members name).getD .emptySection
  return ⟨← readNetwork (block "network"), ← readEvents (block "events"),
    ← readOutput (block "output"), ← readLog (block "logging")⟩

/-- The settings that a text describes. -/
def parse (text : String) : Option Settings :=
  (Toml.parse text).bind ofMembers

/-! ## Environment -/

/-- The variable that names a network. -/
def passphraseVariable : String := "HENYEY_INGEST_NETWORK_PASSPHRASE"

/-- The variable that names a level of the log. -/
def logLevelVariable : String := "HENYEY_INGEST_LOG_LEVEL"

/-- The variable that names a format of the log. -/
def logFormatVariable : String := "HENYEY_INGEST_LOG_FORMAT"

/-- The settings after the variables that are set. -/
def override (settings : Settings) (environment : String → Option String) : Settings :=
  { settings with
    network := ⟨(environment passphraseVariable).getD settings.network.passphrase⟩
    log := ⟨(environment logLevelVariable).getD settings.log.level,
      (environment logFormatVariable).getD settings.log.format⟩ }

/-! ## Validation -/

/-- A text with the capitals of ASCII made small. -/
def lower (text : String) : String :=
  text.map Char.toLower

/-- The names of the levels of the log. -/
def logLevels : List String := ["trace", "debug", "info", "warn", "error"]

/-- The names of the formats of the log. -/
def logFormats : List String := ["text", "json"]

/-- Why settings cannot be used. -/
inductive Invalid
  | emptyPassphrase
  | logLevel (name : String)
  | logFormat (name : String)
deriving DecidableEq

/-- The text shown for unusable settings. -/
def Invalid.message : Invalid → String
  | .emptyPassphrase => "network.passphrase must not be empty"
  | .logLevel name =>
    "Unknown log level " ++ Quoted.text name ++ " (expected one of "
      ++ ", ".intercalate logLevels ++ ")"
  | .logFormat name =>
    "Unknown log format " ++ Quoted.text name ++ " (expected text or json)"

/-- The first thing that makes settings unusable. -/
def invalid? (settings : Settings) : Option Invalid :=
  if (trim settings.network.passphrase.toList).isEmpty then some .emptyPassphrase
  else if lower settings.log.level ∉ logLevels then some (.logLevel settings.log.level)
  else if lower settings.log.format ∉ logFormats then some (.logFormat settings.log.format)
  else none

/-! ## Use -/

/-- The network of the settings. -/
def networkId (settings : Settings) : NetworkId :=
  .ofPassphrase settings.network.passphrase

/-- What the settings say about an export. -/
def exportOptions (settings : Settings) : ExportOptions where
  network := settings.networkId
  includeLedgerChanges := settings.output.includeLedgerChanges
  decodeAssetEvents := settings.events.decodeAssetEvents
  includeDiagnosticEvents := settings.events.includeDiagnosticEvents
  useDiagnosticEvents := settings.events.useDiagnosticEvents

end Settings

/-! ## Logging -/

/-- How much is logged. -/
inductive LogLevel
  | trace
  | debug
  | info
  | warn
  | error
deriving DecidableEq

/-- How log lines are written. -/
inductive LogFormat
  | text
  | json
deriving DecidableEq

namespace LogSettings

/-- The level of a name in either case; a name that means nothing is that of the middle level. -/
def logLevel (settings : LogSettings) : LogLevel :=
  match Settings.lower settings.level with
  | "trace" => .trace
  | "debug" => .debug
  | "warn" => .warn
  | "warning" => .warn
  | "error" => .error
  | _ => .info

/-- The format of a name in either case; a name that means nothing is that of plain text. -/
def logFormat (settings : LogSettings) : LogFormat :=
  if Settings.lower settings.format = "json" then .json else .text

end LogSettings

/-- Only plain text has colours. -/
def LogFormat.hasColours : LogFormat → Bool
  | .text => true
  | .json => false

end LedgerExport
