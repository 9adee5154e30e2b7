import LedgerExport.Export
import LedgerExport.Settings

/-!
# Arguments of the command line

Options stand in front of a command or behind it; most are understood in both
places, and what stands behind the command wins. An option may be given once in
each place. A value follows its option as the next word, or in the same word.

## Implementation notes

Words are read from the left and the first that cannot be understood decides, so
a request for help behind such a word is not heard.
-/

namespace LedgerExport.CommandLine

/-! ## Options -/

/-- What an option is about. -/
inductive Topic
  | settingsFile
  | verbose
  | trace
  | logFormat
  | testnet
  | mainnet
  | input
  | format
  | output
  | assetOnly
deriving DecidableEq

namespace Topic

/-- The name after two hyphens. -/
def long : Topic → String
  | settingsFile => "config"
  | verbose => "verbose"
  | trace => "trace"
  | logFormat => "log-format"
  | testnet => "testnet"
  | mainnet => "mainnet"
  | input => "input"
  | format => "format"
  | output => "output"
  | assetOnly => "asset-only"

/-- The letter after one hyphen. -/
def letter? : Topic → Option Char
  | settingsFile => some 'c'
  | verbose => some 'v'
  | input => some 'i'
  | output => some 'o'
  | _ => none

/-- Whether a value has to follow. -/
def takesValue : Topic → Bool
  | settingsFile | logFormat | input | format | output => true
  | _ => false

/-- Whether a value is one of those that the option may have. -/
def accepts : Topic → String → Bool
  | logFormat, value => value = "text" ∨ value = "json"
  | format, value => value = "stream" ∨ value = "base64"
  | _, value => value ≠ ""

end Topic

/-- Where an option stands: in front of the command, or behind a command. -/
inductive Place
  | front
  | convert
  | classify
  | sample
deriving DecidableEq

namespace Place

/-- The options that are understood in every place. -/
def common : List Topic :=
  [.settingsFile, .verbose, .trace, .logFormat, .testnet, .mainnet]

/-- The options that are understood in a place. -/
def topics : Place → List Topic
  | front => common
  | convert => common ++ [.input, .format, .output]
  | classify => common ++ [.input, .format, .output, .assetOnly]
  | sample => common

/-- The place behind a command. -/
def ofCommand? : String → Option Place
  | "convert" => some convert
  | "classify" => some classify
  | "sample-config" => some sample
  | _ => none

end Place

/-! ## Reading words -/

/-- Why the arguments lead to no run. -/
inductive Stop
  | usage
  | help
  | version
deriving DecidableEq

/-- The options that were given, each with its value. -/
abbrev Given := List (Topic × String)

/-- One more option; none may be given twice. -/
def Given.add (given : Given) (topic : Topic) (value : String) : Except Stop Given :=
  if given.any (·.1 = topic) then .error .usage
  else if topic.takesValue && !topic.accepts value then .error .usage
  else .ok ((topic, value) :: given)

/-- What a word asks for: nothing more, or a value. -/
inductive Asked
  | done (given : Given)
  | value (given : Given) (topic : Topic)

/-- A word of two hyphens and a name, perhaps with a value behind an equals sign. -/
def readLong (place : Place) (given : Given) (name : String) (attached : Option String) :
    Except Stop Asked :=
  match place.topics.find? (·.long = name) with
  | some topic =>
    match topic.takesValue, attached with
    | true, some value => .done <$> given.add topic value
    | true, none => .ok (.value given topic)
    | false, none => .done <$> given.add topic ""
    | false, some _ => .error .usage
  | none =>
    if attached.isSome then .error .usage
    else if name = "help" then .error .help
    else if name = "version" ∧ place = .front then .error .version
    else .error .usage

/-- A text without an equals sign in front. -/
def withoutEquals : List Char → List Char
  | '=' :: rest => rest
  | text => text

/-- The letters of a word of one hyphen; the rest of the word may be the value of an option. -/
def readLetters (place : Place) : Given → List Char → Except Stop Asked
  | given, [] => .ok (.done given)
  | given, c :: more =>
    match place.topics.find? (·.letter? = some c) with
    | some topic =>
      if topic.takesValue then
        if more.isEmpty then .ok (.value given topic)
        else .done <$> given.add topic (String.ofList (withoutEquals more))
      else do
        let given ← given.add topic ""
        readLetters place given more
    | none =>
      if c = 'h' then .error .help
      else if c = 'V' ∧ place = .front then .error .version
      else .error .usage

/-- A word that starts with a hyphen. -/
def readWord (place : Place) (given : Given) : List Char → Except Stop Asked
  | '-' :: '-' :: text =>
    let name := String.ofList (text.takeWhile (· ≠ '='))
    match text.dropWhile (· ≠ '=') with
    | [] => readLong place given name none
    | _ :: value => readLong place given name (some (String.ofList value))
  | '-' :: c :: text => readLetters place given (c :: text)
  | _ => .error .usage

/-- Whether a word may be the value of the option in front of it. -/
def isValue (word : String) : Bool :=
  word = "-" ∨ word.toList.head? ≠ some '-'

/-- The words of a place, up to a command if one is expected. -/
def readWords (place : Place) : Given → List String →
    Except Stop (Given × Option (String × List String))
  | given, [] => .ok (given, none)
  | given, word :: more =>
    if word = "--" then if more.isEmpty then .ok (given, none) else .error .usage
    else if place = .front ∧ isValue word then .ok (given, some (word, more))
    else
      match readWord place given word.toList with
      | .error stop => .error stop
      | .ok (.done given) => readWords place given more
      | .ok (.value given topic) =>
        match more with
        | [] => .error .usage
        | value :: after =>
          if isValue value then
            match given.add topic value with
            | .error stop => .error stop
            | .ok given => readWords place given after
          else .error .usage

/-! ## Invocations -/

/-- What is to be done. -/
inductive Command
  | sample
  | run (view : View) (format : Stream.Format) (input : String) (output : Option String)
deriving DecidableEq

/-- What is to be done, and the options that are common to all commands. -/
structure Invocation where
  settingsFile : Option String
  testnet : Bool
  mainnet : Bool
  command : Command
deriving DecidableEq

namespace Given

/-- The value of an option. -/
def value? (given : Given) (topic : Topic) : Option String :=
  (List.find? (·.1 = topic) given).map (·.2)

/-- Whether an option was given. -/
def has (given : Given) (topic : Topic) : Bool :=
  (given.value? topic).isSome

/-- The format of the input. -/
def streamFormat (given : Given) : Stream.Format :=
  if given.value? .format = some "base64" then .lines else .frames

/-- What a command is to do. -/
def command (given : Given) : Place → Except Stop Command
  | .front => .error .usage
  | .sample => .ok .sample
  | .convert =>
    match given.value? .input with
    | some input => .ok (.run .ledgers given.streamFormat input (given.value? .output))
    | none => .error .usage
  | .classify =>
    match given.value? .input with
    | some input =>
      .ok (.run (.events (given.has .assetOnly)) given.streamFormat input (given.value? .output))
    | none => .error .usage

end Given

/-- A request for help may name a command. -/
def readHelp : List String → Stop
  | [] => .help
  | [word] => if word = "help" ∨ (Place.ofCommand? word).isSome then .help else .usage
  | _ => .usage

/-- Reads the arguments. -/
def Invocation.parse (words : List String) : Except Stop Invocation := do
  let (front, behind) ← readWords .front [] words
  match behind with
  | none => .error .usage
  | some (word, more) =>
    match Place.ofCommand? word with
    | none => .error (if word = "help" then readHelp more else .usage)
    | some place =>
      let (given, _) ← readWords place [] more
      let all := given ++ front
      return {
        settingsFile := Given.value? all .settingsFile
        testnet := Given.has all .testnet
        mainnet := Given.has all .mainnet
        command := ← Given.command given place }

end LedgerExport.CommandLine
