import LedgerExport.CommandLine.Session

/-!
# The program

The session runs on the files and streams of the process. Failures are told on
the error stream, and so is the usage after arguments that cannot be understood.
-/

namespace LedgerExport.Program

open CommandLine

/-- How the program is called. -/
def usage : String :=
  "Usage: ledger-export [OPTIONS] convert --input FILE [--format stream|base64] [--output FILE]\n"
    ++ "       ledger-export [OPTIONS] classify --input FILE [--format stream|base64]"
    ++ " [--output FILE] [--asset-only]\n"
    ++ "       ledger-export sample-config\n"
    ++ "Options: --config FILE, --testnet, --mainnet, --verbose, --trace, --log-format text|json\n"

/-- The version of the program. -/
def version : String := "ledger-export 0.1.0\n"

/-- What happened, and its number. -/
def words (code : UInt32) (details : String) : String :=
  details ++ " (os error " ++ Decimal.nat code.toNat ++ ")"

/-- The words of the system for what went wrong. -/
def reason : IO.Error → String
  | .noFileOrDirectory _ code details => words code details
  | .permissionDenied _ code details => words code details
  | .inappropriateType _ code details => words code details
  | .invalidArgument _ code details => words code details
  | .resourceExhausted _ code details => words code details
  | .alreadyExists _ code details => words code details
  | .resourceVanished code details => words code details
  | .hardwareFault code details => words code details
  | error => toString error

/-- What an action gives, or the words for why it failed. -/
def attempt {α : Type} (action : IO α) : IO (Except String α) := do
  try return .ok (← action)
  catch error => return .error (reason error)

/-- All bytes of a stream. -/
partial def readAll (stream : IO.FS.Stream) (before : ByteArray) : IO ByteArray := do
  let piece ← stream.read 65536
  if piece.isEmpty then return before else readAll stream (before ++ piece)

/-- The machine of the process. -/
def host : Host IO where
  environment name := IO.getEnv name
  contents path := do
    try return some (← IO.FS.readBinFile path).toList
    catch _ => return none
  standardInput := attempt do return (← readAll (← IO.getStdin) .empty).toList
  openNamed path := attempt do
    let handle ← IO.FS.Handle.mk path .read
    return attempt do return (← handle.readBinToEnd).toList
  createNamed path := attempt do
    let _ ← IO.FS.Handle.mk path .write
  writeNamed path text := attempt (IO.FS.writeFile path text)
  standardOutput text := attempt do
    let output ← IO.getStdout
    output.putStr text
    output.flush

/-- Runs a session and tells how it ended. -/
def run (words : List String) : IO UInt32 := do
  let ending ← Session.start host words
  match ending with
  | .done => pure ()
  | .failed trouble => trouble.lines.forM fun line => IO.eprintln line
  | .stopped .usage => IO.eprint usage
  | .stopped .help => IO.print usage
  | .stopped .version => IO.print version
  return UInt32.ofNat ending.code

end LedgerExport.Program

def main (words : List String) : IO UInt32 :=
  LedgerExport.Program.run words
