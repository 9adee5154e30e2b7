import LedgerExport.Protocol.ScVal
import LedgerExport.Record.ScVal
import LedgerExport.Render.Asset

/-!
# Contract values as they are shown

Bytes become hexadecimal digits and strings become texts, at every depth;
nothing else of a value changes.
-/

namespace LedgerExport.Protocol

def HostErrorKind.render : HostErrorKind → Record.HostErrorKind
  | .wasmVm => .wasmVm
  | .context => .context
  | .storage => .storage
  | .object => .object
  | .crypto => .crypto
  | .events => .events
  | .budget => .budget
  | .value => .value
  | .auth => .auth

def ScError.render : ScError → Record.ScError
  | .contract code => .contract code
  | .host kind code => .host kind.render code.name

def Executable.render : Executable → Record.Executable
  | .wasm hash => .wasm hash
  | .stellarAsset => .stellarAsset

namespace ScVal

mutual

def render : ScVal → Record.ScVal
  | .bool b => .bool b
  | .void => .void
  | .error e => .error e.render
  | .u32 n => .u32 n
  | .i32 n => .i32 n
  | .u64 n => .u64 n
  | .i64 n => .i64 n
  | .timepoint n => .timepoint n
  | .duration n => .duration n
  | .u128 n => .u128 n
  | .i128 n => .i128 n
  | .u256 n => .u256 n
  | .i256 n => .i256 n
  | .bytes content => .bytes (Hex.text content)
  | .string text => .string (Utf8.lossy text)
  | .symbol text => .symbol (Utf8.lossy text)
  | .vec (some items) => .vec (some (renderAll items))
  | .vec none => .vec none
  | .map (some entries) => .map (some (renderPairs entries))
  | .map none => .map none
  | .address a => .address a.render
  | .contractInstance executable (some storage) =>
    .contractInstance executable.render (some (renderPairs storage))
  | .contractInstance executable none => .contractInstance executable.render none
  | .ledgerKeyContractInstance => .ledgerKeyContractInstance
  | .ledgerKeyNonce n => .ledgerKeyNonce n

/-- Every value as it is shown. -/
def renderAll : List ScVal → List Record.ScVal
  | [] => []
  | value :: values => render value :: renderAll values

/-- Every key and value as they are shown. -/
def renderPairs : List (ScVal × ScVal) → List (Record.ScVal × Record.ScVal)
  | [] => []
  | (key, value) :: entries => (render key, render value) :: renderPairs entries

end

end ScVal

end LedgerExport.Protocol
