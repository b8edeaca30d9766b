import Descent.CommandLine

set_option autoImplicit false

open Descent Descent.CommandLine

def readContent (path : String) : IO FileContent := do
  try
    let bytes ← IO.FS.readBinFile path
    match String.fromUTF8? bytes with
    | some s => return .text s
    | none => return .invalidText
  catch e =>
    match e with
    | .noFileOrDirectory .. => return .missing
    | .permissionDenied .. => return .denied
    | .inappropriateType .. => return .ofDirectory
    | e => return .unreadable (toString e)

def main (args : List String) : IO UInt32 := do
  let report ←
    match request args with
    | .done r => pure r
    | .file path answer => answer <$> readContent path
  IO.print report.stdout
  IO.eprint report.stderr
  return UInt32.ofNat report.exit
