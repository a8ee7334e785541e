import LinProg.CommandLine.Run

set_option autoImplicit false

namespace LinProg

open CommandLine

def readBytes (path : String) : IO (Except FileError (List UInt8)) := do
  try
    let bytes ← IO.FS.readBinFile path
    return .ok bytes.toList
  catch
    | .noFileOrDirectory .. => return .error .missing
    | .permissionDenied .. => return .error .denied
    | .inappropriateType .. => return .error .directory
    | cause => return .error ⟨5, toString cause⟩

def filesFor (arguments : List Text) : IO Files := do
  match parse arguments with
  | .ok (.run o) => do
    let content ← readBytes (Text.shown (o.path.getD []))
    return fun _ => content
  | _ => return fun _ => .error .missing

end LinProg

def main (arguments : List String) : IO UInt32 := do
  let texts := arguments.map LinProg.Text.ofString
  let outcome := LinProg.CommandLine.run texts (← LinProg.filesFor texts)
  IO.print (LinProg.Text.shown outcome.out)
  IO.eprint (LinProg.Text.shown outcome.err)
  match outcome.ending with
  | .ok status => return status.toUInt32
  | .error cause => do
    IO.eprintln (LinProg.Text.shown cause.message)
    return 1
