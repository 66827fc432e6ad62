import DeskCalc.Launch

/-! The command line: arguments are calculated once,
and without any the window is worked by lines of input. -/

namespace DeskCalc.CommandLine

open DeskCalc.Window

/-- The state of a file beside the program. -/
def readState (name : String) : IO Settings.FileState := do
  try
    return .bytes (← IO.FS.readBinFile name)
  catch
    | .noFileOrDirectory .. => return .missing
    | _ => return .directory

/-- The folder of the program, which is the one it is started in. -/
def readFolder : IO Settings.Folder := do
  return { settings := ← readState "config.json", descriptions := ← readState "ui_strings.json" }

/-- Print the two lines of the window. -/
def printLines (window : Window) : IO Unit := do
  IO.println window.upper
  IO.println window.lower

/-- Each line of input is a button; a calculation that it starts is waited for. -/
partial def serve (desk : Desk) (input : IO.FS.Stream) : IO Unit := do
  printLines desk.window
  let line ← input.getLine
  if line.isEmpty then return
  let (pressed, _) := desk.step (.click (Text.trimmed line))
  let (finished, _) := pressed.step .finish
  serve finished input

end DeskCalc.CommandLine

open DeskCalc DeskCalc.CommandLine in
/-- Start the program in the current folder. -/
def main (arguments : List String) : IO UInt32 := do
  match (Launch.start (← readFolder) arguments).result with
  | .exited output status =>
    IO.print output
    return UInt32.ofNat status
  | .failed failure =>
    IO.eprintln failure.message
    return UInt32.ofNat Launch.failureStatus
  | .opened desk =>
    serve desk (← IO.getStdin)
    return 0
