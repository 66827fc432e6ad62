import DeskCalc.Window.Desk

/-! Starting the program: its files are checked,
and it calculates its arguments once or opens the window. -/

namespace DeskCalc

/-- What ends the program before it has an exit status. -/
inductive LaunchFailure
  | press (failure : PressFailure)
  | settings (failure : Settings.Failure)

/-- What is shown for what ends the program. -/
def LaunchFailure.message : LaunchFailure → String
  | press failure => failure.message
  | settings failure => failure.message?.getD "The settings cannot be read."

/-- What starting the program comes to: it is over, or its window is open. -/
inductive Launched
  | exited (output : String) (status : Nat)
  | failed (failure : LaunchFailure)
  | opened (desk : Window.Desk)

namespace Launch

/-- The status of a program that could not do its work. -/
def failureStatus : Nat := 1

/-- The folder of the parts of the program, below that of the program. -/
def partsFolder : String := "Calculator/"

/-- The parts that have to be in their folder. -/
def requiredParts : List String :=
  ["UI.py", "MathEngine.py", "ScientificEngine.py", "DisplayState.py", "config_manager.py"]

/-- The files that have to be beside the program. -/
def requiredFiles : List String := ["config.json", "ui_strings.json"]

/-- The names of required files that are not among those present. -/
def missingFiles (present : List String) : List String :=
  requiredParts.filter (fun name => !present.contains (partsFolder ++ name)) ++
    requiredFiles.filter (fun name => !present.contains name)

/-- Check that the required files are present: the status to exit with if they are not. -/
def checkFiles (present : List String) : Settings.Noted (Option Nat) :=
  match missingFiles present with
  | [] => { result := none }
  | missing =>
    { result := some failureStatus
      entries := [⟨.error, "The following files are missing or in the wrong location: " ++
        ", ".intercalate missing⟩] }

/-- What is printed for a fault. -/
def faultLine (fault : Fault) : String :=
  s!"Error: {fault.message}\n"

/-- Calculate an expression once and print its result with the places of the settings. -/
def evaluateOnce (folder : Settings.Folder) (expression : String) : Launched :=
  match (calculate (some expression)).outcome with
  | .error failure => .failed (.press (.calculation failure))
  | .ok (.fault fault) => .exited (faultLine fault) failureStatus
  | .ok (.value value) =>
    match (Settings.load folder "decimal_places").result with
    | .error failure => .failed (.settings failure)
    | .ok setting =>
      match Number.display value (Settings.placesOf setting) with
      | .error fault => .failed (.press (.places fault))
      | .ok shown => .exited (shown ++ "\n") 0

/-- Load the settings and open the window. -/
def openWindow (folder : Settings.Folder) : Settings.Noted Launched :=
  match (Settings.loadAll folder).result with
  | .error failure => { result := .failed (.settings failure) }
  | .ok settings =>
    { result := match Window.Desk.open? folder with
        | .ok desk => .opened desk
        | .error failure => .failed (.settings failure)
      entries := [⟨.info, s!"Config loaded: {(Json.object settings).inline}"⟩] }

/-- Start the program with arguments, which together are one expression. -/
def start (folder : Settings.Folder) (arguments : List String) : Settings.Noted Launched :=
  if arguments.isEmpty then openWindow folder
  else { result := evaluateOnce folder (" ".intercalate arguments) }

/-- Start the program as a whole: unless it is bundled, its files are checked first. -/
def startProgram (isBundled : Bool) (present : List String) (folder : Settings.Folder)
    (arguments : List String) : Settings.Noted Launched :=
  let begin (entries : List Journal.Entry) : Settings.Noted Launched :=
    let started := start folder arguments
    { started with entries := entries ++ started.entries }
  if isBundled then begin [⟨.debug, "Production mode (.exe) is starting..."⟩]
  else
    let checked := checkFiles present
    let entries := ⟨.debug, "Developer Mode: Checking file paths..."⟩ :: checked.entries
    match checked.result with
    | some status => { result := .exited "" status, entries }
    | none => begin entries

end Launch

end DeskCalc
