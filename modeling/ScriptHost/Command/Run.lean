import ScriptHost.Command.Arguments
import ScriptHost.Snapshot.Store
/-!
# Running the command line

- `UsageError`: why a request cannot be met.
- `Snapshot.validate`: checks the paths of a request.
- `CommandLine.run`: what a command line prints and leaves on the disk.
-/

namespace ScriptHost

/-- Why a request cannot be met. -/
inductive UsageError where
  | wrongCommand
  | outputNotJson
  | inputNotFound
  | inputNotDirectory
  | missingPackages
  | missingLock
  | invalidCommand
deriving BEq, DecidableEq, Repr, Inhabited

namespace UsageError

/-- The name of an error. -/
def name : UsageError → String
  | wrongCommand => "WrongCommand"
  | outputNotJson => "OutputNotJson"
  | inputNotFound => "InputNotFound"
  | inputNotDirectory => "InputNotDirectory"
  | missingPackages => "MissingNodeModules"
  | missingLock => "MissingPackageLock"
  | invalidCommand => "InvalidCommand"

/-- The wording of an error. -/
def message : UsageError → String
  | wrongCommand => "Wrong command detected"
  | outputNotJson => "Output file must be a json file"
  | inputNotFound => "Input directory not found"
  | inputNotDirectory => "Input is not a directory"
  | missingPackages => "node_modules not found in input directory"
  | missingLock => "package-lock.json not found in input directory"
  | invalidCommand => "Invalid command"

end UsageError

/-- Checks the paths for a snapshot in order, and gives them in full. -/
def Snapshot.validate (d : Disk) (input output : Option String) :
    Except UsageError (String × String) := do
  let (some input, some output) := (input, output) | throw .wrongCommand
  if !Path.endsWithAny [".json"] output then throw .outputNotJson
  if !d.contains input then throw .inputNotFound
  if !d.isDirectory input then throw .inputNotDirectory
  if !d.contains (Disk.join input packagesName) then throw .missingPackages
  if !d.contains (Disk.join input lockName) then throw .missingLock
  return (d.absolute input, d.absolute output)

namespace CommandLine

/-! ## Texts -/

/-- The name of the program. -/
def programName : String := "embed-typescript"

/-- How the program is used. -/
def usage : String := "\n".intercalate [
  "embed-typescript [command] [options]",
  "",
  "Commands:",
  "",
  "  1. embed-typescript help",
  "  2. embed-typescript external --input <directory> --output <json>",
  "     - input: directory placed in external dependencies",
  "       - where \"node_modules\" and \"package-lock.json\" are",
  "       - must be installed with npm, not pnpm or yarn",
  "     - output: json file to be generated",
  "       - example: embed-typescript external \\",
  "                    --input assets/dependencies \\",
  "                    --output src/external.json",
  ""]

/-- The version of the program. -/
def versionText : String := programName ++ " 1.0.0\n"

/-- What the arguments of a command mean, one line each. -/
def describe (arguments : List (String × String)) : List String :=
  let width := arguments.foldl (fun n a => max n a.1.length) 0
  arguments.map fun (argument, text) =>
    "  " ++ argument ++ String.ofList (List.replicate (width + 2 - argument.length) ' ') ++ text

/-- The switch for more. -/
def louderHelp : String × String := ("-v, --verbose...", "Increase logging verbosity")

/-- The switch for less. -/
def quieterHelp : String × String := ("-q, --quiet...", "Decrease logging verbosity")

/-- The switch for help. -/
def helpHelp : String × String := ("-h, --help", "Print help")

/-- What the commands do. -/
def commandHelp : List (String × String) :=
  [("help", "List the available commands"),
   ("external", "Collect the declaration files of installed packages into a JSON snapshot")]

/-- The help about a command. -/
def helpText (command : Option String) : String :=
  let lines : List String := match command with
    | none =>
      ["Snapshot npm dependencies for the in-memory TypeScript compiler", "",
       "Usage: embed-typescript [OPTIONS] [COMMAND]", "", "Commands:"]
      ++ describe commandHelp ++ ["", "Options:"]
      ++ describe [louderHelp, quieterHelp, helpHelp, ("-V, --version", "Print version")]
    | some command =>
      let own : List (String × String) :=
        if command == "external" then
          [("    --input <INPUT>",
            "Directory holding `node_modules` and `package-lock.json`, installed with npm"),
           louderHelp, ("    --output <OUTPUT>", "JSON file to generate"), quieterHelp, helpHelp]
        else [louderHelp, quieterHelp, helpHelp]
      [(commandHelp.lookup command).getD "", "",
       "Usage: embed-typescript " ++ command ++ " [OPTIONS]", "", "Options:"] ++ describe own
  "\n".intercalate lines ++ "\n"

/-! ## Outcomes -/

/-- How a run ends. -/
structure Outcome where
  code : Nat
  output : String
  disk : Disk

/-- Prints a title over the usage. -/
def halt (d : Disk) (title : String) (code : Nat) : Outcome :=
  ⟨code, title ++ "\n\n" ++ usage ++ "\n", d⟩

/-- A line that is told at a level. -/
def told (wanted level : LogLevel) (text : String) : String :=
  if wanted.tells level then level.name ++ ":\n" ++ text ++ "\n" else ""

/-- Keeps the snapshot of a directory, and tells of it. -/
def snapshot (d : Disk) (wanted : LogLevel) (time input output : String) : Outcome :=
  let notes := match Snapshot.dependencies d input with
    | .ok libraries => libraries.flatMap (Snapshot.notes d input)
    | .error _ => []
  let front := String.join (notes.map (told wanted .debug))
  match Snapshot.save input output d with
  | .ok count d =>
    let last := "Wrote " ++ toString count ++ " files to " ++ output ++ " in " ++ time
    ⟨0, front ++ told wanted .info last, d⟩
  | .error f d => ⟨1, front ++ f.report ++ "\n", d⟩

/-- What a command line prints and leaves on the disk; `time` is how long it takes. -/
def perform (d : Disk) (time : String) (line : CommandLine) : Outcome :=
  match line.request with
  | none => halt d UsageError.invalidCommand.message 1
  | some .help => halt d "List of embed-typescript commands" 0
  | some (.external input output) =>
    match Snapshot.validate d input output with
    | .error e => halt d e.message 1
    | .ok (input, output) => snapshot d line.level time input output

/-- What words that are no command line print. -/
def refuse (d : Disk) : ArgumentError → Outcome
  | .unknownCommand | .unknownArgument => halt d UsageError.invalidCommand.message 1
  | .help command => ⟨0, helpText command, d⟩
  | .version => ⟨0, versionText, d⟩
  | _ => ⟨2, "", d⟩

/-- What words print and leave on the disk. -/
def run (d : Disk) (time : String) (words : List String) : Outcome :=
  match parse words with
  | .error e => refuse d e
  | .ok line => perform d time line

end CommandLine

end ScriptHost
