import ScriptHost.Host.Path
/-!
# Arguments of the command line

The words of a command line say what to do and how much to tell meanwhile.

- `CommandLine`: what was asked for.
- `ArgumentError`: why the words make no sense, or that they ask about the program.
- `CommandLine.parse`: reads words.
-/

namespace ScriptHost

/-- How much is told: all that is at least as grave as the level. -/
inductive LogLevel where
  | off
  | error
  | warn
  | info
  | debug
  | trace
deriving BEq, DecidableEq, Repr, Inhabited

namespace LogLevel

/-- The name of a level. -/
def name : LogLevel → String
  | off => "OFF"
  | error => "ERROR"
  | warn => "WARN"
  | info => "INFO"
  | debug => "DEBUG"
  | trace => "TRACE"

/-- The levels by how much is told. -/
def rank : LogLevel → Nat
  | off => 0
  | error => 1
  | warn => 2
  | info => 3
  | debug => 4
  | trace => 5

/-- The level for how often more and less was asked for. -/
def ofCounts (louder quieter : Nat) : LogLevel :=
  match (3 + louder) - quieter with
  | 0 => off
  | 1 => error
  | 2 => warn
  | 3 => info
  | 4 => debug
  | _ => trace

/-- Whether something of a level is told. -/
def tells (l : LogLevel) (wanted : LogLevel) : Bool := wanted.rank ≤ l.rank

end LogLevel

/-- What a command line asks to do. -/
inductive Request where
  /-- List the commands. -/
  | help
  /-- Keep a snapshot of the packages of a directory. -/
  | external (input output : Option String)
deriving BEq, DecidableEq, Repr, Inhabited

/-- What a command line asks for. -/
structure CommandLine where
  request : Option Request := none
  level : LogLevel := .info
deriving BEq, DecidableEq, Repr, Inhabited

/-- Why the words of a command line are not followed. -/
inductive ArgumentError where
  | unknownCommand
  | unknownArgument
  | missingValue
  | valueForSwitch
  | conflict
  /-- The words ask for the help about a command. -/
  | help (command : Option String)
  /-- The words ask for the version. -/
  | version
deriving BEq, DecidableEq, Repr, Inhabited

namespace ArgumentError

/-- The name of an error. -/
def name : ArgumentError → String
  | unknownCommand => "InvalidSubcommand"
  | unknownArgument => "UnknownArgument"
  | missingValue => "InvalidValue"
  | valueForSwitch => "TooManyValues"
  | conflict => "ArgumentConflict"
  | help _ => "DisplayHelp"
  | version => "DisplayVersion"

end ArgumentError

namespace CommandLine

/-! ## Words -/

/-- The options that take a value. -/
inductive Setting where
  | input
  | output
deriving BEq, DecidableEq, Repr, Inhabited

/-- What a switch asks for. -/
inductive Switch where
  | louder
  | quieter
  | help
  | version
deriving BEq, DecidableEq, Repr, Inhabited

/-- The kinds of words, after the way they are spelled. -/
inductive Word where
  | escape
  | long (name : String) (value : Option String)
  | short (letters : List Char)
  | plain (text : String)
deriving BEq, DecidableEq, Repr, Inhabited

/-- The kind of a word. -/
def Word.of (text : String) : Word :=
  match text.toList with
  | ['-', '-'] => escape
  | '-' :: '-' :: cs =>
    let name := String.ofList (cs.takeWhile (· != '='))
    match cs.dropWhile (· != '=') with
    | [] => long name none
    | _ :: value => long name (some (String.ofList value))
  | '-' :: c :: cs => short (c :: cs)
  | _ => plain text

/-- The switch of a long name; the version is only told by the program itself. -/
def Switch.ofName? (top : Bool) : String → Option Switch
  | "verbose" => some louder
  | "quiet" => some quieter
  | "help" => some help
  | "version" => if top then some version else none
  | _ => none

/-- The switch of a letter. -/
def Switch.ofLetter? (top : Bool) : Char → Option Switch
  | 'v' => some louder
  | 'q' => some quieter
  | 'h' => some help
  | 'V' => if top then some version else none
  | _ => none

/-! ## Reading -/

/-- What is known after some words. -/
structure State where
  /-- The command whose arguments are read. -/
  command : Option String := none
  louder : Nat := 0
  quieter : Nat := 0
  input : Option String := none
  output : Option String := none
  /-- The option whose value may still come, or has come. -/
  pending : Option (Setting × Option String) := none

namespace State

/-- Sets an option, which must not be set. -/
def set (s : State) (setting : Setting) (value : String) : Except ArgumentError State :=
  match setting with
  | .input => if s.input.isSome then throw .conflict else return { s with input := value }
  | .output => if s.output.isSome then throw .conflict else return { s with output := value }

/-- Sets the option whose value was read. -/
def settle (s : State) : Except ArgumentError State :=
  match s.pending with
  | none => return s
  | some (_, none) => throw .missingValue
  | some (setting, some value) => { s with pending := none }.set setting value

/-- Follows a switch. -/
def turn (s : State) (switch : Switch) : Except ArgumentError State := do
  let s ← s.settle
  match switch with
  | .louder => return { s with louder := s.louder + 1 }
  | .quieter => return { s with quieter := s.quieter + 1 }
  | .help => throw (.help s.command)
  | .version => throw .version

/-- Follows the switches of a group of letters. -/
def turnAll (s : State) : List Char → Except ArgumentError State
  | [] => return s
  | c :: cs =>
    match Switch.ofLetter? s.command.isNone c with
    | none => throw .unknownArgument
    | some switch => do (← s.turn switch).turnAll cs

/-- The option of a name, which only one command has. -/
def setting? (s : State) (name : String) : Option Setting :=
  if s.command != some "external" then none
  else if name == "input" then some .input
  else if name == "output" then some .output
  else none

/-- Follows a word with a long name. -/
def follow (s : State) (name : String) (value : Option String) : Except ArgumentError State := do
  match s.setting? name, value with
  | some setting, some value => (← s.settle).set setting value
  | some setting, none => return { (← s.settle) with pending := some (setting, none) }
  | none, value =>
    match Switch.ofName? s.command.isNone name with
    | none => throw .unknownArgument
    | some switch => if value.isSome then throw .valueForSwitch else s.turn switch

/-- The end of the words of a command. -/
def finish (s : State) : Except ArgumentError State := do
  let s ← s.settle
  if s.louder != 0 && s.quieter != 0 then throw .conflict
  return s

end State

/-- Whether a word names a command. -/
def isCommand (text : String) : Bool := text == "help" || text == "external"

/-- The error for a word that has no place. -/
def misplaced (s : State) (escaped : Bool) (text : String) : ArgumentError :=
  if s.command.isSome || (escaped && isCommand text) then .unknownArgument else .unknownCommand

/-- Reads the words of a command up to the word that names another one. -/
def readWords (s : State) (escaped : Bool) :
    List String → Except ArgumentError (State × Option (String × List String))
  | [] => return (s, none)
  | text :: rest => do
    if escaped then throw (misplaced s true text)
    if s.command.isNone && isCommand text then return (s, some (text, rest))
    match Word.of text with
    | .escape => readWords s true rest
    | .long name value => readWords (← s.follow name value) false rest
    | .short letters => readWords (← s.turnAll letters) false rest
    | .plain text =>
      match s.pending with
      | some (setting, none) =>
        readWords { s with pending := some (setting, some text) } false rest
      | _ => throw (misplaced s false text)

/-- The more specific of two counts, if it was asked for. -/
def latter (outer inner : Nat) : Nat := if inner == 0 then outer else inner

/-- Reads the words after the name of the program. -/
def parse (words : List String) : Except ArgumentError CommandLine := do
  let (top, next) ← readWords {} false words
  match next with
  | none =>
    let top ← top.finish
    return { level := .ofCounts top.louder top.quieter }
  | some (command, rest) =>
    let top ← top.settle
    let (inner, _) ← readWords { command := some command } false rest
    let inner ← inner.finish
    let top ← top.finish
    return {
      request := some (if command == "help" then .help else .external inner.input inner.output)
      level := .ofCounts (latter top.louder inner.louder) (latter top.quieter inner.quieter) }

end CommandLine

end ScriptHost
