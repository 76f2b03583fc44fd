import ScriptHost.Json.Read
import ScriptHost.Options.Target
/-!
# Compiler options

What a project file says about how its program is to be compiled. Options that
the compiler does not act on are kept as they are.

- `CompilerOptions`: the options.
- `CompilerOptions.ofProject`: the options of the text of a project file.
- `CompilerOptions.toJson`: the options as they are written.
- `Environment`: what a host knows beyond the options.
-/

namespace ScriptHost

/-- How a program is to be compiled. -/
structure CompilerOptions where
  target : Target := .es2015
  module : ModuleKind := .commonJS
  strict : Bool := false
  skipLibCheck : Bool := false
  esModuleInterop : Bool := false
  downlevelIteration : Bool := false
  experimentalDecorators : Bool := false
  emitDecoratorMetadata : Bool := false
  noErrorTruncation : Bool := false
  allowJs : Bool := false
  noEmit : Bool := false
  noEmitOnError : Bool := false
  baseUrl : Option String := none
  paths : SortedMap (List String) := .empty
  extra : SortedMap Json := .empty
deriving Inhabited

namespace CompilerOptions

/-! ## Switches -/

/-- A name of an option that is on or off, with what reads and sets it. -/
structure Switch where
  name : String
  get : CompilerOptions → Bool
  set : Bool → CompilerOptions → CompilerOptions

/-- The options that are on or off. -/
def switches : List Switch :=
  [⟨"strict", (·.strict), fun b o => { o with strict := b }⟩,
   ⟨"skipLibCheck", (·.skipLibCheck), fun b o => { o with skipLibCheck := b }⟩,
   ⟨"esModuleInterop", (·.esModuleInterop), fun b o => { o with esModuleInterop := b }⟩,
   ⟨"downlevelIteration", (·.downlevelIteration), fun b o => { o with downlevelIteration := b }⟩,
   ⟨"experimentalDecorators", (·.experimentalDecorators),
    fun b o => { o with experimentalDecorators := b }⟩,
   ⟨"emitDecoratorMetadata", (·.emitDecoratorMetadata),
    fun b o => { o with emitDecoratorMetadata := b }⟩,
   ⟨"noErrorTruncation", (·.noErrorTruncation), fun b o => { o with noErrorTruncation := b }⟩,
   ⟨"allowJs", (·.allowJs), fun b o => { o with allowJs := b }⟩,
   ⟨"noEmit", (·.noEmit), fun b o => { o with noEmit := b }⟩,
   ⟨"noEmitOnError", (·.noEmitOnError), fun b o => { o with noEmitOnError := b }⟩]

/-- Whether fields of classes are defined rather than assigned: as the options say, and else
from the edition on that has such fields. -/
def definesFields (o : CompilerOptions) : Bool :=
  ((o.extra.get? "useDefineForClassFields").bind Json.bool?).getD (!o.target.isBelow .es2022)

/-! ## Reading -/

/-- Reads a name of a closed vocabulary. -/
def named {α : Type} (ofName : String → Except String α) : Reader α := do
  match ofName (← Reader.text) with
  | .ok a => return a
  | .error text => Reader.refuse text

/-- Reads an option. -/
def readOption (d : Reader.Draft CompilerOptions) (name : String) :
    Reader (Reader.Draft CompilerOptions) := do
  match name with
  | "target" => d.read name (named Target.ofName) fun t o => { o with target := t }
  | "module" => d.read name (named ModuleKind.ofName) fun m o => { o with module := m }
  | "baseUrl" => d.read name (Reader.optional Reader.text) fun b o => { o with baseUrl := b }
  | "paths" =>
    d.read name (Reader.mapOf (Reader.array Reader.text)) fun p o => { o with paths := p }
  | _ =>
    match switches.find? (·.name == name) with
    | some switch => d.read name Reader.bool switch.set
    | none =>
      Reader.colon
      let v ← Reader.value
      return { d with value := { d.value with extra := d.value.extra.insert name v } }

/-- Reads options. -/
def reader : Reader CompilerOptions := do
  if (← Reader.start) == '\x7b' then
    Reader.members ⟨{}, []⟩ readOption fun d => return d.value
  else Reader.refuseType "struct CompilerOptions"

/-- Reads a project file. -/
def projectReader : Reader CompilerOptions :=
  Reader.record "TsConfig" {}
    (fun d name =>
      if name == "compilerOptions" then d.read name reader fun o _ => o else d.skip)
    (do if ← Reader.hasItem true then reader else return {})
    pure

/-- The options of the text of a project file. -/
def ofProject (text : String) : Except JsonError CompilerOptions := projectReader.run text

/-! ## Writing -/

/-- The options as they are written: what is not set and has no default is left out. -/
def toJson (o : CompilerOptions) : Json :=
  .ofMembers <|
    [("target", .str o.target.name), ("module", .str o.module.name)]
    ++ switches.map (fun switch => (switch.name, .bool (switch.get o)))
    ++ (o.baseUrl.map fun base => ("baseUrl", Json.str base)).toList
    ++ (if o.paths.entries.isEmpty then []
        else [("paths", Json.ofMap (Json.ofList Json.str) o.paths)])
    ++ o.extra.entries

end CompilerOptions

/-- What a host knows beyond the options. -/
structure Environment where
  /-- The declarations that every program may use. -/
  defaultLib : String := "node_modules/typescript/lib/lib.es2015.d.ts"
  /-- How the names of external files end that every program includes. -/
  ambientEnding : String := ".d.ts"
deriving BEq, DecidableEq, Repr, Inhabited

end ScriptHost
