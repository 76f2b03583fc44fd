import ScriptHost.Program.Basic
import ScriptHost.Transform.Action
/-!
# Rewriting factories

A caller may hand in factories, which rewrite the modules of a compilation and
report what they find. They are built once for each call, from its program.

- `Factory`: rewrites a module.
- `Transformers`, `Provider`: the factories of a call.
- `Factory.scaleNumbers`, `Factory.rename`: factories of common use.
-/

namespace ScriptHost

/-- What a factory sees besides the module it rewrites. -/
structure FactoryContext where
  file : SourceFile
  options : CompilerOptions

namespace FactoryContext

/-- Reports an error about a part of the file. -/
def report (c : FactoryContext) (span : Span) (code : Nat) (message : Message) : Action Unit :=
  Action.report (.errorAt (some c.file.name) code (some (SourceFile.range span)) message)

end FactoryContext

/-- Rewrites a module. -/
abbrev Factory := FactoryContext → Node → Action Node

/-- The factories of a call, by whether they run before or after types are removed. -/
structure Transformers where
  before : List Factory := []
  after : List Factory := []
deriving Inhabited

/-- Makes the factories of a call. -/
abbrev Provider := Program → Action Transformers

/-- Runs factories one after the other. -/
def runFactories (factories : List Factory) (c : FactoryContext) (module : Node) : Action Node :=
  factories.foldlM (fun m factory => factory c m) module

/-! ## Factories of common use -/

namespace Form

/-- Whether a part of a node is a name that may be written as a number. -/
def isKeyPart (form : Form) (i : Nat) : Bool :=
  match form, i with
  | .keyValue, 0 | .method _, 0 | .keyPat, 0 | .constructor _, 0 | .classMethod .., 0
  | .classField _, 1 | .accessorField _, 1 | .propSig .., 0 | .getSig _, 0 | .setSig _, 0
  | .methodSig .., 0 => true
  | _, _ => false

/-- Whether a part of a node is the name of a label or of something imported or exported. -/
def isNamePart (form : Form) (i : Nat) : Bool :=
  match form, i with
  | .labeled, 0 | .break, 0 | .continue, 0 | .importNamed _, 1 | .exportSpecifier _, 1
  | .exportAs, 0 => true
  | _, _ => false

end Form

namespace Node

mutual
/-- Changes the values of the numbers that are expressions. -/
def mapNumbers (f : Float → Float) : Node → Node
  | mk (.num value _) sp cs => mk (.num (f value) Option.none) sp cs
  | mk .litType sp cs => mk .litType sp cs
  | mk form sp cs => mk form sp (mapNumbersFrom f form 0 cs)
/-- Changes the numbers in the parts of a node from the one with the given number on. -/
def mapNumbersFrom (f : Float → Float) (form : Form) (i : Nat) : List Node → List Node
  | [] => []
  | c :: cs =>
    (if form.isKeyPart i && c.form matches .num .. then c else c.mapNumbers f)
      :: mapNumbersFrom f form (i + 1) cs
end

mutual
/-- Renames the identifiers of a name. -/
def renameIdents (old new : String) : Node → Node
  | mk (.ident name scope isOptional) sp cs =>
    mk (.ident (if name == old then new else name) scope isOptional) sp
      (renameIdentsFrom old new (.ident name scope isOptional) 0 cs)
  | mk form sp cs => mk form sp (renameIdentsFrom old new form 0 cs)
/-- Renames the identifiers in the parts of a node from the one with the given number on. -/
def renameIdentsFrom (old new : String) (form : Form) (i : Nat) : List Node → List Node
  | [] => []
  | c :: cs =>
    (if form.isNamePart i && c.form == .name old then c.withForm (.name new)
      else c.renameIdents old new) :: renameIdentsFrom old new form (i + 1) cs
end

end Node

namespace Factory

/-- Multiplies every number and adds to it. -/
def scaleNumbers (factor summand : Float) : Factory := fun _ module =>
  return module.mapNumbers fun x => x * factor + summand

/-- Renames the identifiers of a name. -/
def rename (old new : String) : Factory := fun _ module => return module.renameIdents old new

/-- Reports an error about the whole module. -/
def reportModule (code : Nat) (message : Message) : Factory := fun c module => do
  c.report module.span code message
  return module

/-- Reports an error about some bytes of the file. -/
def reportRange (start length code : Nat) (message : Message) : Factory := fun c module => do
  c.report ⟨start + 1, start + length + 1⟩ code message
  return module

/-- Reports what the factory sees of its file. -/
def reportContext (code : Nat) : Factory := fun c module => do
  let parts := [c.file.name, c.options.target.name, c.options.module.name,
    if c.file.isModule then "true" else "false", toString module.children.length]
  c.report module.span code (.flat ("|".intercalate parts))
  return module

/-- Stops with a text. -/
def stop (text : String) : Factory := fun _ _ => Action.stop text

end Factory

end ScriptHost
