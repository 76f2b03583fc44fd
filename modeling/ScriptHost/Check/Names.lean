import ScriptHost.Program.Basic
import ScriptHost.Scope.Resolve
/-!
# Checking names

An identifier that reads a variable must be bound in its file or declared for
the whole program.

- `Node.unbound`: the identifiers that read variables no scope binds.
- `Program.checkNames`: the errors about the names of a file.
-/

namespace ScriptHost

namespace Node

/-- The node itself, if it reads a variable that no scope binds. -/
def unboundHere (role : Role) : Node → List Node
  | mk (.ident name scope isOptional) sp cs =>
    if role.isValue && scope == Scope.unresolved then [mk (.ident name scope isOptional) sp cs]
    else []
  | _ => []

mutual
/-- The identifiers of a node in a role that read variables no scope binds. -/
def unboundIn (role : Role) : Node → List Node
  | mk (.moduleDecl true _) _ _ => []
  | mk form sp cs =>
    if role == .type then []
    else unboundHere role (mk form sp cs) ++ unboundParts form role 0 cs
/-- The unbound identifiers of the parts of a node from the one with the given number on. -/
def unboundParts (form : Form) (own : Role) (i : Nat) : List Node → List Node
  | [] => []
  | c :: cs => unboundIn (form.childRole own i) c ++ unboundParts form own (i + 1) cs
end

/-- The identifiers of a module with its names bound that read variables no scope binds. -/
def unbound (module : Node) : List Node := module.unboundIn .value

end Node

namespace Program

/-- The number of the error about a name. -/
def cannotFindName : Nat := 2304

/-- The error about a name that is bound nowhere. -/
def nameError (file : SourceFile) (ident : Node) : Report :=
  .errorAt (some file.name) cannotFindName (some (SourceFile.range ident.span))
    (.flat ("Cannot find name '" ++ ident.identName?.getD "" ++ "'."))

/-- Whether an identifier names what is declared for the whole program. -/
def isAmbient (p : Program) (ident : Node) : Bool :=
  (ident.identName?.map p.ambient.declares).getD false

/-- The errors about the names of a file. -/
def checkNames (p : Program) (file : SourceFile) : List Report :=
  ((file.module.resolve.1.unbound).filter fun ident => !p.isAmbient ident).map (nameError file)

end Program

end ScriptHost
