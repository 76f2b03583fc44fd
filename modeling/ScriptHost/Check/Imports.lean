import ScriptHost.Check.Exports
/-!
# Checking imports

Every specifier must refer to something, and every member that is imported
from a file must be exported by it.

- `ImportedMember`: a name that an item takes from another module.
- `Program.checkImports`: the errors about the imports of a file.
-/

namespace ScriptHost

/-- A name that an item takes from another module, and where it is written. -/
structure ImportedMember where
  name : String
  span : Span
deriving Repr, Inhabited

namespace ImportedMember

/-- The member that an import specifier takes. -/
def ofImport (specifier : Node) : Option ImportedMember :=
  match specifier.form with
  | .importNamed _ =>
    let name := if (specifier.child 1).isSome then specifier.child 1 else specifier.child 0
    some ⟨name.nameText?.getD "", name.span⟩
  | .importDefault => some ⟨"default", (specifier.child 0).span⟩
  | _ => none

/-- The member that an export specifier takes from another module. -/
def ofExport (specifier : Node) : Option ImportedMember :=
  match specifier.form with
  | .exportSpecifier _ =>
    let name := specifier.child 0
    some ⟨name.nameText?.getD "", name.span⟩
  | _ => none

end ImportedMember

/-- The module that an item takes members from, with the members. -/
def Node.importedMembers (item : Node) : Option (Node × List ImportedMember) :=
  match item.form with
  | .importDecl _ =>
    some (item.child 1, (item.child 0).items.filterMap ImportedMember.ofImport)
  | .exportNamed _ =>
    if (item.child 1).isSome then
      some (item.child 1, (item.child 0).items.filterMap ImportedMember.ofExport)
    else Option.none
  | _ => Option.none

/-! ## Errors -/

/-- An error about the imports of a file. -/
inductive ImportError where
  | cannotFindModule (specifier : String)
  | notAModule (file : String)
  | noDefaultExport (specifier : String)
  | noExportedMember (specifier member : String)
deriving BEq, DecidableEq, Repr, Inhabited

namespace ImportError

/-- The number of an error. -/
def code : ImportError → Nat
  | cannotFindModule _ => 2307
  | notAModule _ => 2306
  | noDefaultExport _ => 1192
  | noExportedMember .. => 2305

/-- The wording of an error. -/
def message : ImportError → String
  | cannotFindModule specifier =>
    "Cannot find module '" ++ specifier ++ "' or its corresponding type declarations."
  | notAModule file => "File '" ++ file ++ "' is not a module."
  | noDefaultExport specifier => "Module '\"" ++ specifier ++ "\"' has no default export."
  | noExportedMember specifier member =>
    "Module '\"" ++ specifier ++ "\"' has no exported member '" ++ member ++ "'."

/-- An error at a place in a file. -/
def report (e : ImportError) (file : String) (span : Span) : Report :=
  .errorAt (some file) e.code (some (SourceFile.range span)) (.flat e.message)

end ImportError

namespace Program

/-- The errors about specifiers that refer to nothing. -/
def checkSpecifiers (p : Program) (file : SourceFile) : List Report :=
  file.specifierNodes.filterMap fun node =>
    let specifier := node.strValue?.getD ""
    if (p.resolved file.name specifier).isNone then
      some ((ImportError.cannotFindModule specifier).report file.name node.span)
    else none

/-- The error about a member that is not exported. -/
def checkMember (file : SourceFile) (specifier : String) (exports : Exports)
    (member : ImportedMember) : Option Report :=
  if member.name == "default" then
    if exports.hasDefault then none
    else some ((ImportError.noDefaultExport specifier).report file.name member.span)
  else if exports.names.contains member.name then none
  else some ((ImportError.noExportedMember specifier member.name).report file.name member.span)

/-- Whether a file can be imported from. -/
def isImportable (file : SourceFile) : Bool :=
  file.isModule || file.isJavaScript || file.isDeclaration

/-- The errors about the members that an item takes from a file. -/
def checkMembers (p : Program) (file : SourceFile) (item : Node) : List Report :=
  match item.importedMembers with
  | none => []
  | some (node, members) =>
    let specifier := node.strValue?.getD ""
    match p.resolved file.name specifier with
    | some (.file target) =>
      if (p.file? target).any fun f => !isImportable f then
        [(ImportError.notAModule target).report file.name node.span]
      else
        let exports := p.exports target
        if exports.isOpen then []
        else members.filterMap (checkMember file specifier exports)
    | _ => []

/-- The errors about the imports of a file. -/
def checkImports (p : Program) (file : SourceFile) : List Report :=
  p.checkSpecifiers file ++ file.items.flatMap (p.checkMembers file)

end Program

end ScriptHost
