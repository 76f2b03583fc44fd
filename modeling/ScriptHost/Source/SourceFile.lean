import ScriptHost.Parser.Module
import ScriptHost.Host.Path
import ScriptHost.Diagnostic.Basic
/-!
# Source files

A source file is a name and a text together with what reading the text yields.

- `SourceFile.parse`: reads a file; its name says which language it is in.
- `SourceFile.isModule`: whether a file imports or exports at its top.
- `Node.declaredNames`: the names that a declaration introduces.
- `SourceFile.specifiers`: the modules that a file depends on.
-/

namespace ScriptHost

/-! ## Items of a module -/

namespace Node

/-- Whether an item of a module imports or exports. -/
def isModuleItem (item : Node) : Bool :=
  match item.form with
  | .importDecl _ | .exportDecl | .exportNamed _ | .exportDefaultDecl | .exportDefault
  | .exportAll _ | .importEquals .. | .exportAssign | .exportNamespace => true
  | _ => false

/-- Whether a statement is a declaration. -/
def isDeclaration (stmt : Node) : Bool :=
  match stmt.form with
  | .classDecl _ | .fnDecl _ | .varDecl .. | .usingDecl _ | .interfaceDecl _ | .typeAlias _
  | .enumDecl .. | .moduleDecl .. => true
  | _ => false

mutual
/-- The identifiers that a pattern binds, from left to right. -/
def boundIdents : Node → List Node
  | mk (.ident name scope isOptional) sp cs => [mk (.ident name scope isOptional) sp cs]
  | mk (.arrayPat _) _ (elems :: _) => elems.boundIdents
  | mk (.objectPat _) _ (props :: _) => props.boundIdents
  | mk .list _ elems => boundIdentsAll elems
  | mk .keyPat _ [_, value] => value.boundIdents
  | mk .shorthandPat _ (id :: _) => id.boundIdents
  | mk .restPat _ (arg :: _) => arg.boundIdents
  | mk .assignPat _ (left :: _) => left.boundIdents
  | _ => []
/-- The identifiers that a list of patterns binds. -/
def boundIdentsAll : List Node → List Node
  | [] => []
  | p :: ps => p.boundIdents ++ boundIdentsAll ps
end

/-- The names that a pattern binds. -/
def boundNames (pattern : Node) : List String := pattern.boundIdents.filterMap identName?

/-- The names that a declaration introduces, for values and for types. -/
def declaredNames (decl : Node) : List String :=
  match decl.form with
  | .classDecl _ | .fnDecl _ | .interfaceDecl _ | .typeAlias _ | .enumDecl .. | .moduleDecl .. =>
    (decl.child 0).identName?.toList
  | .varDecl .. | .usingDecl _ => decl.children.flatMap fun d => (d.child 0).boundNames
  | _ => []

/-- The module that an item depends on: the string that names it. -/
def specifier? (item : Node) : Option Node :=
  match item.form with
  | .importDecl _ => some (item.child 1)
  | .exportNamed _ => (item.child 1).toOption
  | .exportAll _ => some (item.child 0)
  | .importEquals .. =>
    let target := item.child 1
    if target.form matches .externalRef then some (target.child 0) else Option.none
  | _ => Option.none

end Node

/-! ## Files -/

/-- The code under which syntax errors are reported. -/
def syntaxErrorCode : Nat := 1005

/-- The language of a file, by its name: every file may use all of it. -/
def Dialect.ofName (name : String) : Dialect :=
  if Path.isJavaScript name then ⟨false, true, false⟩
  else ⟨true, Path.endsWithAny [".tsx"] (Path.lowerAscii name), Path.isDeclaration name⟩

/-- A file with what reading it yields. -/
structure SourceFile where
  name : String
  text : String
  module : Node
  comments : Comments
  syntaxErrors : List Report
deriving Inhabited

namespace SourceFile

/-- The text without a mark of its byte order. -/
def withoutMark (text : String) : String :=
  match text.toList with
  | c :: rest => if c == Char.ofNat 0xfeff then String.ofList rest else text
  | [] => text

/-- The offset and length of a span. -/
def range (span : Span) : Nat × Nat := (span.offset, (span.hi - 1) - span.offset)

/-- A syntax error as it is reported. -/
def reportIssue (name : String) (issue : Issue) : Report :=
  .errorAt (some name) syntaxErrorCode (some (range issue.span)) (.flat issue.error.message)

/-- Reads a file. -/
def parse (name text : String) : SourceFile :=
  let text := withoutMark text
  let parsed := parseModule (Dialect.ofName name) text
  ⟨name, text, parsed.module, parsed.comments, parsed.issues.map (reportIssue name)⟩

/-- The items of the file. -/
def items (s : SourceFile) : List Node := s.module.children

/-- Whether the file only declares. -/
def isDeclaration (s : SourceFile) : Bool := Path.isDeclaration s.name

/-- Whether the file has no types. -/
def isJavaScript (s : SourceFile) : Bool := Path.isJavaScript s.name

/-- Whether the file imports or exports at its top; a file that does not is a script. -/
def isModule (s : SourceFile) : Bool := s.items.any Node.isModuleItem

/-- The strings that name the modules that the file depends on. -/
def specifierNodes (s : SourceFile) : List Node := s.items.filterMap Node.specifier?

/-- The names of the modules that the file depends on. -/
def specifiers (s : SourceFile) : List String :=
  s.specifierNodes.map fun n => n.strValue?.getD ""

end SourceFile

end ScriptHost
