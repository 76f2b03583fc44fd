import ScriptHost.Source.SourceFile
import ScriptHost.Scope.Role
/-!
# What statements declare

A block declares the names of its own declarations. A function also declares
the variables that `var` declares anywhere in it, but for what inner functions
declare. What `declare` announces is declared by no file.

- `Node.blockNames`, `Node.blockTypes`: what a statement declares where it stands.
- `Node.varNames`: what `var` declares in a statement.
-/

namespace ScriptHost

namespace Node

/-- The declaration that an item of a module exports, or the item itself. -/
def underExport (item : Node) : Node :=
  match item with
  | mk .exportDecl _ [decl] => decl
  | mk .exportDefaultDecl _ [decl] => decl
  | n => n

/-- The names that an import declares. -/
def importNames (item : Node) : List String :=
  match item with
  | mk (.importDecl _) _ (specs :: _) => specs.items.filterMap fun s => (s.child 0).identName?
  | _ => []

/-- The names of variables that a statement declares in the block it stands in. -/
def blockNames (stmt : Node) : List String :=
  let decl := stmt.underExport
  match decl.form with
  | .varDecl .var _ | .varDecl _ true | .fnDecl true | .classDecl true => []
  | .varDecl .. | .usingDecl _ | .fnDecl _ | .classDecl _ | .enumDecl .. => decl.declaredNames
  | .moduleDecl _ isGlobal => if isGlobal then [] else decl.declaredNames
  | .importDecl _ => decl.importNames
  | .importEquals .. => (decl.child 0).identName?.toList
  | .fnExpr | .classExpr =>
    if stmt.form matches .exportDefaultDecl then (decl.child 0).identName?.toList else []
  | _ => []

/-- The names of types that a statement declares in the block it stands in. -/
def blockTypes (stmt : Node) : List String :=
  let decl := stmt.underExport
  match decl.form with
  | .classDecl _ | .interfaceDecl _ | .typeAlias _ => decl.declaredNames
  | .importDecl _ => decl.importNames
  | _ => []

mutual
/-- The names that `var` declares in a statement. -/
def varNames : Node → List String
  | mk (.varDecl .var false) _ ds => boundNamesOfVars ds
  | mk .list _ cs | mk .block _ cs | mk .withStmt _ cs | mk .labeled _ cs | mk .ifStmt _ cs
  | mk .switch _ cs | mk .case _ cs | mk .tryStmt _ cs | mk .catchClause _ cs
  | mk .whileStmt _ cs | mk .doWhile _ cs | mk .forStmt _ cs | mk .forIn _ cs
  | mk (.forOf _) _ cs | mk .exportDecl _ cs => varNamesAll cs
  | _ => []
/-- The names that `var` declares in a list of statements. -/
def varNamesAll : List Node → List String
  | [] => []
  | s :: ss => s.varNames ++ varNamesAll ss
/-- The names that the variables of a declaration bind. -/
def boundNamesOfVars : List Node → List String
  | [] => []
  | d :: ds => (d.child 0).boundNames ++ boundNamesOfVars ds
end

end Node

end ScriptHost
