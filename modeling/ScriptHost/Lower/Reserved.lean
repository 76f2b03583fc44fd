import ScriptHost.Lower.Basic
/-!
# Reserved words of the oldest edition

The oldest edition reserves more words, and takes no reserved word for the
name of a property.

- `Node.lowerReserved`: the tree with such names quoted or changed.
-/

namespace ScriptHost

namespace Node

/-- Words that are reserved in the oldest edition alone. -/
def oldReservedWords : List String :=
  ["abstract", "boolean", "byte", "char", "double", "final", "float", "goto", "int", "long",
   "native", "short", "synchronized", "throws", "transient", "volatile"]

/-- Words that are reserved in strict code alone. -/
def strictReservedWords : List String :=
  ["await", "implements", "interface", "let", "package", "private", "protected", "public", "static",
   "yield"]

/-- Whether a text is reserved in every edition. -/
def isReservedWord (text : String) : Bool :=
  literalWords.contains text || text == "enum" || text == "package" ||
    (keywords.contains text && !strictReservedWords.contains text)

/-- Whether a text is reserved in some code of some edition. -/
def isReservedSomewhere (text : String) : Bool :=
  isReservedWord text || strictReservedWords.contains text || oldReservedWords.contains text

/-- The key of a property: words that every edition reserves are quoted, and only they. -/
def lowerKey (key : Node) : Node :=
  match key with
  | mk (.name text) sp cs =>
    if isReservedWord text then (string text).withSpan sp else mk (.name text) sp cs
  | mk (.str text raw) sp cs =>
    if isIdentText text && !isReservedWord text then mk (.name text) sp []
    else mk (.str text raw) sp cs
  | key => key

mutual
/-- The tree without reserved words for names of properties or variables. Names under which others
know a variable stay. -/
def lowerReserved : Node → Node
  | mk .member sp [object, mk (.name text) ksp cs] =>
    let object := object.lowerReserved
    if isReservedSomewhere text then
      mk .member sp [object, made .computed [(string text).withSpan ksp]]
    else mk .member sp [object, mk (.name text) ksp cs]
  | mk .keyValue sp [key, value] => mk .keyValue sp [key.lowerReserved.lowerKey, value.lowerReserved]
  | mk (.method kind) sp [key, f] =>
    mk (.method kind) sp [key.lowerReserved.lowerKey, f.lowerReserved]
  | mk (.exportSpecifier t) sp [name, exported] =>
    let renamed := name.lowerReserved
    let isSame := exported.isSome || renamed.identName? == name.identName?
    mk (.exportSpecifier t) sp [renamed, if isSame then exported else name]
  | mk (.ident name scope o) sp cs =>
    if oldReservedWords.contains name then mk (.ident ("_" ++ name) scope o) sp cs
    else mk (.ident name scope o) sp cs
  | mk form sp cs => mk form sp (lowerReservedAll cs)
/-- Nodes without reserved words for names of properties or variables. -/
def lowerReservedAll : List Node → List Node
  | [] => []
  | c :: cs => c.lowerReserved :: lowerReservedAll cs
end

end Node

end ScriptHost
