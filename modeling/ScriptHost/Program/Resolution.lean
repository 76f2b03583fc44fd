import ScriptHost.Host.Files
/-!
# What a module specifier refers to

A specifier is a path when it starts like one. Any other is the name of a
module that some file declares, an alias from the options, or a package in a
`node_modules` directory above the file that imports it.

- `Resolution`: what a specifier refers to.
- `Resolver.resolve`: what a specifier of a file refers to.
- `Resolver.loadFile`, `Resolver.loadDirectory`: the files that a path may mean.
- `Resolver.matchAlias`: the alias that a specifier matches.
-/

namespace ScriptHost

/-- What a specifier refers to. -/
inductive Resolution where
  | file (name : String)
  /-- A module that some file of the program declares. -/
  | ambient (name : String)
deriving BEq, DecidableEq, Repr, Inhabited

/-- What resolution depends on besides the declared modules. -/
structure Resolver where
  options : CompilerOptions
  host : Host

namespace Resolver

/-- Whether a specifier is a path. -/
def isPath (specifier : String) : Bool :=
  specifier == "." || specifier == ".." || Path.startsWith "./" specifier
    || Path.startsWith "../" specifier || Path.startsWith "/" specifier

/-! ## Files and directories -/

/-- The endings that a path without one may have. -/
def endings (r : Resolver) : List String :=
  [".ts", ".tsx", ".d.ts"] ++ if r.options.allowJs then [".js", ".jsx"] else []

/-- The canonical name of a file that exists. -/
def findFile (r : Resolver) (path : String) : Option String :=
  if r.host.exists? path then some (r.host.canonicalName path) else none

/-- The first of some endings with which a path names a file. -/
def findEnding (r : Resolver) (path : String) (endings : List String) : Option String :=
  endings.findSome? fun ending => r.findFile (path ++ ending)

/-- The endings of sources for an ending of their output. -/
def sourceEndings : List (String × List String) :=
  [(".js", [".ts", ".tsx", ".d.ts"]), (".jsx", [".tsx", ".ts", ".d.ts"]),
   (".mjs", [".mts", ".d.mts"]), (".cjs", [".cts", ".d.cts"])]

/-- The path without its last characters. -/
def dropEnd (count : Nat) (path : String) : String :=
  String.ofList (path.toList.take (path.length - count))

/-- Whether a path names a file that can be compiled as it is. -/
def namesSource (r : Resolver) (path : String) : Bool :=
  Path.endsWithAny [".ts", ".tsx", ".mts", ".cts"] (Path.lowerAscii path)
    || (r.options.allowJs && Path.isJavaScript path)

/-- The file for which a path names the output. -/
def sourceOf (r : Resolver) (path : String) : Option String :=
  sourceEndings.findSome? fun (ending, sources) =>
    if Path.endsWithAny [ending] (Path.lowerAscii path) then
      r.findEnding (dropEnd ending.length path) sources
    else none

/-- The file that a path means. -/
def loadFile (r : Resolver) (path : String) : Option String :=
  ((if r.namesSource path then r.findFile path else none).or (r.sourceOf path)).or
    (r.findEnding path r.endings)

/-- The first file of a directory. -/
def loadIndex (r : Resolver) (path : String) : Option String :=
  r.findEnding (path ++ "/index") r.endings

/-- The members of a package's description that name its first file. -/
def entryMembers : List String := ["types", "typings", "main"]

/-- The first files that the description of a package names. -/
def manifestEntries (manifest : String) : List String :=
  match Json.parse manifest with
  | .ok value => entryMembers.filterMap fun name => (value.member? name).bind Json.text?
  | .error _ => []

/-- The file that a directory means: the first file of a package, or the file that is named
as the index of the directory. -/
def loadDirectory (r : Resolver) (path : String) : Option String :=
  let entries := ((r.host.read? (path ++ "/package.json")).map manifestEntries).getD []
  (entries.findSome? fun entry =>
    let target := Path.join path entry
    (r.loadFile target).or (r.loadIndex target)).or (r.loadIndex path)

/-- The file that a path means, as a file or as a directory. -/
def load (r : Resolver) (path : String) : Option String :=
  (r.loadFile path).or (r.loadDirectory path)

/-! ## Aliases -/

/-- The texts before and after the first occurrence of a character. -/
def splitFirst (c : Char) (text : String) : Option (String × String) :=
  match text.toList.dropWhile (· != c) with
  | [] => none
  | _ :: rest => some (String.ofList (text.toList.takeWhile (· != c)), String.ofList rest)

/-- The part of a text between a front and an end that do not overlap. -/
def between (front back text : String) : Option String :=
  let t := text.toList
  if front.toList.isPrefixOf t && back.toList.isSuffixOf t
      && front.length + back.length ≤ t.length then
    some (String.ofList ((t.drop front.length).take (t.length - front.length - back.length)))
  else none

/-- What a specifier has in place of the star of a pattern, and how long the pattern is before
its star. -/
def capture (pattern specifier : String) : Option (Nat × String) := do
  let (front, back) ← splitFirst '*' pattern
  let captured ← between front back specifier
  return (front.utf8ByteSize, captured)

/-- The better of an alias found so far and another one: the one that is longer before its
star, and the later of two equally long ones. -/
def betterAlias (specifier : String) (best : Option (Nat × String × List String))
    (entry : String × List String) : Option (Nat × String × List String) :=
  match capture entry.1 specifier with
  | none => best
  | some (length, captured) =>
    match best with
    | some (longest, _, _) =>
      if length ≥ longest then some (length, captured, entry.2) else best
    | none => some (length, captured, entry.2)

/-- The alias that a specifier matches: what its star stands for, and the places to look. -/
def matchAlias (paths : SortedMap (List String)) (specifier : String) :
    Option (String × List String) :=
  match paths.get? specifier with
  | some places => some ("", places)
  | none => (paths.entries.foldl (betterAlias specifier) none).map (·.2)

/-- A place of an alias with a text in place of its star. -/
def fillStar (captured place : String) : String :=
  match splitFirst '*' place with
  | some (front, back) => front ++ captured ++ back
  | none => place

/-- The file of the alias that a specifier matches. -/
def loadAlias (r : Resolver) (specifier : String) : Option String := do
  let (captured, places) ← matchAlias r.options.paths specifier
  let base := Path.normalize (r.options.baseUrl.getD ".")
  places.findSome? fun place => r.load (Path.join base (fillStar captured place))

/-! ## Packages -/

/-- The name of the package that holds the types for another package. -/
def typesPackage (specifier : String) : String :=
  match specifier.toList with
  | '@' :: rest =>
    match splitFirst '/' (String.ofList rest) with
    | some (scope, name) => scope ++ "__" ++ name
    | none => specifier
  | _ => specifier

/-- The directories with the given segments, last one first, and those above them. -/
def ancestors : List (List Char) → List String
  | [] => [""]
  | last :: rest =>
    String.ofList (Path.joinChars '/' (last :: rest).reverse) :: ancestors rest

/-- A directory and those above it, up to the top. -/
def directoriesFrom (dir : String) : List String :=
  ancestors (Path.resolveSegments (Path.splitChars '/' (Path.canonical dir).toList)).reverse

/-- The file of a package in the packages of one directory. -/
def loadPackage (r : Resolver) (specifier dir : String) : Option String :=
  let packages := if dir.isEmpty then "node_modules" else dir ++ "/node_modules"
  (r.load (packages ++ "/" ++ specifier)).or
    (r.load (packages ++ "/@types/" ++ typesPackage specifier))

/-- The file of a package in the nearest directory that has it. -/
def loadNearest (r : Resolver) (specifier dir : String) : Option String :=
  (directoriesFrom dir).findSome? (r.loadPackage specifier)

/-! ## Specifiers -/

/-- What a specifier of a file refers to, when the given modules are declared. -/
def resolve (r : Resolver) (modules : List String) (file specifier : String) :
    Option Resolution :=
  let dir := Path.dirname file
  if isPath specifier then (r.load (Path.join dir specifier)).map .file
  else if modules.contains specifier then some (.ambient specifier)
  else ((r.loadAlias specifier).or (r.loadNearest specifier dir)).map .file

end Resolver

end ScriptHost
