/-!
# Virtual paths

A path of the virtual file system is text: segments between slashes, with no
drive and no leading slash. Backslashes count as slashes.

- `Path.canonical`, `Path.normalize`, `Path.join`: the spelling of paths.
- `Path.isDeclaration`, `Path.isJavaScript`: kinds of files by their names.
- `Path.outputName`: where the output for a file goes.
-/

namespace ScriptHost

namespace Path

/-! ## Segments -/

/-- The parts of a text between separators. -/
def splitChars (sep : Char) : List Char → List (List Char)
  | [] => [[]]
  | c :: cs =>
    if c == sep then [] :: splitChars sep cs
    else
      match splitChars sep cs with
      | [] => [[c]]
      | part :: parts => (c :: part) :: parts

/-- The parts joined by a separator. -/
def joinChars (sep : Char) : List (List Char) → List Char
  | [] => []
  | [part] => part
  | part :: parts => part ++ sep :: joinChars sep parts

/-- The path with slashes for backslashes. -/
def canonical (path : String) : String :=
  String.ofList (path.toList.map fun c => if c == '\\' then '/' else c)

/-- A path with slashes is left as it is. -/
theorem canonical_canonical (path : String) : canonical (canonical path) = canonical path := by
  simp only [canonical, String.toList_ofList, List.map_map]
  congr 1
  refine List.map_congr_left fun c _ => ?_
  by_cases h : c = '\\' <;> simp [h]

/-- One more segment on a stack of segments, the last one first. -/
def pushSegment (stack : List (List Char)) (segment : List Char) : List (List Char) :=
  if segment == [] || segment == ['.'] then stack
  else if segment == ['.', '.'] then
    match stack with
    | top :: rest => if top == ['.', '.'] then segment :: stack else rest
    | [] => [segment]
  else segment :: stack

/-- The segments of a path that `.` and `..` leave over. -/
def resolveSegments (segments : List (List Char)) : List (List Char) :=
  (segments.foldl pushSegment []).reverse

/-- The path without empty segments and `.`, and with `..` only where nothing is left to leave. -/
def normalize (path : String) : String :=
  String.ofList (joinChars '/' (resolveSegments (splitChars '/' (canonical path).toList)))

/-- The text before the last occurrence of a character and the text after it. -/
def splitLast (c : Char) (text : String) : Option (String × String) :=
  let back := text.toList.reverse
  match back.dropWhile (· != c) with
  | [] => none
  | _ :: before =>
    some (String.ofList before.reverse, String.ofList (back.takeWhile (· != c)).reverse)

/-- The directory of a file, empty for a file at the top. -/
def dirname (path : String) : String := ((splitLast '/' path).map (·.1)).getD ""

/-- The path that a relative path means in a directory. -/
def join (dir relative : String) : String :=
  if dir.isEmpty then normalize relative else normalize (dir ++ "/" ++ relative)

/-! ## Kinds of files -/

/-- The text with the letters of ASCII in lower case. -/
def lowerAscii (text : String) : String := String.ofList (text.toList.map Char.toLower)

/-- Whether a text ends with one of the given endings. -/
def endsWithAny (endings : List String) (text : String) : Bool :=
  endings.any fun e => e.toList.isSuffixOf text.toList

/-- Whether one text stands at the front of another. -/
def startsWith (front text : String) : Bool := front.toList.isPrefixOf text.toList

/-- Whether a part stands somewhere inside of a text. -/
def occursIn (part : List Char) : List Char → Bool
  | [] => part.isEmpty
  | c :: cs => part.isPrefixOf (c :: cs) || occursIn part cs

/-- Whether one text stands somewhere inside of another. -/
def holds (part text : String) : Bool := occursIn part.toList text.toList

/-- Whether a file only declares. -/
def isDeclaration (path : String) : Bool :=
  endsWithAny [".d.ts", ".d.mts", ".d.cts"] (lowerAscii path)

/-- Whether a file has no types. -/
def isJavaScript (path : String) : Bool :=
  endsWithAny [".js", ".jsx", ".mjs", ".cjs"] (lowerAscii path)

/-- The name of the file that the output for a file goes to, if it has output. -/
def outputName (path : String) (allowJs : Bool) : Option String := do
  if isDeclaration path then failure
  let (stem, extension) ← splitLast '.' path
  match lowerAscii extension with
  | "ts" => return stem ++ ".js"
  | "tsx" => return stem ++ ".jsx"
  | "mts" => return stem ++ ".mjs"
  | "cts" => return stem ++ ".cjs"
  | "js" | "jsx" | "mjs" | "cjs" => if allowJs then return path else failure
  | _ => failure

end Path

end ScriptHost
