import ScriptHost.Host.Path
/-!
# Language levels and module systems

What a program may ask its output to be written in.

- `Target`: the editions of the language, from the oldest on.
- `ModuleKind`: how modules refer to each other.
-/

namespace ScriptHost

/-- An edition of the language. -/
inductive Target where
  | es3 | es5 | es2015 | es2016 | es2017 | es2018 | es2019 | es2020 | es2021 | es2022 | esNext
deriving BEq, DecidableEq, Repr, Inhabited

namespace Target

/-- The place of an edition among all of them. -/
def rank : Target → Nat
  | .es3 => 0 | .es5 => 1 | .es2015 => 2 | .es2016 => 3 | .es2017 => 4 | .es2018 => 5
  | .es2019 => 6 | .es2020 => 7 | .es2021 => 8 | .es2022 => 9 | .esNext => 10

/-- Whether an edition is older than another. -/
def isBelow (a b : Target) : Bool := a.rank < b.rank

/-- The name of an edition. -/
def name : Target → String
  | .es3 => "ES3" | .es5 => "ES5" | .es2015 => "ES2015" | .es2016 => "ES2016"
  | .es2017 => "ES2017" | .es2018 => "ES2018" | .es2019 => "ES2019" | .es2020 => "ES2020"
  | .es2021 => "ES2021" | .es2022 => "ES2022" | .esNext => "ESNext"

/-- The name under which the writer of output knows an edition. -/
def edition : Target → String
  | .es3 => "Es3" | .es5 => "Es5" | .es2015 => "Es2015" | .es2016 => "Es2016"
  | .es2017 => "Es2017" | .es2018 => "Es2018" | .es2019 => "Es2019" | .es2020 => "Es2020"
  | .es2021 => "Es2021" | .es2022 => "Es2022" | .esNext => "EsNext"

/-- Reads the name of an edition, in letters of any case. -/
def ofName (text : String) : Except String Target :=
  match Path.lowerAscii text with
  | "es3" => .ok .es3
  | "es5" => .ok .es5
  | "es6" | "es2015" => .ok .es2015
  | "es2016" => .ok .es2016
  | "es2017" => .ok .es2017
  | "es2018" => .ok .es2018
  | "es2019" => .ok .es2019
  | "es2020" => .ok .es2020
  | "es2021" => .ok .es2021
  | "es2022" => .ok .es2022
  | "esnext" | "latest" => .ok .esNext
  | other => .error ("unknown target \"" ++ other ++ "\"")

end Target

/-- How modules refer to each other. -/
inductive ModuleKind where
  | none | commonJS | es2015 | es2020 | es2022 | esNext | node16 | nodeNext | preserve
deriving BEq, DecidableEq, Repr, Inhabited

namespace ModuleKind

/-- The name of a module system. -/
def name : ModuleKind → String
  | .none => "None" | .commonJS => "CommonJS" | .es2015 => "ES2015" | .es2020 => "ES2020"
  | .es2022 => "ES2022" | .esNext => "ESNext" | .node16 => "Node16" | .nodeNext => "NodeNext"
  | .preserve => "Preserve"

/-- Whether modules refer to each other by `require` and `exports`. -/
def isCommonJS : ModuleKind → Bool
  | .commonJS | .node16 | .nodeNext => true
  | _ => false

/-- Reads the name of a module system, in letters of any case. -/
def ofName (text : String) : Except String ModuleKind :=
  match Path.lowerAscii text with
  | "none" => .ok .none
  | "commonjs" => .ok .commonJS
  | "es6" | "es2015" => .ok .es2015
  | "es2020" => .ok .es2020
  | "es2022" => .ok .es2022
  | "esnext" => .ok .esNext
  | "node16" => .ok .node16
  | "nodenext" => .ok .nodeNext
  | "preserve" => .ok .preserve
  | other => .error ("unknown module kind \"" ++ other ++ "\"")

end ModuleKind

end ScriptHost
