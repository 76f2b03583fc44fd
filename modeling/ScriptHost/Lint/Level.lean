import ScriptHost.Json.Read
/-!
# Rules and their levels

A table of rules says for each rule whether its findings are passed over, are
warnings, or are errors.

- `RuleLevel.ofJson`: the level that a value names.
- `LintRules`: a table of rules.
- `LintRules.qualified`: the table with the full names of its rules.
-/

namespace ScriptHost

/-- What becomes of the findings of a rule. -/
inductive RuleLevel where
  | off | warn | error
deriving BEq, DecidableEq, Repr, Inhabited

namespace RuleLevel

/-- The number of a level. -/
def severity : RuleLevel → Nat
  | off => 0 | warn => 1 | error => 2

/-- The level of a name. -/
def ofName : String → Except String RuleLevel
  | "off" => .ok off
  | "warn" => .ok warn
  | "error" => .ok error
  | other => .error ("invalid rule level \"" ++ other ++ "\"")

/-- The level of a number. -/
def ofNumber (value : Json) : Except String RuleLevel :=
  match value with
  | .int 0 => .ok off
  | .int 1 => .ok warn
  | .int 2 => .ok error
  | other => .error ("invalid rule level " ++ other.render)

/-- The level that a value names: by its name, by its number, or as the first of an array. -/
def ofJson : Json → Except String RuleLevel
  | .str name => ofName name
  | .int n => ofNumber (.int n)
  | .float x => ofNumber (.float x)
  | .arr (first :: _) => ofJson first
  | other => .error ("invalid rule configuration " ++ other.render)

/-- Reads a level. -/
def reader : Reader RuleLevel := do
  match ofJson (← Reader.value) with
  | .ok level => return level
  | .error text => Reader.refuse text

end RuleLevel

/-- A table of rules. -/
abbrev LintRules := SortedMap RuleLevel

namespace LintRules

/-- What the full names of all rules start with. -/
def space : String := "@typescript-eslint/"

/-- The table of a text. -/
def parse (text : String) : Except JsonError LintRules :=
  (Reader.mapOf RuleLevel.reader).run text

/-- The full name of a rule. -/
def qualify (name : String) : String :=
  if space.toList.isPrefixOf name.toList then name else space ++ name

/-- The table with the full names of its rules. -/
def qualified (rules : LintRules) : LintRules :=
  SortedMap.ofList (rules.entries.map fun (name, level) => (qualify name, level))

/-- The table as it is written. -/
def toJson (rules : LintRules) : Json := Json.ofMap (fun level => .nat level.severity) rules

end LintRules

end ScriptHost
