import ScriptHost.Options.Basic
/-!
# Settings as they are shown

- `Environment.display`, `CompilerOptions.display`: settings in one line.
-/

namespace ScriptHost

namespace Display

/-- A record with its members. -/
def record (name : String) (members : List (String × String)) : String :=
  name ++ " \x7b " ++ ", ".intercalate (members.map fun (n, v) => n ++ ": " ++ v) ++ " \x7d"

/-- A truth value. -/
def bool (b : Bool) : String := if b then "true" else "false"

/-- A list. -/
def list (parts : List String) : String := "[" ++ ", ".intercalate parts ++ "]"

/-- A map. -/
def map (entries : List (String × String)) : String :=
  "\x7b" ++ ", ".intercalate (entries.map fun (n, v) => Text.quoted n ++ ": " ++ v) ++ "\x7d"

/-- A number that may be a fraction. -/
def float (x : Float) : String := dataNumberText x

mutual
/-- A value of a data file. -/
def json : Json → String
  | .null => "Null"
  | .bool b => "Bool(" ++ bool b ++ ")"
  | .int n => "Number(" ++ toString n ++ ")"
  | .float x => "Number(" ++ float x ++ ")"
  | .str s => "String(" ++ Text.quoted s ++ ")"
  | .arr items => "Array " ++ list (jsonItems items)
  | .obj members => "Object " ++ map (jsonMembers members)
/-- Values of a data file. -/
def jsonItems : List Json → List String
  | [] => []
  | v :: vs => json v :: jsonItems vs
/-- Members of an object. -/
def jsonMembers : List (String × Json) → List (String × String)
  | [] => []
  | (n, v) :: ms => (n, json v) :: jsonMembers ms
end

end Display

open Display

/-- What a host knows, in one line. -/
def Environment.display (e : Environment) : String :=
  record "HostEnvironment"
    [("default_lib_file_name", Text.quoted e.defaultLib),
     ("ambient_declaration_suffix", Text.quoted e.ambientEnding)]

/-- The options, in one line. -/
def CompilerOptions.display (o : CompilerOptions) : String :=
  record "CompilerOptions"
    [("target", o.target.name), ("module", o.module.name), ("strict", bool o.strict),
     ("skip_lib_check", bool o.skipLibCheck), ("es_module_interop", bool o.esModuleInterop),
     ("downlevel_iteration", bool o.downlevelIteration),
     ("experimental_decorators", bool o.experimentalDecorators),
     ("emit_decorator_metadata", bool o.emitDecoratorMetadata),
     ("no_error_truncation", bool o.noErrorTruncation), ("allow_js", bool o.allowJs),
     ("no_emit", bool o.noEmit), ("no_emit_on_error", bool o.noEmitOnError),
     ("base_url", match o.baseUrl with
        | some base => "Some(" ++ Text.quoted base ++ ")"
        | none => "None"),
     ("paths", map (o.paths.entries.map fun (n, places) => (n, list (places.map Text.quoted)))),
     ("extra", map (o.extra.entries.map fun (n, v) => (n, json v)))]

end ScriptHost
