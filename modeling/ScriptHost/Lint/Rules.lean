import ScriptHost.Lint.Level
import ScriptHost.Lint.Message
import ScriptHost.Lint.Promise
/-!
# The rules of the linter

- `LintRule`: a rule with its name and what it finds.
- `LintRule.all`: the rules.
- `Program.verify`: the messages of a table of rules about a text.
-/

namespace ScriptHost

/-- What a rule finds at a place. -/
structure Finding where
  messageId : String
  message : String
  span : Span
deriving Repr, Inhabited

/-- A rule. -/
structure LintRule where
  name : String
  findings : Program → SourceFile → List Finding

namespace LintRule

/-- Finds types that allow anything. -/
def explicitAny : LintRule where
  name := "no-explicit-any"
  findings _ file := file.module.collect fun n =>
    match n.form with
    | .typeKeyword "any" =>
      [⟨"unexpectedAny", "Unexpected any. Specify a different type.", n.span⟩]
    | _ => []

/-- Finds assertions that a value is there. -/
def nonNullAssertion : LintRule where
  name := "no-non-null-assertion"
  findings _ file := file.module.collect fun n =>
    match n.form with
    | .nonNull => [⟨"noNonNull", "Forbidden non-null assertion.", n.span⟩]
    | _ => []

/-- The wording about a promise that is left alone. -/
def floatingMessage : String :=
  "Promises must be awaited, end with a call to .catch, end with a call to .then with a rejection handler or be explicitly marked as ignored with the `void` operator."

/-- Finds promises of which nothing becomes. -/
def floatingPromises : LintRule where
  name := "no-floating-promises"
  findings p file :=
    let promises := Promises.ofFiles p.files
    file.module.collect fun n =>
      match n with
      | .mk .exprStmt span [e] =>
        if promises.isFloating e then [⟨"floatingVoid", floatingMessage, span⟩] else []
      | _ => []

/-- The rules. -/
def all : List LintRule := [explicitAny, floatingPromises, nonNullAssertion]

/-- The full names of the rules. -/
def names : List String := all.map fun rule => LintRules.space ++ rule.name

/-- The rule of a full name. -/
def named? (name : String) : Option LintRule :=
  all.find? fun rule => LintRules.space ++ rule.name == name

end LintRule

namespace Finding

/-- The message of a finding in a text. -/
def toMessage (f : Finding) (rule : String) (level : RuleLevel) (source : String) :
    LintMessage :=
  let (start, length) := SourceFile.range f.span
  let stop := Location.ofOffset source (start + length)
  { ruleId := some rule, messageId := some f.messageId, severity := level.severity
    message := f.message, start := Location.ofOffset source start
    endLine := some stop.line, endColumn := some stop.column }

end Finding

namespace LintMessage

/-- The message about a text that cannot be read. -/
def ofSyntaxError (error : Report) (source : String) : LintMessage :=
  { severity := 2, message := "Parsing error: " ++ error.message.text
    start := Location.ofOffset source (error.start.getD 0) }

/-- The message about a rule that does not exist. -/
def unknownRule (name : String) (level : RuleLevel) : LintMessage :=
  { ruleId := some name, severity := level.severity
    message := "Definition for rule '" ++ name ++ "' was not found.", start := ⟨1, 1⟩ }

/-- Whether a message does not stand behind another. -/
def standsBy (a b : LintMessage) : Bool :=
  a.start.line < b.start.line || (a.start.line == b.start.line && a.start.column ≤ b.start.column)

end LintMessage

namespace Program

/-- The file of that path if it has the given text, or else the text read as that file. -/
def fileWithText (p : Program) (path source : String) : SourceFile :=
  match p.file? path with
  | some file => if file.text == source then file else SourceFile.parse path source
  | none => SourceFile.parse path source

/-- The messages of one rule about a file. -/
def ruleMessages (p : Program) (file : SourceFile) (source : String) (name : String)
    (level : RuleLevel) : List LintMessage :=
  if level == .off then []
  else
    match LintRule.named? name with
    | some rule => (rule.findings p file).map fun f => f.toMessage name level source
    | none => [.unknownRule name level]

/-- The messages of a table of rules about a text, in the order of their places. -/
def verify (p : Program) (rules : LintRules) (path source : String) : List LintMessage :=
  let file := p.fileWithText path source
  match file.syntaxErrors with
  | error :: _ => [.ofSyntaxError error source]
  | [] =>
    (rules.entries.flatMap fun (name, level) =>
      p.ruleMessages file source name level).mergeSort LintMessage.standsBy

end Program

end ScriptHost
