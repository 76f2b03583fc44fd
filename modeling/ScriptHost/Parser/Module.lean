import ScriptHost.Parser.ModuleItem
/-!
# Modules

The rules of the grammar are tied together by the depth to which they nest,
and a text is read as a module. A text with an error that gives it up has no
items, and the errors found so far are answered.

- `Parsed`: what reading a text yields.
- `parseModule`: reads a text.
-/

namespace ScriptHost

namespace Parse

/-- The rule of a nonterminal in terms of the others. -/
def rule (p : Descend) : Nonterminal → Parse Node
  | .expr => expr p
  | .assign => assign p
  | .unary => unary p
  | .operand => operand p
  | .binaryTail left minimum => binaryTail p left minimum
  | .memberOrNew isNew => memberOrNew p isNew
  | .statement declares => statement p declares
  | .moduleItem => moduleItem p
  | .block => block p
  | .binding => binding p false
  | .type => typeExpr p
  | .params => return .ofList (← formalParams p)
  | .object => objectLiteral p
  | .decorators => return .ofList (← decorators p false)
  | .element start => element p start
  | .namespaceTail start => namespaceTail p start

/-- Reads a nonterminal whose rules nest no deeper than the given depth. -/
def ruleWithin : Nat → Nonterminal → Parse Node
  | 0, _ => failAtEnd
  | depth + 1, n => rule (ruleWithin depth) n

/-- Reads a module. -/
def module : Parse Node := do
  let size := (← get).scanner.size
  let p := ruleWithin (16 * (size + 16))
  modify fun s => { s with place := { s.place with atTop := true } }
  let start ← pos
  let shebang ← match ← current with
    | some ⟨.shebang text, _, _, _⟩ => do
      let _ ← bump
      pure (some text)
    | _ => pure none
  let items ← repeatUntil [] fun acc => do
    if ← atEnd then return .inr acc
    return .inl (acc ++ [← moduleItem p])
  node start (.module shebang) items

end Parse

/-- What reading a text yields. -/
structure Parsed where
  module : Node
  comments : Comments
  issues : List Issue
deriving Inhabited

/-- Reads a text as a module. -/
def parseModule (dialect : Dialect) (text : String) : Parsed :=
  let place : Place := { inDeclare := dialect.ambient }
  match Parse.module.run { dialect, scanner := Scanner.ofText text, place } with
  | .ok m s => ⟨m, s.comments, s.issues.toList⟩
  | .error e s => ⟨.mk (.module none) .synthetic [], s.comments, s.issues.toList ++ [e]⟩

end ScriptHost
