import ScriptHost.Source.SourceFile
/-!
# What files declare for the whole program

A script declares its names everywhere. Any file may add to the global names
and may declare modules by name.

- `Ambient`: the names and modules that every file of a program sees.
- `Ambient.add`: what one more file declares.
-/

namespace ScriptHost

/-- The names and modules that every file of a program sees. -/
structure Ambient where
  globals : List String := []
  modules : List String := []
deriving Repr, Inhabited

namespace Ambient

/-- The names that a program may use without declaring them. -/
def builtin : List String :=
  ["globalThis", "undefined", "NaN", "Infinity", "arguments", "eval",
   "Object", "Function", "Array", "String", "Number", "Boolean", "Symbol", "BigInt",
   "Math", "JSON", "Date", "RegExp", "Intl", "Reflect", "Proxy", "Atomics",
   "Error", "TypeError", "RangeError", "SyntaxError", "ReferenceError", "EvalError", "URIError",
   "AggregateError", "Promise", "Map", "Set", "WeakMap", "WeakSet", "WeakRef",
   "FinalizationRegistry", "ArrayBuffer", "SharedArrayBuffer", "DataView",
   "Int8Array", "Uint8Array", "Uint8ClampedArray", "Int16Array", "Uint16Array",
   "Int32Array", "Uint32Array", "Float32Array", "Float64Array", "BigInt64Array",
   "BigUint64Array",
   "parseInt", "parseFloat", "isNaN", "isFinite", "encodeURI", "encodeURIComponent",
   "decodeURI", "decodeURIComponent", "escape", "unescape",
   "console", "setTimeout", "clearTimeout", "setInterval", "clearInterval",
   "setImmediate", "clearImmediate", "queueMicrotask", "structuredClone", "fetch",
   "URL", "URLSearchParams", "TextEncoder", "TextDecoder", "AbortController", "AbortSignal",
   "process", "require", "module", "exports", "__dirname", "__filename", "Buffer", "global"]

/-- What a namespace or module declaration declares for the whole program. -/
def ofModuleDecl (isScript : Bool) (decl : Node) : Ambient :=
  match decl with
  | .mk (.moduleDecl _ isGlobal) _ [name, body] =>
    match name.form with
    | .str value _ => { modules := [value] }
    | .ident text _ _ =>
      if isGlobal then
        if body.form matches .moduleBlock then
          { globals := (body.children.filter Node.isDeclaration).flatMap Node.declaredNames }
        else {}
      else if isScript then { globals := [text] }
      else {}
    | _ => {}
  | _ => {}

/-- What an item of a file declares for the whole program. -/
def ofItem (isScript : Bool) (item : Node) : Ambient :=
  match item.form with
  | .moduleDecl .. => ofModuleDecl isScript item
  | .exportNamespace => { globals := (item.child 0).identName?.toList }
  | _ => if isScript && item.isDeclaration then { globals := item.declaredNames } else {}

/-- Both declarations together. -/
def append (a b : Ambient) : Ambient := ⟨a.globals ++ b.globals, a.modules ++ b.modules⟩

/-- What a file declares for the whole program. -/
def ofFile (file : SourceFile) : Ambient :=
  (file.items.map (ofItem !file.isModule)).foldl append {}

/-- The declarations with those of one more file. -/
def add (a : Ambient) (file : SourceFile) : Ambient := a.append (ofFile file)

/-- Whether a name is declared for the whole program. -/
def declares (a : Ambient) (name : String) : Bool :=
  builtin.contains name || a.globals.contains name

end Ambient

end ScriptHost
