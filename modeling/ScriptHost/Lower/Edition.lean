import ScriptHost.Lower.Async
import ScriptHost.Lower.Block
import ScriptHost.Lower.BlockName
import ScriptHost.Lower.Class
import ScriptHost.Lower.ClassField
import ScriptHost.Lower.Function
import ScriptHost.Lower.Generator
import ScriptHost.Lower.Loop
import ScriptHost.Lower.LoopBody
import ScriptHost.Lower.ObjectRest
import ScriptHost.Lower.OptionalChain
import ScriptHost.Lower.Parameter
import ScriptHost.Lower.Pattern
import ScriptHost.Lower.Reserved
import ScriptHost.Lower.Spelling
import ScriptHost.Lower.Spread
import ScriptHost.Options.Basic
/-!
# Editions of the language

A module is rewritten step by step, from the newest edition down to the one
that its options ask for. Each step takes out what one edition added.

- `Edition.steps`: what each edition added, the newest first.
- `Node.lowerTo`: the module in the edition that options ask for.
-/

namespace ScriptHost

namespace Edition

/-- What the edition of 2022 added. -/
def take2022 (o : CompilerOptions) (module : Node) : Lowering Node :=
  let module := module.rewrite (Node.lowerRegex { flags := ['d'] })
  module.lowerFields (if o.definesFields then .define else .assign)

/-- What the edition of 2021 added. -/
def take2021 (module : Node) : Lowering Node :=
  module.hoistAll .atFront Node.lowerLogicalAssign

/-- What the edition of 2020 added. -/
def take2020 (module : Node) : Lowering Node := do
  let module ← module.hoistAll .beforeUse Node.lowerNullish
  let module ← module.lowerChains
  module.lowerNamespaceExports

/-- What the edition of 2019 added. -/
def take2019 (module : Node) : Lowering Node := module.rewriteM Node.lowerCatch

/-- What the edition of 2018 added. -/
def take2018 (module : Node) : Lowering Node := do
  let module := module.rewrite
    (Node.lowerRegex { flags := ['s'], pieces := ["(?<", "\\p\x7b", "\\P\x7b"] })
  let module ← module.hoistAll .beforeUse Node.lowerObjectRest
  module.rewriteM Node.lowerObjectSpread

/-- What the edition of 2017 added. -/
def take2017 (module : Node) : Lowering Node := do
  let module ← module.replaceLoops Node.awaitingLoops
  module.lowerAsync

/-- What the edition of 2016 added. -/
def take2016 (module : Node) : Lowering Node := module.hoistAll .atFront Node.lowerPower

/-- What the edition of 2015 added. Templates with a tag come before plain ones, and arrow functions
are left without a name. -/
def take2015 (o : CompilerOptions) (module : Node) : Lowering Node := do
  let module := module.lowerBlockFunctions false
  let module ← module.lowerTagged
  let module := module.rewrite Node.lowerTemplate
  let module ← module.withoutClasses
  let module ← module.lowerNewTarget .other
  let module ← module.hoistAll .atFront Node.lowerSpread
  let module ← module.hoistAll .atFront Node.lowerObjectBase
  let module := module.rewrite Node.lowerShorthand
  let module ← module.rewriteM Node.nameFunctions
  let module ← module.replaceLoops (Node.plainLoops (!o.downlevelIteration))
  let module ← module.lowerArrows
  let module ← module.rewriteM Node.lowerParams
  let module := module.rewrite
    (Node.lowerRegex { flags := ['s', 'u', 'y'], pieces := ["(?<"] })
  let module ← module.lowerTypeTests
  let module ← module.hoistAll .beforeUse Node.lowerComputed
  let module ← module.hoistAll .beforeUse Node.lowerPatterns
  let module ← module.withBlockNames.lowerBlockVars
  module.rewriteM Node.lowerGenerator

/-- What the edition of 2009 added. -/
def take2009 (module : Node) : Lowering Node := return module.lowerReserved

/-- What each edition added, the newest first. -/
def steps (o : CompilerOptions) : List (Target × (Node → Lowering Node)) :=
  [(.es2022, take2022 o), (.es2021, take2021), (.es2020, take2020), (.es2019, take2019),
   (.es2018, take2018), (.es2017, take2017), (.es2016, take2016), (.es2015, take2015 o),
   (.es5, take2009)]

end Edition

/-- The module in the edition that options ask for. -/
def Node.lowerTo (o : CompilerOptions) (module : Node) : Lowering Node :=
  ((Edition.steps o).filter fun step => o.target.isBelow step.1).foldlM
    (fun module step => step.2 module) module

end ScriptHost
