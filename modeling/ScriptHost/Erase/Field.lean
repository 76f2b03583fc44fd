import ScriptHost.Lower.Constructor
/-!
# Parameters that declare members

A parameter of a constructor may declare a member of the class. The class then
gets a field for it, and the constructor sets it together with the other
fields.

- `Node.withFields`: the class with fields for such parameters.
-/

namespace ScriptHost

namespace Node

/-- The name of a variable as the name of a property. -/
def asProperty (n : Node) : Node :=
  match n with
  | mk (.ident name _ _) _ _ => propName name
  | n => n

/-- A made reference to a variable. -/
def asVar (n : Node) : Node :=
  match n with
  | mk (.ident name scope _) _ _ => var name scope
  | n => n

/-- The name that a parameter binds, without its default. -/
def paramTarget (pattern : Node) : Node :=
  match pattern with
  | mk .assignPat _ (target :: _) => target
  | p => p

/-- The members that the parameters of a constructor declare. -/
def declaredMembers (member : Node) : List Node :=
  match member with
  | mk (.constructor _) _ [_, ps, _] => ps.items.filterMap fun p =>
    match p with
    | mk (.paramProp _) _ [_, pattern] => some pattern.paramTarget
    | _ => Option.none
  | _ => []

/-- A constructor whose parameters declare no members. -/
def withPlainParams (member : Node) : Node :=
  match member with
  | mk (.constructor mods) sp [key, ps, body] =>
    let plain (p : Node) : Node :=
      match p with
      | mk (.paramProp _) psp cs => mk .param psp cs
      | p => p
    mk (.constructor mods) sp [key, ps.withChildren (ps.items.map plain), body]
  | m => m

/-- A field without a value and the expression that sets it; a computed key is kept in a variable
that is added to `vars`. -/
def splitField (vars : List Node) (member : Node) :
    Lowering (List Node × Node × List Node) :=
  match member with
  | mk (.classField mods) sp [ds, key, value, ann] =>
    if mods.isStatic || value.isNone then return (vars, member, [])
    else do
      let field (key : Node) : Node := mk (.classField mods) sp [ds, key, none, ann]
      let set (key : Node) : Node := assignTo (memberOf (made .this []) key) value
      match key with
      | mk .computed ksp [e] =>
        if e.form matches .str .. | .num .. then return (vars, field key, [set key])
        else
          let v ← Lowering.freshFor e "key"
          return (vars ++ [v], field (mk .computed ksp [assignTo v e]), [set (made .computed [v])])
      | mk (.str ..) _ _ | mk (.num ..) _ _ =>
        return (vars, field key, [set (made .computed [key])])
      | _ => return (vars, field key, [set key])
  | m => return (vars, m, [])

/-- Fields without values, the expressions that set them and the variables they use. -/
def splitFields (vars : List Node) : List Node → Lowering (List Node × List Node × List Node)
  | [] => return (vars, [], [])
  | m :: ms => do
    let (vars, m, set) ← splitField vars m
    let (vars, ms, sets) ← splitFields vars ms
    return (vars, m :: ms, set ++ sets)

/-- The class with fields for the parameters that declare members, and the variables that it
uses. -/
def withFields (body : Node) : Lowering (Node × List Node) :=
  match body with
  | mk (.classBody isAbstract) sp [ds, super, superArgs, tps, implemented, mk .list lsp members] =>
    do
    let names := members.flatMap declaredMembers
    if names.isEmpty then return (body, [])
    let (vars, members, sets) ← splitFields [] members
    let field (name : Node) : Node := made (.classField {}) [ofList [], name.asProperty, none, none]
    let set (name : Node) : Node := assignTo (memberOf (made .this []) name.asProperty) name.asVar
    let fields := names.map field
    let sets := names.map set ++ sets
    let members := fields ++ members.map fun m =>
      if m.isConstructor then m.withPlainParams.extendConstructor super.isSome sets else m
    return (mk (.classBody isAbstract) sp
      [ds, super, superArgs, tps, implemented, mk .list lsp members], vars)
  | b => return (b, [])

end Node

end ScriptHost
