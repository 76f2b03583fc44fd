/-!
# Messages of several explanations

A message is plain text, or a chain of explanations each of which may be
explained further. `Message.text` lays a chain out with one line for each
explanation, indented by its depth.
-/

namespace ScriptHost

/-- An explanation and those that explain it. -/
inductive MessageChain where
  | mk (text : String) (next : List MessageChain)
deriving Repr, Inhabited, BEq

namespace MessageChain

mutual
/-- The explanations depth first, each with its depth. -/
def layout (depth : Nat) : MessageChain → List (Nat × String)
  | mk text next => (depth, text) :: layoutAll (depth + 1) next
/-- `layout` for a list of chains. -/
def layoutAll (depth : Nat) : List MessageChain → List (Nat × String)
  | [] => []
  | c :: cs => layout depth c ++ layoutAll depth cs
end

end MessageChain

/-- A message as it is reported. -/
inductive Message where
  | flat (text : String)
  | chain (root : MessageChain)
deriving Repr, Inhabited, BEq

namespace Message

/-- A line of a chain: two blanks for each level, then the text. -/
def line (depth : Nat) (text : String) : String :=
  String.ofList (List.replicate (2 * depth) ' ') ++ text

/-- The message as one text. -/
def text : Message → String
  | flat t => t
  | chain root => "\n".intercalate ((root.layout 0).map fun (d, t) => line d t)

end Message

end ScriptHost
