import RunLine.Yaml.Token
/-!
# YAML nodes

The tree that a document states.  A node with a name carries the number of that name; an alias
stands for the last node, in the order of the text, that carries its number.
-/

namespace RunLine.Yaml

/-- A node. -/
inductive Node where
  | scalar (label : Option Nat) (tag : Option Text) (form : ScalarForm) (text : Text)
  | alias (label : Nat)
  | sequence (label : Option Nat) (items : List Node)
  | mapping (label : Option Nat) (pairs : List (Node × Node))
  deriving Repr

namespace Node

/-- What stands where a node is left out. -/
def missing : Node := .scalar none none .plain []

mutual

/-- The last node in a tree that carries a number. -/
def labelled? (wanted : Nat) : Node → Option Node
  | .scalar label tag form text =>
      if label = some wanted then some (.scalar label tag form text) else none
  | .alias _ => none
  | .sequence label items =>
      (labelledItem? wanted items).or
        (if label = some wanted then some (.sequence label items) else none)
  | .mapping label pairs =>
      (labelledPair? wanted pairs).or
        (if label = some wanted then some (.mapping label pairs) else none)

/-- The last node among items that carries a number. -/
def labelledItem? (wanted : Nat) : List Node → Option Node
  | [] => none
  | item :: rest => (labelledItem? wanted rest).or (labelled? wanted item)

/-- The last node among keys and values that carries a number. -/
def labelledPair? (wanted : Nat) : List (Node × Node) → Option Node
  | [] => none
  | (key, value) :: rest =>
      (labelledPair? wanted rest).or ((labelled? wanted value).or (labelled? wanted key))

end

/-- The node that a node of a tree stands for. -/
def target? (root : Node) : Node → Option Node
  | .alias label => root.labelled? label
  | node => some node

end Node

end RunLine.Yaml
