import ProtoSchema.Yaml.Node
import ProtoSchema.Yaml.Tokens

/-!
# YAML documents

A text holds one document: a root node whose aliases are numbers, and the nodes that
the numbers stand for. An alias must follow the definition of its name. The number of
a name is the number of names that were known before it was defined. A name that is
defined again is therefore given a number that a later name may share, and a number
stands for the last node to which it was given.
-/

namespace ProtoSchema.Yaml

/-- A document. `targets` holds the nodes with an anchor in the order of their
beginning, and `size` measures the whole document. -/
structure Document where
  root : Node Nat
  targets : List (Nat × Node Nat)
  size : Nat

namespace Node

/-- Give an anchor its number among the names that are known. -/
def define (names : List (String × Nat)) : Option String → Option Nat × List (String × Nat)
  | none => (none, names)
  | some name =>
    let number := names.length
    (some number, (name, number) :: names.filter (·.1 != name))

mutual

/-- Replace labels by numbers, given the names that are known. -/
def numbered (names : List (String × Nat)) :
    Node String → Except Fault (Node Nat × List (String × Nat))
  | .scalar anchor isPlain text =>
    let (anchor, names) := define names anchor
    .ok (.scalar anchor isPlain text, names)
  | .list anchor items => do
    let (anchor, names) := define names anchor
    let (items, names) ← numberedItems names items
    return (.list anchor items, names)
  | .record anchor members => do
    let (anchor, names) := define names anchor
    let (members, names) ← numberedMembers names members
    return (.record anchor members, names)
  | .alias name =>
    match names.lookup name with
    | some number => .ok (.alias number, names)
    | none => .error .unknownAlias

/-- Replace labels by numbers in items. -/
def numberedItems (names : List (String × Nat)) :
    List (Node String) → Except Fault (List (Node Nat) × List (String × Nat))
  | [] => .ok ([], names)
  | item :: rest => do
    let (item, names) ← numbered names item
    let (rest, names) ← numberedItems names rest
    return (item :: rest, names)

/-- Replace labels by numbers in members. -/
def numberedMembers (names : List (String × Nat)) :
    List (Node String × Node String) →
      Except Fault (List (Node Nat × Node Nat) × List (String × Nat))
  | [] => .ok ([], names)
  | (key, value) :: rest => do
    let (key, names) ← numbered names key
    let (value, names) ← numbered names value
    let (rest, names) ← numberedMembers names rest
    return ((key, value) :: rest, names)

end

/-- A node under its number, if it has one. -/
def target {ρ : Type} (anchor : Option ρ) (node : Node ρ) : List (ρ × Node ρ) :=
  match anchor with
  | none => []
  | some number => [(number, node)]

mutual

/-- The nodes with an anchor in the order of their beginning. -/
def targets {ρ : Type} : Node ρ → List (ρ × Node ρ)
  | .scalar anchor isPlain text => target anchor (.scalar anchor isPlain text)
  | .list anchor items => target anchor (.list anchor items) ++ itemTargets items
  | .record anchor members => target anchor (.record anchor members) ++ memberTargets members
  | .alias _ => []

/-- The nodes with an anchor among items. -/
def itemTargets {ρ : Type} : List (Node ρ) → List (ρ × Node ρ)
  | [] => []
  | item :: rest => targets item ++ itemTargets rest

/-- The nodes with an anchor among members. -/
def memberTargets {ρ : Type} : List (Node ρ × Node ρ) → List (ρ × Node ρ)
  | [] => []
  | (key, value) :: rest => targets key ++ targets value ++ memberTargets rest

end

mutual

/-- The size of a node: one for a scalar or alias, two for a collection besides its
content. -/
def size {ρ : Type} : Node ρ → Nat
  | .scalar .. | .alias _ => 1
  | .list _ items => 2 + itemSizes items
  | .record _ members => 2 + memberSizes members

/-- The size of items. -/
def itemSizes {ρ : Type} : List (Node ρ) → Nat
  | [] => 0
  | item :: rest => size item + itemSizes rest

/-- The size of members. -/
def memberSizes {ρ : Type} : List (Node ρ × Node ρ) → Nat
  | [] => 0
  | (key, value) :: rest => size key + size value + memberSizes rest

end

end Node

namespace Document

/-- The document of a root node. -/
def ofRoot (root : Node String) : Except Fault Document := do
  let (root, _) ← root.numbered []
  return { root, targets := root.targets, size := root.size }

/-- The document of a text. -/
def ofText (text : String) : Except Fault Document := do
  ofRoot (← Node.ofTokens (← tokens text))

/-- The node that a number stands for. -/
def target? (document : Document) (number : Nat) : Option (Node Nat) :=
  document.targets.reverse.lookup number

end Document

end ProtoSchema.Yaml
