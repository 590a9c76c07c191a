import VolumeMigration.Yaml.Document
import VolumeMigration.Yaml.Value

/-!
# What YAML nodes stand for

An alias stands for what the node with its anchor stands for, which may hold the alias itself: then
nothing does. Collections are nested at most 128 deep, aliases included, and aliases are followed at
most a hundred times for each scalar, alias, start and end of a collection in a document. The keys
of a mapping differ.

An anchor is known by the number of names that are anchored before it. `Anchors.number` gives
aliases that number, and `Anchors.latest` says which node counts: of those with one number, the one
that starts last.
-/

namespace VolumeMigration

namespace Yaml

/-- The anchors of a document. -/
structure Anchors where
  /-- The number of each name, the latest one first. -/
  numbers : List (String × Nat)
  /-- How many names there are. -/
  names : Nat
  /-- The start of the node that counts for each number, the latest one first. -/
  latest : List (Nat × Nat)
  /-- The nodes with anchors by their starts. -/
  nodes : List (Nat × Node Nat)
  /-- How many nodes with anchors have started. -/
  starts : Nat

namespace Anchors

/-- No anchors. -/
def none : Anchors := ⟨[], 0, [], [], 0⟩

/-- Starts a node that may have an anchor. The answer is its start. -/
def start (anchors : Anchors) (properties : Properties) : Option Nat × Anchors :=
  match properties.anchor with
  | .none => (.none, anchors)
  | some name =>
      let number := anchors.names
      let isNew := (anchors.numbers.lookup name).isNone
      (some anchors.starts,
        { anchors with
          numbers := (name, number) :: anchors.numbers
          names := if isNew then anchors.names + 1 else anchors.names
          latest := (number, anchors.starts) :: anchors.latest
          starts := anchors.starts + 1 })

/-- Keeps a node that has an anchor. -/
def keep (anchors : Anchors) (start : Option Nat) (node : Node Nat) : Node Nat × Anchors :=
  match start with
  | .none => (node, anchors)
  | some start => (node, { anchors with nodes := (start, node) :: anchors.nodes })

mutual

/-- A node whose aliases refer to numbers. An alias of a name that is not anchored before it has
none. -/
def number (anchors : Anchors) : Node String → Option (Node Nat × Anchors)
  | .alias name => (anchors.numbers.lookup name).map fun number => (.alias number, anchors)
  | .scalar properties plain text =>
      let (start, anchors) := anchors.start properties
      some (anchors.keep start (.scalar properties plain text))
  | .sequence properties elements => do
      let (start, anchors) := anchors.start properties
      let (elements, anchors) ← numberElements anchors elements
      return anchors.keep start (.sequence properties elements)
  | .mapping properties entries => do
      let (start, anchors) := anchors.start properties
      let (entries, anchors) ← numberEntries anchors entries
      return anchors.keep start (.mapping properties entries)

/-- The elements of a sequence with their anchors numbered in order. -/
def numberElements (anchors : Anchors) :
    List (Node String) → Option (List (Node Nat) × Anchors)
  | [] => some ([], anchors)
  | element :: rest => do
      let (first, anchors) ← number anchors element
      let (others, anchors) ← numberElements anchors rest
      return (first :: others, anchors)

/-- The entries of a mapping with their anchors numbered in order. -/
def numberEntries (anchors : Anchors) :
    List (Node String × Node String) → Option (List (Node Nat × Node Nat) × Anchors)
  | [] => some ([], anchors)
  | (key, value) :: rest => do
      let (key, anchors) ← number anchors key
      let (value, anchors) ← number anchors value
      let (others, anchors) ← numberEntries anchors rest
      return ((key, value) :: others, anchors)

end

/-- The node that an alias of a number stands for. -/
def node? (anchors : Anchors) (number : Nat) : Option (Node Nat) :=
  (anchors.latest.lookup number).bind fun start => anchors.nodes.lookup start

end Anchors

namespace Node

mutual

/-- How many scalars, aliases, starts and ends of collections a node has. -/
def size {ρ : Type} : Node ρ → Nat
  | .alias _ | .scalar _ _ _ => 1
  | .sequence _ elements => sizeOfElements elements + 2
  | .mapping _ entries => sizeOfEntries entries + 2

/-- The size of all elements of a sequence. -/
def sizeOfElements {ρ : Type} : List (Node ρ) → Nat
  | [] => 0
  | element :: rest => size element + sizeOfElements rest

/-- The size of all entries of a mapping. -/
def sizeOfEntries {ρ : Type} : List (Node ρ × Node ρ) → Nat
  | [] => 0
  | (key, value) :: rest => size key + size value + sizeOfEntries rest

end

end Node

/-- The name of a local tag: what is behind its exclamation mark. -/
def localName? (tag : Octets) : Option String :=
  match tag with
  | [] => none
  | mark :: name =>
      if mark = '!'.toNat.toUInt8 then String.fromUTF8? ⟨name.toArray⟩ else none

namespace Value

/-- What a scalar stands for if its tag does not give it a name. -/
def ofScalar? (tag : Option Octets) (plain : Bool) (text : String) : Option Value :=
  match tag with
  | none => if plain then ofPlain? text else some (.string text)
  | some tag =>
      if tag = coreTag "bool" then (bool? text).map .bool
      else if tag = coreTag "int" then ((integer? text.toList).filter isStorable).map .integer
      else if tag = coreTag "float" then (floating? text).map .floating
      else if tag = coreTag "null" then if isNullWord text then some .null else none
      else if plain && tag.head? = some '!'.toNat.toUInt8 then ofPlain? text
      else some (.string text)

/-- A value with a local tag, if there is one. Its name may not be empty. -/
def withTag? (name : Option String) (value : Value) : Option Value :=
  match name with
  | none => some value
  | some name => if name = "" then none else some (.tagged name value)

/-- How deep values may be nested. -/
def depthLimit : Nat := 128

/-- The mapping of some entries, whose keys must differ. -/
def ofEntries? (entries : List (Value × Value)) : Option Value :=
  if distinctKeys entries then some (.mapping entries) else none

/-- Follows an alias while the state says how often that may still be done. -/
def follow (anchors : Anchors) (node : Node Nat) : StateT Nat Option (Node Nat) :=
  match node with
  | .alias number => fun left =>
      if left = 0 then none else (anchors.node? number).map fun node => (node, left - 1)
  | node => pure node

/-- What a node stands for, given how deep collections in it may be nested. -/
def ofNode? (anchors : Anchors) (depth : Nat) (node : Node Nat) : StateT Nat Option Value := do
  match ← follow anchors node with
  | .alias _ => failure
  | .scalar properties plain text =>
      match properties.tag.bind localName? with
      | some name => (do withTag? (some name) (← ofScalar? none plain text) : Option Value)
      | none => ofScalar? properties.tag plain text
  | .sequence properties elements =>
      match depth with
      | 0 => failure
      | depth + 1 =>
          let values ← elements.mapM (ofNode? anchors depth)
          withTag? (properties.tag.bind localName?) (.sequence values)
  | .mapping properties entries =>
      match depth with
      | 0 => failure
      | depth + 1 =>
          let values ← entries.mapM fun entry => do
            return (← ofNode? anchors depth entry.1, ← ofNode? anchors depth entry.2)
          let value ← ofEntries? values
          withTag? (properties.tag.bind localName?) value

/-- What the node of a document stands for. -/
def ofDocument? (node : Node String) : Option Value := do
  let (numbered, anchors) ← Anchors.none.number node
  let (value, _) ← (ofNode? anchors depthLimit numbered).run (100 * node.size)
  return value

end Value

/-- The values of the documents in a text. -/
def values? (text : String) : Option (List Value) :=
  (documents? text).bind (·.mapM Value.ofDocument?)

end Yaml

end VolumeMigration
