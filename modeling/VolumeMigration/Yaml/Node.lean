import VolumeMigration.Yaml.Tag
import VolumeMigration.Yaml.Token

/-!
# YAML nodes

A node is a scalar, a sequence or a mapping, perhaps with an anchor and a tag, or an alias: a
reference to the node with an anchor. `Node.read?` reads the node at the start of some tokens. Where
a value is missing the node is an empty plain scalar.
-/

namespace VolumeMigration

namespace Yaml

/-- What may stand before a node. -/
structure Properties where
  anchor : Option String
  tag : Option Octets
  deriving DecidableEq

/-- A node whose aliases are references of type `ρ`. -/
inductive Node (ρ : Type) where
  | alias (anchor : ρ)
  | scalar (properties : Properties) (plain : Bool) (text : String)
  | sequence (properties : Properties) (elements : List (Node ρ))
  | mapping (properties : Properties) (entries : List (Node ρ × Node ρ))

/-- What the handles of tags stand for. -/
abbrev Handles := List (String × Octets)

/-- What a handle stands for, by a directive or else by the standard. -/
def Handles.meaning? (handles : Handles) (handle : String) : Option Octets :=
  (handles.lookup handle).or (standardMeaning? handle)

/-- The tag of a handle and a suffix. -/
def Handles.tag? (handles : Handles) (handle : String) (suffix : Octets) : Option Octets :=
  if handle = "" then some suffix else (handles.meaning? handle).map (· ++ suffix)

/-- Where a node stands. A sequence in a mapping that indentation delimits need not be indented
itself. -/
inductive NodePlace where
  | bracket
  | element
  | entry
  deriving DecidableEq

namespace Properties

/-- A node without tag and anchor. -/
def none : Properties := ⟨.none, .none⟩

/-- The properties at the start of some tokens, in either order, and what follows them. -/
def read? (handles : Handles) (tokens : List Token) : Option (Properties × List Token) :=
  match tokens with
  | .anchor name :: .tag handle suffix :: rest | .tag handle suffix :: .anchor name :: rest =>
      (handles.tag? handle suffix).map fun tag => (⟨some name, some tag⟩, rest)
  | .anchor name :: rest => some (⟨some name, .none⟩, rest)
  | .tag handle suffix :: rest =>
      (handles.tag? handle suffix).map fun tag => (⟨.none, some tag⟩, rest)
  | _ => some (.none, tokens)

/-- The properties of a scalar. A lone exclamation mark says nothing about it. -/
def ofScalar (properties : Properties) : Properties :=
  { properties with tag := properties.tag.filter (· != octets ['!']) }

end Properties

namespace Node

/-- The node that stands for a missing value. -/
def empty {ρ : Type} : Node ρ := .scalar .none true ""

/-- Whether the first of some tokens is one of several. -/
def startsWithAny (expected : List Token) (tokens : List Token) : Bool :=
  tokens.head?.any expected.contains

mutual

/-- The node at the start of some tokens, and what follows it. -/
def readFrom (handles : Handles) (place : NodePlace) :
    Nat → List Token → Option (Node String × List Token)
  | 0, _ => none
  | fuel + 1, tokens =>
      match tokens with
      | .alias name :: rest => some (.alias name, rest)
      | _ => do
          let (properties, rest) ← Properties.read? handles tokens
          match rest, place with
          | .scalar plain text :: rest, _ =>
              return (.scalar properties.ofScalar plain text, rest)
          | .openBracket :: rest, _ => flowElements handles properties true [] fuel rest
          | .openBrace :: rest, _ => flowEntries handles properties true [] fuel rest
          | .dash :: _, .entry => flatElements handles properties [] fuel rest
          | .sequenceStart :: rest, .element | .sequenceStart :: rest, .entry =>
              elements handles properties [] fuel rest
          | .mappingStart :: rest, .element | .mappingStart :: rest, .entry =>
              entries handles properties [] fuel rest
          | _, _ =>
              if properties = .none then none else return (.scalar properties true "", rest)

/-- A node that is missing where one of several tokens stands. -/
def readUnless (handles : Handles) (place : NodePlace) (ends : List Token) :
    Nat → List Token → Option (Node String × List Token)
  | 0, _ => none
  | fuel + 1, tokens =>
      if startsWithAny ends tokens then some (.empty, tokens)
      else readFrom handles place fuel tokens

/-- The rest of a sequence whose first elements were read, the last one first. -/
def elements (handles : Handles) (properties : Properties) (read : List (Node String)) :
    Nat → List Token → Option (Node String × List Token)
  | 0, _ => none
  | fuel + 1, tokens =>
      match tokens with
      | .dash :: rest => do
          let (element, behind) ← readUnless handles .element [.dash, .blockEnd] fuel rest
          elements handles properties (element :: read) fuel behind
      | .blockEnd :: rest => some (.sequence properties read.reverse, rest)
      | _ => none

/-- The rest of a sequence that is not indented itself. -/
def flatElements (handles : Handles) (properties : Properties) (read : List (Node String)) :
    Nat → List Token → Option (Node String × List Token)
  | 0, _ => none
  | fuel + 1, tokens =>
      match tokens with
      | .dash :: rest => do
          let (element, behind) ←
            readUnless handles .element [.dash, .key, .value, .blockEnd] fuel rest
          flatElements handles properties (element :: read) fuel behind
      | _ => some (.sequence properties read.reverse, tokens)

/-- The rest of a mapping whose first entries were read, the last one first. -/
def entries (handles : Handles) (properties : Properties)
    (read : List (Node String × Node String)) :
    Nat → List Token → Option (Node String × List Token)
  | 0, _ => none
  | fuel + 1, tokens =>
      match tokens with
      | .key :: rest => do
          let (key, behind) ← readUnless handles .entry [.key, .value, .blockEnd] fuel rest
          let (value, behind) ← valueOf handles .entry [.key, .value, .blockEnd] fuel behind
          entries handles properties ((key, value) :: read) fuel behind
      | .blockEnd :: rest => some (.mapping properties read.reverse, rest)
      | _ => none

/-- The value of a key; it is missing if there is no colon. -/
def valueOf (handles : Handles) (place : NodePlace) (ends : List Token) :
    Nat → List Token → Option (Node String × List Token)
  | 0, _ => none
  | fuel + 1, tokens =>
      match tokens with
      | .value :: rest => readUnless handles place ends fuel rest
      | _ => some (.empty, tokens)

/-- The rest of a sequence between brackets. A comma stands before all elements but the first. A key
starts a mapping of one entry; where it is missing, the token behind the mark is passed over. -/
def flowElements (handles : Handles) (properties : Properties) (first : Bool)
    (read : List (Node String)) : Nat → List Token → Option (Node String × List Token)
  | 0, _ => none
  | fuel + 1, tokens => do
      let left ←
        match first, tokens with
        | false, .comma :: rest => some rest
        | false, .closeBracket :: _ => some tokens
        | false, _ => none
        | true, _ => some tokens
      match left with
      | .closeBracket :: rest => return (.sequence properties read.reverse, rest)
      | .key :: rest => do
          let (key, behind) ←
            if startsWithAny [.value, .comma, .closeBracket] rest then
              some (Node.empty, rest.drop 1)
            else readFrom handles .bracket fuel rest
          let (value, behind) ← valueOf handles .bracket [.comma, .closeBracket] fuel behind
          flowElements handles properties false (.mapping .none [(key, value)] :: read) fuel behind
      | left => do
          let (element, behind) ← readFrom handles .bracket fuel left
          flowElements handles properties false (element :: read) fuel behind

/-- The rest of a mapping between braces. A comma stands before all entries but the first. -/
def flowEntries (handles : Handles) (properties : Properties) (first : Bool)
    (read : List (Node String × Node String)) :
    Nat → List Token → Option (Node String × List Token)
  | 0, _ => none
  | fuel + 1, tokens => do
      let left ←
        match first, tokens with
        | false, .comma :: rest => some rest
        | false, .closeBrace :: _ => some tokens
        | false, _ => none
        | true, _ => some tokens
      match left with
      | .closeBrace :: rest => return (.mapping properties read.reverse, rest)
      | .key :: rest => do
          let (key, behind) ←
            readUnless handles .bracket [.value, .comma, .closeBrace] fuel rest
          let (value, behind) ← valueOf handles .bracket [.comma, .closeBrace] fuel behind
          flowEntries handles properties false ((key, value) :: read) fuel behind
      | left => do
          let (key, behind) ← readFrom handles .bracket fuel left
          flowEntries handles properties false ((key, .empty) :: read) fuel behind

end

/-- The node at the start of some tokens, and what follows it. Between two tokens at most three
readers start. -/
def read? (handles : Handles) (tokens : List Token) : Option (Node String × List Token) :=
  readFrom handles .element (4 * tokens.length + 4) tokens

end Node

end Yaml

end VolumeMigration
