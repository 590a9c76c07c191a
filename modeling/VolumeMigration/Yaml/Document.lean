import VolumeMigration.Yaml.Lexer
import VolumeMigration.Yaml.Node

/-!
# YAML documents

A text holds any number of documents. The first may start without a marker; a document with
directives has them in front of its marker. `documents?` gives the node of each document. A text
without any document holds one, whose node is missing.
-/

namespace VolumeMigration

namespace Yaml

/-- What the directives of a document say. -/
structure Directives where
  versioned : Bool
  handles : Handles

namespace Directives

/-- The directives of a document that has none. -/
def none : Directives := ⟨false, []⟩

/-- The directives at the start of some tokens, and what follows them. There is at most one version,
and one meaning for each handle. -/
def readFrom (read : Directives) : List Token → Option (Directives × List Token)
  | .version major minor :: rest =>
      if read.versioned || major ≠ 1 || (minor ≠ 1 && minor ≠ 2) then .none
      else readFrom { read with versioned := true } rest
  | .handle name meaning :: rest =>
      if (read.handles.lookup name).isSome then .none
      else readFrom { read with handles := (name, meaning) :: read.handles } rest
  | tokens => some (read, tokens)

end Directives

/-- Whether a token stands outside of documents. -/
def Token.isBetweenDocuments : Token → Bool
  | .version _ _ | .handle _ _ | .documentStart | .documentEnd => true
  | _ => false

/-- The node of a document behind its marker, and what follows it. -/
def content? (handles : Handles) (tokens : List Token) : Option (Node String × List Token) :=
  if tokens.head?.all Token.isBetweenDocuments then some (.empty, tokens)
  else Node.read? handles tokens

/-- The document at the start of some tokens, and what follows it. It may start without a marker if
it is the first one. -/
def document? (first : Bool) (tokens : List Token) : Option (Node String × List Token) :=
  let isBare : Bool :=
    match tokens with
    | .version _ _ :: _ | .handle _ _ :: _ | .documentStart :: _ => false
    | _ => first
  if isBare then Node.read? [] tokens
  else do
    let (directives, behind) ← Directives.none.readFrom tokens
    match behind with
    | .documentStart :: rest => content? directives.handles rest
    | _ => none

/-- The documents in some tokens. A marker may end a document; between documents there may be
more. -/
def documentsFrom (first : Bool) : Nat → List Token → Option (List (Node String))
  | 0, _ => none
  | fuel + 1, tokens =>
      match if first then tokens else tokens.dropWhile (· == .documentEnd) with
      | [] => some []
      | left => do
          let (node, behind) ← document? first left
          let rest ← documentsFrom false fuel behind
          return node :: rest

/-- The nodes of the documents in a text. -/
def documents? (text : String) : Option (List (Node String)) := do
  let tokens ← Token.ofText? text
  let nodes ← documentsFrom true (tokens.length + 1) tokens
  return if nodes.isEmpty then [.empty] else nodes

end Yaml

end VolumeMigration
