/-!
# Certificates

A certificate is a sequence of three parts in the distinguished encoding: what is certified, the
name of an algorithm and a signature. `Certificate.isValid` checks its outer structure; it does not
look at names, dates and keys.
-/

namespace VolumeMigration

namespace Certificate

/-- An encoded part: its tag and its content. -/
structure Part where
  tag : Nat
  content : List UInt8

/-- The number that bytes stand for, the highest one first. -/
def ofBytes (bytes : List UInt8) : Nat :=
  bytes.foldl (fun value byte => value * 256 + byte.toNat) 0

/-- The length at the start of some bytes, in its shortest form, and what follows it. -/
def length? (bytes : List UInt8) : Option (Nat × List UInt8) :=
  match bytes with
  | [] => none
  | first :: rest =>
      let count := first.toNat - 128
      let value := ofBytes (rest.take count)
      let shortest : Bool := 128 ≤ value && (rest.take count).head? != some 0
      if first.toNat < 128 then some (first.toNat, rest)
      else if 0 < count && count ≤ 4 && count ≤ rest.length && shortest then
        some (value, rest.drop count)
      else none

/-- The part at the start of some bytes, and what follows it. -/
def part? (bytes : List UInt8) : Option (Part × List UInt8) :=
  match bytes with
  | [] => none
  | tag :: rest => do
      let (size, behind) ← length? rest
      if behind.length < size then none
      else some (⟨tag.toNat, behind.take size⟩, behind.drop size)

/-- The parts that some bytes consist of; each takes a byte at least. -/
def partsFrom : Nat → List UInt8 → Option (List Part)
  | 0, bytes => if bytes.isEmpty then some [] else none
  | fuel + 1, bytes =>
      if bytes.isEmpty then some []
      else do
        let (part, rest) ← part? bytes
        let others ← partsFrom fuel rest
        return part :: others

/-- The parts that some bytes consist of. -/
def parts? (bytes : List UInt8) : Option (List Part) :=
  partsFrom bytes.length bytes

/-- The tag of a sequence. -/
def sequenceTag : Nat := 0x30

/-- The tag of a string of bits. -/
def bitsTag : Nat := 0x03

/-- The tags of what is certified, behind the version: serial number, algorithm, issuer, dates,
subject and key. -/
def certifiedTags : List Nat :=
  [0x02, sequenceTag, sequenceTag, sequenceTag, sequenceTag, sequenceTag]

/-- The tags of the version and of what may follow the key. -/
def versionTag : Nat := 0xa0

/-- Whether parts are what a certificate certifies. -/
def isCertified (parts : List Part) : Bool :=
  let tags := parts.map Part.tag
  let unversioned := if tags.head? = some versionTag then tags.tail else tags
  certifiedTags.isPrefixOf unversioned &&
    (unversioned.drop certifiedTags.length).all fun tag => versionTag < tag && tag ≤ 0xa3

/-- Whether some bytes have the structure of a certificate. -/
def isValid (bytes : List UInt8) : Bool :=
  match parts? bytes with
  | some [whole] =>
      whole.tag = sequenceTag &&
        match parts? whole.content with
        | some [certified, algorithm, signature] =>
            certified.tag = sequenceTag && algorithm.tag = sequenceTag &&
              signature.tag = bitsTag && (parts? certified.content).any isCertified
        | _ => false
  | _ => false

end Certificate

end VolumeMigration
