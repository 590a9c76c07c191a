import VolumeMigration.Key.Armour
import VolumeMigration.Key.Certificate

/-!
# Identities

An identity is a private key with certificates of the same owner. `Identity.isPresentable` checks
that armoured data holds both, and that both have the structure of what their labels say. Of
several kinds of keys the most general one counts, and of several keys of a kind the last one; the
first certificate is that of the owner.
-/

namespace VolumeMigration

namespace Identity

/-- The labels of private keys, with the tags of the first parts of such a key. The number of its
version comes first. -/
def keyKinds : List (String × List Nat) :=
  [("PRIVATE KEY", [0x02, Certificate.sequenceTag, 0x04]),
    ("RSA PRIVATE KEY", List.replicate 9 0x02),
    ("EC PRIVATE KEY", [0x02, 0x04])]

/-- The labels of other things that no identity holds. -/
def foreignLabels : List String :=
  ["PUBLIC KEY", "X509 CRL", "CERTIFICATE REQUEST"]

/-- Whether some bytes have the structure of a key whose first parts have some tags. -/
def isKey (tags : List Nat) (bytes : List UInt8) : Bool :=
  match Certificate.parts? bytes with
  | some [whole] =>
      whole.tag = Certificate.sequenceTag &&
        (Certificate.parts? whole.content).any fun parts =>
          tags.isPrefixOf (parts.map Certificate.Part.tag)
  | _ => false

/-- Whether the key that counts among armoured data is one. -/
def hasKey (sections : List Armour.Section) : Bool :=
  (keyKinds.findSome? fun kind =>
    (Armour.labelled kind.1 sections).getLast?.map (isKey kind.2)).getD false

/-- Whether armoured data is an identity that can be presented. -/
def isPresentable (sections : List Armour.Section) : Bool :=
  foreignLabels.all (fun label => (Armour.labelled label sections).isEmpty) && hasKey sections &&
    (Armour.labelled "CERTIFICATE" sections).head?.any Certificate.isValid

end Identity

end VolumeMigration
