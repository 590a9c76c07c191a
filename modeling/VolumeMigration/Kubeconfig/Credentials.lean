import VolumeMigration.Failure
import VolumeMigration.Key.Identity
import VolumeMigration.Kubeconfig.Basic
import VolumeMigration.Text.Network
import VolumeMigration.Uri

/-!
# What a client needs to reach a cluster

The certificates and addresses of a cluster are part of the kubeconfig: where they cannot be read
the kubeconfig is at fault (`Kubeconfig.Target.endpoint`). Whether a client can be made from what
was read is a second question (`Kubeconfig.Target.checkClient`): it needs certificates that are
ones, a direct way to the server and a user that can be identified. Where a program or a provider
has to be asked who the user is, no file tells the answer, and the caller says whether there is one.
-/

namespace VolumeMigration

/-- The bytes of the files that can be read. -/
abbrev FileBytes := LocalPath → Option (List UInt8)

namespace KeyMaterial

/-- Whether a key or a certificate is given at all, inline or by a file. -/
def isGiven (material : KeyMaterial) : Bool :=
  material.data.isSome || material.file.isSome

/-- The bytes of key material. A file is read only where there is no data. -/
def bytes? (files : FileBytes) (material : KeyMaterial) : Option (List UInt8) :=
  match material.data, material.file with
  | some data, _ => Base64.decode? data
  | none, some file => files file
  | none, none => none

/-- The certificates in key material; where there is none, there are no certificates. -/
def certificates? (files : FileBytes) (material : KeyMaterial) : Option (List (List UInt8)) :=
  if material.isGiven then do
    let sections ← Armour.sections? (← material.bytes? files)
    return Armour.labelled "CERTIFICATE" sections
  else some []

end KeyMaterial

namespace UserEntry

/-- Whether the key and the certificate of a user can be presented. Where one of them cannot be read
neither is presented. -/
def hasValidIdentity (files : FileBytes) (user : UserEntry) : Bool :=
  match user.key.bytes? files, user.certificate.bytes? files with
  | some key, some certificate =>
      (Armour.sections? (key ++ certificate)).any Identity.isPresentable
  | _, _ => true

/-- Whether a provider keeps the proof of who a user is among its settings. -/
def isKnownTo (provider : AuthProvider) : Bool :=
  (provider.name = "oidc" || provider.name = "gcp") &&
    (provider.settings.lookup "id-token").isSome

/-- Whether a text can be sent in a header. -/
def isHeaderText (text : String) : Bool :=
  text.toList.all fun char => char == '\t' || (0x20 ≤ char.toNat && char.toNat ≤ 0x7e)

/-- Checks that it can be learnt who a user is. A provider is asked first; then a name with a
password counts, then a token, then a file with one; at last a program is asked. Whoever is asked
tells it of some users (`identifies`). -/
def checkIdentification (files : FileBytes) (identifies : UserEntry → Bool) (user : UserEntry) :
    Except ClientFault Unit :=
  match user.provider with
  | some provider =>
      if isKnownTo provider || identifies user then .ok () else .error .authentication
  | none =>
      if (user.username.isSome && user.password.isSome) || user.token.isSome then .ok ()
      else
        match user.tokenFile with
        | some file =>
            if (files file).isSome then .ok () else .error (.unreadableToken file.text)
        | none =>
            if user.asksProgram && !identifies user then .error .authentication else .ok ()

end UserEntry

namespace Kubeconfig.Target

/-- The address of the proxy of a cluster. -/
def proxy? (target : Target) : Option String :=
  target.cluster.proxy.filter (· != "")

/-- A target that is reached through a proxy where it names none itself. -/
def through (target : Target) (proxy : Option String) : Target :=
  { target with cluster := { target.cluster with proxy := target.proxy?.or proxy } }

/-- What the client of a cluster sends its requests to. -/
structure Endpoint where
  server : String
  proxy : Option Uri

/-- Checks that the addresses and certificates of a cluster can be read. -/
def endpoint (files : FileBytes) (target : Target) : Except KubeconfigFault Endpoint := do
  let cluster := target.context.cluster
  let server ← found target.cluster.server (.noServer cluster)
  let _ ← found (Uri.parse? server) (.invalidServer server)
  let _ ← found (target.cluster.authority.certificates? files) (.unreadableAuthority cluster)
  match target.proxy? with
  | none => return { server, proxy := none }
  | some address =>
      let proxy ← found (Uri.parse? address) (.invalidProxy address)
      return { server, proxy := some proxy }

/-- A check that fails with a fault. -/
def ensure (condition : Bool) (fault : ClientFault) : Except ClientFault Unit :=
  if condition then .ok () else .error fault

/-- Checks that a client can be made for a cluster whose addresses and certificates were read. -/
def checkClient (files : FileBytes) (identifies : UserEntry → Bool) (target : Target)
    (endpoint : Endpoint) : Except ClientFault Unit := do
  let user := target.user
  endpoint.proxy.elim (.ok ()) fun proxy => .error (.proxied proxy)
  user.checkIdentification files identifies
  ensure (user.hasValidIdentity files) .identity
  let certificates := (target.cluster.authority.certificates? files).getD []
  ensure (certificates.all Certificate.isValid) .certificate
  let name := target.cluster.serverName
  ensure (name.all Network.isHost) (.serverName (name.getD ""))
  ensure ((user.actsFor.toList ++ user.actsForGroups).all UserEntry.isHeaderText) .invalidHeader

end Kubeconfig.Target

end VolumeMigration
