import VolumeMigration.Access
import VolumeMigration.Attempt
import VolumeMigration.Text.Quoted
import VolumeMigration.Uri

/-!
# Failures

`Failure` lists the causes for which a migration, or a step of one, can fail; `Failure.message`
words them and `Failure.kind` puts them into classes. A cluster that refuses a request, a missing
claim and a kubeconfig that cannot be used are failures of the cluster: a wait takes them for
passing and goes on.
-/

namespace VolumeMigration

/-- The refusal of a request by a cluster. -/
structure Refusal where
  status : String
  message : String
  reason : String
  code : Nat
  deriving DecidableEq

namespace Refusal

/-- All fields of a refusal, its texts quoted. -/
def fields (refusal : Refusal) : String :=
  "ErrorResponse \x7b status: " ++ Text.quoted refusal.status ++ ", message: " ++
    Text.quoted refusal.message ++ ", reason: " ++ Text.quoted refusal.reason ++ ", code: " ++
    toString refusal.code ++ " \x7d"

/-- The refusal in one line. -/
def text (refusal : Refusal) : String :=
  "ApiError: " ++ refusal.message ++ ": " ++ refusal.reason ++ " (" ++ refusal.fields ++ ")"

end Refusal

/-- Why a request cannot be sent as it stands. -/
inductive RequestFault where
  /-- It is about an object without a name. -/
  | missingName
  /-- Its path or query holds a character that none may hold. -/
  | invalidTarget
  deriving DecidableEq

/-- The fault in one line. -/
def RequestFault.text : RequestFault → String
  | .missingName => "failed to validate request: A non-empty name is required"
  | .invalidTarget => "failed to build request: invalid uri character"

/-- Why no client can be made for a cluster that is known. -/
inductive ClientFault where
  /-- Its server would have to be reached through another one. -/
  | proxied (proxy : Uri)
  | certificate
  /-- The key and the certificate of the user are none. -/
  | identity
  | serverName (name : String)
  /-- There is no way to learn who the user is. -/
  | authentication
  | unreadableToken (path : String)
  /-- The name of another user or of a group to act for cannot be sent. -/
  | invalidHeader
  deriving DecidableEq

/-- What a proxy would need, if there is any way to use it. -/
def proxyFeature? (proxy : Uri) : Option String :=
  if proxy.scheme = some "http" then some "kube/http-proxy"
  else if proxy.scheme = some "socks5" then some "kube/socks5"
  else none

/-- The fault in one line. -/
def ClientFault.text : ClientFault → String
  | .proxied proxy =>
      "configured proxy " ++ proxy.text ++
        match proxyFeature? proxy with
        | some feature => " requires the disabled feature " ++ Text.quoted feature
        | none => " is not supported by kube"
  | .certificate => "failed to add a root certificate"
  | .identity => "identity is missing a private key or a certificate"
  | .serverName name => "invalid server name: " ++ name
  | .authentication => "auth error: failed exec auth"
  | .unreadableToken path => "auth error: failed to read token file " ++ Text.quoted path
  | .invalidHeader => "HttpError: failed to parse header value"

/-- Why a request to a cluster brought no usable answer. -/
inductive ApiFault where
  /-- The cluster refused it. -/
  | refused (refusal : Refusal)
  /-- No cluster was reached. -/
  | unreachable
  /-- The request cannot be sent as it stands. -/
  | malformedRequest (fault : RequestFault)
  /-- The answer was not the object that was asked for. -/
  | unreadableAnswer
  /-- There is no client to send it. -/
  | noClient (fault : ClientFault)
  deriving DecidableEq

/-- The fault in one line. -/
def ApiFault.text : ApiFault → String
  | .refused refusal => refusal.text
  | .unreachable => "ServiceError: client error (Connect)"
  | .malformedRequest fault => "Failed to build request: " ++ fault.text
  | .unreadableAnswer => "Error deserializing response"
  | .noClient fault => fault.text

/-- Why a request or a choice of strategies is not valid. -/
inductive ConfigurationFault where
  | missingClient (access : ClusterAccess)
  | registeredTwice (strategy : String)
  | listedTwice (strategy : String)
  | unknownStrategy (strategy : String) (available : List String)
  | noStrategies
  | other (message : String)
  deriving DecidableEq

/-- The fault in one line. -/
def ConfigurationFault.text : ConfigurationFault → String
  | .missingClient access => "no cluster client for " ++ access.text
  | .registeredTwice strategy => "strategy " ++ strategy ++ " registered twice"
  | .listedTwice strategy => "strategy " ++ strategy ++ " listed more than once"
  | .unknownStrategy strategy available =>
      "unknown strategy " ++ strategy ++ " (available: " ++
        String.intercalate ", " available ++ ")"
  | .noStrategies => "no strategies to attempt"
  | .other message => message

/-- Why a migration, or a step of one, failed. -/
inductive Failure where
  | api (fault : ApiFault)
  /-- A kubeconfig could not be loaded or holds no usable context. -/
  | kubeconfig (message : String)
  /-- The request is not valid; nothing was attempted. -/
  | configuration (fault : ConfigurationFault)
  | claimNotFound (ns name : String)
  /-- An ephemeral resource could not be created, or did not start. -/
  | provisioning (resource reason : String)
  /-- An ephemeral resource was not ready in time. -/
  | notReady (resource : String) (waited : Duration)
  /-- The copy did not end well. -/
  | transfer (pod reason : String)
  /-- An ephemeral resource could not be deleted. -/
  | teardown (resource reason : String)
  /-- The attempt was interrupted from outside. -/
  | cancelled
  /-- No candidate succeeded. -/
  | exhausted (attempts : List AttemptResult)
  /-- The migration was interrupted; later candidates were not evaluated. -/
  | migrationCancelled (attempts : List AttemptResult)
  | internal (message : String)
  deriving DecidableEq

namespace Failure

/-- The message that tells the user of a failure. -/
def message : Failure → String
  | .api fault => "Kubernetes API error: " ++ fault.text
  | .kubeconfig message => "Kubeconfig error: " ++ message
  | .configuration fault => "Configuration error: " ++ fault.text
  | .claimNotFound ns name => "PersistentVolumeClaim " ++ ns ++ "/" ++ name ++ " not found"
  | .provisioning resource reason => "Failed to provision " ++ resource ++ ": " ++ reason
  | .notReady resource waited =>
      resource ++ " did not become ready within " ++ Duration.text waited
  | .transfer pod reason => "Transfer in " ++ pod ++ " failed: " ++ reason
  | .teardown resource reason => "Failed to delete " ++ resource ++ ": " ++ reason
  | .cancelled => "Operation cancelled"
  | .exhausted attempts => "All strategies failed: " ++ AttemptResult.listText attempts
  | .migrationCancelled attempts =>
      "Migration cancelled after " ++ toString attempts.length ++ " attempt(s): " ++
        AttemptResult.listText attempts
  | .internal message => "Internal error: " ++ message

/-- The kind under which a failure is reported. -/
def kind : Failure → FailureKind
  | .api _ | .kubeconfig _ | .claimNotFound _ _ => .cluster
  | .configuration _ => .configuration
  | .provisioning _ _ => .provisioningFailed
  | .notReady _ _ => .readinessTimeout
  | .transfer _ _ => .transferFailed
  | .teardown _ _ => .teardownFailed
  | .cancelled | .migrationCancelled _ => .cancelled
  | .exhausted _ | .internal _ => .internal

/-- Whether the request itself was at fault. -/
def isConfiguration : Failure → Bool
  | .configuration _ => true
  | _ => false

/-- Whether the failure is an interruption from outside. -/
def isCancelled : Failure → Bool
  | .cancelled | .migrationCancelled _ => true
  | _ => false

/-- The attempts that a failed migration made. -/
def attempts : Failure → List AttemptResult
  | .exhausted attempts | .migrationCancelled attempts => attempts
  | _ => []

end Failure

end VolumeMigration
