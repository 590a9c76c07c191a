import VolumeMigration.World

/-!
# Clusters that follow a script

A scripted cluster answers calls as written down beforehand: it knows claims and their users, both
possibly for some reads only, and gives the states of pods and the addresses of services one entry
after the other. Faults make calls fail or cancel the token. `ScriptedCluster.respond` answers a
call; what it has to remember is how often each object was read and each fault was met.
-/

namespace VolumeMigration

/-- An answer with the number of reads that it serves. -/
structure ScriptEntry (α : Type) where
  answer : Except Failure α
  times : Nat

/-- Answers to be given one after the other; the last one serves all further reads. -/
abbrev Script (α : Type) := List (ScriptEntry α)

/-- The answer to a read after a number of earlier ones. -/
def Script.answer? {α : Type} : Script α → Nat → Option (Except Failure α)
  | [], _ => none
  | [last], _ => some last.answer
  | entry :: more :: rest, read =>
      if read < entry.times then some entry.answer
      else Script.answer? (more :: rest) (read - entry.times)

/-- A claim that exists for the first reads, or for all. -/
structure ScriptedClaim where
  info : ClaimInfo
  lastsFor : Option Nat

/-- A user that is visible after a number of reads. -/
structure ScriptedUser where
  ns : String
  claim : String
  user : ClaimUser
  hiddenFor : Nat

/-- A fault that calls to some objects meet. -/
structure Fault where
  /-- The name of the calls. -/
  call : String
  /-- What the names of their objects end with. -/
  ending : String
  /-- How many of these calls pass before the fault shows. -/
  skip : Nat
  /-- How often it shows, or without end. -/
  times : Option Nat
  failure : Option Failure
  cancels : Bool

namespace Fault

/-- Whether a fault is about a call, by its name and the end of the name of its object. -/
def concerns (fault : Fault) (call : Call) : Bool :=
  call.name = fault.call && fault.ending.toList.isSuffixOf call.objectName.toList

/-- Whether a fault shows after a number of earlier calls that it was about. -/
def shows (fault : Fault) (earlier : Nat) : Bool :=
  fault.skip ≤ earlier && fault.times.all fun times => earlier < fault.skip + times

end Fault

/-- What a call meets: whether the token is cancelled, and a failure. -/
structure FaultEffect where
  cancels : Bool
  failure : Option Failure

/-- What a call meets among faults, each with the number of earlier calls that it was about, and
these numbers after the call. Faults behind one that fails the call are not met. -/
def meetFaults (call : Call) : List (Fault × Nat) → FaultEffect × List (Fault × Nat)
  | [] => (⟨false, none⟩, [])
  | (fault, earlier) :: rest =>
      if fault.concerns call then
        if fault.shows earlier && fault.failure.isSome then
          (⟨fault.cancels, fault.failure⟩, (fault, earlier + 1) :: rest)
        else
          let (effect, after) := meetFaults call rest
          let cancels := fault.shows earlier && fault.cancels
          (⟨cancels || effect.cancels, effect.failure⟩, (fault, earlier + 1) :: after)
      else
        let (effect, after) := meetFaults call rest
        (effect, (fault, earlier) :: after)

/-- A cluster that answers from a script. -/
structure ScriptedCluster where
  claims : List ScriptedClaim
  users : List ScriptedUser
  /-- The states of the pods whose names end with a text. -/
  pods : List (String × Script PodState)
  ingress : Script (Option String)
  /-- The faults with the number of calls that each was about. -/
  faults : List (Fault × Nat)
  /-- How often each object was read. -/
  reads : List (String × Nat)

namespace ScriptedCluster

/-- What the reads of a call are counted by. -/
def readKey : Call → String
  | .podState _ name => "pod_state " ++ name
  | .serviceIngress _ name => "service_ingress " ++ name
  | call => call.text

/-- The claim with a name, as a read after some others finds it. -/
def claimAt (cluster : ScriptedCluster) (ns name : String) (read : Nat) :
    Except Failure ClaimInfo :=
  let found := cluster.claims.find? fun entry =>
    entry.info.ns = ns && entry.info.name = name && entry.lastsFor.all (read < ·)
  match found with
  | some entry => .ok entry.info
  | none => .error (.claimNotFound ns name)

/-- The users of a claim, as a read after some others finds them. -/
def usersAt (cluster : ScriptedCluster) (ns claim : String) (read : Nat) : List ClaimUser :=
  (cluster.users.filter fun entry =>
    entry.ns = ns && entry.claim = claim && entry.hiddenFor ≤ read).map ScriptedUser.user

/-- The state of a pod without a script: relays are ready and all others have succeeded. -/
def unscriptedState (name : String) : PodState :=
  if "sshd".toList.isSuffixOf name.toList then .running true else .succeeded

/-- The state of a pod, as a read after some others finds it. -/
def podStateAt (cluster : ScriptedCluster) (name : String) (read : Nat) :
    Except Failure PodState :=
  let script := cluster.pods.find? fun entry => entry.1.toList.isSuffixOf name.toList
  match script.bind fun entry => entry.2.answer? read with
  | some answer => answer
  | none => .ok (unscriptedState name)

/-- The address of a service, as a read after some others finds it. -/
def ingressAt (cluster : ScriptedCluster) (read : Nat) : Except Failure (Option String) :=
  (cluster.ingress.answer? read).getD (.ok (some "203.0.113.10"))

/-- The answer to a call that meets no failing fault, after a number of earlier reads. -/
def answer (cluster : ScriptedCluster) (read : Nat) : (call : Call) → Except Failure call.Answer
  | .claim ns name => cluster.claimAt ns name read
  | .claimUsers ns claim => .ok (cluster.usersAt ns claim read)
  | .create object =>
      .ok (⟨object.kind, object.metadata.ns.getD "", object.metadata.name.getD ""⟩ : ResourceRef)
  | .delete _ => .ok ()
  | .podState _ name => cluster.podStateAt name read
  | .serviceIngress _ _ => cluster.ingressAt read

/-- The response to a call, and the cluster after it. -/
def respond (cluster : ScriptedCluster) (call : Call) : Response call × ScriptedCluster :=
  let (effect, faults) := meetFaults call cluster.faults
  match effect.failure with
  | some failure => (⟨.error failure, effect.cancels⟩, { cluster with faults })
  | none =>
      let key := readKey call
      let read := (cluster.reads.lookup key).getD 0
      let reads := (key, read + 1) :: cluster.reads.filter (·.1 != key)
      (⟨cluster.answer read call, effect.cancels⟩, { cluster with faults, reads })

end ScriptedCluster

/-- The environment of some scripted clusters, with the time at which the token is cancelled from
outside. -/
def scriptedEnvironment (cancelTime : Option Duration) : Environment (Array ScriptedCluster) :=
  { respond := fun handle call _ clusters =>
      match clusters[handle.index]? with
      | none => (⟨.error (.internal "no such cluster"), false⟩, clusters)
      | some cluster =>
          let (response, after) := cluster.respond call
          (response, clusters.setIfInBounds handle.index after)
    cancelTime }

end VolumeMigration
