import VolumeMigration.Proofs.Run.Scenario
import VolumeMigration.Proofs.Strategy.RelayFirst
import VolumeMigration.Proofs.Text.Network
import VolumeMigration.Proofs.Transfer.Operand

/-!
# Whom a copying pod connects to

A copying pod is given the host of the relay: the name of its service inside the cluster, or else
the name or the address that a load balancer reports. `Tunnel.Addresses` says which place rsync
reads in the script of the pod. A name and an address of four octets are read back whole. An address
of eight groups is not: the script puts no brackets around it, so that it is cut at its first colon.
-/

namespace VolumeMigration

namespace Tunnel

/-- The hosts that a copying pod can be given. Of names and of addresses of four octets only the
characters matter. -/
inductive Passes (context : AttemptContext) : String → Prop where
  | inside (attempt : ∀ char ∈ context.attemptId.toList, Network.isLabelChar char = true)
      (ns : Network.isLabel context.request.destination.ns.toList = true) :
      Passes context (clusterHost context)
  | named {service : Service} {host : String} (reported : service.ingressAddress = some host)
      (name : ∀ char ∈ host.toList, Network.isNameChar char = true) : Passes context host
  | numbered {service : Service} {host : String} (reported : service.ingressAddress = some host)
      (address : Network.isEightGroups host.toList = true) : Passes context host

/-- The place that rsync reads in a script that copies to a host. -/
structure Addresses (script host : String) : Prop where
  whole : Network.isEightGroups host.toList = false →
    RemotePlace.ofScript? script = some { user := some "root", host, path := "/dest/" }
  cut : Network.isEightGroups host.toList = true → ∃ front back, ':' ∉ front.toList ∧
    host = front ++ ":" ++ back ∧ RemotePlace.ofScript? script =
      some { user := some "root", host := front, path := back ++ ":/dest/" }

variable {context : AttemptContext} {host : String}

/-- The name of a service in its namespace consists of characters of names. -/
theorem isNameChar_clusterHost
    (attempt : ∀ char ∈ context.attemptId.toList, Network.isLabelChar char = true)
    (ns : Network.isLabel context.request.destination.ns.toList = true) :
    ∀ char ∈ (clusterHost context).toList, Network.isNameChar char = true := by
  have of_label : ∀ char, Network.isLabelChar char = true → Network.isNameChar char = true := by
    intro char label
    simp [Network.isNameChar, label]
  simp only [Network.isLabel, Bool.and_eq_true, List.all_eq_true] at ns
  have parts : (clusterHost context).toList = "pv-migrate-".toList ++
      context.attemptId.toList ++ "-sshd.".toList ++ context.request.destination.ns.toList := by
    simp [clusterHost, AttemptContext.resourceName]
  rw [parts]
  simp only [List.forall_mem_append]
  refine ⟨⟨⟨List.all_eq_true.mp rfl, ?_⟩, List.all_eq_true.mp rfl⟩, ?_⟩
  · exact fun char char_mem => of_label char (attempt char char_mem)
  · exact fun char char_mem => of_label char (ns.1.1.2 char char_mem)

/-- No host that is passed on has a character that ends a word. -/
theorem Passes.isAddressChar (passes : Passes context host) :
    ∀ char ∈ host.toList, Network.isAddressChar char = true := by
  have of_name : ∀ char, Network.isNameChar char = true → Network.isAddressChar char = true := by
    intro char name
    simp [Network.isAddressChar, name]
  cases passes with
  | inside attempt ns =>
      exact fun char char_mem => of_name char (isNameChar_clusterHost attempt ns char char_mem)
  | named _ name => exact fun char char_mem => of_name char (name char char_mem)
  | numbered _ address => exact Network.isAddressChar_of_isEightGroups address

/-- Of the hosts that are passed on only addresses of eight groups have colons. -/
theorem Passes.colon_mem_iff (passes : Passes context host) :
    ':' ∈ host.toList ↔ Network.isEightGroups host.toList = true := by
  constructor
  · intro colon_mem
    cases passes with
    | inside attempt ns => cases isNameChar_clusterHost attempt ns ':' colon_mem
    | named _ name => cases name ':' colon_mem
    | numbered _ address => exact address
  · exact Network.colon_mem_of_isEightGroups

/-- Every host that a copying pod is given is read back up to its first colon. -/
theorem copyPod_addresses (passes : Passes context host) (node : Option String) :
    Addresses (copyPod context node host).script host := by
  have reserved : ∀ char, Network.isAddressChar char = false → char ∉ host.toList := by
    intro char refused listed
    rw [passes.isAddressChar char listed] at refused
    cases refused
  have bracketless : ∀ char ∈ host.toList, char ≠ '[' := by
    rintro char listed rfl
    exact reserved '[' rfl listed
  have script_eq : RemotePlace.ofScript? (copyPod context node host).script =
      RemotePlace.ofOperand? (RsyncTarget.remote host).operand.toList :=
    RemotePlace.ofScript?_transferScript _ _ (reserved ' ' rfl) (reserved '\n' rfl)
  rw [RsyncTarget.toList_operand] at script_eq
  constructor
  · intro short
    have colonless : ':' ∉ host.toList := by
      rw [passes.colon_mem_iff, short]
      simp
    have plain : ∀ char ∈ host.toList, char ≠ ':' ∧ char ≠ '[' := by
      intro char listed
      exact ⟨fun same => colonless (same ▸ listed), bracketless char listed⟩
    rw [script_eq, RemotePlace.ofOperand?_root plain]
    simp
  · intro long
    rcases List.eq_append_cons_of_mem (passes.colon_mem_iff.mpr long) with
      ⟨front, back, parts, colonless⟩
    have plain : ∀ char ∈ front, char ≠ ':' ∧ char ≠ '[' := by
      intro char listed
      refine ⟨fun same => colonless (same ▸ listed), bracketless char ?_⟩
      rw [parts]
      exact List.mem_append_left _ listed
    refine ⟨.ofList front, .ofList back, by simpa using colonless, ?_, ?_⟩
    · rw [← String.toList_inj, parts]
      simp
    · have operand_eq : "root@".toList ++ host.toList ++ ':' :: "/dest/".toList =
          "root@".toList ++ front ++ ':' :: (back ++ ":/dest/".toList) := by
        rw [parts]
        simp
      rw [script_eq, operand_eq, RemotePlace.ofOperand?_root plain, String.ofList_append]
      simp

/-! ## Two hosts -/

/-- A service that a load balancer exposes at an address. -/
def servedAt (ip : String) : Service :=
  { metadata := .none
    spec := none
    status := some
      { loadBalancer := some { ingress := some [{ ip := some ip, hostname := none }] } } }

/-- An attempt of the quiet migration. -/
def quietContext : AttemptContext :=
  Quiet.engine.context Quiet.request Quiet.clusters 0

/-- A name and an address of eight groups, each in the script of the quiet migration. -/
theorem copyPod_addresses_quiet :
    Addresses (copyPod quietContext none (clusterHost quietContext)).script
        (clusterHost quietContext) ∧
      Addresses (copyPod quietContext none "fd00::1").script "fd00::1" := by
  constructor
  · exact copyPod_addresses (.inside (List.all_eq_true.mp rfl) rfl) none
  · exact copyPod_addresses (.numbered (rfl : (servedAt "fd00::1").ingressAddress = _) rfl) none

/-- An address of eight groups is read as a host `fd00` and a path that begins with the rest. -/
theorem copyPod_addresses_elsewhere :
    let script := (copyPod quietContext none "fd00::1").script
    (servedAt "fd00::1").ingressAddress = some "fd00::1" ∧
      Network.isEightGroups "fd00::1".toList = true ∧
      RemotePlace.ofScript? script =
        some { user := some "root", host := "fd00", path := ":1:/dest/" } ∧
      RemotePlace.ofScript? script ≠
        some { user := some "root", host := "fd00::1", path := "/dest/" } := by
  intro script
  have read : RemotePlace.ofScript? script =
      RemotePlace.ofOperand? (RsyncTarget.remote "fd00::1").operand.toList :=
    RemotePlace.ofScript?_transferScript _ _ (by decide) (by decide)
  rw [read]
  exact ⟨rfl, rfl, by decide, by decide⟩

end Tunnel

end VolumeMigration
