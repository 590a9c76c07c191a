import VolumeMigration.Plan

/-!
# Ephemeral resources of an attempt

`Provisioned` lists the resources that an attempt created, the last one first. `release` deletes
exactly these, in that order; a resource that cannot be deleted is reported and does not keep the
others from being deleted. `withResources` runs the part of an attempt that creates resources and
releases them whatever came of it.
-/

namespace VolumeMigration

/-- The resources that an attempt created with their clusters, the last one first. -/
structure Provisioned where
  created : List (ClusterHandle × ResourceRef)

namespace Provisioned

/-- No resources. -/
def empty : Provisioned := ⟨[]⟩

/-- The number of resources. -/
def size (resources : Provisioned) : Nat := resources.created.length

/-- Whether there are no resources. -/
def isEmpty (resources : Provisioned) : Bool := resources.created.isEmpty

/-- Resources with one more that was created last. -/
def push (resources : Provisioned) (cluster : ClusterHandle) (resource : ResourceRef) :
    Provisioned :=
  ⟨(cluster, resource) :: resources.created⟩

/-- Deletes resources one after the other; those that cannot be deleted are noted as left over. -/
def releaseAll : List (ClusterHandle × ResourceRef) → Plan Unit
  | [] => return ()
  | (cluster, resource) :: rest => do
      match ← (Plan.ask cluster (.delete resource)).attempt with
      | .ok () => pure ()
      | .error failure =>
          let leftover := (Failure.teardown resource.text failure.message).message
          Plan.warn (leftover ++ "; remove it manually")
          Plan.noteLeftover leftover
      releaseAll rest

/-- Deletes all resources, the last one first. -/
def release (resources : Provisioned) : Plan Unit :=
  releaseAll resources.created

end Provisioned

/-- A part of an attempt that may create resources. Those that it created are known even if it
fails. -/
def Provisioning (α : Type) : Type :=
  Provisioned → Plan (Except Failure α × Provisioned)

namespace Provisioning

variable {α β : Type}

instance : Monad Provisioning where
  pure value := fun resources => .done (.ok value, resources)
  bind part next := fun resources =>
    (part resources).bind fun outcome =>
      match outcome with
      | (.ok value, after) => next value after
      | (.error failure, after) => .done (.error failure, after)

/-- The part that follows a plan and creates nothing. -/
def lift (plan : Plan α) : Provisioning α := fun resources =>
  plan.attempt.bind fun outcome => .done (outcome, resources)

/-- The part that ends like a result. -/
def ofExcept (result : Except Failure α) : Provisioning α := fun resources =>
  .done (result, resources)

/-- The plan that creates an object, unless the token is cancelled. -/
def creation (cluster : ClusterHandle) (object : ClusterObject) : Plan ResourceRef := do
  Plan.checkToken
  match ← (Plan.ask cluster (.create object)).attempt with
  | .ok resource => return resource
  | .error failure =>
      let name := object.metadata.name.getD ""
      Plan.fail (.provisioning (object.kind.name ++ " " ++ name) failure.message)

/-- Creates an object in a cluster. -/
def create (cluster : ClusterHandle) (object : ClusterObject) : Provisioning ResourceRef :=
  fun resources =>
    (creation cluster object).attempt.bind fun outcome =>
      match outcome with
      | .ok resource => .done (.ok resource, resources.push cluster resource)
      | .error failure => .done (.error failure, resources)

end Provisioning

/-- Follows a part of an attempt, releases what it created, and ends as it did. -/
def withResources {α : Type} (part : Provisioning α) : Plan α := do
  let (outcome, resources) ← part .empty
  resources.release
  Plan.ofExcept outcome

end VolumeMigration
