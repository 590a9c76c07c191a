import VolumeMigration.Kubernetes.Schema.Basic

/-!
# The shape of volumes

The sources of the volumes of pods and of persistent volumes, and claims on such volumes.
-/

namespace VolumeMigration

namespace Schema

open Json (Shape)
open Json.Shape (compound record texts flags counts longs textLists textMaps timestamps)

/-! ## Sources of both kinds -/

/-- The fields of the sources that pods and persistent volumes share, where a secret is referred to
in a given way. -/
def sharedSources (secret : Shape) : List (String × Shape) :=
  [("awsElasticBlockStore", compound ["volumeID"] (texts ["fsType", "volumeID"] ++
      counts ["partition"] ++ flags ["readOnly"])),
    ("azureDisk", compound ["diskName", "diskURI"]
      (texts ["cachingMode", "diskName", "diskURI", "fsType", "kind"] ++ flags ["readOnly"])),
    ("cephfs", compound ["monitors"] (textLists ["monitors"] ++
      texts ["path", "secretFile", "user"] ++ flags ["readOnly"] ++ [("secretRef", secret)])),
    ("cinder", compound ["volumeID"] (texts ["fsType", "volumeID"] ++ flags ["readOnly"] ++
      [("secretRef", secret)])),
    ("fc", record (texts ["fsType"] ++ counts ["lun"] ++ flags ["readOnly"] ++
      textLists ["targetWWNs", "wwids"])),
    ("flexVolume", compound ["driver"] (texts ["driver", "fsType"] ++ textMaps ["options"] ++
      flags ["readOnly"] ++ [("secretRef", secret)])),
    ("flocker", record (texts ["datasetName", "datasetUUID"])),
    ("gcePersistentDisk", compound ["pdName"] (texts ["fsType", "pdName"] ++
      counts ["partition"] ++ flags ["readOnly"])),
    ("hostPath", compound ["path"] (texts ["path", "type"])),
    ("iscsi", compound ["iqn", "lun", "targetPortal"]
      (flags ["chapAuthDiscovery", "chapAuthSession", "readOnly"] ++
      texts ["fsType", "initiatorName", "iqn", "iscsiInterface", "targetPortal"] ++
      counts ["lun"] ++ textLists ["portals"] ++ [("secretRef", secret)])),
    ("nfs", compound ["path", "server"] (texts ["path", "server"] ++ flags ["readOnly"])),
    ("photonPersistentDisk", compound ["pdID"] (texts ["fsType", "pdID"])),
    ("portworxVolume", compound ["volumeID"] (texts ["fsType", "volumeID"] ++ flags ["readOnly"])),
    ("quobyte", compound ["registry", "volume"]
      (texts ["group", "registry", "tenant", "user", "volume"] ++ flags ["readOnly"])),
    ("rbd", compound ["image", "monitors"] (texts ["fsType", "image", "keyring", "pool", "user"] ++
      textLists ["monitors"] ++ flags ["readOnly"] ++ [("secretRef", secret)])),
    ("scaleIO", compound ["gateway", "secretRef", "system"]
      (texts ["fsType", "gateway", "protectionDomain", "storageMode", "storagePool", "system",
        "volumeName"] ++ flags ["readOnly", "sslEnabled"] ++ [("secretRef", secret)])),
    ("vsphereVolume", compound ["volumePath"]
      (texts ["fsType", "storagePolicyID", "storagePolicyName", "volumePath"]))]

/-- The shape of a storage source, where a secret is referred to in a given way. -/
def storageSource (secret : Shape) : Shape :=
  record (texts ["fsType", "volumeName", "volumeNamespace"] ++ flags ["readOnly"] ++
    [("secretRef", secret)])

/-! ## Claims -/

/-- The shape of what a claim is meant to be. -/
def claimSpec : Shape :=
  record (textLists ["accessModes"] ++
    texts ["storageClassName", "volumeAttributesClassName", "volumeMode", "volumeName"] ++
    [("dataSource", compound ["kind", "name"] (texts ["apiGroup", "kind", "name"])),
      ("dataSourceRef",
        compound ["kind", "name"] (texts ["apiGroup", "kind", "name", "namespace"])),
      ("resources", record (amounts ["limits", "requests"])), ("selector", labelSelector)])

/-- The shape of what is observed of a claim. -/
def claimStatus : Shape :=
  record (textLists ["accessModes"] ++ texts ["currentVolumeAttributesClassName", "phase"] ++
    textMaps ["allocatedResourceStatuses"] ++ amounts ["allocatedResources", "capacity"] ++
    [("conditions", .list condition),
      ("modifyVolumeStatus",
        compound ["status"] (texts ["status", "targetVolumeAttributesClassName"]))])

/-! ## Volumes of pods -/

/-- A key with the file that it becomes. -/
def keyToPath : Shape := compound ["key", "path"] (texts ["key", "path"] ++ counts ["mode"])

/-- The shape of a field of the pod as a file. -/
def podField : Shape :=
  compound ["path"] (texts ["path"] ++ counts ["mode"] ++
    [("fieldRef", fieldSelector), ("resourceFieldRef", resourceSelector)])

/-- The shape of one of several sources that make one volume. -/
def projection : Shape :=
  let keys : Shape :=
    compound ["name"] (texts ["name"] ++ flags ["optional"] ++ [("items", .list keyToPath)])
  record
    [("clusterTrustBundle", compound ["path"] (texts ["name", "path", "signerName"] ++
        flags ["optional"] ++ [("labelSelector", labelSelector)])),
      ("configMap", keys), ("downwardAPI", record [("items", .list podField)]), ("secret", keys),
      ("serviceAccountToken",
        compound ["path"] (texts ["audience", "path"] ++ longs ["expirationSeconds"]))]

/-- A volume of a pod, from any of its sources. -/
def volume : Shape :=
  compound ["name"] (sharedSources localReference ++ texts ["name"] ++
    [("azureFile", compound ["secretName", "shareName"]
        (texts ["secretName", "shareName"] ++ flags ["readOnly"])),
      ("configMap", compound ["name"] (texts ["name"] ++ counts ["defaultMode"] ++
        flags ["optional"] ++ [("items", .list keyToPath)])),
      ("csi", compound ["driver"] (texts ["driver", "fsType"] ++ flags ["readOnly"] ++
        textMaps ["volumeAttributes"] ++ [("nodePublishSecretRef", localReference)])),
      ("downwardAPI", record (counts ["defaultMode"] ++ [("items", .list podField)])),
      ("emptyDir", record (texts ["medium"] ++ [("sizeLimit", quantity)])),
      ("ephemeral", record [("volumeClaimTemplate",
        compound ["spec"] [("metadata", metadata), ("spec", claimSpec)])]),
      ("gitRepo", compound ["repository"] (texts ["directory", "repository", "revision"])),
      ("glusterfs", compound ["endpoints", "path"]
        (texts ["endpoints", "path"] ++ flags ["readOnly"])),
      ("image", record (texts ["pullPolicy", "reference"])),
      ("persistentVolumeClaim",
        compound ["claimName"] (texts ["claimName"] ++ flags ["readOnly"])),
      ("projected", record (counts ["defaultMode"] ++ [("sources", .list projection)])),
      ("secret", record (texts ["secretName"] ++ counts ["defaultMode"] ++ flags ["optional"] ++
        [("items", .list keyToPath)])),
      ("storageos", storageSource localReference)])

/-! ## Persistent volumes -/

/-- What a volume is made of, and who may use it. -/
def persistentVolumeSpec : Shape :=
  record (sharedSources secretReference ++ textLists ["accessModes", "mountOptions"] ++
    amounts ["capacity"] ++
    texts ["persistentVolumeReclaimPolicy", "storageClassName", "volumeAttributesClassName",
      "volumeMode"] ++
    [("azureFile", compound ["secretName", "shareName"]
        (texts ["secretName", "secretNamespace", "shareName"] ++ flags ["readOnly"])),
      ("claimRef", objectReference),
      ("csi", compound ["driver", "volumeHandle"]
        (texts ["driver", "fsType", "volumeHandle"] ++ flags ["readOnly"] ++
          textMaps ["volumeAttributes"] ++
        Json.Shape.all ["controllerExpandSecretRef", "controllerPublishSecretRef",
          "nodeExpandSecretRef", "nodePublishSecretRef", "nodeStageSecretRef"] secretReference)),
      ("glusterfs", compound ["endpoints", "path"]
        (texts ["endpoints", "endpointsNamespace", "path"] ++ flags ["readOnly"])),
      ("local", compound ["path"] (texts ["fsType", "path"])),
      ("nodeAffinity", record [("required", nodeSelector)]),
      ("storageos", storageSource objectReference)])

/-- The shape of what is observed of a persistent volume. -/
def persistentVolumeStatus : Shape :=
  record (texts ["message", "phase", "reason"] ++ timestamps ["lastPhaseTransitionTime"])

end Schema

end VolumeMigration
