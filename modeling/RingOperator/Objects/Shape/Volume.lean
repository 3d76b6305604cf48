import RingOperator.Objects.Shape.Container

/-!
# Shapes of volumes

Claims of storage, and the volumes of a pod with each kind of source.
-/

namespace RingOperator.Shape

/-- What a claim of storage asks for. -/
def claimSpec : Shape :=
  record (texts ["storageClassName", "volumeMode", "volumeName"] ++ textLists ["accessModes"] ++ [
    ("dataSource", ofTexts ["apiGroup", "kind", "name"]),
    ("dataSourceRef", ofTexts ["apiGroup", "kind", "name", "namespace"]),
    ("resources", resources), ("selector", labelSelector)])

/-- A claim of storage. -/
def claim : Shape :=
  named "v1" "PersistentVolumeClaim" (record [("metadata", metadata), ("spec", claimSpec),
    ("status", record (texts ["phase"] ++ textLists ["accessModes"] ++
      textMaps ["allocatedResourceStatuses", "allocatedResources", "capacity"] ++
      [("conditions", conditions ["lastProbeTime", "lastTransitionTime"])]))])

/-- Keys of an object with the files that hold their values. -/
def keyFiles : Shape := list (record (texts ["key", "path"] ++ counts ["mode"]))

/-- Files that hold parts of the pod. -/
def podFiles : Shape :=
  list (record (texts ["path"] ++ counts ["mode"] ++
    [("fieldRef", fieldReference), ("resourceFieldRef", resourceReference)]))

/-- An object whose values are put into files. -/
def projectedObject : Shape :=
  record (texts ["name"] ++ flags ["optional"] ++ [("items", keyFiles)])

/-- A source of a volume: texts, whether it may only be read, and more. -/
def source (names : List String) (more : List (String × Shape)) : Shape :=
  record (texts names ++ flags ["readOnly"] ++ more)

/-- A source of a volume that needs a secret. -/
def guarded (names : List String) (more : List (String × Shape)) : Shape :=
  source names (("secretRef", byName) :: more)

/-- Sources that hold parts of the pod and of objects beside it. -/
def localSources : List (String × Shape) :=
  [("configMap", record (texts ["name"] ++ counts ["defaultMode"] ++ flags ["optional"] ++
      [("items", keyFiles)])),
    ("downwardAPI", record (counts ["defaultMode"] ++ [("items", podFiles)])),
    ("emptyDir", ofTexts ["medium", "sizeLimit"]),
    ("ephemeral", record [("volumeClaimTemplate",
      record [("metadata", metadata), ("spec", claimSpec)])]),
    ("gitRepo", ofTexts ["directory", "repository", "revision"]),
    ("hostPath", ofTexts ["path", "type"]),
    ("persistentVolumeClaim", source ["claimName"] []),
    ("projected", record (counts ["defaultMode"] ++ [("sources", list (record [
      ("configMap", projectedObject), ("secret", projectedObject),
      ("downwardAPI", record [("items", podFiles)]),
      ("serviceAccountToken", record (texts ["audience", "path"] ++
        longs ["expirationSeconds"]))]))])),
    ("secret", record (texts ["secretName"] ++ counts ["defaultMode"] ++ flags ["optional"] ++
      [("items", keyFiles)]))]

/-- Sources outside of the cluster. -/
def remoteSources : List (String × Shape) :=
  [("awsElasticBlockStore", source ["fsType", "volumeID"] (counts ["partition"])),
    ("azureDisk", source ["cachingMode", "diskName", "diskURI", "fsType", "kind"] []),
    ("azureFile", source ["secretName", "shareName"] []),
    ("cephfs", guarded ["path", "secretFile", "user"] (textLists ["monitors"])),
    ("cinder", guarded ["fsType", "volumeID"] []),
    ("csi", source ["driver", "fsType"]
      (("nodePublishSecretRef", byName) :: textMaps ["volumeAttributes"])),
    ("fc", source ["fsType"] (counts ["lun"] ++ textLists ["targetWWNs", "wwids"])),
    ("flexVolume", guarded ["driver", "fsType"] (textMaps ["options"])),
    ("flocker", ofTexts ["datasetName", "datasetUUID"]),
    ("gcePersistentDisk", source ["fsType", "pdName"] (counts ["partition"])),
    ("glusterfs", source ["endpoints", "path"] []),
    ("iscsi", guarded ["fsType", "initiatorName", "iqn", "iscsiInterface", "targetPortal"]
      (flags ["chapAuthDiscovery", "chapAuthSession"] ++ counts ["lun"] ++ textLists ["portals"])),
    ("nfs", source ["path", "server"] []),
    ("photonPersistentDisk", ofTexts ["fsType", "pdID"]),
    ("portworxVolume", source ["fsType", "volumeID"] []),
    ("quobyte", source ["group", "registry", "tenant", "user", "volume"] []),
    ("rbd", guarded ["fsType", "image", "keyring", "pool", "user"] (textLists ["monitors"])),
    ("scaleIO", guarded ["fsType", "gateway", "protectionDomain", "storageMode", "storagePool",
      "system", "volumeName"] (flags ["sslEnabled"])),
    ("storageos", guarded ["fsType", "volumeName", "volumeNamespace"] []),
    ("vsphereVolume", ofTexts ["fsType", "storagePolicyID", "storagePolicyName", "volumePath"])]

/-- A volume of a pod. -/
def volume : Shape := record (texts ["name"] ++ localSources ++ remoteSources)

end RingOperator.Shape
