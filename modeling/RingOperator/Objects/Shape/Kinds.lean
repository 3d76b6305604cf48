import RingOperator.Objects.Shape.Volume

/-!
# Shapes of the kinds of objects

Pods, StatefulSets, nodes and config maps, as the API declares them.
-/

namespace RingOperator.Shape

/-- Terms that select nodes. -/
def nodeTerm : Shape := record (each (list requirement) ["matchExpressions", "matchFields"])

/-- Pods beside which a pod is put, or away from which. -/
def podTerm : Shape :=
  record (texts ["topologyKey"] ++ textLists ["namespaces"] ++
    each labelSelector ["labelSelector", "namespaceSelector"])

/-- Preferred and required terms about other pods. -/
def podAffinity : Shape :=
  record [
    ("preferredDuringSchedulingIgnoredDuringExecution",
      list (record (counts ["weight"] ++ [("podAffinityTerm", podTerm)]))),
    ("requiredDuringSchedulingIgnoredDuringExecution", list podTerm)]

/-- Where a pod may be put. -/
def affinity : Shape :=
  record [
    ("nodeAffinity", record [
      ("preferredDuringSchedulingIgnoredDuringExecution",
        list (record (counts ["weight"] ++ [("preference", nodeTerm)]))),
      ("requiredDuringSchedulingIgnoredDuringExecution",
        record [("nodeSelectorTerms", list nodeTerm)])]),
    ("podAffinity", podAffinity), ("podAntiAffinity", podAffinity)]

/-- How a pod finds other names. -/
def nameService : Shape :=
  record (textLists ["nameservers", "searches"] ++ [("options", settings)])

/-- Security settings of a pod. -/
def podSecurity : Shape :=
  record (identityFields ++ longs ["fsGroup"] ++ texts ["fsGroupChangePolicy"] ++
    [("supplementalGroups", list long), ("sysctls", settings)])

/-- A way to spread pods over the cluster. -/
def spread : Shape :=
  record (texts ["nodeAffinityPolicy", "nodeTaintsPolicy", "topologyKey", "whenUnsatisfiable"] ++
    textLists ["matchLabelKeys"] ++ counts ["maxSkew", "minDomains"] ++
    [("labelSelector", labelSelector)])

/-- What a pod is to be. -/
def podSpec : Shape :=
  record (texts ["dnsPolicy", "hostname", "nodeName", "preemptionPolicy", "priorityClassName",
      "restartPolicy", "runtimeClassName", "schedulerName", "serviceAccount",
      "serviceAccountName", "subdomain"] ++
    flags ["automountServiceAccountToken", "enableServiceLinks", "hostIPC", "hostNetwork",
      "hostPID", "hostUsers", "setHostnameAsFQDN", "shareProcessNamespace"] ++
    longs ["activeDeadlineSeconds", "terminationGracePeriodSeconds"] ++ counts ["priority"] ++
    textMaps ["nodeSelector", "overhead"] ++ [
    ("affinity", affinity), ("dnsConfig", nameService),
    ("containers", list container), ("initContainers", list container),
    ("ephemeralContainers", list ephemeralContainer),
    ("hostAliases", list (record (texts ["ip"] ++ textLists ["hostnames"]))),
    ("imagePullSecrets", list byName), ("os", byName),
    ("readinessGates", list (ofTexts ["conditionType"])),
    ("resourceClaims", list (record (texts ["name"] ++
      [("source", ofTexts ["resourceClaimName", "resourceClaimTemplateName"])]))),
    ("schedulingGates", list byName), ("securityContext", podSecurity),
    ("tolerations", list (record (texts ["effect", "key", "operator", "value"] ++
      longs ["tolerationSeconds"]))),
    ("topologySpreadConstraints", list spread), ("volumes", list volume)])

/-- The report of a pod. -/
def podStatus : Shape :=
  record (texts ["hostIP", "message", "nominatedNodeName", "phase", "podIP", "qosClass", "reason",
      "resize"] ++
    times ["startTime"] ++ each (list (ofTexts ["ip"])) ["hostIPs", "podIPs"] ++
    each (list containerReport) ["containerStatuses", "ephemeralContainerStatuses",
      "initContainerStatuses"] ++ [
    ("conditions", conditions ["lastProbeTime", "lastTransitionTime"]),
    ("resourceClaimStatuses", list (ofTexts ["name", "resourceClaimName"]))])

/-- A pod. -/
def pod : Shape :=
  named "v1" "Pod"
    (record [("metadata", metadata), ("spec", podSpec), ("status", podStatus)])

/-- What a StatefulSet is to be. -/
def statefulSetSpec : Shape :=
  record (texts ["podManagementPolicy", "serviceName"] ++
    counts ["minReadySeconds", "replicas", "revisionHistoryLimit"] ++ [
    ("ordinals", record (counts ["start"])),
    ("persistentVolumeClaimRetentionPolicy", ofTexts ["whenDeleted", "whenScaled"]),
    ("selector", labelSelector),
    ("template", record [("metadata", metadata), ("spec", podSpec)]),
    ("updateStrategy", record (texts ["type"] ++
      [("rollingUpdate", record (counts ["partition"] ++ [("maxUnavailable", countOrText)]))])),
    ("volumeClaimTemplates", list claim)])

/-- The report of a StatefulSet. -/
def statefulSetStatus : Shape :=
  record (texts ["currentRevision", "updateRevision"] ++ longs ["observedGeneration"] ++
    counts ["availableReplicas", "collisionCount", "currentReplicas", "readyReplicas", "replicas",
      "updatedReplicas"] ++
    [("conditions", conditions ["lastTransitionTime"])])

/-- A StatefulSet. -/
def statefulSet : Shape :=
  named "apps/v1" "StatefulSet"
    (record [("metadata", metadata), ("spec", statefulSetSpec), ("status", statefulSetStatus)])

/-- A config map that configures a node. -/
def nodeConfigSource : Shape :=
  record [("configMap", ofTexts ["kubeletConfigKey", "name", "namespace", "resourceVersion",
    "uid"])]

/-- What a node is to be. -/
def nodeSpec : Shape :=
  record (texts ["externalID", "podCIDR", "providerID"] ++ textLists ["podCIDRs"] ++
    flags ["unschedulable"] ++ [
    ("configSource", nodeConfigSource),
    ("taints", list (record (texts ["effect", "key", "value"] ++ times ["timeAdded"])))])

/-- The report of a node. -/
def nodeStatus : Shape :=
  record (texts ["phase"] ++ textLists ["volumesInUse"] ++
    textMaps ["allocatable", "capacity"] ++ [
    ("addresses", list (ofTexts ["address", "type"])),
    ("conditions", conditions ["lastHeartbeatTime", "lastTransitionTime"]),
    ("config", record (texts ["error"] ++
      each nodeConfigSource ["active", "assigned", "lastKnownGood"])),
    ("daemonEndpoints", record [("kubeletEndpoint", record (counts ["Port"]))]),
    ("images", list (record (textLists ["names"] ++ longs ["sizeBytes"]))),
    ("nodeInfo", ofTexts ["architecture", "bootID", "containerRuntimeVersion", "kernelVersion",
      "kubeProxyVersion", "kubeletVersion", "machineID", "operatingSystem", "osImage",
      "systemUUID"]),
    ("volumesAttached", list (ofTexts ["devicePath", "name"]))])

/-- A node of the Kubernetes cluster. -/
def node : Shape :=
  named "v1" "Node"
    (record [("metadata", metadata), ("spec", nodeSpec), ("status", nodeStatus)])

/-- A config map. -/
def configMap : Shape :=
  named "v1" "ConfigMap"
    (record [("metadata", metadata), ("binaryData", map bytes), ("data", map text),
      ("immutable", flag)])

end RingOperator.Shape
