import RingOperator.Objects.Shape.Metadata

/-!
# Shapes of containers

Containers as a pod declares them, and as its status reports them.
-/

namespace RingOperator.Shape

/-- A label of the security module of the host's kernel. -/
def kernelLabel : Shape := ofTexts ["level", "role", "type", "user"]

/-- A filter of calls to the host's kernel. -/
def callFilter : Shape := ofTexts ["localhostProfile", "type"]

/-- Security settings on hosts with Windows. -/
def windowsSecurity : Shape :=
  record (texts ["gmsaCredentialSpec", "gmsaCredentialSpecName", "runAsUserName"] ++
    flags ["hostProcess"])

/-- The user that processes run as, and the limits that the host sets to them. -/
def identityFields : List (String × Shape) :=
  longs ["runAsGroup", "runAsUser"] ++ flags ["runAsNonRoot"] ++ [
    ("seLinuxOptions", kernelLabel), ("seccompProfile", callFilter),
    ("windowsOptions", windowsSecurity)]

/-- Security settings of a container. -/
def containerSecurity : Shape :=
  record (identityFields ++ texts ["procMount"] ++
    flags ["allowPrivilegeEscalation", "privileged", "readOnlyRootFilesystem"] ++
    [("capabilities", record (textLists ["add", "drop"]))])

/-- Names with values. -/
def settings : Shape := list (ofTexts ["name", "value"])

/-- A field of the pod. -/
def fieldReference : Shape := ofTexts ["apiVersion", "fieldPath"]

/-- An amount of a resource of a container. -/
def resourceReference : Shape := ofTexts ["containerName", "divisor", "resource"]

/-- An object by its name, with more texts, that need not be there. -/
def optionalObject (more : List String) : Shape :=
  record (texts ("name" :: more) ++ flags ["optional"])

/-- A variable in the environment of a container. -/
def envVar : Shape :=
  record (texts ["name", "value"] ++ [("valueFrom", record [
    ("configMapKeyRef", optionalObject ["key"]), ("secretKeyRef", optionalObject ["key"]),
    ("fieldRef", fieldReference), ("resourceFieldRef", resourceReference)])])

/-- A source of variables in the environment of a container. -/
def envSource : Shape :=
  record (texts ["prefix"] ++
    [("configMapRef", optionalObject []), ("secretRef", optionalObject [])])

/-- The ways to reach a container: a command, a request or a connection. -/
def handlerFields : List (String × Shape) :=
  [("exec", record (textLists ["command"])),
    ("httpGet", record (texts ["host", "path", "scheme"] ++
      [("httpHeaders", settings), ("port", countOrText)])),
    ("tcpSocket", record (texts ["host"] ++ [("port", countOrText)]))]

/-- A probe of a container. -/
def probe : Shape :=
  record (handlerFields ++ longs ["terminationGracePeriodSeconds"] ++
    counts ["failureThreshold", "initialDelaySeconds", "periodSeconds", "successThreshold",
      "timeoutSeconds"] ++
    [("grpc", record (counts ["port"] ++ texts ["service"]))])

/-- The fields of a container. -/
def containerFields : List (String × Shape) :=
  texts ["image", "imagePullPolicy", "name", "restartPolicy", "terminationMessagePath",
      "terminationMessagePolicy", "workingDir"] ++
    textLists ["args", "command"] ++ flags ["stdin", "stdinOnce", "tty"] ++
    each probe ["livenessProbe", "readinessProbe", "startupProbe"] ++ [
    ("env", list envVar), ("envFrom", list envSource),
    ("lifecycle", record (each (record handlerFields) ["postStart", "preStop"])),
    ("ports", list (record (counts ["containerPort", "hostPort"] ++
      texts ["hostIP", "name", "protocol"]))),
    ("resizePolicy", list (ofTexts ["resourceName", "restartPolicy"])),
    ("resources", resources), ("securityContext", containerSecurity),
    ("volumeDevices", list (ofTexts ["devicePath", "name"])),
    ("volumeMounts", list (record (texts ["mountPath", "mountPropagation", "name", "subPath",
      "subPathExpr"] ++ flags ["readOnly"])))]

/-- A container. -/
def container : Shape := record containerFields

/-- A container that is added to a running pod. -/
def ephemeralContainer : Shape := record (containerFields ++ texts ["targetContainerName"])

/-- What a container is or was doing. -/
def containerState : Shape :=
  record [("running", record (times ["startedAt"])),
    ("terminated", record (texts ["containerID", "message", "reason"] ++
      counts ["exitCode", "signal"] ++ times ["finishedAt", "startedAt"])),
    ("waiting", ofTexts ["message", "reason"])]

/-- The report of a container. -/
def containerReport : Shape :=
  record (texts ["containerID", "image", "imageID", "name"] ++ flags ["ready", "started"] ++
    counts ["restartCount"] ++ textMaps ["allocatedResources"] ++
    each containerState ["lastState", "state"] ++ [("resources", resources)])

end RingOperator.Shape
