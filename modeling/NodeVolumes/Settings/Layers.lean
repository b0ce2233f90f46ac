import NodeVolumes.Json.Basic
import NodeVolumes.Settings.Cloud
import NodeVolumes.Settings.Node
import NodeVolumes.Settings.Variable
import NodeVolumes.Text.Search

/-!
# Layers of settings

Settings come in layers: what environment variables say over what a file says over what holds by
itself.  A layer is an object; layers are merged before any setting is checked, so a wrong value
does no harm where a higher layer replaces it.
-/

namespace NodeVolumes.Settings

open Text

def valueAt? (key : String) : Json → Option Json
  | .object members => (members.find? fun m => m.1 = key).map Prod.snd
  | _ => none

mutual

/-- A layer over another: objects are merged, other values replaced. -/
def overlaid (base : Json) : Json → Json
  | .object members =>
      match base with
      | .object below => .object (overlaidMembers below members)
      | _ => .object members
  | top => top

def overlaidMembers (below : List (String × Json)) : List (String × Json) → List (String × Json)
  | [] => below
  | (key, top) :: rest =>
      let value :=
        match below.find? fun m => m.1 = key with
        | some (_, base) => overlaid base top
        | none => top
      overlaidMembers (SortedMap.insertEntry key value below) rest

end

def nested (path : List String) (value : Json) : Json :=
  path.foldr (fun key inner => .object [(key, inner)]) value

/-- The path of keys that a variable's name stands for; doubled underscores lead inwards. -/
def pathOf (name : String) : List String :=
  splitAt (· == '.') (replaceAll name "__" ".")

/-- The name of a variable without the start that marks its family, in lower case. -/
def memberName? (family name : String) : Option String :=
  let lower := name.toLower
  if startsWith lower family.toLower && family.length < name.length then
    some (String.ofList (lower.toList.drop family.length))
  else
    none

def ofVariables (family : String) (environment : SortedMap String) : Json :=
  environment.entries.foldl
    (fun layer (name, text) =>
      match memberName? family name with
      | some key => overlaid layer (nested (pathOf key) (Variable.value text))
      | none => layer)
    (.object [])

def wrongType (key expected : String) : Error :=
  .unreadable ("invalid type for key " ++ key ++ ": expected " ++ expected)

def textSetting (layer : Json) (key fallback : String) : Except Error String :=
  match valueAt? key layer with
  | none => .ok fallback
  | some (.string s) => .ok s
  | some _ => .error (wrongType key "a string")

def textSetting? (layer : Json) (key : String) (fallback : Option String) :
    Except Error (Option String) :=
  match valueAt? key layer with
  | none => .ok fallback
  | some .null => .ok none
  | some (.string s) => .ok (some s)
  | some _ => .error (wrongType key "a string")

def numberSetting (layer : Json) (key : String) (bound fallback : Nat) : Except Error Nat :=
  match valueAt? key layer with
  | none => .ok fallback
  | some (.number (.integer n)) =>
      if 0 ≤ n ∧ n < bound then .ok n.toNat else .error (wrongType key "a number in range")
  | some _ => .error (wrongType key "a number")

/--
Node settings with those of a layer over them.

Whether disks are released is not read from a layer.
-/
def Node.withLayer (base : Node) (layer : Json) : Except Error Node := do
  return {
    driverName := ← textSetting layer "driver_prefix" base.driverName
    kubeletPlugins := ← textSetting layer "kubelet_plugin_dir" base.kubeletPlugins
    openshiftPlugins := ← textSetting layer "openshift_plugin_dir" base.openshiftPlugins
    discoveryAttempts :=
      ← numberSetting layer "discovery_max_attempts" 0x100000000 base.discoveryAttempts
    discoverySeconds :=
      ← numberSetting layer "discovery_interval_secs" 0x10000000000000000 base.discoverySeconds
    sysfsRoot := ← textSetting layer "sysfs_root" base.sysfsRoot
    devRoot := ← textSetting layer "dev_root" base.devRoot
    helper := ← textSetting layer "sudo_bin" base.helper
    logFile := ← textSetting? layer "log_file" base.logFile
    logLevel := ← textSetting layer "log_level" base.logLevel
    releasesDisks := base.releasesDisks }

def Cloud.withLayer (base : Cloud) (layer : Json) : Except Error Cloud := do
  return {
    authUrl := ← textSetting? layer "auth_url" base.authUrl
    username := ← textSetting? layer "username" base.username
    password := ← textSetting? layer "password" base.password
    userDomain := ← textSetting layer "user_domain_name" base.userDomain
    projectDomain := ← textSetting layer "project_domain_name" base.projectDomain
    projectName := ← textSetting? layer "tenant_name" base.projectName
    projectId := ← textSetting? layer "tenant_id" base.projectId
    region := ← textSetting? layer "region_name" base.region
    endpointInterface := ← textSetting layer "endpoint_interface" base.endpointInterface
    certificates := ← textSetting? layer "cacert" base.certificates }

end NodeVolumes.Settings
