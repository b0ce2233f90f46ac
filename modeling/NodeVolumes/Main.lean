import NodeVolumes.Call.Answer
import NodeVolumes.Net.Numeral

/-!
# The command line

One call: arguments and environment in, one line with the response out.

The host's file system is read and written as asked.  Programs cannot be started from here and
nothing can be sent over a network, so such requests are answered with the failure of a host
without either; host names are known if they spell an address out.
-/

namespace NodeVolumes.Terminal

open File

def cause : IO.Error → IoError
  | .permissionDenied _ _ _ => .permissionDenied
  | .alreadyExists _ _ _ => .alreadyExists
  | .inappropriateType _ code _ => if code = 21 then .isADirectory else .notADirectory
  | _ => .notFound

def attempt {α : Type} (operation : IO α) : IO (Except IoError α) := do
  try
    return .ok (← operation)
  catch e =>
    return .error (cause e)

/-- A file operation on a path that may not leave the directory it is below. -/
def onBelow {α : Type} (root path : String) (operation : String → IO α) :
    IO (Except IoError α) := do
  if Path.isAbsolute path || (Path.parts path).contains ".." then
    return .error .outside
  else
    attempt do
      let top ← IO.FS.realPath root
      operation (Path.join top.toString path)

def names (path : String) : IO (List String) := do
  let entries ← (← IO.FS.realPath path).readDir
  return (entries.toList.map fun e => e.fileName).mergeSort fun a b => a ≤ b

/-- Whether a name stands in its directory as something other than a file or directory. -/
def isLink (directory name : String) : IO Bool := do
  let here ← IO.FS.realPath directory
  let present ← names directory
  if present.contains name then
    match ← attempt (IO.FS.realPath (Path.join directory name)) with
    | .ok place => return place.toString != Path.join here.toString name
    | .error _ => return true
  else
    throw (.noFileOrDirectory name 2 IoError.notFound.message)

def succeeds {α : Type} (operation : IO α) : IO Bool :=
  return (← attempt operation).isOk

def stands (place : String) : IO Bool := do
  match Path.parent place, Path.fileName place with
  | some directory, some name => return (← names directory).contains name
  | _, _ => succeeds (IO.FS.realPath place)

def onHost : (r : Host.Request) → IO r.Answer
  | .run c => return .error ⟨c.program, "programs cannot be started here"⟩
  | .sleep milliseconds => IO.sleep (UInt32.ofNat (min milliseconds 0xFFFFFFFF))
  | .countPass => return ()
  | .pathExists path => succeeds (IO.FS.realPath path)
  | .isDirectory path => succeeds (names path)
  | .isLink directory name => attempt (isLink directory name)
  | .canonical path => attempt do return (← IO.FS.realPath path).toString
  | .names root path => onBelow root path names
  | .entryExists root path => do
      match ← onBelow root path stands with
      | .ok found => return found
      | .error _ => return false
  | .write root path text => onBelow root path fun place => IO.FS.writeFile place text
  | .isFile path => succeeds (IO.FS.withFile path .read fun h => h.read 1)
  | .read path => attempt (IO.FS.readFile path)
  | .readBelow root path => onBelow root path fun place => IO.FS.readFile place
  | .append path text => attempt (IO.FS.withFile path .append fun h => h.putStr text)

def answer : (r : Call.Request) → IO r.Answer
  | .exchange r => return .error (.unreachable r.url.text)
  | .addresses hostname => return (Net.spelledOut hostname).toOption
  | .host r => onHost r

/-- The names of the variables that a call reads, without those of settings. -/
def placeVariables : List String :=
  ["HOME", "XDG_CONFIG_HOME", "XDG_CONFIG_DIRS", "FLEXVOL_CONFIG_PATH"]

def settingVariables : List String :=
  (["DRIVER_PREFIX", "KUBELET_PLUGIN_DIR", "OPENSHIFT_PLUGIN_DIR", "DISCOVERY_MAX_ATTEMPTS",
      "DISCOVERY_INTERVAL_SECS", "SYSFS_ROOT", "DEV_ROOT", "SUDO_BIN", "LOG_FILE",
      "LOG_LEVEL"].map (Settings.nodeFamily ++ ·)) ++
    (["AUTH_URL", "USERNAME", "PASSWORD", "USER_DOMAIN_NAME", "PROJECT_DOMAIN_NAME",
      "TENANT_NAME", "TENANT_ID", "REGION_NAME", "ENDPOINT_INTERFACE",
      "CACERT"].map (Settings.cloudFamily ++ ·))

def environment : IO Settings.Environment := do
  let mut found : Settings.Environment := {}
  for name in placeVariables ++ settingVariables do
    if let some value ← IO.getEnv name then
      found := found.insert name value
  return found

def call (args : List String) : IO Call := do
  let program := (← IO.appPath).toString
  return { arguments := (program :: args).map .text, environment := ← environment }

end NodeVolumes.Terminal

/-- Writes the response to the call, whatever its arguments. -/
def main (args : List String) : IO Unit := do
  let call ← NodeVolumes.Terminal.call args
  -- more pages than any listing gets to while the machine runs
  IO.print (← (call.output 0x10000000000000000).foldM NodeVolumes.Terminal.answer)
