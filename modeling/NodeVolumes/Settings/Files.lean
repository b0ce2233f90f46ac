import NodeVolumes.Document.Json5
import NodeVolumes.Document.Toml
import NodeVolumes.Document.Yaml
import NodeVolumes.Host.Request
import NodeVolumes.Settings.Layers

/-!
# Settings files

Where settings files are looked for, how they are read, and loading all layers.

Of the candidates the first one that can be read is used, and no other; a file that cannot be read
does harm only if there is none after it that can.
-/

namespace NodeVolumes.Settings

open Text

abbrev Environment : Type := SortedMap String

def Environment.given? (environment : Environment) (name : String) : Option String :=
  (environment.get? name).bind fun value => if value = "" then none else some value

def directoryName : String := "flexvol"

def candidatesIn (base : String) : List String :=
  let directory := Path.join base directoryName
  [Path.join directory fileName, Path.join base ("." ++ fileName)] ++
    ["json", "json5", "yaml", "yml"].map fun kind => Path.join directory (directoryName ++ "." ++ kind)

def baseDirectories (environment : Environment) : List String :=
  let home := environment.given? "HOME"
  let shared := ((environment.get? "XDG_CONFIG_DIRS").getD "/etc/xdg")
  (environment.given? "XDG_CONFIG_HOME").toList ++
    (splitAt (· == ':') shared).filter (· ≠ "") ++
    (home.map fun h => Path.join h ".config").toList

def candidates (environment : Environment) : List String :=
  (environment.given? "FLEXVOL_CONFIG_PATH").toList ++
    (baseDirectories environment).flatMap candidatesIn ++
    ((environment.given? "HOME").map fun h => Path.join h ("." ++ fileName)).toList ++
    [fileName]

/-- What follows the last point of a file's name, in lower case, if something stands before it. -/
def extension? (path : String) : Option String :=
  (Path.fileName path).bind fun name =>
    match (pieces (· == '.') name.toList).reverse with
    | [] | [_] | [_, []] => none
    | last :: _ => some (String.ofList last).toLower

def ofText? (path text : String) : Option Json :=
  let value :=
    match extension? path with
    | some "json" | some "json5" => Document.Json5.parse? text
    | some "yaml" | some "yml" => Document.Yaml.parse? text
    | _ => Document.Toml.parse? text
  match value with
  | some (.object members) => some (.object members)
  | _ => none

def readFile (path : String) : Host.Program (Except Error Json) := do
  match ← Host.ask (.read path) with
  | .error e => return .error (.unreadable (path ++ ": " ++ e.message))
  | .ok text =>
      match ofText? path text with
      | some layer => return .ok layer
      | none => return .error (.unreadable (path ++ ": malformed settings"))

/--
Reads the first candidate that can be read.

`fault` is what was wrong with the first one that could not; without candidates the layer is
empty.
-/
def firstReadable (fault : Option Error) : List String → Host.Program (Except Error Json)
  | [] =>
      match fault with
      | some e => return .error e
      | none => return .ok (.object [])
  | path :: rest => do
      if ← Host.ask (.isFile path) then
        match ← readFile path with
        | .ok layer => return .ok layer
        | .error e => firstReadable (fault <|> some e) rest
      else
        firstReadable fault rest

def layers (family : String) (environment : Environment) : Host.Action Error Json :=
  ExceptT.mk do
    match ← firstReadable none (candidates environment) with
    | .ok file => return .ok (overlaid file (ofVariables family environment))
    | .error e => return .error e

def nodeFamily : String := "FLEXVOL_"

def cloudFamily : String := "OS_"

/-- The node settings that hold by themselves where settings are loaded: disks are not released. -/
def loadedNode : Node :=
  { releasesDisks := false }

def loadNode (environment : Environment) : Host.Action Error Node := do
  let layer ← layers nodeFamily environment
  ExceptT.mk (pure (loadedNode.withLayer layer))

def loadCloud (environment : Environment) : Host.Action Error Cloud := do
  let layer ← layers cloudFamily environment
  ExceptT.mk (pure (Cloud.withLayer {} layer))

end NodeVolumes.Settings
