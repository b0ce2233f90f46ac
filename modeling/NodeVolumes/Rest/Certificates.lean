import NodeVolumes.Cloud.Request
import NodeVolumes.Host.Request
import NodeVolumes.Settings.Cloud
import NodeVolumes.Text.Search

/-!
# Certificate bundles

The certificates that a cloud's endpoints are checked against.  A bundle that went through a
setting of one line has spaces where its lines ended; `repaired` makes them line ends again.
-/

namespace NodeVolumes.Rest

open Text

def certificateWord : String := "CERTIFICATE"

def repaired (text : String) : String :=
  let kept := replaceAll text (" " ++ certificateWord) ("." ++ certificateWord)
  let broken := replaceAll kept " " "\n"
  replaceAll broken ("." ++ certificateWord) (" " ++ certificateWord)

inductive BundleFault where
  | notAFile
  | file (error : File.IoError)
  deriving DecidableEq, Repr

def BundleFault.message : BundleFault → String
  | .notAFile => "not a file path"
  | .file error => error.message

def bundleError (path : String) (fault : BundleFault) : Cloud.Error :=
  .config ("CA bundle " ++ path ++ ": " ++ fault.message)

def bundleDirectory (path : String) : String :=
  match Path.parent path with
  | none | some "" => "."
  | some directory => directory

/-- Reads a bundle, not following links out of its directory. -/
def readBundle (path : String) : Host.Action Cloud.Error String :=
  match Path.fileName path with
  | none => ExceptT.mk (pure (.error (bundleError path .notAFile)))
  | some name => ExceptT.mk do
      match ← Host.ask (.readBelow (bundleDirectory path) name) with
      | .ok text => return .ok (repaired text)
      | .error error => return .error (bundleError path (.file error))

def trusted (settings : Settings.Cloud) : Host.Action Cloud.Error (Option String) :=
  match settings.certificates? with
  | none => return none
  | some path => some <$> readBundle path

end NodeVolumes.Rest
