import NodeVolumes.Host.Request

/-!
# Log targets

Where the log goes: to the end of a file, or to standard error if the file cannot be opened.
-/

namespace NodeVolumes.Log

inductive Target where
  | file (path : String)
  /-- The file could not be opened. -/
  | standardError (path : String) (reason : File.IoError)
  deriving DecidableEq, Repr

/-- Opens a file for appending, which makes it if it is not there. -/
def openFile (path : String) : Host.Program (Except File.IoError Unit) :=
  Host.ask (.append path "")

def Target.opened (path : String) : Host.Program Target := do
  match ← openFile path with
  | .ok () => return .file path
  | .error reason => return .standardError path reason

end NodeVolumes.Log
