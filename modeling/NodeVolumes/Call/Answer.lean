import NodeVolumes.Call.Request
import NodeVolumes.Kubelet.Arguments
import NodeVolumes.Kubelet.Dispatch
import NodeVolumes.Log.Target
import NodeVolumes.Settings.Files

/-!
# Answering a call

What the program does from its arguments and environment to the one line that it writes.
Arguments that name no operation are answered before anything is asked; cloud settings are loaded
when a session is opened, so operations on the host never need them.

A call writes when it has its response, and not before.  Given fuel, it is told as far as a listing
of its cloud gets with it, and has written nothing while such a listing is still going on.
-/

namespace NodeVolumes

structure Call where
  /-- The program's name, and what follows it. -/
  arguments : List Text.RawText
  environment : Settings.Environment

namespace Call

open Kubelet

def usageElsewhere : String := "no operation requested; usage written to stderr"

def connectWith (load : Host.Action Settings.Error Settings.Cloud) :
    Action Cloud.Error Rest.Client := do
  let settings ← ExceptT.adapt (fun e => .config e.message) (ExceptT.mk (ofHost load.run))
  let session ← ExceptT.mk (ofClient (Rest.connect settings).run)
  return { session }

def binary (call : Call) : String :=
  binaryName call.arguments.head?

def serve (call : Call) (fuel : Nat) (settings : Settings.Node) (operation : Operation) :
    OptionT Program Response := do
  let _ ← OptionT.lift (ofHost (Log.Target.opened (settings.logFileFor call.binary)))
  ofOperation fuel (connectWith (Settings.loadCloud call.environment))
    (dispatch settings (settings.driverNameFor call.binary) operation)

def response (call : Call) (fuel : Nat) : OptionT Program Response :=
  match Invocation.parse call.arguments with
  | .help _ => return .failure usageElsewhere
  | .respond r => return r
  | .run operation => do
      match ← OptionT.lift (ofHost (Settings.loadNode call.environment).run) with
      | .ok settings => call.serve fuel settings operation
      | .error e => return .failure ("configuration error: " ++ e.message)

/-- A response on a line of its own, or nothing yet. -/
def written : Option Response → String
  | some r => r.encode ++ "\n"
  | none => ""

def output (call : Call) (fuel : Nat) : Program String := do
  return written (← (call.response fuel).run)

end Call

end NodeVolumes
