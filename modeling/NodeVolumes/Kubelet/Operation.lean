import NodeVolumes.Kubelet.Options

/-!
# Operations

What kubelet can ask for, with the arguments of each request.
-/

namespace NodeVolumes.Kubelet

inductive Verb where
  | init
  | getVolumeName
  | isAttached
  | attach
  | waitForAttach
  | mountDevice
  | mount
  | detach
  | waitForDetach
  | unmountDevice
  | unmount
  deriving DecidableEq, Repr

namespace Verb

def all : List Verb :=
  [.init, .getVolumeName, .isAttached, .attach, .waitForAttach, .mountDevice, .mount, .detach,
    .waitForDetach, .unmountDevice, .unmount]

def word : Verb → String
  | .init => "init"
  | .getVolumeName => "getvolumename"
  | .isAttached => "isattached"
  | .attach => "attach"
  | .waitForAttach => "waitforattach"
  | .mountDevice => "mountdevice"
  | .mount => "mount"
  | .detach => "detach"
  | .waitForDetach => "waitfordetach"
  | .unmountDevice => "unmountdevice"
  | .unmount => "unmount"

def ofWord? (word : String) : Option Verb :=
  all.find? fun v => v.word = word

/-- How many arguments a verb needs, and how many it takes. -/
def arity : Verb → Nat × Nat
  | .init => (0, 0)
  | .getVolumeName => (0, 1)
  | .isAttached | .attach | .detach => (2, 2)
  | .waitForAttach | .mount => (1, 2)
  | .mountDevice => (2, 3)
  | .waitForDetach | .unmountDevice | .unmount => (1, 1)

theorem mem_all (v : Verb) : v ∈ all := by
  cases v <;> decide

theorem ofWord?_word (v : Verb) : ofWord? v.word = some v := by
  cases v <;> decide

end Verb

inductive Operation where
  /-- What the driver can do. -/
  | init
  /-- The name that tells volumes apart. -/
  | getVolumeName (options : Options)
  | isAttached (options : Options) (node : String)
  | attach (options : Options) (node : String)
  /-- Waits until a device is seen. -/
  | waitForAttach (device : String)
  /-- Mounts a device at a global path. -/
  | mountDevice (path device : String) (options : Options)
  /-- Binds a global path into the directory of a pod. -/
  | mount (directory : String) (options : Options)
  | detach (volumeName node : String)
  /-- Waits until a device is gone. -/
  | waitForDetach (device : String)
  | unmountDevice (path : String)
  | unmount (directory : String)

namespace Operation

def verb : Operation → Verb
  | .init => .init
  | .getVolumeName _ => .getVolumeName
  | .isAttached _ _ => .isAttached
  | .attach _ _ => .attach
  | .waitForAttach _ => .waitForAttach
  | .mountDevice _ _ _ => .mountDevice
  | .mount _ _ => .mount
  | .detach _ _ => .detach
  | .waitForDetach _ => .waitForDetach
  | .unmountDevice _ => .unmountDevice
  | .unmount _ => .unmount

def needsCloud : Operation → Bool
  | .isAttached _ _ | .attach _ _ | .detach _ _ => true
  | _ => false

/--
The operation of a verb with its arguments in order; there is none if their number is not among
those that the verb takes.
-/
def ofArguments? : Verb → List String → Option (Except OptionsError Operation)
  | .init, [] => some (.ok .init)
  | .getVolumeName, [] => some ((Options.parseOptional none).map .getVolumeName)
  | .getVolumeName, [json] => some ((Options.parseOptional (some json)).map .getVolumeName)
  | .isAttached, [json, node] => some ((Options.parse json).map (.isAttached · node))
  | .attach, [json, node] => some ((Options.parse json).map (.attach · node))
  | .waitForAttach, [device] => some (.ok (.waitForAttach device))
  | .waitForAttach, [device, _] => some (.ok (.waitForAttach device))
  | .mountDevice, [path, device] =>
      some ((Options.parseOptional none).map (.mountDevice path device))
  | .mountDevice, [path, device, json] =>
      some ((Options.parseOptional (some json)).map (.mountDevice path device))
  | .mount, [directory] => some ((Options.parseOptional none).map (.mount directory))
  | .mount, [directory, json] =>
      some ((Options.parseOptional (some json)).map (.mount directory))
  | .detach, [volumeName, node] => some (.ok (.detach volumeName node))
  | .waitForDetach, [device] => some (.ok (.waitForDetach device))
  | .unmountDevice, [path] => some (.ok (.unmountDevice path))
  | .unmount, [directory] => some (.ok (.unmount directory))
  | _, _ => none

/-- An operation is made exactly from as many arguments as its verb takes. -/
theorem isSome_ofArguments?_iff (v : Verb) (args : List String) :
    (ofArguments? v args).isSome = true ↔ v.arity.1 ≤ args.length ∧ args.length ≤ v.arity.2 := by
  cases v <;>
    match args with
    | [] => simp [ofArguments?, Verb.arity]
    | [_] => simp [ofArguments?, Verb.arity]
    | [_, _] => simp [ofArguments?, Verb.arity]
    | [_, _, _] => simp [ofArguments?, Verb.arity]
    | _ :: _ :: _ :: _ :: _ =>
        simp [ofArguments?, Verb.arity]

end Operation

end NodeVolumes.Kubelet
