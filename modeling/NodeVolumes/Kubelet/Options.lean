import NodeVolumes.Json.Decoder
import NodeVolumes.Text.Blank

/-!
# Volume options

The JSON object that kubelet passes with an operation: eight members with a meaning, each a string
or null and present at most once, and any others, which are kept as they are.
-/

namespace NodeVolumes.Kubelet

structure Options where
  volumeId : Option String := none
  wwn : Option String := none
  actualReadWrite : Option String := none
  fsType : Option String := none
  readWrite : Option String := none
  pvOrVolumeName : Option String := none
  fsGroup : Option String := none
  mountsDir : Option String := none
  extra : SortedMap Json := ∅

inductive OptionsError where
  | invalid (fault : Json.Fault)
  deriving DecidableEq, Repr

def OptionsError.message : OptionsError → String
  | .invalid fault => "invalid JSON options: " ++ fault.message

namespace Options

inductive Key where
  | volumeId
  | wwn
  | actualReadWrite
  | fsType
  | readWrite
  | pvOrVolumeName
  | fsGroup
  | mountsDir
  deriving DecidableEq, Repr

namespace Key

def all : List Key :=
  [.volumeId, .wwn, .actualReadWrite, .fsType, .readWrite, .pvOrVolumeName, .fsGroup, .mountsDir]

def name : Key → String
  | .volumeId => "volumeID"
  | .wwn => "wwn"
  | .actualReadWrite => "actualReadWrite"
  | .fsType => "kubernetes.io/fsType"
  | .readWrite => "kubernetes.io/readwrite"
  | .pvOrVolumeName => "kubernetes.io/pvOrVolumeName"
  | .fsGroup => "kubernetes.io/fsGroup"
  | .mountsDir => "kubernetes.io/mountsDir"

def ofName? (name : String) : Option Key :=
  all.find? fun k => k.name = name

end Key

def get (o : Options) : Key → Option String
  | .volumeId => o.volumeId
  | .wwn => o.wwn
  | .actualReadWrite => o.actualReadWrite
  | .fsType => o.fsType
  | .readWrite => o.readWrite
  | .pvOrVolumeName => o.pvOrVolumeName
  | .fsGroup => o.fsGroup
  | .mountsDir => o.mountsDir

def set (o : Options) (key : Key) (value : Option String) : Options :=
  match key with
  | .volumeId => { o with volumeId := value }
  | .wwn => { o with wwn := value }
  | .actualReadWrite => { o with actualReadWrite := value }
  | .fsType => { o with fsType := value }
  | .readWrite => { o with readWrite := value }
  | .pvOrVolumeName => { o with pvOrVolumeName := value }
  | .fsGroup => { o with fsGroup := value }
  | .mountsDir => { o with mountsDir := value }

open Json in
def memberLoop (levels : Nat) :
    Nat → Bool → List Key → Options → Cursor → Except Stop (Options × Cursor)
  | 0, _, _, _, c => Stop.ofExcept (c.fault .endOfObject)
  | fuel + 1, first, seen, options, c => do
      match ← Stop.ofExcept (nextMember first c) with
      | (false, c) => .ok (options, c)
      | (true, c) =>
          let (name, c) ← Stop.ofExcept (readString c)
          match Key.ofName? name with
          | .none =>
              let c ← Stop.ofExcept (colon c)
              let (value, c) ← Stop.ofExcept (readValue levels c)
              memberLoop levels fuel false seen
                { options with extra := options.extra.insert name value } c
          | some key =>
              if key ∈ seen then
                .error (.refused (.duplicateField name) c)
              else do
                let c ← Stop.ofExcept (colon c)
                let (value, c) ← Stop.ofExcept (Decoder.optional .text levels c)
                memberLoop levels fuel false (key :: seen) (options.set key value) c

open Json in
def decoder : Decoder Options := fun levels c =>
  let c := c.skipSpace
  match c.rest, levels with
  | [], _ => c.faultNext .endOfValue
  | '\x7b' :: _, 0 => c.faultNext .recursionLimit
  | '\x7b' :: _, inner + 1 =>
      match memberLoop inner (c.rest.length + 1) true [] {} c.advance with
      | .ok result => .ok result
      | .error stop => .error stop.toFault
  | _, _ => wrongType "struct FlexOptions" c

def parse (raw : String) : Except OptionsError Options :=
  match Json.decode decoder raw with
  | .ok options => .ok options
  | .error fault => .error (.invalid fault)

/-- The options that an optional text holds; a blank text counts as absent. -/
def parseOptional (raw : Option String) : Except OptionsError Options :=
  match raw with
  | .none => .ok {}
  | some text => if Text.trim text = "" then .ok {} else parse text

def volumeIdText (o : Options) : String :=
  o.volumeId.getD ""

def defaultFsType : String := "ext4"

def fileSystem (o : Options) : String :=
  (Text.nonBlank? o.fsType).getD defaultFsType

def asksReadOnly (flag : Option String) : Bool :=
  flag.map Text.trim == some "ro"

/-- Whether either access flag asks for a read-only mount. -/
def readOnly (o : Options) : Bool :=
  asksReadOnly o.readWrite || asksReadOnly o.actualReadWrite

/-- The name of the volume in the cluster, if it is not blank. -/
def volumeName (o : Options) : Option String :=
  Text.nonBlank? o.pvOrVolumeName

theorem get_set (o : Options) (key other : Key) (value : Option String) :
    (o.set key value).get other = if other = key then value else o.get other := by
  cases key <;> cases other <;> rfl

end Options

end NodeVolumes.Kubelet
