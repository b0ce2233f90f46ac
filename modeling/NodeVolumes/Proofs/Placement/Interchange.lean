import NodeVolumes.Proofs.Net.Address
import NodeVolumes.Proofs.Placement.Correlation

/-!
# Host names in the place of addresses

A node may be told by a host name or by the address that stands for it.  An action that was told the
one does what it does when told the other, after one look-up more (`Agree`), because all that a node
is told for is to find its address, and what comes after that is the same for both.

A call that is refused before it comes to the node looks nothing up either way: one with a blank
volume, or a detachment of a name that not exactly one volume has (`names_interchangeable`).
-/

namespace NodeVolumes

namespace Placement

open Text

/-- A host name is no address itself, and the first address of four octets in its entry, whatever
other addresses stand around it, is the given one. -/
structure StandsFor (t : Net.HostTable) (hostname : String) (address : Net.Ipv4) : Prop where
  notAddress : Net.Ipv4.parse? hostname = none
  entry : ∃ (before : List Net.Ipv6) (after : List Net.Address),
    t.addresses? hostname = some (before.map .v6 ++ .v4 address :: after)

theorem StandsFor.firstV4 {t : Net.HostTable} {hostname : String} {address : Net.Ipv4}
    (h : StandsFor t hostname address) :
    (t.addresses? hostname).bind Net.firstV4 = some address := by
  obtain ⟨before, after, hentry⟩ := h.entry
  rw [hentry, Option.bind_some]
  clear hentry
  induction before with
  | nil => exact Net.firstV4_cons_v4 address after
  | cons first rest ih => exact (Net.firstV4_cons_v6 first _).trans ih

namespace World

variable {ε α β : Type} {w final : World} {node : String} {address : Net.Ipv4}
variable {looked : List String} {x y : Action ε α} {asked asked' : List Request}

/-! ## Actions that ask the cloud only -/

/-- Whatever it is answered, an action looks no name up. -/
structure LooksNothingUp (action : Action ε α) : Prop where
  asksOnly : Flow.AsksOnly (I := interface) (fun r => r.hostname? = none) action.run

namespace LooksNothingUp

theorem pure (value : α) : LooksNothingUp (Pure.pure value : Action ε α) := ⟨trivial⟩

theorem throw (e : ε) : LooksNothingUp (MonadExcept.throw e : Action ε α) := ⟨trivial⟩

theorem ofExcept (value : Except ε α) : LooksNothingUp (liftM value : Action ε α) := ⟨trivial⟩

theorem askCloud (fault : Cloud.Error → ε) (r : Cloud.Request) :
    LooksNothingUp (Placement.askCloud fault r) :=
  ⟨⟨rfl, fun _ => trivial⟩⟩

theorem bind {f : α → Action ε β} (first : LooksNothingUp x) (rest : ∀ a, LooksNothingUp (f a)) :
    LooksNothingUp (x >>= f) :=
  ⟨Flow.AsksOnly.bind_run first.asksOnly fun a => (rest a).asksOnly⟩

theorem correlated {action : Action CorrelationError α} (h : LooksNothingUp action) :
    LooksNothingUp (Placement.correlated action) :=
  ⟨Flow.AsksOnly.bind h.asksOnly fun _ => trivial⟩

theorem filterMap_asked {value : Except ε α} (h : LooksNothingUp x)
    (settles : Settles x w value final asked) : asked.filterMap Request.hostname? = [] := by
  rw [← settles.asked_eq]
  exact Flow.AsksOnly.filterMap_asked reply h.asksOnly w

theorem resolveVolume (name : String) : LooksNothingUp (Placement.resolveVolume name) :=
  (askCloud _ _).bind fun _ => ofExcept _

theorem recordName (volumeId : String) (displayName : Option String) :
    LooksNothingUp (Placement.recordName volumeId displayName) := by
  unfold Placement.recordName
  split
  · exact pure ()
  · exact askCloud _ _

theorem hypervisorOf (i : Cloud.Instance) : LooksNothingUp (Placement.hypervisorOf i) := by
  refine (askCloud _ _).bind fun hypervisors => ?_
  cases hypervisors.find? fun h => h.hostname == i.hypervisorHost with
  | none => exact throw _
  | some h => exact pure h.kind

theorem backendOf (v : Cloud.Volume) : LooksNothingUp (Placement.backendOf v) := by
  unfold Placement.backendOf
  split
  · exact pure _
  · exact (askCloud _ _).bind fun _ => pure _

theorem expectDevice (i : Cloud.Instance) (v : Cloud.Volume) :
    LooksNothingUp (Placement.expectDevice i v) := by
  have link (kind : Cloud.HypervisorKind) (backend : Cloud.Backend) :
      LooksNothingUp (liftM ((Disk.link kind backend v).mapError Error.link) >>= fun path =>
        (Pure.pure ⟨path, i.id, kind, backend⟩ : Action Error Outcome)) :=
    (ofExcept _).bind fun _ => pure _
  refine (hypervisorOf i).bind fun kind => ?_
  split
  · exact (backendOf v).bind (link kind)
  · exact (pure _).bind (link kind)

end LooksNothingUp

/-! ## Actions that agree -/

/-- Two actions end alike and ask the same of the cloud; the first looks names up, the second
none. -/
structure SameButLookups (looked : List String) (x y : Action ε α) (w : World) : Prop where
  result_eq : (attempt x w).1 = (attempt y w).1
  calls_eq : calls x w = calls y w
  cloud_eq : (attempt x w).2.cloud = (attempt y w).2.cloud
  names_left : (attempt x w).2.names =
    { w.names with history := looked.reverse ++ w.names.history }
  names_right : (attempt y w).2.names = w.names

/-- Without records, two actions end alike and ask the same of the cloud; the first looks names up,
the second none. -/
def Agree (looked : List String) (x y : Action ε α) (w : World) : Prop :=
  ∃ value final asked asked',
    Settles x w value final asked ∧ Settles y w value final asked' ∧
      asked.filterMap Request.cloud? = asked'.filterMap Request.cloud? ∧
        asked.filterMap Request.hostname? = looked ∧ asked'.filterMap Request.hostname? = []

/-- Without records, no action changes the host table. -/
theorem Settles.names_eq {value : Except ε α} (h : Settles x w value final asked) :
    final.names = w.names := by
  have hstep : ∀ r (t : World), t.names = w.names → (reply r t).2.names = w.names := by
    intro r t ht
    cases r <;> exact ht
  rw [← h.final_eq]
  exact Flow.play_kept (I := interface) reply hstep x.run rfl

namespace Agree

theorem sameButLookups (h : Agree looked x y w) : SameButLookups looked x y w := by
  obtain ⟨value, final, asked, asked', hx, hy, hcloud, hlooked, hnone⟩ := h
  have hnames := hx.names_eq
  constructor
  · rw [hx.attempt, hy.attempt]
  · rw [hx.calls, hy.calls, hcloud]
  · rw [hx.attempt, hy.attempt, cloud_noted, cloud_noted, hcloud]
  · rw [hx.attempt, names_noted, hlooked, hnames]
  · rw [hy.attempt, names_noted, hnone, hnames]
    rfl

/-- What comes after two actions that agree is the same for both. -/
theorem bind {f : α → Action ε β} (first : Agree looked x y w)
    (rest : ∀ a, LooksNothingUp (f a)) : Agree looked (x >>= f) (y >>= f) w := by
  obtain ⟨value, final, asked, asked', hx, hy, hcloud, hlooked, hnone⟩ := first
  cases value with
  | error e => exact ⟨_, _, _, _, hx.bind_error, hy.bind_error, hcloud, hlooked, hnone⟩
  | ok a =>
      have hrest := settles_play (f a) final
      refine ⟨_, _, _, _, hx.bind hrest, hy.bind hrest, ?_, ?_, ?_⟩
      · rw [List.filterMap_append, List.filterMap_append, hcloud]
      · rw [List.filterMap_append, hlooked, (rest a).filterMap_asked hrest, List.append_nil]
      · rw [List.filterMap_append, hnone, (rest a).filterMap_asked hrest, List.append_nil]

/-- What comes before may be followed by actions that agree. -/
theorem after {a : α} {f g : α → Action ε β} (quiet : LooksNothingUp x)
    (first : Settles x w (.ok a) final asked) (rest : Agree looked (f a) (g a) final) :
    Agree looked (x >>= f) (x >>= g) w := by
  obtain ⟨value, last, later, later', hf, hg, hcloud, hlooked, hnone⟩ := rest
  have hfirst := quiet.filterMap_asked first
  refine ⟨_, _, _, _, first.bind hf, first.bind hg, ?_, ?_, ?_⟩
  · rw [List.filterMap_append, List.filterMap_append, hcloud]
  · rw [List.filterMap_append, hfirst, hlooked, List.nil_append]
  · rw [List.filterMap_append, hfirst, hnone, List.nil_append]

/-- What fails before leaves nothing to differ. -/
theorem after_error {e : ε} {f g : α → Action ε β} (quiet : LooksNothingUp x)
    (first : Settles x w (.error e) final asked) : Agree [] (x >>= f) (x >>= g) w :=
  have hnone := quiet.filterMap_asked first
  ⟨_, _, _, _, first.bind_error, first.bind_error, rfl, hnone, hnone⟩

theorem correlated {x y : Action CorrelationError α} (h : Agree looked x y w) :
    Agree looked (Placement.correlated x) (Placement.correlated y) w := by
  obtain ⟨value, final, asked, asked', hx, hy, hagree⟩ := h
  exact ⟨_, _, _, _, hx.correlated, hy.correlated, hagree⟩

/-- An argument that may not be blank is asked for before anything else. -/
theorem required {name value : String} {f g : String → Action Error α}
    (rest : trim value ≠ "" → Agree looked (f (trim value)) (g (trim value)) w) :
    Agree (if trim value = "" then [] else looked)
      (liftM (Placement.required name value) >>= f)
      (liftM (Placement.required name value) >>= g) w := by
  have hrequired := Settles.ofExcept (Placement.required name value) w
  have quiet := LooksNothingUp.ofExcept (Placement.required name value)
  by_cases blank : trim value = ""
  · have herror : Placement.required name value = .error (.missingArgument name) := by
      rw [Placement.required, nonBlank_eq_none_iff.mpr blank]
    rw [if_pos blank]
    rw [herror] at hrequired quiet ⊢
    exact after_error quiet hrequired
  · have hvalue : Placement.required name value = .ok (trim value) :=
      required_eq_ok_iff.mpr ⟨blank, rfl⟩
    rw [if_neg blank]
    rw [hvalue] at hrequired quiet ⊢
    exact after quiet hrequired (rest blank)

end Agree

/-! ## A node by its name and by its address -/

/-- An address is found by its text without a look-up. -/
theorem resolveNode_text (address : Net.Ipv4) :
    resolveNode address.text = pure ⟨address.text, address⟩ := by
  rw [resolveNode, address.trim_text, address.parse?_text]

theorem agree_resolveInstanceFor (named : StandsFor w.names (trim node) address) :
    Agree [trim node] (resolveInstanceFor node) (resolveInstanceFor address.text) w := by
  have hnode : Settles (resolveNode node) w (.ok ⟨trim node, address⟩) w
      [.addresses (trim node)] := by
    have h := settles_resolveNode w node
    rwa [addressOf?, lookups, named.notAddress, named.firstV4] at h
  have htext : Settles (resolveNode address.text) w (.ok ⟨address.text, address⟩) w [] := by
    rw [resolveNode_text]
    exact Settles.pure _ w
  have hbyName := hnode.bind (settles_resolveInstance w ⟨trim node, address⟩)
  have hbyAddress := htext.bind (settles_resolveInstance w ⟨address.text, address⟩)
  exact ⟨_, _, _, _, hbyName, hbyAddress, rfl, rfl, rfl⟩

theorem agree_locating {f : Cloud.Instance → Action Error α}
    (named : StandsFor w.names (trim node) address) (rest : ∀ i, LooksNothingUp (f i)) :
    Agree [trim node] (correlated (resolveInstanceFor node) >>= f)
      (correlated (resolveInstanceFor address.text) >>= f) w :=
  (agree_resolveInstanceFor named).correlated.bind rest

theorem agree_attach (named : StandsFor w.names (trim node) address) (volumeId : String)
    (displayName : Option String) :
    Agree (if trim volumeId = "" then [] else [trim node])
      (attach ⟨volumeId, displayName, node⟩) (attach ⟨volumeId, displayName, address.text⟩) w := by
  refine Agree.required fun _ => agree_locating named fun i => ?_
  refine (LooksNothingUp.askCloud _ _).bind fun v => ?_
  refine (LooksNothingUp.recordName _ _).bind fun _ => ?_
  refine (LooksNothingUp.askCloud _ _).bind fun answer => ?_
  exact (LooksNothingUp.ofExcept _).bind fun _ => LooksNothingUp.expectDevice i v

theorem agree_isAttached (named : StandsFor w.names (trim node) address) (volumeId : String) :
    Agree (if trim volumeId = "" then [] else [trim node])
      (isAttached volumeId node) (isAttached volumeId address.text) w := by
  refine Agree.required fun _ => agree_locating named fun i => ?_
  exact (LooksNothingUp.askCloud _ _).bind fun _ => LooksNothingUp.pure _

theorem agree_detach (named : StandsFor w.names (trim node) address) (volumeName : String) :
    Agree
      (if trim volumeName = "" then []
        else if (w.cloud.carriers (trim volumeName)).length = 1 then [trim node] else [])
      (detach volumeName node) (detach volumeName address.text) w := by
  refine Agree.required fun _ => ?_
  have hvolume := (settles_resolveVolume w (trim volumeName)).correlated
  have quiet := (LooksNothingUp.resolveVolume (trim volumeName)).correlated
  by_cases single : (w.cloud.carriers (trim volumeName)).length = 1
  · obtain ⟨v, hv⟩ := List.length_eq_one_iff.mp single
    rw [volumeNamed_eq_ok_iff.mpr hv] at hvolume
    rw [if_pos single]
    refine Agree.after quiet hvolume (agree_locating named fun i => ?_)
    refine (LooksNothingUp.askCloud _ _).bind fun answer => ?_
    exact (LooksNothingUp.ofExcept _).bind fun _ => LooksNothingUp.pure v
  · rw [if_neg single]
    cases hv : w.volumeNamed (trim volumeName) with
    | ok v =>
        rw [volumeNamed_eq_ok_iff.mp hv] at single
        exact absurd rfl single
    | error e =>
        rw [hv] at hvolume
        exact Agree.after_error quiet hvolume

/--
A host name and the text of the address that it stands for, whatever blanks are around the name, are
interchangeable: results, calls and the cloud afterwards are the same, and the only difference is a
look-up of the trimmed name in the calls that come to the node.
-/
theorem names_interchangeable (w : World) {node : String} {address : Net.Ipv4}
    (named : StandsFor w.names (trim node) address) :
    SameButLookups [trim node] (resolveInstanceFor node) (resolveInstanceFor address.text) w ∧
      (∀ volumeId displayName,
        SameButLookups (if trim volumeId = "" then [] else [trim node])
          (attach ⟨volumeId, displayName, node⟩)
          (attach ⟨volumeId, displayName, address.text⟩) w) ∧
      (∀ volumeId,
        SameButLookups (if trim volumeId = "" then [] else [trim node])
          (isAttached volumeId node) (isAttached volumeId address.text) w) ∧
      ∀ volumeName,
        SameButLookups
          (if trim volumeName = "" then []
            else if (w.cloud.carriers (trim volumeName)).length = 1 then [trim node] else [])
          (detach volumeName node) (detach volumeName address.text) w :=
  ⟨(agree_resolveInstanceFor named).sameButLookups,
    fun volumeId displayName => (agree_attach named volumeId displayName).sameButLookups,
    fun volumeId => (agree_isAttached named volumeId).sameButLookups,
    fun volumeName => (agree_detach named volumeName).sameButLookups⟩

/-- The small cloud with a host name for its instance, whose address of eight groups comes first. -/
def namedHost : World :=
  let local6 : Net.Ipv6 := ⟨[0xfe80, 0, 0, 0, 0, 0, 0, 1], rfl⟩
  ⟨Cloud.Memory.reference,
    { hosts := SortedMap.empty.insert "worker-1" [.v6 local6, .v4 ⟨1, 2, 3, 4⟩, .v4 ⟨9, 9, 9, 9⟩] }⟩

theorem standsFor_worker : StandsFor namedHost.names "worker-1" ⟨1, 2, 3, 4⟩ := by
  refine ⟨by decide +kernel, [⟨[0xfe80, 0, 0, 0, 0, 0, 0, 1], rfl⟩], [.v4 ⟨9, 9, 9, 9⟩], ?_⟩
  decide +kernel

/-- A volume is attached to a host as it is to the address of the host. -/
theorem names_interchangeable_worker :
    StandsFor namedHost.names (trim " worker-1\t") ⟨1, 2, 3, 4⟩ ∧
      SameButLookups ["worker-1"] (attach ⟨"vol_1", some "data", " worker-1\t"⟩)
        (attach ⟨"vol_1", some "data", "1.2.3.4"⟩) namedHost := by
  have hname : trim " worker-1\t" = "worker-1" := by decide +kernel
  have hid : trim "vol_1" ≠ "" := by decide +kernel
  have htext : Net.Ipv4.text ⟨1, 2, 3, 4⟩ = "1.2.3.4" := by decide +kernel
  have named : StandsFor namedHost.names (trim " worker-1\t") ⟨1, 2, 3, 4⟩ := by
    rw [hname]
    exact standsFor_worker
  obtain ⟨-, hattach, -⟩ := names_interchangeable namedHost named
  have h := hattach "vol_1" (some "data")
  rw [if_neg hid, hname, htext] at h
  exact ⟨named, h⟩

/-- An attachment without a volume is refused before its host is looked up. -/
theorem refused_looks_nothing_up :
    StandsFor namedHost.names "worker-1" ⟨1, 2, 3, 4⟩ ∧
      ¬SameButLookups ["worker-1"] (attach ⟨"", none, "worker-1"⟩)
        (attach ⟨"", none, "1.2.3.4"⟩) namedHost := by
  refine ⟨standsFor_worker, fun h => ?_⟩
  have hlooked : (attempt (attach ⟨"", none, "worker-1"⟩) namedHost).2.names.history = [] := by
    decide +kernel
  rw [h.names_left] at hlooked
  cases hlooked

end World

end Placement

end NodeVolumes
