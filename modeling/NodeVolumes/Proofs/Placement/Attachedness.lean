import NodeVolumes.Proofs.Placement.Remains
import NodeVolumes.Proofs.Placement.RoundTrip
import NodeVolumes.Proofs.Placement.UniqueNames

/-!
# What is told about attachments

A cloud in memory looks an attachment up by its volume and gives the first one that it has.  A
volume is told to be attached to an instance if that one is to it, so what is told is right as long
as no volume is attached to two instances.  A series of calls that starts there is told the truth
throughout exactly if no attachment is accepted for a volume that another instance has at the time
(`truthful_throughout_iff`); where one is, the volume is not told to be attached to the instance it
was just attached to (`shared_volume_untold`).
-/

namespace NodeVolumes

namespace Cloud

theorem Attachment.joins_iff {a : Attachment} {serverId volumeId : String} :
    a.joins serverId volumeId = true ↔ a.serverId = serverId ∧ a.volumeId = volumeId := by
  simp [Attachment.joins]

namespace Memory

variable {m m' : Memory} {serverId volumeId : String}

def IsAttached (m : Memory) (serverId volumeId : String) : Prop :=
  ∃ a ∈ m.attachments, a.joins serverId volumeId = true

/-- The attachment that is found for a volume: the first one, to whichever instance. -/
def attachmentOf? (m : Memory) (volumeId : String) : Option Attachment :=
  m.attachments.find? fun a => a.volumeId == volumeId

/-- Whether the attachment that is found for a volume is to an instance. -/
def tells (m : Memory) (serverId volumeId : String) : Bool :=
  (m.attachmentOf? volumeId).any fun a => a.joins serverId volumeId

/-- No volume is attached to two instances. -/
def SingleHomed (m : Memory) : Prop :=
  ∀ a ∈ m.attachments, ∀ b ∈ m.attachments, a.volumeId = b.volumeId → a.serverId = b.serverId

/-- No other instance has the volume that is attached, if attaching it is asked for and accepted. -/
def AloneFor (m : Memory) : Request → Prop
  | .attach instanceId volumeId =>
      m.attachVerdict = .accept →
        ∀ a ∈ m.attachments, a.volumeId = volumeId → a.serverId = instanceId
  | _ => True

instance (m : Memory) : DecidablePred m.AloneFor
  | .attach instanceId volumeId => inferInstanceAs <| Decidable <|
      m.attachVerdict = .accept →
        ∀ a ∈ m.attachments, a.volumeId = volumeId → a.serverId = instanceId
  | .getVolume _ | .findVolumes _ _ | .changeMetadata _ _ _ | .getAttachment _ _ | .detach _ _
  | .listInstances | .listHypervisors | .getRegistration _ => isTrue trivial

theorem aloneFor_of_ne_attach {r : Request}
    (h : ∀ instanceId volumeId, r ≠ .attach instanceId volumeId) : m.AloneFor r := by
  cases r with
  | attach instanceId volumeId => exact absurd rfl (h instanceId volumeId)
  | _ => trivial

theorem singleHomed_congr (h : m'.attachments = m.attachments) :
    m'.SingleHomed ↔ m.SingleHomed := by
  rw [SingleHomed, SingleHomed, h]

theorem tells_iff :
    m.tells serverId volumeId = true ↔
      ∃ a, m.attachmentOf? volumeId = some a ∧ a.joins serverId volumeId = true := by
  rw [tells, Option.any_eq_true_iff_get]
  constructor
  · rintro ⟨hsome, hjoins⟩
    exact ⟨_, Option.some_get hsome |>.symm, hjoins⟩
  · rintro ⟨a, ha, hjoins⟩
    simpa [ha] using hjoins

theorem isAttached_of_tells (h : m.tells serverId volumeId = true) :
    m.IsAttached serverId volumeId := by
  obtain ⟨a, hfound, hjoins⟩ := tells_iff.mp h
  exact ⟨a, List.mem_of_find?_eq_some hfound, hjoins⟩

/-- A volume with one instance is found there. -/
theorem SingleHomed.exists_attachmentOf? (single : m.SingleHomed) {a : Attachment}
    (ha : a ∈ m.attachments) (hvolume : a.volumeId = volumeId) :
    ∃ b, m.attachmentOf? volumeId = some b ∧ b.volumeId = volumeId ∧ b.serverId = a.serverId := by
  have hsome : (m.attachmentOf? volumeId).isSome :=
    List.find?_isSome.mpr ⟨a, ha, beq_iff_eq.mpr hvolume⟩
  obtain ⟨b, hb⟩ := Option.isSome_iff_exists.mp hsome
  have hbvolume : b.volumeId = volumeId := by simpa using List.find?_some hb
  exact ⟨b, hb, hbvolume,
    single b (List.mem_of_find?_eq_some hb) a ha (hbvolume.trans hvolume.symm)⟩

/-- The attachment that is found is as good as any other if the volume has one instance. -/
theorem SingleHomed.tells_iff (single : m.SingleHomed) :
    m.tells serverId volumeId = true ↔ m.IsAttached serverId volumeId := by
  refine ⟨isAttached_of_tells, ?_⟩
  rintro ⟨a, ha, hjoins⟩
  obtain ⟨hserver, hvolume⟩ := Attachment.joins_iff.mp hjoins
  obtain ⟨b, hb, hbvolume, hbserver⟩ := single.exists_attachmentOf? ha hvolume
  exact Memory.tells_iff.mpr
    ⟨b, hb, Attachment.joins_iff.mpr ⟨hbserver.trans hserver, hbvolume⟩⟩

theorem SingleHomed.append (single : m.SingleHomed)
    (alone : ∀ a ∈ m.attachments, a.volumeId = volumeId → a.serverId = serverId)
    (h : m'.attachments =
      m.attachments ++ [{ serverId := serverId, volumeId := volumeId }]) :
    m'.SingleHomed := by
  intro a ha b hb hsame
  rw [h] at ha hb
  rcases List.mem_append.mp ha with ha | ha <;> rcases List.mem_append.mp hb with hb | hb
  · exact single a ha b hb hsame
  · cases List.mem_singleton.mp hb
    exact alone a ha hsame
  · cases List.mem_singleton.mp ha
    exact (alone b hb hsame.symm).symm
  · rw [List.mem_singleton.mp ha, List.mem_singleton.mp hb]

theorem SingleHomed.filter (single : m.SingleHomed) {p : Attachment → Bool}
    (h : m'.attachments = m.attachments.filter p) : m'.SingleHomed := by
  intro a ha b hb
  rw [h] at ha hb
  exact single a (List.mem_filter.mp ha).1 b (List.mem_filter.mp hb).1

/-- An attachment to another instance that stands in front hides the new one. -/
theorem tells_append_of_elsewhere (single : m.SingleHomed) {a : Attachment}
    (ha : a ∈ m.attachments) (hvolume : a.volumeId = volumeId) (helse : a.serverId ≠ serverId)
    (h : m'.attachments =
      m.attachments ++ [{ serverId := serverId, volumeId := volumeId }]) :
    m'.tells serverId volumeId = false ∧ m'.IsAttached serverId volumeId := by
  obtain ⟨b, hb, -, hbserver⟩ := single.exists_attachmentOf? ha hvolume
  constructor
  · have hb' : m'.attachmentOf? volumeId = some b := by
      rw [attachmentOf?] at hb ⊢
      rw [h, List.find?_append, hb, Option.some_or]
    rw [← Bool.not_eq_true, tells_iff]
    rintro ⟨c, hc, hjoins⟩
    cases hb'.symm.trans hc
    exact helse (hbserver.symm.trans (Attachment.joins_iff.mp hjoins).1)
  · refine ⟨{ serverId := serverId, volumeId := volumeId }, ?_,
      Attachment.joins_iff.mpr ⟨rfl, rfl⟩⟩
    rw [h]
    exact List.mem_append_right _ List.mem_cons_self

theorem tells_of_filter
    (h : m'.attachments = m.attachments.filter fun a => !a.joins serverId volumeId) :
    m'.tells serverId volumeId = false := by
  rw [← Bool.not_eq_true]
  intro htells
  obtain ⟨a, ha, hjoins⟩ := isAttached_of_tells htells
  rw [h] at ha
  have hkept := (List.mem_filter.mp ha).2
  rw [hjoins] at hkept
  cases hkept

end Memory

end Cloud

namespace Placement

open Text

namespace World

/-! ## Being told -/

/-- What is told about a volume and a node. -/
def told (w : World) (volumeId node : String) : Except Error Bool :=
  match required "volumeID" volumeId with
  | .error e => .error e
  | .ok id =>
      match w.locate node with
      | .error e => .error (.correlation e)
      | .ok i => .ok (w.cloud.tells i.id id)

def asking (w : World) (volumeId node : String) : List Request :=
  match required "volumeID" volumeId with
  | .error _ => []
  | .ok id =>
      match w.locate node with
      | .error _ => w.locating node
      | .ok i => w.locating node ++ [.cloud (.getAttachment i.id id)]

/-- Being told changes nothing. -/
theorem settles_isAttached (w : World) (volumeId node : String) :
    Settles (isAttached volumeId node) w (w.told volumeId node) w (w.asking volumeId node) := by
  have hrequired := Settles.ofExcept (required "volumeID" volumeId) w
  have hlocate := (settles_resolveInstanceFor w node).correlated
  unfold isAttached
  cases hid : required "volumeID" volumeId with
  | error e =>
      simp only [told, asking, hid] at hrequired ⊢
      exact hrequired.bind_error
  | ok id =>
      simp only [told, asking, hid] at hrequired ⊢
      apply hrequired.bind_of_silent
      cases hi : w.locate node with
      | error e =>
          rw [hi] at hlocate
          exact hlocate.bind_error
      | ok i =>
          rw [hi] at hlocate
          apply hlocate.bind
          exact (Settles.askCloud Error.cloud (.getAttachment i.id id) w).bind_pure rfl

theorem isAttached_of_locate {w : World} {volumeId node : String} {i : Cloud.Instance}
    (named : trim volumeId ≠ "") (hlocate : w.locate node = .ok i) :
    (attempt (isAttached volumeId node) w).1 = .ok (w.cloud.tells i.id (trim volumeId)) := by
  have hid : required "volumeID" volumeId = .ok (trim volumeId) :=
    required_eq_ok_iff.mpr ⟨named, rfl⟩
  rw [(settles_isAttached w volumeId node).attempt, told, hid, hlocate]

/-- Whether a volume is attached to the instance of a node is told right. -/
def Truthful (w : World) : Prop :=
  ∀ volumeId node i, trim volumeId ≠ "" → w.locate node = .ok i →
    ∃ answer, (attempt (isAttached volumeId node) w).1 = .ok answer ∧
      (answer = true ↔ w.cloud.IsAttached i.id (trim volumeId))

theorem truthful_of_singleHomed {w : World} (single : w.cloud.SingleHomed) : Truthful w :=
  fun _ _ _ named hlocate => ⟨_, isAttached_of_locate named hlocate, single.tells_iff⟩

/-- No call of a series has an attachment accepted of a volume that another instance has. -/
def AttachesAlone : List Turn → World → Prop
  | [], _ => True
  | t :: rest, w =>
      (∀ r ∈ callsOf t.move (entered t w), (entered t w).cloud.AloneFor r) ∧
        AttachesAlone rest (afterMove t.move (entered t w))

instance : (turns : List Turn) → (w : World) → Decidable (AttachesAlone turns w)
  | [], _ => isTrue trivial
  | _ :: rest, _ =>
      haveI := instDecidableAttachesAlone rest
      inferInstanceAs (Decidable (_ ∧ _))

variable {w : World} {d : Demand} {volumeName node : String}

/-! ## One call -/

theorem locate_noted (requests : List Request) :
    (w.noted requests).locate node = w.locate node := by
  simp only [locate, addressOf?_noted, cloud_noted]

theorem locate_congr {w' : World} (hnames : w'.names = w.names)
    (hlist : w'.cloud.listError = w.cloud.listError)
    (hinstances : w'.cloud.instances = w.cloud.instances) : w'.locate node = w.locate node := by
  simp only [locate, hnames, hlist, hinstances]

/-- Neither a recorded name nor an attachment shows in which instance a node is. -/
theorem locate_attached (name : Option String) (i : Cloud.Instance) (v : Cloud.Volume) :
    ((w.withName v.id name).attached i v).locate node = w.locate node := by
  cases name <;> exact locate_congr rfl rfl rfl

/-- Only attaching and detaching change attachments. -/
theorem attachments_answer (r : Request) (w : World)
    (h : r.asksCloud Cloud.Request.movesVolume = false) :
    (answer r w).2.cloud.attachments = w.cloud.attachments := by
  cases r with
  | addresses hostname => rfl
  | cloud r =>
      rw [answer_eq_note_reply]
      cases r with
      | attach instanceId volumeId => simp [Request.asksCloud, Cloud.Request.movesVolume] at h
      | detach instanceId volumeId => simp [Request.asksCloud, Cloud.Request.movesVolume] at h
      | getVolume id =>
          simp only [note, reply, Cloud.Memory.respond]
          split <;> rfl
      | changeMetadata id entries change =>
          simp only [note, reply, Cloud.Memory.respond]
          split <;> rfl
      | findVolumes key value => rfl
      | getAttachment instanceId volumeId => rfl
      | listInstances => rfl
      | listHypervisors => rfl
      | getRegistration host => rfl

theorem changes_of_movesVolume (r : Cloud.Request) (h : r.movesVolume = true) :
    r.changes = true := by
  cases r <;> simp_all [Cloud.Request.movesVolume, Cloud.Request.changes]

/-- With one request to attach or detach at most, a run shows the attachments that it started with
or those that it ended with. -/
theorem singleHomed_states {ε α : Type} {action : Action ε α} (single : w.cloud.SingleHomed)
    (once : (changes action w).countP Cloud.Request.movesVolume ≤ 1)
    (hfinal : (attempt action w).2.cloud.SingleHomed) :
    ∀ s ∈ action.run.states answer w, s.cloud.SingleHomed := by
  rw [← countP_calls_of_changes changes_of_movesVolume, countP_calls] at once
  rw [attempt, Flow.foldM_eq_play] at hfinal
  intro s hs
  rcases Flow.view_of_mem_states_of_single (fun s => s.cloud.attachments) attachments_answer
    action.run w once s hs with hfirst | hlast
  · exact (Cloud.Memory.singleHomed_congr hfirst).mpr single
  · exact (Cloud.Memory.singleHomed_congr hlast).mpr hfinal

theorem attachments_after_attach (w : World) (d : Demand) :
    (attempt (attach d) w).2.cloud.attachments = (w.remains d).cloud.attachments := by
  obtain ⟨history, hafter⟩ := exists_cloud_after_attach w d
  rw [hafter]

theorem singleHomed_attach (single : w.cloud.SingleHomed)
    (alone : ∀ r ∈ calls (attach d) w, w.cloud.AloneFor r) :
    ∀ s ∈ (attach d).run.states answer w, s.cloud.SingleHomed := by
  apply singleHomed_states single
  · rw [changes_attach]
    cases w.attachment d with
    | error e => exact Nat.zero_le 1
    | ok target =>
        cases nonBlank? d.displayName <;> exact Nat.le_refl 1
  · have hafter := attachments_after_attach w d
    by_cases h : ∃ instanceId volumeId, Accepts w d instanceId volumeId
    · obtain ⟨instanceId, volumeId, haccepts⟩ := h
      rw [attachments_remains_of_accepts haccepts] at hafter
      exact single.append (alone _ haccepts.1 haccepts.2) hafter
    · simp only [not_exists] at h
      rw [attachments_remains_of_not_accepts h] at hafter
      exact (Cloud.Memory.singleHomed_congr hafter).mpr single

theorem singleHomed_detach (single : w.cloud.SingleHomed) :
    ∀ s ∈ (detach volumeName node).run.states answer w, s.cloud.SingleHomed := by
  apply singleHomed_states single
  · rw [changes_detach]
    cases w.detachment volumeName node <;> simp [Cloud.Request.movesVolume]
  · rcases detach_effect w volumeName node with ⟨e, -, -, hsame⟩ | ⟨v, i, -, -, -, hfiltered⟩
    · exact (Cloud.Memory.singleHomed_congr hsame).mpr single
    · exact single.filter hfiltered

theorem singleHomed_statesOf (single : w.cloud.SingleHomed) {move : Move}
    (alone : ∀ r ∈ callsOf move w, w.cloud.AloneFor r) :
    ∀ s ∈ statesOf move w, s.cloud.SingleHomed := by
  cases move with
  | attach d => exact singleHomed_attach single alone
  | detach volumeName node => exact singleHomed_detach single

/-- A volume that another instance has is not told to be attached where it was just attached. -/
theorem tells_after_shared {instanceId volumeId : String} (single : w.cloud.SingleHomed)
    (haccepts : Accepts w d instanceId volumeId) {a : Cloud.Attachment}
    (ha : a ∈ w.cloud.attachments) (hvolume : a.volumeId = volumeId)
    (helse : a.serverId ≠ instanceId) : ¬Truthful (attempt (attach d) w).2 := by
  intro truthful
  obtain ⟨⟨i, v, htarget, rfl, rfl⟩, haccept⟩ := accepts_iff.mp haccepts
  obtain ⟨named, hlocate, hv⟩ := attachment_eq_ok_iff.mp htarget
  have hid : v.id = trim d.volumeId := (Cloud.Memory.place_of_volume? hv).1
  have hafter := attachments_after_attach w d
  rw [attachments_remains_of_accepts haccepts] at hafter
  obtain ⟨htells, hattached⟩ :=
    Cloud.Memory.tells_append_of_elsewhere single ha hvolume helse hafter
  have hlocated : (attempt (attach d) w).2.locate d.node = .ok i := by
    obtain ⟨requests, hworld⟩ := exists_noted_attached htarget haccept
    rw [hworld, locate_noted, locate_attached, hlocate]
  obtain ⟨answer, hanswer, htrue⟩ := truthful d.volumeId d.node i named hlocated
  rw [isAttached_of_locate named hlocated, ← hid, htells] at hanswer
  rw [← hid] at htrue
  cases hanswer
  cases htrue.mpr hattached

theorem attach_notMem_calls_detach (instanceId volumeId : String) :
    Cloud.Request.attach instanceId volumeId ∉ calls (detach volumeName node) w := by
  intro hcall
  have hchange : Cloud.Request.attach instanceId volumeId ∈ changes (detach volumeName node) w :=
    List.mem_filter.mpr ⟨hcall, rfl⟩
  rw [changes_detach] at hchange
  split at hchange
  · cases hchange
  · simp at hchange

/-- A call leaves the truth told exactly if it attaches no volume that another instance has. -/
theorem statesOf_truthful_iff (single : w.cloud.SingleHomed) (move : Move) :
    (∀ s ∈ statesOf move w, Truthful s) ↔ ∀ r ∈ callsOf move w, w.cloud.AloneFor r := by
  refine ⟨?_, fun alone s hs => truthful_of_singleHomed (singleHomed_statesOf single alone s hs)⟩
  intro truthful r hr
  by_cases hattach : ∃ instanceId volumeId, r = .attach instanceId volumeId
  · obtain ⟨instanceId, volumeId, rfl⟩ := hattach
    -- an accepted attachment shows in the last state of the call, so that is the one to look at
    cases move with
    | detach volumeName node => exact absurd hr (attach_notMem_calls_detach instanceId volumeId)
    | attach d =>
        intro haccept a ha hvolume
        refine Decidable.byContradiction fun helse => ?_
        exact tells_after_shared single ⟨hr, haccept⟩ ha hvolume helse
          (truthful _ (afterMove_mem_statesOf (.attach d) w))
  · exact Cloud.Memory.aloneFor_of_ne_attach fun instanceId volumeId h =>
      hattach ⟨instanceId, volumeId, h⟩

/-- The node of a detachment stays where it is. -/
theorem locate_after_detach {v : Cloud.Volume} {i : Cloud.Instance}
    (htarget : SinglesOut w volumeName node v i) :
    (attempt (detach volumeName node) w).2.locate node = .ok i := by
  have hlocate : w.locate node = .ok i :=
    locate_eq_ok_iff.mpr ⟨htarget.listed, htarget.ownsPort⟩
  rw [(settles_detach_of_target (detachment_eq_ok_iff.mpr htarget)).attempt, locate_noted,
    ← hlocate]
  split <;> exact locate_congr rfl rfl rfl

theorem isAttached_after_detach {v : Cloud.Volume} {volumeId : String}
    (named : trim volumeId ≠ "") (hid : trim volumeId = v.id)
    (h : (attempt (detach volumeName node) w).1 = .ok v) :
    (attempt (isAttached volumeId node) (attempt (detach volumeName node) w).2).1 =
      .ok false := by
  rcases detach_effect w volumeName node with ⟨e, herror, -⟩ | ⟨u, i, hok, htarget, -, hkept⟩
  · rw [herror] at h
    cases h
  · rw [hok] at h
    cases h
    rw [isAttached_of_locate named (locate_after_detach htarget), hid]
    exact congrArg _ (Cloud.Memory.tells_of_filter hkept)

/-! ## Many calls -/

theorem visited_truthful_iff (turns : List Turn) (single : w.cloud.SingleHomed) :
    (∀ s ∈ visited turns w, Truthful s) ↔ AttachesAlone turns w := by
  induction turns generalizing w with
  | nil => simp [visited, AttachesAlone, truthful_of_singleHomed single]
  | cons t rest ih =>
      have hcall := statesOf_truthful_iff (w := entered t w) single t.move
      have hlast := afterMove_mem_statesOf t.move (entered t w)
      simp only [visited, AttachesAlone, List.forall_mem_append, List.forall_mem_cons,
        List.cons_append]
      constructor
      · rintro ⟨-, hstates, hrest⟩
        have alone := hcall.mp hstates
        exact ⟨alone, (ih (singleHomed_statesOf (w := entered t w) single alone _ hlast)).mp hrest⟩
      · rintro ⟨alone, hrest⟩
        have hstates := singleHomed_statesOf (w := entered t w) single alone
        exact ⟨truthful_of_singleHomed single, hcall.mpr alone, (ih (hstates _ hlast)).mpr hrest⟩

/--
A series of calls that starts without a volume on two instances is told the truth in all its states
exactly if none of its attachments is accepted for a volume that another instance has at the time.
Right after a detachment the volume is never told to be attached to the instance.
-/
theorem truthful_throughout_iff {w : World} (single : w.cloud.SingleHomed) (turns : List Turn) :
    ((∀ s ∈ visited turns w, Truthful s) ↔ AttachesAlone turns w) ∧
      ∀ s ∈ visited turns w, ∀ volumeName node v volumeId,
        (attempt (detach volumeName node) s).1 = .ok v → trim volumeId ≠ "" →
          trim volumeId = v.id →
            (attempt (isAttached volumeId node) (attempt (detach volumeName node) s).2).1 =
              .ok false :=
  ⟨visited_truthful_iff turns single,
    fun _ _ _ _ _ _ hdetached named hid => isAttached_after_detach named hid hdetached⟩

/-- Two instances, at `1.2.3.4` and `1.2.3.5`, and a volume. -/
def twoInstances : World :=
  ⟨Cloud.Memory.reference.addInstance ⟨"vm_2", "host_1", [⟨1, 2, 3, 5⟩]⟩, {}⟩

/-- A volume that is attached to one instance, detached, and attached to the other. -/
def moved : List Turn :=
  [⟨.attach ⟨"vol_1", some "data", "1.2.3.4"⟩, .accept, .accept⟩,
    ⟨.detach "data" "1.2.3.4", .accept, .accept⟩,
    ⟨.attach ⟨"vol_1", some "data", "1.2.3.5"⟩, .accept, .accept⟩]

/-- The truth about a volume is told while it moves from one instance to another. -/
theorem truthful_throughout_moved :
    twoInstances.cloud.SingleHomed ∧ ∀ s ∈ visited moved twoInstances, Truthful s := by
  have single : twoInstances.cloud.SingleHomed := by
    unfold Cloud.Memory.SingleHomed
    decide
  have alone : AttachesAlone moved twoInstances := by decide +kernel
  exact ⟨single, (truthful_throughout_iff single moved).1.mpr alone⟩

/-- A volume that two instances have is not told to be attached to the second one. -/
theorem shared_volume_untold :
    let first := (attempt (attach ⟨"vol_1", none, "1.2.3.4"⟩) twoInstances).2
    let second := attempt (attach ⟨"vol_1", none, "1.2.3.5"⟩) first
    second.1.toOption.map Outcome.instanceId = some "vm_2" ∧
      second.2.cloud.IsAttached "vm_2" "vol_1" ∧
      (attempt (isAttached "vol_1" "1.2.3.5") second.2).1.toOption = some false := by
  unfold Cloud.Memory.IsAttached
  decide +kernel

end World

end Placement

end NodeVolumes
