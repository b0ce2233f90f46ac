import NodeVolumes.Kubelet.Arguments

/-!
# The grammar of the command line

The arguments of a verb stand in slots in a fixed order, and the last of them may be left out
(`Verb.usage`).  On a command line without options nothing else counts: a word that is no verb is
not supported, arguments that do not fill the slots or hold no options fail, and everything else
is the operation that keeps each argument in its own slot (`parse_by_usage`).
-/

namespace NodeVolumes.Kubelet

open Text

/-! ## Usage -/

inductive Slot where
  | json
  | node
  | device
  | mountPath
  | mountDirectory
  | volumeName
  deriving DecidableEq, Repr

theorem Slot.forall_ne_json {P : Slot → Prop} (node : P .node) (device : P .device)
    (mountPath : P .mountPath) (mountDirectory : P .mountDirectory) (volumeName : P .volumeName) :
    ∀ slot, slot ≠ .json → P slot
  | .json, h => absurd rfl h
  | .node, _ => node
  | .device, _ => device
  | .mountPath, _ => mountPath
  | .mountDirectory, _ => mountDirectory
  | .volumeName, _ => volumeName

/-- The slots of a verb in their order: those that have to be filled, and then those that may be
left out. -/
structure Usage where
  needed : List Slot := []
  spare : List Slot := []

namespace Usage

def slots (u : Usage) : List Slot :=
  u.needed ++ u.spare

/-- Every slot that has to be filled is filled, and no argument is without a slot. -/
def Takes (u : Usage) (count : Nat) : Prop :=
  u.needed.length ≤ count ∧ count ≤ u.slots.length

instance (u : Usage) (count : Nat) : Decidable (u.Takes count) :=
  inferInstanceAs (Decidable (_ ∧ _))

def argument? (u : Usage) (args : List String) (slot : Slot) : Option String :=
  args[u.slots.idxOf slot]?

end Usage

namespace Verb

def usage : Verb → Usage
  | .init => {}
  | .getVolumeName => { spare := [.json] }
  | .isAttached => { needed := [.json, .node] }
  | .attach => { needed := [.json, .node] }
  | .waitForAttach => { needed := [.device], spare := [.json] }
  | .mountDevice => { needed := [.mountPath, .device], spare := [.json] }
  | .mount => { needed := [.mountDirectory], spare := [.json] }
  | .detach => { needed := [.volumeName, .node] }
  | .waitForDetach => { needed := [.device] }
  | .unmountDevice => { needed := [.mountPath] }
  | .unmount => { needed := [.mountDirectory] }

/-- Whether a verb reads the options that it is given; waiting for a device does not. -/
def readsOptions (v : Verb) : Bool :=
  v ≠ .waitForAttach ∧ .json ∈ v.usage.slots

/-- The options in the arguments of a verb; where they may be left out, blank ones count as left
out. -/
def optionsIn (v : Verb) (args : List String) : Except OptionsError Options :=
  match v.usage.argument? args .json with
  | none => .ok {}
  | some text => if .json ∈ v.usage.spare ∧ trim text = "" then .ok {} else Options.parse text

/-- A verb refuses arguments that do not fill its slots, or hold no options that it reads. -/
def Refuses (v : Verb) (args : List String) : Prop :=
  ¬v.usage.Takes args.length ∨ v.readsOptions = true ∧ ∃ e, v.optionsIn args = .error e

theorem ofWord?_eq_none_iff {word : String} : ofWord? word = none ↔ ∀ v : Verb, v.word ≠ word := by
  rw [ofWord?, List.find?_eq_none]
  constructor
  · intro h v hv
    exact h v (mem_all v) (decide_eq_true hv)
  · intro h v _ hv
    exact h v (of_decide_eq_true hv)

theorem word_injective {v v' : Verb} (h : v.word = v'.word) : v = v' := by
  have hword := ofWord?_word v
  rw [h, ofWord?_word v'] at hword
  exact (Option.some.inj hword).symm

theorem arity_eq (v : Verb) : v.arity = (v.usage.needed.length, v.usage.slots.length) := by
  cases v <;> rfl

end Verb

namespace Operation

/-- The text that an operation keeps of a slot. -/
def kept? : Operation → Slot → Option String
  | .isAttached _ node, .node => some node
  | .attach _ node, .node => some node
  | .waitForAttach device, .device => some device
  | .mountDevice path _ _, .mountPath => some path
  | .mountDevice _ device _, .device => some device
  | .mount directory _, .mountDirectory => some directory
  | .detach volumeName _, .volumeName => some volumeName
  | .detach _ node, .node => some node
  | .waitForDetach device, .device => some device
  | .unmountDevice path, .mountPath => some path
  | .unmount directory, .mountDirectory => some directory
  | _, _ => none

def options? : Operation → Option Options
  | .getVolumeName options => some options
  | .isAttached options _ => some options
  | .attach options _ => some options
  | .mountDevice _ _ options => some options
  | .mount _ options => some options
  | _ => none

/-- An operation has each argument in the slot where it stands, and the options that are in them. -/
structure Holds (o : Operation) (args : List String) : Prop where
  kept : ∀ slot, slot ≠ .json → o.kept? slot = o.verb.usage.argument? args slot
  options : ∀ options, o.options? = some options → o.verb.optionsIn args = .ok options

theorem eq_of_kept {o o' : Operation} (hverb : o.verb = o'.verb)
    (hkept : ∀ slot, slot ≠ .json → o.kept? slot = o'.kept? slot)
    (hoptions : o.options? = o'.options?) : o = o' := by
  have hnode := hkept .node (by decide)
  have hdevice := hkept .device (by decide)
  have hpath := hkept .mountPath (by decide)
  have hdirectory := hkept .mountDirectory (by decide)
  have hname := hkept .volumeName (by decide)
  cases o <;> cases o' <;> simp_all [verb, kept?, options?]

theorem isSome_options? (o : Operation) : o.options?.isSome = o.verb.readsOptions := by
  cases o <;> rfl

variable {o o' : Operation} {args : List String}

theorem Holds.unique (h : o.Holds args) (h' : o'.Holds args) (hverb : o.verb = o'.verb) :
    o = o' := by
  refine eq_of_kept hverb (fun slot hslot => ?_) ?_
  · rw [h.kept slot hslot, h'.kept slot hslot, hverb]
  · have hsome : o.options?.isSome = o'.options?.isSome := by
      rw [isSome_options?, isSome_options?, hverb]
    cases ho : o.options? with
    | none =>
        cases ho' : o'.options? with
        | none => rfl
        | some options => simp [ho, ho'] at hsome
    | some options =>
        cases ho' : o'.options? with
        | none => simp [ho, ho'] at hsome
        | some options' =>
            have hsame := h.options options ho
            rw [hverb, h'.options options' ho'] at hsame
            rw [Except.ok.inj hsame]

theorem Holds.not_refuses (h : o.Holds args) (htakes : o.verb.usage.Takes args.length) :
    ¬o.verb.Refuses args := by
  rintro (hnot | ⟨hreads, e, he⟩)
  · exact hnot htakes
  · rw [← isSome_options?, Option.isSome_iff_exists] at hreads
    obtain ⟨options, hoptions⟩ := hreads
    rw [h.options options hoptions] at he
    cases he

/-- With any options, the operation that keeps each of the arguments in its own slot. -/
structure Keeps (v : Verb) (args : List String) (make : Options → Operation) : Prop where
  verb : ∀ options, (make options).verb = v
  kept : ∀ options slot, slot ≠ .json → (make options).kept? slot = v.usage.argument? args slot
  options : ∀ options options', (make options).options? = some options' → options = options'

theorem Keeps.holds {v : Verb} {make : Options → Operation} {options : Options}
    (keeps : Keeps v args make)
    (hoptions : ∀ options', (make options).options? = some options' →
      v.optionsIn args = .ok options) :
    (make options).Holds args where
  kept slot hslot := by rw [keeps.kept options slot hslot, keeps.verb]
  options options' h := by
    rw [keeps.verb, hoptions options' h, keeps.options options options' h]

theorem parse_eq_optionsIn {v : Verb} {text : String} (hneeded : .json ∉ v.usage.spare)
    (htext : v.usage.argument? args .json = some text) : Options.parse text = v.optionsIn args := by
  simp [Verb.optionsIn, htext, hneeded]

theorem parseOptional_eq_optionsIn {v : Verb} {text? : Option String}
    (hspare : .json ∈ v.usage.spare) (htext : v.usage.argument? args .json = text?) :
    Options.parseOptional text? = v.optionsIn args := by
  cases text? <;> simp [Options.parseOptional, Verb.optionsIn, htext, hspare]

theorem exists_keeps_of_not_readsOptions {v : Verb} (hverb : o.verb = v)
    (hreads : v.readsOptions = false)
    (hkept : ∀ slot, slot ≠ .json → o.kept? slot = v.usage.argument? args slot) :
    ∃ make, Keeps v args make ∧
      .ok o = if v.readsOptions then (v.optionsIn args).map make else .ok (make {}) := by
  refine ⟨fun _ => o, ⟨fun _ => hverb, fun _ => hkept, fun _ options h => ?_⟩, by rw [hreads]; rfl⟩
  have hsome := isSome_options? o
  rw [h, hverb, hreads] at hsome
  cases hsome

theorem exists_keeps_of_readsOptions {v : Verb} {make : Options → Operation}
    {parsed : Except OptionsError Options} (hreads : v.readsOptions = true)
    (hparsed : parsed = v.optionsIn args) (keeps : Keeps v args make) :
    ∃ make', Keeps v args make' ∧
      parsed.map make = if v.readsOptions then (v.optionsIn args).map make' else .ok (make' {}) :=
  ⟨make, keeps, by rw [hparsed, if_pos hreads]⟩

/-- What is made of arguments that are taken: the operation that keeps them, once the options in
them are read. -/
theorem exists_keeps_of_ofArguments? {v : Verb} {made : Except OptionsError Operation}
    (h : ofArguments? v args = some made) :
    ∃ make, Keeps v args make ∧
      made = if v.readsOptions then (v.optionsIn args).map make else .ok (make {}) := by
  unfold ofArguments? at h
  -- one case for every number of arguments that a verb takes: first the verbs that need options,
  -- then those that may go without, and at last those that read none
  split at h <;> cases h
  case h_4.refl | h_5.refl =>
    refine exists_keeps_of_readsOptions ?_ ?_ ?_
    · rfl
    · exact parse_eq_optionsIn (by decide) rfl
    · exact ⟨fun _ => rfl, fun _ => Slot.forall_ne_json rfl rfl rfl rfl rfl,
        fun _ _ => Option.some.inj⟩
  case h_2.refl | h_3.refl | h_8.refl | h_9.refl | h_10.refl | h_11.refl =>
    refine exists_keeps_of_readsOptions ?_ ?_ ?_
    · rfl
    · exact parseOptional_eq_optionsIn (by decide) rfl
    · exact ⟨fun _ => rfl, fun _ => Slot.forall_ne_json rfl rfl rfl rfl rfl,
        fun _ _ => Option.some.inj⟩
  all_goals
    refine exists_keeps_of_not_readsOptions rfl rfl ?_
    exact Slot.forall_ne_json rfl rfl rfl rfl rfl

variable {v : Verb}

theorem holds_of_ofArguments? (h : ofArguments? v args = some (.ok o)) :
    o.verb = v ∧ o.Holds args := by
  obtain ⟨make, keeps, hmade⟩ := exists_keeps_of_ofArguments? h
  by_cases hreads : v.readsOptions = true
  · rw [if_pos hreads] at hmade
    cases hparsed : v.optionsIn args with
    | error e =>
        rw [hparsed] at hmade
        cases hmade
    | ok options =>
        rw [hparsed] at hmade
        cases hmade
        exact ⟨keeps.verb options, keeps.holds fun _ _ => hparsed⟩
  · rw [if_neg hreads] at hmade
    cases hmade
    refine ⟨keeps.verb {}, keeps.holds fun options hsome => ?_⟩
    have hread := isSome_options? (make {})
    rw [hsome, keeps.verb] at hread
    exact absurd hread.symm hreads

theorem optionsIn_of_ofArguments? {e : OptionsError} (h : ofArguments? v args = some (.error e)) :
    v.readsOptions = true ∧ v.optionsIn args = .error e := by
  obtain ⟨make, -, hmade⟩ := exists_keeps_of_ofArguments? h
  by_cases hreads : v.readsOptions = true
  · rw [if_pos hreads] at hmade
    cases hparsed : v.optionsIn args with
    | error e' =>
        rw [hparsed] at hmade
        cases hmade
        exact ⟨hreads, rfl⟩
    | ok options =>
        rw [hparsed] at hmade
        cases hmade
  · rw [if_neg hreads] at hmade
    cases hmade

end Operation

/-! ## Words without a hyphen -/

def IsHyphenated (word : String) : Prop :=
  word.toList.head? = some '-'

instance (word : String) : Decidable (IsHyphenated word) :=
  inferInstanceAs (Decidable (_ = _))

theorem shape_of_not_isHyphenated {word : String} (h : ¬IsHyphenated word) :
    shape (.text word) = .plain := by
  unfold IsHyphenated at h
  rw [shape, RawText.lossy]
  split <;> simp_all

namespace Reading

variable {r : Reading} {texts : List String} {most : Nat}

/-- These texts have been read. -/
structure Holds (r : Reading) (texts : List String) : Prop where
  settle : r.settle = .ok texts
  count : r.count = texts.length

theorem holds_nil : Holds {} [] :=
  ⟨rfl, rfl⟩

theorem Holds.push (h : r.Holds texts) (hroom : texts.length < most) (word : String) :
    ∃ r', r.push most (.text word) = .ok r' ∧ r'.Holds (texts ++ [word]) := by
  refine ⟨⟨texts, some (.text word)⟩, ?_, rfl, ?_⟩
  · rw [Reading.push, h.count, if_pos hroom, h.settle]
    rfl
  · simp [Reading.count]

theorem Holds.push_full (h : r.Holds texts) (hfull : most ≤ texts.length) (word : String) :
    r.push most (.text word) = .error (.refused (.unexpected word)) := by
  rw [Reading.push, h.count, if_neg (by omega)]
  rfl

end Reading

section Arguments

variable {most : Nat} {args : List String}

theorem readArguments_cons {r : Reading} {word : String} (hword : ¬IsHyphenated word)
    (rest : List RawText) :
    readArguments most false r (.text word :: rest) =
      (r.push most (.text word) >>= fun r' => readArguments most false r' rest) := by
  rw [readArguments, shape_of_not_isHyphenated hword]

theorem readArguments_of_le {r : Reading} {texts : List String} (h : r.Holds texts)
    (hargs : ∀ a ∈ args, ¬IsHyphenated a) (hroom : texts.length + args.length ≤ most) :
    readArguments most false r (args.map .text) = .ok (texts ++ args) := by
  induction args generalizing r texts with
  | nil => simpa [readArguments] using h.settle
  | cons a args ih =>
      rw [List.length_cons] at hroom
      have hleft : texts.length < most := by omega
      obtain ⟨r', hpush, h'⟩ := h.push hleft a
      rw [List.map_cons, readArguments_cons (hargs a (by simp)), hpush]
      show readArguments most false r' (args.map .text) = _
      rw [ih h' (fun b hb => hargs b (by simp [hb])) (by simp; omega)]
      simp

/-- The first argument for which there is no room is refused. -/
theorem readArguments_of_lt {r : Reading} {texts : List String} (h : r.Holds texts)
    (hargs : ∀ a ∈ args, ¬IsHyphenated a) (htexts : texts.length ≤ most)
    (hfull : most < texts.length + args.length) :
    ∃ a, readArguments most false r (args.map .text) = .error (.refused (.unexpected a)) := by
  induction args generalizing r texts with
  | nil =>
      rw [List.length_nil] at hfull
      omega
  | cons a args ih =>
      rw [List.length_cons] at hfull
      rw [List.map_cons, readArguments_cons (hargs a (by simp))]
      by_cases hroom : texts.length < most
      · obtain ⟨r', hpush, h'⟩ := h.push hroom a
        rw [hpush]
        exact ih h' (fun b hb => hargs b (by simp [hb])) (by simp; omega) (by simp; omega)
      · rw [h.push_full (by omega)]
        exact ⟨a, rfl⟩

theorem readOperation_of_texts {v : Verb} {raw : List RawText} {texts : List String}
    (h : readArguments v.arity.2 false {} raw = .ok texts) :
    readOperation v raw =
      ((Operation.ofArguments? v texts).map .ok).getD (.error (.refused .missing)) := by
  unfold readOperation
  rw [h]
  cases hmade : Operation.ofArguments? v texts with
  | none => simp [hmade, bind, Except.bind]
  | some made => simp [hmade, bind, Except.bind, pure, Except.pure]

end Arguments

/-! ## The command line -/

namespace Invocation

/-- The command line is answered at once, with this status. -/
def AnswersAtOnce (answer : Invocation) (status : Status) : Prop :=
  ∃ r : Response, answer = .respond r ∧ r.status = status

theorem AnswersAtOnce.unique {answer : Invocation} {status status' : Status}
    (h : answer.AnswersAtOnce status) (h' : answer.AnswersAtOnce status') : status = status' := by
  obtain ⟨r, rfl, rfl⟩ := h
  obtain ⟨r', hr', rfl⟩ := h'
  cases hr'
  rfl

theorem not_answersAtOnce_run {o : Operation} {status : Status} :
    ¬(run o).AnswersAtOnce status := by
  rintro ⟨r, hr, -⟩
  cases hr

variable {binary : RawText} {word : String} {args : List String}

theorem parse_of_no_verb (hword : ¬IsHyphenated word) (hno : ∀ v : Verb, v.word ≠ word) :
    (parse (binary :: .text word :: args.map .text)).AnswersAtOnce .notSupported := by
  have hverb : verb? (.text word) = none := Verb.ofWord?_eq_none_iff.mpr hno
  have hread : readCommandLine (.text word :: args.map .text) =
      .error (.refused (.unknownOperation word)) := by
    simp only [readCommandLine, hverb, shape_of_not_isHyphenated hword]
    rfl
  refine ⟨(ArgumentError.unknownOperation word).response, ?_, rfl⟩
  rw [parse, List.tail_cons, hread]

theorem parse_of_readCommandLine (binary : RawText) {read : Except OptionsError Operation}
    (h : readCommandLine (.text word :: args.map .text) = .ok read) :
    parse (binary :: .text word :: args.map .text) =
      (match read with
      | .ok o => run o
      | .error e => respond (.failure e.message)) := by
  simp only [parse, List.tail_cons, h]
  cases read <;> rfl

/-- A verb with arguments that it does not refuse is the operation that keeps them. -/
theorem parse_of_verb (binary : RawText) (v : Verb) (hargs : ∀ a ∈ args, ¬IsHyphenated a) :
    (v.Refuses args ∧ (parse (binary :: .text v.word :: args.map .text)).AnswersAtOnce .failed) ∨
    ∃ o : Operation, o.verb = v ∧ v.usage.Takes args.length ∧ o.Holds args ∧
      parse (binary :: .text v.word :: args.map .text) = .run o := by
  have harity := Verb.arity_eq v
  have hread : readCommandLine (.text v.word :: args.map .text) =
      readOperation v (args.map .text) := by
    have hverb : verb? (.text v.word) = some v := Verb.ofWord?_word v
    simp only [readCommandLine, hverb]
  have refused (e : ArgumentError) (hfailed : e.response.status = .failed)
      (he : readOperation v (args.map .text) = .error (.refused e)) :
      (parse (binary :: .text v.word :: args.map .text)).AnswersAtOnce .failed :=
    ⟨e.response, by rw [parse, List.tail_cons, hread, he], hfailed⟩
  by_cases hmost : args.length ≤ v.arity.2
  · have htexts : readArguments v.arity.2 false {} (args.map .text) = .ok args :=
      readArguments_of_le Reading.holds_nil hargs (by simpa using hmost)
    have hmade := readOperation_of_texts htexts
    cases hof : Operation.ofArguments? v args with
    | none =>
        rw [hof] at hmade
        have htakes : ¬v.usage.Takes args.length := by
          have hnone := Operation.isSome_ofArguments?_iff v args
          rw [hof, harity] at hnone
          exact fun h => absurd (hnone.mpr h) (by simp)
        exact .inl ⟨.inl htakes, refused .missing rfl hmade⟩
    | some made =>
        rw [hof] at hmade
        have htakes : v.usage.Takes args.length := by
          have hsome := Operation.isSome_ofArguments?_iff v args
          rw [hof, harity] at hsome
          exact hsome.mp rfl
        have hparse := parse_of_readCommandLine binary (hread.trans hmade)
        cases made with
        | ok o =>
            obtain ⟨hverb, holds⟩ := Operation.holds_of_ofArguments? hof
            exact .inr ⟨o, hverb, htakes, holds, hparse⟩
        | error e =>
            obtain ⟨hreads, he⟩ := Operation.optionsIn_of_ofArguments? hof
            exact .inl ⟨.inr ⟨hreads, e, he⟩, .failure e.message, hparse, rfl⟩
  · obtain ⟨a, ha⟩ := readArguments_of_lt Reading.holds_nil hargs (Nat.zero_le v.arity.2)
      (by simpa using hmost)
    refine .inl ⟨.inl fun htakes => hmost ?_, refused (.unexpected a) rfl ?_⟩
    · rw [harity]
      exact htakes.2
    · rw [readOperation, ha]
      rfl

/-- What a command line asks for, by the usage of its verb.  A word that is no verb is not
supported; arguments that the verb refuses fail; all others are the operation that keeps them, each
in its own slot. -/
structure ByUsage (answer : Invocation) (word : String) (args : List String) : Prop where
  notSupported : answer.AnswersAtOnce .notSupported ↔ ∀ v : Verb, v.word ≠ word
  failed : answer.AnswersAtOnce .failed ↔ ∃ v : Verb, v.word = word ∧ v.Refuses args
  run : ∀ o, answer = .run o ↔
    o.verb.word = word ∧ o.verb.usage.Takes args.length ∧ o.Holds args
  covered : answer.AnswersAtOnce .notSupported ∨ answer.AnswersAtOnce .failed ∨
    ∃ o, answer = .run o

variable {answer : Invocation}

theorem byUsage_of_no_verb (hno : ∀ v : Verb, v.word ≠ word)
    (hanswer : answer.AnswersAtOnce .notSupported) : answer.ByUsage word args where
  notSupported := ⟨fun _ => hno, fun _ => hanswer⟩
  failed := by
    constructor
    · intro h
      cases h.unique hanswer
    · rintro ⟨v, hv, -⟩
      exact absurd hv (hno v)
  run o := by
    constructor
    · rintro rfl
      exact absurd hanswer not_answersAtOnce_run
    · rintro ⟨hv, -⟩
      exact absurd hv (hno o.verb)
  covered := .inl hanswer

theorem byUsage_of_refuses {v : Verb} (hrefuses : v.Refuses args)
    (hanswer : answer.AnswersAtOnce .failed) : answer.ByUsage v.word args where
  notSupported := by
    constructor
    · intro h
      cases h.unique hanswer
    · intro h
      exact absurd rfl (h v)
  failed := ⟨fun _ => ⟨v, rfl, hrefuses⟩, fun _ => hanswer⟩
  run o := by
    constructor
    · rintro rfl
      exact absurd hanswer not_answersAtOnce_run
    · rintro ⟨hv, htakes, holds⟩
      obtain rfl := Verb.word_injective hv
      exact absurd hrefuses (holds.not_refuses htakes)
  covered := .inr (.inl hanswer)

theorem byUsage_of_holds {o : Operation} (htakes : o.verb.usage.Takes args.length)
    (holds : o.Holds args) : (run o).ByUsage o.verb.word args where
  notSupported := by
    constructor
    · intro h
      exact absurd h not_answersAtOnce_run
    · intro h
      exact absurd rfl (h o.verb)
  failed := by
    constructor
    · intro h
      exact absurd h not_answersAtOnce_run
    · rintro ⟨v, hv, hrefuses⟩
      obtain rfl := Verb.word_injective hv
      exact absurd hrefuses (holds.not_refuses htakes)
  run o' := by
    constructor
    · intro h
      cases h
      exact ⟨rfl, htakes, holds⟩
    · rintro ⟨hv, -, holds'⟩
      rw [holds.unique holds' (Verb.word_injective hv).symm]
  covered := .inr (.inr ⟨o, rfl⟩)

/-- A command line without options is read by the usage of its verb. -/
theorem parse_by_usage (binary : RawText) (word : String) (args : List String)
    (hword : ¬IsHyphenated word) (hargs : ∀ a ∈ args, ¬IsHyphenated a) :
    (parse (binary :: .text word :: args.map .text)).ByUsage word args := by
  by_cases hverb : ∃ v : Verb, v.word = word
  · obtain ⟨v, rfl⟩ := hverb
    obtain ⟨hrefuses, hanswer⟩ | ⟨o, rfl, htakes, holds, hanswer⟩ :=
      parse_of_verb binary v hargs
    · exact byUsage_of_refuses hrefuses hanswer
    · rw [hanswer]
      exact byUsage_of_holds htakes holds
  · have hno : ∀ v : Verb, v.word ≠ word := fun v hv => hverb ⟨v, hv⟩
    exact byUsage_of_no_verb hno (parse_of_no_verb hword hno)

/-- Attaching a volume to a node. -/
theorem parse_by_usage_attach :
    let args := ["\x7b\"volumeID\":\"v-1\"\x7d", "worker-1"]
    ¬IsHyphenated "attach" ∧ (∀ a ∈ args, ¬IsHyphenated a) ∧
    parse ("flexvol" :: .text "attach" :: args.map .text) =
      .run (.attach { volumeId := some "v-1" } "worker-1") := by
  intro args
  have hword : ¬IsHyphenated "attach" := by decide
  have hargs : ∀ a ∈ args, ¬IsHyphenated a := by decide
  have hparse : Options.parse "\x7b\"volumeID\":\"v-1\"\x7d" = .ok { volumeId := some "v-1" } := by
    rfl
  have byUsage := parse_by_usage "flexvol" "attach" args hword hargs
  refine ⟨hword, hargs, (byUsage.run _).mpr ⟨rfl, by decide, ?_, ?_⟩⟩
  · exact Slot.forall_ne_json rfl rfl rfl rfl rfl
  · rintro _ ⟨⟩
    exact (Operation.parse_eq_optionsIn (by decide) rfl).symm.trans hparse

end Invocation

end NodeVolumes.Kubelet
