import RingQueue.Proofs.CommandLine.Spelling

/-! Arguments written for a request are read as that request. The options of the command stand in
any order after its name, and the others on either side of it. -/
namespace RingQueue

/-! ### What can be asked for -/

def Overrides.choices (overrides : Overrides) : List CommandLine.Choice :=
  (overrides.items.map .items).toList ++ (overrides.capacity.map .capacity).toList ++
    (if overrides.pin then [.pin] else []) ++ (overrides.timeoutMs.map .timeoutMs).toList

namespace Command

def verb : Command → CommandLine.Verb
  | spsc _ => .spsc
  | mpmc .. => .mpmc
  | config _ => .config

/-- The options of a command that are given for it. -/
def choices : Command → List CommandLine.Choice
  | spsc overrides => overrides.choices
  | mpmc overrides producers consumers =>
    overrides.choices ++ (producers.map .producers).toList ++ (consumers.map .consumers).toList
  | config schema => if schema then [.schema] else []

/-- The dimensions that are given for the run of a command. -/
def overrides? : Command → Option Overrides
  | spsc overrides | mpmc overrides _ _ => some overrides
  | config _ => none

end Command

namespace CommandLine

open RingQueue.Number

def Verb.word : Verb → String
  | spsc => "spsc"
  | mpmc => "mpmc"
  | config => "config"

/-- What is asked for in arguments. The format and the directory may be left open. -/
structure Request where
  output : Option OutputFormat := none
  configDir : Option String := none
  verbose : Bool := false
  command : Command

namespace Request

/-- The options that stand on either side of the command. -/
def globals (request : Request) : List Choice :=
  (request.output.map .output).toList ++ (request.configDir.map .configDir).toList ++
    if request.verbose then [.verbose] else []

/-- The command line that a request means where the variables are those of `environment`. -/
def line (request : Request) (environment : Environment) : CommandLine where
  output := request.output.getD .pretty
  configDir := request.configDir.or (environment.lookup directoryVariable)
  verbose := request.verbose
  command := request.command

end Request

/-- The words for a request: its command between options for either side, and behind it also the
options of the command. Every option that is given stands there once. -/
inductive Rendered (request : Request) : List String → Prop
  | mk {before after : List Choice} {front back : List String}
    (early : Spelled before front) (late : Spelled after back)
    (whole : (before ++ after).Perm (request.globals ++ request.command.choices))
    (shared : ∀ choice ∈ before, choice ∈ request.globals) :
    Rendered request (front ++ request.command.verb.word :: back)

variable {choice : Choice} {choices : List Choice} {chosen : List Choice} {reading : Reading}

/-! ### The options of a request -/

theorem params_of_option {α : Type} (make : α → Choice) (param : Param)
    (same : ∀ a, (make a).param = param) (given : Option α) :
    ((given.map make).toList.map Choice.param).Sublist [param] := by
  cases given with
  | none => exact List.nil_sublist _
  | some a => simp [same]

theorem params_of_flag (choice : Choice) (given : Bool) :
    ((if given then [choice] else []).map Choice.param).Sublist [choice.param] := by
  cases given with
  | false => exact List.nil_sublist _
  | true => exact List.Sublist.refl _

theorem params_of_globals (request : Request) :
    (request.globals.map Choice.param).Sublist globalParams := by
  have format := params_of_option .output .output (fun _ => rfl) request.output
  have path := params_of_option .configDir .configDir (fun _ => rfl) request.configDir
  have more := params_of_flag .verbose request.verbose
  simp only [Request.globals, List.map_append]
  exact (format.append path).append more

theorem params_of_overrides (overrides : Overrides) :
    (overrides.choices.map Choice.param).Sublist runParams := by
  have items := params_of_option .items .items (fun _ => rfl) overrides.items
  have capacity := params_of_option .capacity .capacity (fun _ => rfl) overrides.capacity
  have pin := params_of_flag .pin overrides.pin
  have time := params_of_option .timeoutMs .timeoutMs (fun _ => rfl) overrides.timeoutMs
  simp only [Overrides.choices, List.map_append]
  exact ((items.append capacity).append pin).append time

/-- The options that only a certain command has. -/
def Verb.params : Verb → List Param
  | spsc => runParams
  | mpmc => runParams ++ [.producers, .consumers]
  | config => [.schema]

theorem params_of_command (command : Command) :
    (command.choices.map Choice.param).Sublist command.verb.params := by
  cases command with
  | spsc overrides => exact params_of_overrides overrides
  | mpmc overrides producers consumers =>
    have senders := params_of_option .producers .producers (fun _ => rfl) producers
    have receivers := params_of_option .consumers .consumers (fun _ => rfl) consumers
    simp only [Command.choices, List.map_append]
    exact ((params_of_overrides overrides).append senders).append receivers
  | config schema => exact params_of_flag .schema schema

/-- Every option of a request is known behind its command, and stands there once. -/
theorem params_of_request (request : Request) :
    ((request.globals ++ request.command.choices).map Choice.param).Sublist
      (Scope.after request.command.verb).params := by
  have known (verb : Verb) :
      (Scope.after verb).params = globalParams ++ verb.params ++ [.help] := by
    cases verb <;> rfl
  rw [List.map_append, known]
  exact ((params_of_globals request).append (params_of_command _)).trans
    (List.sublist_append_left ..)

theorem param_notMem_globalParams {command : Command} (member : choice ∈ command.choices) :
    choice.param ∉ globalParams := by
  have apart (verb : Verb) : ∀ param ∈ verb.params, param ∉ globalParams := by
    cases verb <;> decide
  exact apart command.verb _ ((params_of_command command).subset (List.mem_map_of_mem member))

theorem Scope.nodup_params (scope : Scope) : scope.params.Nodup := by
  cases scope with
  | top => decide
  | after verb => cases verb <;> decide

/-! What is picked from options does not depend on where they stand. -/

theorem findSome?_of_perm {α : Type} {pick : Choice → Option α} {given : Option α}
    (same : (choices.filterMap pick).Perm given.toList) : choices.findSome? pick = given := by
  rw [← List.head?_filterMap]
  cases given with
  | none => rw [List.perm_nil.mp same]; rfl
  | some a => rw [same.eq_singleton]; rfl

/-- The options of a request, spread over both sides of its command. -/
structure Spread (request : Request) (before late : List Choice) : Prop where
  whole : (before ++ late).Perm (request.globals ++ request.command.choices)
  shared : ∀ choice ∈ before, choice ∈ request.globals

variable {request : Request} {before late : List Choice}

theorem forall_globals {motive : Choice → Prop} (output : ∀ format, motive (.output format))
    (configDir : ∀ path, motive (.configDir path)) (verbose : motive .verbose) :
    ∀ choice ∈ request.globals, motive choice := by
  intro choice member
  simp only [Request.globals, List.mem_append, Option.mem_toList, Option.map_eq_some_iff] at member
  rcases member with (⟨format, -, rfl⟩ | ⟨path, -, rfl⟩) | flag
  · exact output format
  · exact configDir path
  · split at flag
    · rwa [List.mem_singleton.mp flag]
    · cases flag

namespace Spread

variable {α : Type} {pick : Choice → Option α} {given : Option α}
variable (spread : Spread request before late)
include spread

theorem perm : (late ++ before).Perm (request.globals ++ request.command.choices) :=
  List.perm_append_comm.trans spread.whole

/-- An option for either side may be on either side. -/
theorem findSome?_shared (others : ∀ choice ∈ request.command.choices, pick choice = none)
    (single : request.globals.filterMap pick = given.toList) :
    (late ++ before).findSome? pick = given := by
  have same := spread.perm.filterMap pick
  rw [List.filterMap_append (l := request.globals), List.filterMap_eq_nil_iff.mpr others,
    List.append_nil, single] at same
  exact findSome?_of_perm same

/-- An option of the command is behind it. -/
theorem findSome?_late (others : ∀ choice ∈ request.globals, pick choice = none)
    (single : request.command.choices.filterMap pick = given.toList) :
    late.findSome? pick = given := by
  have early : before.filterMap pick = [] :=
    List.filterMap_eq_nil_iff.mpr fun choice member => others choice (spread.shared choice member)
  have same := spread.whole.filterMap pick
  rw [List.filterMap_append, List.filterMap_append, early, List.filterMap_eq_nil_iff.mpr others,
    single] at same
  exact findSome?_of_perm same

theorem contains_late (choice : Choice) (others : ∀ other ∈ request.globals, other ≠ choice) :
    late.contains choice = request.command.choices.contains choice := by
  have same := spread.whole.mem_iff (a := choice)
  have absent : choice ∉ request.globals := fun member => others choice member rfl
  have early : choice ∉ before := fun member => absent (spread.shared choice member)
  simpa [absent, early] using same

end Spread

/-- What is picked from the options for a run, when the numbers of workers are passed over. -/
theorem filterMap_overrides {α : Type} {pick : Choice → Option α} {command : Command}
    {overrides : Overrides} (given : command.overrides? = some overrides)
    (producers : ∀ count, pick (.producers count) = none)
    (consumers : ∀ count, pick (.consumers count) = none) :
    command.choices.filterMap pick = overrides.choices.filterMap pick := by
  cases command with
  | spsc own =>
    obtain rfl := Option.some.inj given
    rfl
  | mpmc own senders receivers =>
    obtain rfl := Option.some.inj given
    cases senders <;> cases receivers <;> simp [Command.choices, producers, consumers]
  | config schema => cases given

theorem contains_pin {command : Command} {overrides : Overrides}
    (given : command.overrides? = some overrides) :
    command.choices.contains .pin = overrides.pin := by
  have own (overrides : Overrides) : overrides.choices.contains .pin = overrides.pin := by
    simp [Overrides.choices]
  cases command with
  | spsc same =>
    obtain rfl := Option.some.inj given
    exact own same
  | mpmc same senders receivers =>
    obtain rfl := Option.some.inj given
    simp [Command.choices, Overrides.choices]
  | config schema => cases given

theorem Spread.overridesOf_eq (spread : Spread request before late) {overrides : Overrides}
    (given : request.command.overrides? = some overrides) : overridesOf late = overrides := by
  have own {pick : Choice → Option UInt64} {count : Option UInt64}
      (others : ∀ choice ∈ request.globals, pick choice = none)
      (producers : ∀ count, pick (.producers count) = none)
      (consumers : ∀ count, pick (.consumers count) = none)
      (single : overrides.choices.filterMap pick = count.toList) : late.findSome? pick = count :=
    spread.findSome?_late others ((filterMap_overrides given producers consumers).trans single)
  have items : late.findSome? items? = overrides.items := by
    refine own (forall_globals (fun _ => rfl) (fun _ => rfl) rfl) (fun _ => rfl) (fun _ => rfl) ?_
    rcases overrides with ⟨_ | _, _ | _, _ | _, _ | _⟩ <;> rfl
  have capacity : late.findSome? capacity? = overrides.capacity := by
    refine own (forall_globals (fun _ => rfl) (fun _ => rfl) rfl) (fun _ => rfl) (fun _ => rfl) ?_
    rcases overrides with ⟨_ | _, _ | _, _ | _, _ | _⟩ <;> rfl
  have time : late.findSome? timeoutMs? = overrides.timeoutMs := by
    refine own (forall_globals (fun _ => rfl) (fun _ => rfl) rfl) (fun _ => rfl) (fun _ => rfl) ?_
    rcases overrides with ⟨_ | _, _ | _, _ | _, _ | _⟩ <;> rfl
  have pin : late.contains .pin = overrides.pin := by
    rw [spread.contains_late .pin (forall_globals nofun nofun nofun),
      contains_pin given]
  rw [overridesOf, items, capacity, time, pin]

theorem Spread.commandOf_eq (spread : Spread request before late) :
    commandOf request.command.verb late = request.command := by
  obtain ⟨output, configDir, verbose, command⟩ := request
  cases command with
  | spsc overrides => rw [Command.verb, commandOf, spread.overridesOf_eq rfl]
  | mpmc overrides senders receivers =>
    have producers : late.findSome? producers? = senders := by
      refine spread.findSome?_late (forall_globals (fun _ => rfl) (fun _ => rfl) rfl) ?_
      rcases overrides with ⟨_ | _, _ | _, _ | _, _ | _⟩ <;>
        cases senders <;> cases receivers <;> rfl
    have consumers : late.findSome? consumers? = receivers := by
      refine spread.findSome?_late (forall_globals (fun _ => rfl) (fun _ => rfl) rfl) ?_
      rcases overrides with ⟨_ | _, _ | _, _ | _, _ | _⟩ <;>
        cases senders <;> cases receivers <;> rfl
    rw [Command.verb, commandOf, spread.overridesOf_eq rfl, producers, consumers]
  | config shown =>
    rw [Command.verb, commandOf,
      spread.contains_late .schema (forall_globals nofun nofun nofun)]
    cases shown <;> rfl

theorem Spread.ofChoices_eq (spread : Spread request before late) (environment : Environment) :
    ofChoices environment before request.command.verb late = request.line environment := by
  have output : (late ++ before).findSome? format? = request.output := by
    refine spread.findSome?_shared (fun choice member => ?_) ?_
    · have own := param_notMem_globalParams member
      cases choice <;> first | rfl | exact absurd (by simp [globalParams, Choice.param]) own
    · rcases request with ⟨_ | _, _ | _, _ | _, _⟩ <;> rfl
  have path : (late ++ before).findSome? path? = request.configDir := by
    refine spread.findSome?_shared (fun choice member => ?_) ?_
    · have own := param_notMem_globalParams member
      cases choice <;> first | rfl | exact absurd (by simp [globalParams, Choice.param]) own
    · rcases request with ⟨_ | _, _ | _, _ | _, _⟩ <;> rfl
  have verbose : (late ++ before).contains .verbose = request.verbose := by
    have own : .verbose ∉ request.command.choices := fun member =>
      param_notMem_globalParams member (by decide)
    have same := spread.perm.mem_iff (a := Choice.verbose)
    rw [List.mem_append (s := request.globals), or_iff_left own] at same
    rw [Bool.eq_iff_iff, List.contains_iff_mem, same]
    simp [Request.globals]
  rw [ofChoices, output, path, verbose, spread.commandOf_eq, Request.line]

/-! ### Reading a request -/

theorem Scope.entry?_word (verb : Verb) : Scope.top.entry? verb.word = some (.run verb) := by
  cases verb <;> rfl

theorem finish_eq {environment : Environment} (set : environment.lookup directoryVariable ≠ some "")
    (amounts : reading.Amounts chosen) : finish environment reading = .ok chosen := by
  simp [finish, amounts.settled, set, bind, Except.bind, pure, Except.pure]

theorem readWords_verb (amounts : reading.Amounts chosen) (verb : Verb) (rest : List String) :
    readWords .top reading (verb.word :: rest) = .ok (reading, some (verb, rest)) := by
  rw [readWords.eq_def]
  simp only [amounts.complete, Bool.false_eq_true, if_false, Scope.entry?_word]

namespace Spread

variable (spread : Spread request before late)
include spread

theorem nodup : ((before ++ late).map Choice.param).Nodup :=
  ((spread.whole.map Choice.param).nodup_iff).mpr
    ((params_of_request request).nodup (Scope.nodup_params _))

theorem usable (named : request.configDir ≠ some "") :
    ∀ choice ∈ before ++ late, choice.Usable := by
  intro choice member same
  rw [spread.whole.mem_iff, same, List.mem_append] at member
  rcases member with shared | own
  · simp [Request.globals, named] at shared
  · exact param_notMem_globalParams own (by decide)

theorem fits_before (named : request.configDir ≠ some "") : FitAll before .top [] where
  known choice member := by
    have shared := (params_of_globals request).subset
      (List.mem_map_of_mem (spread.shared choice member))
    exact List.mem_append_left _ shared
  usable choice member := spread.usable named choice (List.mem_append_left _ member)
  fresh := by
    have apart := spread.nodup
    rw [List.map_append] at apart
    exact (List.nodup_append.mp apart).1

theorem fits_late (named : request.configDir ≠ some "") :
    FitAll late (.after request.command.verb) [] where
  known choice member := (params_of_request request).subset <|
    List.mem_map_of_mem (spread.whole.mem_iff.mp (List.mem_append_right _ member))
  usable choice member := spread.usable named choice (List.mem_append_right _ member)
  fresh := by
    have apart := spread.nodup
    rw [List.map_append] at apart
    exact (List.nodup_append.mp apart).2.1

end Spread

/-- The dimensions `changed` are those of `stress` with the ones given by hand in their places. -/
structure Changes (overrides : Overrides) (stress changed : Stress) : Prop where
  producers : changed.producers = stress.producers
  consumers : changed.consumers = stress.consumers
  itemsPerProducer : changed.itemsPerProducer = overrides.items.getD stress.itemsPerProducer
  capacity : changed.capacity = overrides.capacity.getD stress.capacity
  pinThreads : changed.pinThreads = true ↔ overrides.pin = true ∨ stress.pinThreads = true
  timeoutMs : changed.timeoutMs = overrides.timeoutMs.getD stress.timeoutMs

theorem changes_apply (overrides : Overrides) (stress : Stress) :
    Changes overrides stress (overrides.apply stress) :=
  ⟨rfl, rfl, rfl, rfl, Bool.or_eq_true_iff, rfl⟩

/-- Arguments for a request, in any spelling and order, are read as the request. A format that is
not given is the pretty one, and a directory that is not given is that of the environment. What is
given for a run takes the place of just these dimensions. -/
theorem parse_eq_line_of_rendered {environment : Environment} {request : Request}
    {words : List String} (rendered : Rendered request words)
    (named : request.configDir ≠ some "")
    (set : environment.lookup directoryVariable ≠ some "") :
    parse environment words = .ok {
      output := request.output.getD .pretty
      configDir := request.configDir.or (environment.lookup directoryVariable)
      verbose := request.verbose
      command := request.command } ∧
    ∀ overrides ∈ request.command.overrides?, ∀ stress,
      Changes overrides stress (overrides.apply stress) := by
  refine ⟨?_, fun overrides _ => changes_apply overrides⟩
  obtain ⟨early, late, whole, shared⟩ := rendered
  have spread : Spread request _ _ := ⟨whole, shared⟩
  obtain ⟨front, frontDone, frontOn⟩ := early.read .start (spread.fits_before named)
  obtain ⟨back, backDone, backOn⟩ := late.read .start (spread.fits_late named)
  have ended := backOn []
  rw [List.append_nil] at ended
  have last : readWords (.after request.command.verb) back [] = .ok (back, none) := rfl
  rw [parse, frontOn, readWords_verb frontDone]
  simp only [ended, last, finish_eq set frontDone, finish_eq set backDone, bind, Except.bind,
    List.nil_append, spread.ofChoices_eq, pure, Except.pure]
  rfl

/-- The directory is called like a command, and two letters share a dash. -/
theorem parse_mixed_spellings :
    parse [(directoryVariable, "/etc")]
      ["--config-dir", "spsc", "mpmc", "-p3", "--items=50", "-vo", "json", "--pin"] =
      .ok {
        output := .json
        configDir := some "spsc"
        verbose := true
        command := .mpmc { items := some 50, pin := true } (some 3) none } := by
  have request : Rendered
      ⟨some .json, some "spsc", true, .mpmc { items := some 50, pin := true } (some 3) none⟩
      ["--config-dir", "spsc", "mpmc", "-p3", "--items=50", "-vo", "json", "--pin"] := by
    have three : decimal 3 = "3" := by simp [decimal, digits, digitsOnto, digitChar]
    have fifty : decimal 50 = "50" := by simp [decimal, digits, digitsOnto, digitChar]
    have early : Spelled [.configDir "spsc"] (["--config-dir", "spsc"] ++ []) :=
      .cons (.apart rfl (by decide)) .nil
    have late : Spelled [.producers 3, .items 50, .verbose, .output .json, .pin]
        ([String.ofList ('-' :: 'p' :: "3".toList)] ++ (["--items=50"] ++
          (String.ofList ['-', 'v', 'o'] :: (["json"] ++ (["--pin"] ++ []))))) :=
      .cons (.short (@Letters.joined (.producers 3) _ _ (congrArg some three) rfl)) <|
        .cons (@Spelling.joined (.items 50) _ (congrArg some fifty)) <|
        .cluster rfl rfl (.apart rfl rfl (by decide)) <|
        .cons (.flag rfl) .nil
    exact .mk early late (by decide) (by decide)
  exact (parse_eq_line_of_rendered request (by decide) (by decide)).1

end CommandLine
end RingQueue
