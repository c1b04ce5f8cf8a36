import Mathlib.Data.List.TakeWhile
import RingQueue.CommandLine.Reader
import RingQueue.Proofs.Number.Digits

/-! The forms in which an option can be given, and what reading on does with each of them. A value
in a word of its own is looked at later, so what has been read is described by what it comes to in
the end. -/
namespace RingQueue.CommandLine

open RingQueue.Number

/-- The text for the value of an option, if it takes one. -/
def Choice.value? : Choice → Option String
  | output .pretty => some "pretty"
  | output .json => some "json"
  | configDir path => some path
  | items count | capacity count | timeoutMs count | producers count | consumers count =>
    some (decimal count.toNat)
  | verbose | pin | schema => none

/-- What stands behind a dash for an option with a letter, and the words after it. -/
inductive Letters (choice : Choice) : List Char → List String → Prop
  | flag {letter : Char} (plain : choice.value? = none)
    (short : choice.param.short? = some letter) : Letters choice [letter] []
  | joined {letter : Char} {value : String} (given : choice.value? = some value)
    (short : choice.param.short? = some letter) : Letters choice (letter :: value.toList) []
  | equals {letter : Char} {value : String} (given : choice.value? = some value)
    (short : choice.param.short? = some letter) : Letters choice (letter :: '=' :: value.toList) []
  | apart {letter : Char} {value : String} (given : choice.value? = some value)
    (short : choice.param.short? = some letter) (shown : value.toList.head? ≠ some '-') :
    Letters choice [letter] [value]

/-- The words for an option. A value in a word of its own does not begin with a dash. -/
inductive Spelling (choice : Choice) : List String → Prop
  | flag (plain : choice.value? = none) : Spelling choice ["--" ++ choice.param.long]
  | joined {value : String} (given : choice.value? = some value) :
    Spelling choice ["--" ++ choice.param.long ++ "=" ++ value]
  | apart {value : String} (given : choice.value? = some value)
    (shown : value.toList.head? ≠ some '-') : Spelling choice ["--" ++ choice.param.long, value]
  | short {letters : List Char} {words : List String} (spelled : Letters choice letters words) :
    Spelling choice (.ofList ('-' :: letters) :: words)

/-- The words for options in their order. The letter of a flag may share the dash of the option
after it. -/
inductive Spelled : List Choice → List String → Prop
  | nil : Spelled [] []
  | cons {choice : Choice} {choices : List Choice} {words more : List String}
    (first : Spelling choice words) (rest : Spelled choices more) :
    Spelled (choice :: choices) (words ++ more)
  | cluster {choice next : Choice} {choices : List Choice} {letter : Char} {letters : List Char}
    {words more : List String} (plain : choice.value? = none)
    (short : choice.param.short? = some letter) (second : Letters next letters words)
    (rest : Spelled choices more) :
    Spelled (choice :: next :: choices) (.ofList ('-' :: letter :: letters) :: (words ++ more))

/-! ### One word -/

variable {choice next : Choice} {letter : Char} {letters : List Char} {value : String}
variable {choices : List Choice} {words more : List String}

theorem Scope.long?_long (scope : Scope) :
    ∀ param ∈ scope.params, scope.long? param.long.toList = some param := by
  cases scope with
  | top => decide
  | after verb => cases verb <;> decide

theorem Scope.short?_eq_some (scope : Scope) : ∀ param ∈ scope.params, ∀ letter,
    param.short? = some letter → scope.short? letter = some param := by
  cases scope with
  | top => simp [params, globalParams, Param.short?, short?]
  | after verb =>
    cases verb <;> simp [params, globalParams, runParams, Param.short?, short?]

theorem Param.equals_notMem_long (param : Param) : '=' ∉ param.long.toList := by
  cases param <;> decide

theorem Param.long_ne_nil (param : Param) : param.long.toList ≠ [] := by
  cases param <;> decide

theorem Choice.takesValue_param (choice : Choice) :
    choice.param.takesValue = choice.value?.isSome := by
  rcases choice with ⟨_ | _⟩ | _ | _ | _ | _ | _ | _ | _ | _ | _ <;> rfl

theorem Choice.stand_param (plain : choice.value? = none) : choice.param.stand = .ok choice := by
  rcases choice with ⟨_ | _⟩ | _ | _ | _ | _ | _ | _ | _ | _ | _ <;>
    first | rfl | cases plain

theorem Param.readNumber_decimal (count : UInt64) :
    readNumber (decimal count.toNat) = .ok count := by
  have small := count.toNat_lt
  have read : unsigned? (digits count.toNat) = some count.toNat := by
    obtain ⟨first, rest, shape, -⟩ := digits_eq_cons count.toNat
    have plus : first ≠ '+' := ne_of_mem_digits (shape ▸ List.mem_cons_self) rfl
    have value := ofDigits?_digits count.toNat
    rw [shape] at value ⊢
    simp [unsigned?, plus, value, small]
  simp [readNumber, decimal, read]

/-- A directory has to have a name; nothing else is asked of a value. -/
def Choice.Usable (choice : Choice) : Prop := choice ≠ .configDir ""

theorem Choice.read_param (usable : choice.Usable) (given : choice.value? = some value) :
    choice.param.read value = .ok choice := by
  cases choice with
  | output format => cases format <;> obtain rfl := Option.some.inj given <;> rfl
  | configDir path =>
    obtain rfl := Option.some.inj given
    have named : path ≠ "" := fun same => usable (congrArg configDir same)
    simp [param, Param.read, Param.readPath, named, Except.map]
  | items count | capacity count | timeoutMs count | producers count | consumers count =>
    obtain rfl := Option.some.inj given
    simp [param, Param.read, Param.readNumber_decimal, Except.map]
  | verbose | pin | schema => cases given

/-- Options with a letter have values that can follow it at once. -/
theorem Choice.value?_eq_cons (given : choice.value? = some value)
    (short : choice.param.short? = some letter) : ∃ c rest, value.toList = c :: rest ∧ c ≠ '=' := by
  have number (count : UInt64) (same : decimal count.toNat = value) :
      ∃ c rest, value.toList = c :: rest ∧ c ≠ '=' := by
    obtain ⟨first, rest, shape, -⟩ := digits_eq_cons count.toNat
    refine ⟨first, rest, ?_, ne_of_mem_digits (shape ▸ List.mem_cons_self) rfl⟩
    rw [← same, decimal, String.toList_ofList, shape]
  cases choice with
  | output format =>
    cases format with
    | pretty => exact ⟨'p', _, by rw [← Option.some.inj given]; rfl, by decide⟩
    | json => exact ⟨'j', _, by rw [← Option.some.inj given]; rfl, by decide⟩
  | items count | producers count | consumers count => exact number count (Option.some.inj given)
  | configDir path => cases short
  | capacity count | timeoutMs count => cases short
  | verbose | pin | schema => cases given

/-! ### Reading on -/

variable {scope : Scope} {reading after : Reading} {chosen : List Choice} {param : Param}

/-- What has been read comes to `chosen`, once a value that was put off is looked at. -/
structure Reading.Amounts (reading : Reading) (chosen : List Choice) : Prop where
  settled : reading.settle = .ok { chosen }
  complete : reading.awaits = false

namespace Reading.Amounts

theorem start : ({} : Reading).Amounts [] := ⟨rfl, rfl⟩

theorem of_chosen (chosen : List Choice) : ({ chosen } : Reading).Amounts chosen := ⟨rfl, rfl⟩

end Reading.Amounts

/-- An option that can be read next: it is known, usable and not there yet. -/
structure Choice.Fits (choice : Choice) (scope : Scope) (chosen : List Choice) : Prop where
  known : choice.param ∈ scope.params
  usable : choice.Usable
  fresh : ∀ other ∈ chosen, other.param ≠ choice.param

namespace Reading

theorem add_of_fits (fits : choice.Fits scope chosen) :
    ({ chosen } : Reading).add choice.param (.ok choice) =
      .ok { chosen := chosen ++ [choice] } := by
  have absent : ({ chosen } : Reading).has choice.param = false := by
    simpa [has] using fits.fresh
  simp [add, absent, Except.map]

theorem give_eq (amounts : reading.Amounts chosen) (fits : choice.Fits scope chosen)
    (given : choice.value? = some value) :
    reading.give choice.param value = .ok { chosen := chosen ++ [choice] } := by
  simp only [give, amounts.settled, choice.read_param fits.usable given, bind, Except.bind]
  exact add_of_fits fits

theorem stand_eq (amounts : reading.Amounts chosen) (fits : choice.Fits scope chosen)
    (plain : choice.value? = none) :
    reading.stand choice.param = .ok { chosen := chosen ++ [choice] } := by
  simp only [stand, amounts.settled, choice.stand_param plain, bind, Except.bind]
  exact add_of_fits fits

theorem await_eq (amounts : reading.Amounts chosen) (param : Param) :
    reading.await param = .ok { chosen, pending := some (param, none) } := by
  simp only [await, amounts.settled, bind, Except.bind]
  rfl

theorem amounts_of_pending (fits : choice.Fits scope chosen) (given : choice.value? = some value) :
    ({ chosen, pending := some (choice.param, some value) } : Reading).Amounts
      (chosen ++ [choice]) := by
  refine ⟨?_, rfl⟩
  simp only [settle, choice.read_param fits.usable given]
  exact add_of_fits fits

/-- What follows two dashes, without a value. -/
theorem long_bare (known : param ∈ scope.params) :
    reading.long scope param.long.toList =
      if param.takesValue then reading.await param else reading.stand param := by
  have all : ∀ c ∈ param.long.toList, (decide (c ≠ '=')) = true := fun c member => by
    simpa using fun same : c = '=' => param.equals_notMem_long (same ▸ member)
  have front := List.takeWhile_eq_self_iff.mpr all
  have back := List.dropWhile_eq_nil_iff.mpr all
  rw [long, front, back, scope.long?_long param known]

theorem long_equals (known : param ∈ scope.params) (takes : param.takesValue = true)
    (value : List Char) :
    reading.long scope (param.long.toList ++ '=' :: value) =
      reading.give param (.ofList value) := by
  have all : ∀ c ∈ param.long.toList, (decide (c ≠ '=')) = true := fun c member => by
    simpa using fun same : c = '=' => param.equals_notMem_long (same ▸ member)
  have front : (param.long.toList ++ '=' :: value).takeWhile (· ≠ '=') = param.long.toList := by
    rw [List.takeWhile_append_of_pos all]
    simp
  have back : (param.long.toList ++ '=' :: value).dropWhile (· ≠ '=') = '=' :: value := by
    rw [List.dropWhile_append_of_pos all]
    simp
  rw [long, front, back, scope.long?_long param known]
  simp [takes]

end Reading

theorem Scope.entry?_of_dash {word : String} {text : List Char} (dash : word.toList = '-' :: text) :
    scope.entry? word = none := by
  have other (c : Char) (rest : List Char) (differs : c ≠ '-') : word ≠ .ofList (c :: rest) := by
    intro same
    rw [same, String.toList_ofList] at dash
    exact differs (List.cons.inj dash).1
  cases scope with
  | top =>
    rw [ entry?, if_neg (other 's' _ (by decide)), if_neg (other 'm' _ (by decide)),
      if_neg (other 'c' _ (by decide)), if_neg (other 'h' _ (by decide))]
  | after verb => rfl

theorem readWords_dash {word : String} {text : List Char} (dash : word.toList = '-' :: text)
    (more : text ≠ ['-']) (read : reading.step scope word = .ok after) (rest : List String) :
    readWords scope reading (word :: rest) = readWords scope after rest := by
  have goes : word ≠ "--" := fun same => by
    rw [same] at dash
    exact more (List.cons.inj dash).2.symm
  rw [readWords.eq_def]
  simp only [scope.entry?_of_dash dash, ite_self, goes, if_false, read]

theorem readWords_value (shown : value.toList.head? ≠ some '-') (rest : List String) :
    readWords scope { chosen, pending := some (param, none) } (value :: rest) =
      readWords scope { chosen, pending := some (param, some value) } rest := by
  have goes : value ≠ "--" := fun same => shown (by rw [same]; rfl)
  have step : ({ chosen, pending := some (param, none) } : Reading).step scope value =
      .ok { chosen, pending := some (param, some value) } := by
    unfold Reading.step
    split
    · rename_i shape
      exact absurd (congrArg List.head? shape) shown
    · rename_i shape
      exact absurd (congrArg List.head? shape) shown
    · rfl
  rw [readWords.eq_def]
  simp only [Reading.awaits, if_true, goes, if_false, step]

/-- A flag leaves the letters behind it to the same dash. -/
theorem Reading.cluster_flag (plain : choice.value? = none)
    (short : choice.param.short? = some letter) (amounts : reading.Amounts chosen)
    (fits : choice.Fits scope chosen) (rest : List Char) :
    reading.cluster scope (letter :: rest) =
      cluster scope { chosen := chosen ++ [choice] } rest := by
  have takes := choice.takesValue_param
  rw [plain] at takes
  simp [cluster, scope.short?_eq_some _ fits.known _ short, takes, stand_eq amounts fits plain]

theorem Letters.read (spelled : Letters choice letters words) (amounts : reading.Amounts chosen)
    (fits : choice.Fits scope chosen) : ∃ middle after,
      reading.cluster scope letters = .ok middle ∧ after.Amounts (chosen ++ [choice]) ∧
      ∀ rest, readWords scope middle (words ++ rest) = readWords scope after rest := by
  have takes := choice.takesValue_param
  have known {letter : Char} := scope.short?_eq_some _ fits.known letter
  cases spelled with
  | flag plain short =>
    exact ⟨_, _, Reading.cluster_flag plain short amounts fits [], .of_chosen _, fun rest => rfl⟩
  | @joined letter value given short =>
    rw [given] at takes
    obtain ⟨c, rest, shape, differs⟩ := choice.value?_eq_cons given short
    have whole : String.ofList (c :: rest) = value := by rw [← shape, String.ofList_toList]
    refine ⟨_, _, ?_, .of_chosen _, fun rest => rfl⟩
    rw [shape]
    simp [Reading.cluster, known short, takes, differs, whole, Reading.give_eq amounts fits given]
  | equals given short =>
    rw [given] at takes
    refine ⟨_, _, ?_, .of_chosen _, fun rest => rfl⟩
    simp [Reading.cluster, known short, takes, Reading.give_eq amounts fits given]
  | apart given short shown =>
    rw [given] at takes
    refine ⟨_, _, ?_, Reading.amounts_of_pending fits given, fun rest => readWords_value shown rest⟩
    simp [Reading.cluster, known short, takes, Reading.await_eq amounts]

/-- The letters of an option do not begin with a dash. -/
theorem Letters.eq_cons (spelled : Letters choice letters words) :
    ∃ letter rest, letters = letter :: rest ∧ letter ≠ '-' := by
  have other {letter : Char} (short : choice.param.short? = some letter) : letter ≠ '-' := by
    rintro rfl
    revert short
    cases choice.param <;> decide
  cases spelled with
  | flag plain short => exact ⟨_, _, rfl, other short⟩
  | joined given short => exact ⟨_, _, rfl, other short⟩
  | equals given short => exact ⟨_, _, rfl, other short⟩
  | apart given short shown => exact ⟨_, _, rfl, other short⟩

theorem readWords_cluster {middle : Reading} (start : letter ≠ '-')
    (read : reading.cluster scope (letter :: letters) = .ok middle) (rest : List String) :
    readWords scope reading (.ofList ('-' :: letter :: letters) :: rest) =
      readWords scope middle rest := by
  refine readWords_dash String.toList_ofList (by simp [start]) ?_ rest
  unfold Reading.step
  simp [read]

theorem readWords_long (text : List Char) {middle : Reading} {word : String}
    (dashes : word.toList = '-' :: '-' :: text) (named : text ≠ [])
    (read : reading.long scope text = .ok middle) (rest : List String) :
    readWords scope reading (word :: rest) = readWords scope middle rest := by
  refine readWords_dash dashes (by simp [named]) ?_ rest
  unfold Reading.step
  simp [dashes, read]

theorem Spelling.read (spelled : Spelling choice words) (amounts : reading.Amounts chosen)
    (fits : choice.Fits scope chosen) : ∃ after : Reading, after.Amounts (chosen ++ [choice]) ∧
      ∀ rest, readWords scope reading (words ++ rest) = readWords scope after rest := by
  have takes := choice.takesValue_param
  have named := choice.param.long_ne_nil
  cases spelled with
  | flag plain =>
    rw [plain] at takes
    refine ⟨_, .of_chosen _, readWords_long _ (by simp) named ?_⟩
    rw [Reading.long_bare fits.known, takes]
    exact Reading.stand_eq amounts fits plain
  | @joined value given =>
    rw [given] at takes
    refine ⟨_, .of_chosen _, readWords_long (choice.param.long.toList ++ '=' :: value.toList)
      (by simp) (by simp) ?_⟩
    rw [Reading.long_equals fits.known takes, String.ofList_toList]
    exact Reading.give_eq amounts fits given
  | @apart value given shown =>
    rw [given] at takes
    have name : reading.long scope choice.param.long.toList =
        .ok { chosen, pending := some (choice.param, none) } := by
      rw [Reading.long_bare fits.known, takes]
      exact Reading.await_eq amounts _
    refine ⟨_, Reading.amounts_of_pending fits given, fun rest => ?_⟩
    exact (readWords_long _ (by simp) named name (value :: rest)).trans (readWords_value shown rest)
  | @short letters words letters_spelled =>
    obtain ⟨letter, others, rfl, start⟩ := letters_spelled.eq_cons
    obtain ⟨middle, after, read, done, on⟩ := letters_spelled.read amounts fits
    exact ⟨after, done, fun rest => (readWords_cluster start read (words ++ rest)).trans (on rest)⟩

/-! ### Many words -/

/-- Options that can be read one after the other. -/
structure FitAll (choices : List Choice) (scope : Scope) (chosen : List Choice) : Prop where
  known : ∀ choice ∈ choices, choice.param ∈ scope.params
  usable : ∀ choice ∈ choices, choice.Usable
  fresh : ((chosen ++ choices).map Choice.param).Nodup

namespace FitAll

theorem head (fits : FitAll (choice :: choices) scope chosen) : choice.Fits scope chosen where
  known := fits.known choice List.mem_cons_self
  usable := fits.usable choice List.mem_cons_self
  fresh := by
    intro other member same
    have apart := fits.fresh
    rw [List.map_append, List.map_cons] at apart
    exact (List.nodup_append.mp apart).2.2 _ (List.mem_map_of_mem member) _ List.mem_cons_self same

theorem tail (fits : FitAll (choice :: choices) scope chosen) :
    FitAll choices scope (chosen ++ [choice]) where
  known other member := fits.known other (List.mem_cons_of_mem _ member)
  usable other member := fits.usable other (List.mem_cons_of_mem _ member)
  fresh := by
    rw [List.append_assoc, List.singleton_append]
    exact fits.fresh

end FitAll

theorem Spelled.read (spelled : Spelled choices words) (amounts : reading.Amounts chosen)
    (fits : FitAll choices scope chosen) : ∃ after : Reading, after.Amounts (chosen ++ choices) ∧
      ∀ rest, readWords scope reading (words ++ rest) = readWords scope after rest := by
  induction spelled generalizing reading chosen with
  | nil => exact ⟨reading, by rwa [List.append_nil], fun rest => rfl⟩
  | cons first _ ih =>
    obtain ⟨middle, reached, onward⟩ := first.read amounts fits.head
    obtain ⟨after, done, on⟩ := ih reached fits.tail
    refine ⟨after, by rwa [List.append_assoc] at done, fun rest => ?_⟩
    rw [List.append_assoc, onward, on]
  | @cluster choice next choices letter letters words more plain short second _ ih =>
    have start : letter ≠ '-' := by
      obtain ⟨_, _, same, start⟩ := (Letters.flag plain short).eq_cons
      rwa [(List.cons.inj same).1]
    obtain ⟨middle, reached, read, done, on⟩ := second.read (.of_chosen _) fits.tail.head
    obtain ⟨after, finished, onward⟩ := ih done fits.tail.tail
    refine ⟨after, by simpa using finished, fun rest => ?_⟩
    have both := Reading.cluster_flag plain short amounts fits.head letters
    rw [List.cons_append, List.append_assoc, readWords_cluster start (both.trans read), on, onward]

end RingQueue.CommandLine
