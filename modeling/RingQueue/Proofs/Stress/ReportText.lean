import Mathlib.Data.List.Infix
import RingQueue.Proofs.Number.Format
import RingQueue.Proofs.Text.Shown
import RingQueue.Stress.ReportText

/-! The text of a report for readers. Its colours change nothing of what is shown, and its lines tell
of a failure exactly when the verdict at their end does. -/
namespace RingQueue

open RingQueue.Number RingQueue.Text

theorem Paint.shows_apply (paint : Paint) (colours : Bool) {text : String}
    (plain : '\x1b' ∉ text.toList) : Shows (paint.apply colours text).toList text.toList := by
  have begun (rest : List Char) : shown (("\x1b[" ++ paint.code ++ "m").toList ++ rest) = shown rest := by
    cases paint <;> rfl
  have reset (rest : List Char) : shown ("\x1b[0m".toList ++ rest) = shown rest := rfl
  cases colours with
  | false => exact shows_self plain
  | true =>
    intro rest
    rw [Paint.apply, if_pos rfl, String.toList_append, String.toList_append, List.append_assoc,
      List.append_assoc, begun, shows_self plain, reset]

namespace Report

variable {report other : Report}

/-! ### The lines -/

/-- What the first line says behind the title. -/
def dimensions (report : Report) : String :=
  "  capacity=" ++ (decimal report.capacity.toNat ++
    (" producers=" ++ (decimal report.producers.toNat ++
      (" consumers=" ++ decimal report.consumers.toNat))))

def heading (colours : Bool) (report : Report) : String :=
  Paint.bold.apply colours report.scenario.title ++ report.dimensions

def itemsLine (report : Report) : String :=
  "  items         : " ++ decimal report.itemsSent.toNat ++ " sent / " ++
    decimal report.itemsReceived.toNat ++ " received"

def timesLine (report : Report) : String :=
  "  elapsed       : " ++ report.elapsedMs.fixedText 2 ++ " ms (" ++
    report.throughput.fixedText 0 ++ " items/s)"

/-- The lines of the checks, the deadline and the verdict. -/
def checks (colours : Bool) (report : Report) : List String :=
  optionalLine "  fifo          : " colours report.fifo ++
  (optionalLine "  producer order: " colours report.producerOrder ++
  (("  exactly once  : " ++ checkText colours report.exactlyOnce) ::
  ((if report.timedOut then ["  " ++ Paint.red.apply colours "deadline expired"] else []) ++
  [statusText colours report.passed])))

theorem lines_eq (colours : Bool) (report : Report) : report.lines colours =
    report.heading colours :: report.itemsLine :: report.timesLine :: report.checks colours := by
  unfold lines heading dimensions itemsLine timesLine checks
  simp only [String.append_assoc, List.append_assoc, List.cons_append, List.nil_append]

theorem pretty_eq (colours : Bool) (report : Report) :
    report.pretty colours = ofLines (report.lines colours) := rfl

/-! ### Characters of the lines -/

/-- The characters of the first three lines that are no digits. -/
def legend : List Char :=
  "SPMC circular queue capacity= producers= consumers=".toList ++
    "items : sent / received elapsed ms (items/s)".toList ++ fixedMarks

/-- A text of digits and characters of the legend. -/
def Legible (text : String) : Prop := ∀ c ∈ text.toList, isDigit 10 c = true ∨ c ∈ legend

-- by the text's own characters: the instance for all that there are does not reduce
instance (text : String) : Decidable (Legible text) := List.decidableBAll _ text.toList

theorem Legible.append {front back : String} (first : Legible front) (second : Legible back) :
    Legible (front ++ back) := by
  intro c member
  rw [String.toList_append] at member
  exact (List.mem_append.mp member).elim (first c) (second c)

theorem legible_decimal (n : Nat) : Legible (decimal n) := fun _ member => .inl (mem_decimal member)

theorem legible_fixedText (places : Nat) (x : Binary64) : Legible (x.fixedText places) :=
  fun _ member => (mem_fixedText member).imp_right (List.mem_append_right _)

theorem Legible.not_mem {text : String} (legible : Legible text) {c : Char}
    (figure : isDigit 10 c = false) (absent : c ∉ legend) : c ∉ text.toList := by
  intro member
  rcases legible c member with digit | known
  · cases digit.symm.trans figure
  · exact absent known

theorem Legible.escape_not_mem {text : String} (legible : Legible text) : '\x1b' ∉ text.toList :=
  legible.not_mem (by decide) (by decide)

theorem Legible.line_feed_not_mem {text : String} (legible : Legible text) : '\n' ∉ text.toList :=
  legible.not_mem (by decide) (by decide)

theorem legible_title (scenario : Scenario) : Legible scenario.title := by
  cases scenario <;> decide

theorem legible_dimensions (report : Report) : Legible report.dimensions := by
  have capacity : Legible "  capacity=" := by decide
  have producers : Legible " producers=" := by decide
  have consumers : Legible " consumers=" := by decide
  exact capacity.append ((legible_decimal _).append (producers.append
    ((legible_decimal _).append (consumers.append (legible_decimal _)))))

theorem legible_heading (report : Report) : Legible (report.heading false) :=
  (legible_title report.scenario).append (legible_dimensions report)

theorem legible_itemsLine (report : Report) : Legible report.itemsLine := by
  have items : Legible "  items         : " := by decide
  have sent : Legible " sent / " := by decide
  have received : Legible " received" := by decide
  exact (((items.append (legible_decimal _)).append sent).append (legible_decimal _)).append received

theorem legible_timesLine (report : Report) : Legible report.timesLine := by
  have elapsed : Legible "  elapsed       : " := by decide
  have ms : Legible " ms (" := by decide
  have rate : Legible " items/s)" := by decide
  exact (((elapsed.append (legible_fixedText _ _)).append ms).append (legible_fixedText _ _)).append rate

/-! ### Colours -/

theorem Legible.shows {text : String} (legible : Legible text) : Shows text.toList text.toList :=
  shows_self legible.escape_not_mem

theorem shows_heading (colours : Bool) (report : Report) :
    Shows (report.heading colours).toList (report.heading false).toList := by
  have title := Paint.bold.shows_apply colours (legible_title report.scenario).escape_not_mem
  rw [heading, heading, String.toList_append, String.toList_append]
  exact title.append (legible_dimensions report).shows

theorem shows_checkText (colours ok : Bool) :
    Shows (checkText colours ok).toList (checkText false ok).toList := by
  cases ok with
  | false => exact Paint.boldRed.shows_apply colours (by decide)
  | true => exact Paint.green.shows_apply colours (by decide)

theorem shows_statusText (colours passed : Bool) :
    Shows (statusText colours passed).toList (statusText false passed).toList := by
  cases passed with
  | false => exact Paint.boldRed.shows_apply colours (by decide)
  | true => exact Paint.boldGreen.shows_apply colours (by decide)

/-- Lines of a text and what is shown of them. -/
def ShowLines (texts plains : List String) : Prop :=
  List.Forall₂ (fun text plain => Shows text.toList plain.toList) texts plains

theorem shows_labelled {label : String} (plain : '\x1b' ∉ label.toList) (colours ok : Bool) :
    Shows (label ++ checkText colours ok).toList (label ++ checkText false ok).toList := by
  rw [String.toList_append, String.toList_append]
  exact (shows_self plain).append (shows_checkText colours ok)

theorem showLines_optionalLine {label : String} (plain : '\x1b' ∉ label.toList) (colours : Bool)
    (check : Option Bool) :
    ShowLines (optionalLine label colours check) (optionalLine label false check) := by
  cases check with
  | none => exact .nil
  | some ok => exact .cons (shows_labelled plain colours ok) .nil

theorem showLines_checks (colours : Bool) (report : Report) :
    ShowLines (report.checks colours) (report.checks false) := by
  refine List.rel_append (showLines_optionalLine (by decide) colours _) ?_
  refine List.rel_append (showLines_optionalLine (by decide) colours _) ?_
  refine .cons (shows_labelled (by decide) colours _) ?_
  refine List.rel_append ?_ (.cons (shows_statusText colours _) .nil)
  split
  · refine .cons ?_ .nil
    rw [String.toList_append, String.toList_append]
    exact (shows_self (by decide)).append (Paint.red.shows_apply colours (by decide))
  · exact .nil

theorem shown_pretty (colours : Bool) (report : Report) :
    shown (report.pretty colours).toList = (report.pretty false).toList := by
  have shows : ShowLines (report.lines colours) (report.lines false) := by
    rw [lines_eq, lines_eq]
    exact .cons (shows_heading colours report) (.cons (legible_itemsLine report).shows
      (.cons (legible_timesLine report).shows (showLines_checks colours report)))
  rw [pretty_eq, pretty_eq, toList_ofLines, toList_ofLines]
  exact shown_ended (List.forall₂_map_left_iff.mpr (List.forall₂_map_right_iff.mpr shows))

/-! ### The verdict -/

/-- The lines after the first three, and when they are there. -/
theorem mem_checks {line : String} : line ∈ report.checks false ↔
    (∃ ok, report.fifo = some ok ∧ line = "  fifo          : " ++ checkText false ok) ∨
    (∃ ok, report.producerOrder = some ok ∧ line = "  producer order: " ++ checkText false ok) ∨
    line = "  exactly once  : " ++ checkText false report.exactlyOnce ∨
    (report.timedOut = true ∧ line = "  deadline expired") ∨
    line = statusText false report.passed := by
  have optional (label : String) (check : Option Bool) : line ∈ optionalLine label false check ↔
      ∃ ok, check = some ok ∧ line = label ++ checkText false ok := by
    cases check with
    | none => simp [optionalLine]
    | some ok => simp [optionalLine]
  have deadline : line ∈ (if report.timedOut then ["  " ++ Paint.red.apply false "deadline expired"]
      else []) ↔ report.timedOut = true ∧ line = "  deadline expired" := by
    split
    · rename_i late
      rw [List.mem_singleton]
      exact ⟨fun same => ⟨late, same⟩, And.right⟩
    · rename_i early
      exact ⟨nofun, fun late => absurd late.1 early⟩
  rw [checks, List.mem_append, List.mem_append, List.mem_cons, List.mem_append, optional, optional,
    deadline, List.mem_singleton]

theorem mem_lines_of_mem_checks {line : String} (member : line ∈ report.checks false) :
    line ∈ report.lines false := by
  rw [lines_eq]
  exact List.mem_cons_of_mem _ (List.mem_cons_of_mem _ (List.mem_cons_of_mem _ member))

theorem legible_or_mem_checks {line : String} (member : line ∈ report.lines false) :
    Legible line ∨ line ∈ report.checks false := by
  rw [lines_eq] at member
  rcases List.mem_cons.mp member with rfl | member
  · exact .inl (legible_heading report)
  rcases List.mem_cons.mp member with rfl | member
  · exact .inl (legible_itemsLine report)
  rcases List.mem_cons.mp member with rfl | member
  · exact .inl (legible_timesLine report)
  · exact .inr member

theorem line_feed_not_mem {line : String} (member : line ∈ report.lines false) :
    '\n' ∉ line.toList := by
  rcases legible_or_mem_checks member with legible | check
  · exact legible.line_feed_not_mem
  rcases mem_checks.mp check with ⟨ok, -, rfl⟩ | ⟨ok, -, rfl⟩ | rfl | ⟨-, rfl⟩ | rfl
  · cases ok <;> decide
  · cases ok <;> decide
  · cases report.exactlyOnce <;> decide
  · decide
  · cases report.passed <;> decide

theorem lines_pretty (report : Report) :
    Text.lines (report.pretty false).toList = (report.lines false).map String.toList :=
  lines_ofLines fun _ => line_feed_not_mem

theorem getLast?_lines (report : Report) :
    (report.lines false).getLast? = some (statusText false report.passed) := by
  rw [lines, List.getLast?_append]
  rfl

/-- A line that tells of a failure. -/
def Alarming (line : List Char) : Prop :=
  "FAILED".toList <:+: line ∨ "deadline expired".toList <:+: line

instance (line : List Char) : Decidable (Alarming line) :=
  inferInstanceAs (Decidable (_ ∨ _))

theorem Legible.not_alarming {text : String} (legible : Legible text) : ¬ Alarming text.toList := by
  rintro (failed | late)
  · have absent : 'F' ∉ text.toList := legible.not_mem (by decide) (by decide)
    exact absent (failed.subset (by decide))
  · have absent : 'x' ∉ text.toList := legible.not_mem (by decide) (by decide)
    exact absent (late.subset (by decide))

theorem passed_eq_false_iff : report.passed = false ↔ report.fifo = some false ∨
    report.producerOrder = some false ∨ report.exactlyOnce = false ∨ report.timedOut = true := by
  have refused (check : Option Bool) : check.getD true = false ↔ check = some false := by
    cases check <;> simp
  simp only [passed, Bool.and_eq_false_iff, Bool.not_eq_false', refused]
  tauto

theorem exists_alarming_iff (report : Report) :
    (∃ line ∈ report.lines false, Alarming line.toList) ↔ report.passed = false := by
  have fifo : ∀ ok, Alarming ("  fifo          : " ++ checkText false ok).toList ↔ ok = false := by
    decide
  have order : ∀ ok, Alarming ("  producer order: " ++ checkText false ok).toList ↔ ok = false := by
    decide
  have once : ∀ ok, Alarming ("  exactly once  : " ++ checkText false ok).toList ↔ ok = false := by
    decide
  have deadline : Alarming "  deadline expired".toList := by decide
  have status : ∀ passed, ¬ Alarming (statusText false passed).toList := by decide
  rw [passed_eq_false_iff]
  constructor
  · rintro ⟨line, member, alarming⟩
    rcases legible_or_mem_checks member with legible | check
    · exact absurd alarming legible.not_alarming
    rcases mem_checks.mp check with ⟨ok, made, rfl⟩ | ⟨ok, made, rfl⟩ | rfl | ⟨late, rfl⟩ | rfl
    · exact .inl (made.trans (congrArg some ((fifo ok).mp alarming)))
    · exact .inr (.inl (made.trans (congrArg some ((order ok).mp alarming))))
    · exact .inr (.inr (.inl ((once _).mp alarming)))
    · exact .inr (.inr (.inr late))
    · exact absurd alarming (status _)
  · intro failure
    suffices found : ∃ line ∈ report.checks false, Alarming line.toList by
      obtain ⟨line, check, alarming⟩ := found
      exact ⟨line, mem_lines_of_mem_checks check, alarming⟩
    rcases failure with failed | failed | failed | late
    · exact ⟨_, mem_checks.mpr (.inl ⟨false, failed, rfl⟩), (fifo false).mpr rfl⟩
    · exact ⟨_, mem_checks.mpr (.inr (.inl ⟨false, failed, rfl⟩)), (order false).mpr rfl⟩
    · exact ⟨_, mem_checks.mpr (.inr (.inr (.inl rfl))), (once _).mpr failed⟩
    · exact ⟨_, mem_checks.mpr (.inr (.inr (.inr (.inl ⟨late, rfl⟩)))), deadline⟩

end Report
end RingQueue
