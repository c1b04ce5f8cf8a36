import RingQueue.Proofs.Stress.ReportText

/-! Reports read back from their text. Numbers end where something else begins and the labels of the
checks begin no other line, so what a line says and which lines there are can be told from the text,
also from a painted one. Main result: such a text is faithful to its report, the two measured times
apart. -/
namespace RingQueue.Report

open RingQueue.Number RingQueue.Text

variable {report other : Report}

/-! ### Lines that are always there -/

theorem eq_of_dimensions_eq (same : report.dimensions = other.dimensions) :
    report.capacity = other.capacity ∧ report.producers = other.producers ∧
      report.consumers = other.consumers := by
  have same := congrArg String.toList same
  unfold dimensions at same
  simp only [String.toList_append] at same
  obtain ⟨capacity, same⟩ := decimal_append_inj (stops_append (by decide) _)
    (stops_append (by decide) _) (List.append_cancel_left same)
  obtain ⟨producers, same⟩ := decimal_append_inj (stops_append (by decide) _)
    (stops_append (by decide) _) (List.append_cancel_left same)
  have consumers := decimal_inj (List.append_cancel_left same)
  exact ⟨UInt64.toNat_inj.mp capacity, UInt64.toNat_inj.mp producers, UInt64.toNat_inj.mp consumers⟩

/-- The titles differ in their first character. -/
theorem eq_of_title_begins {one two : Scenario}
    (same : one.title.toList.head? = two.title.toList.head?) : one = two := by
  cases one with
  | spsc =>
    cases two with
    | spsc => rfl
    | mpmc => exact absurd same (by decide)
  | mpmc =>
    cases two with
    | spsc => exact absurd same (by decide)
    | mpmc => rfl

theorem eq_of_heading_eq (same : report.heading false = other.heading false) :
    report.scenario = other.scenario ∧ report.dimensions = other.dimensions := by
  have same := congrArg String.toList same
  unfold heading at same
  simp only [Paint.apply, Bool.false_eq_true, if_false, String.toList_append] at same
  have title (scenario : Scenario) (rest : List Char) :
      (scenario.title.toList ++ rest).head? = scenario.title.toList.head? := by
    cases scenario <;> rfl
  have begins := congrArg List.head? same
  rw [title, title] at begins
  have scenario := eq_of_title_begins begins
  rw [scenario] at same
  exact ⟨scenario, String.toList_inj.mp (List.append_cancel_left same)⟩

theorem eq_of_itemsLine_eq (same : report.itemsLine = other.itemsLine) :
    report.itemsSent = other.itemsSent ∧ report.itemsReceived = other.itemsReceived := by
  have same := congrArg String.toList same
  unfold itemsLine at same
  simp only [String.toList_append, List.append_assoc] at same
  obtain ⟨sent, same⟩ := decimal_append_inj (stops_append (by decide) _)
    (stops_append (by decide) _) (List.append_cancel_left same)
  obtain ⟨received, -⟩ := decimal_append_inj (by decide) (by decide) (List.append_cancel_left same)
  exact ⟨UInt64.toNat_inj.mp sent, UInt64.toNat_inj.mp received⟩

/-! ### Lines that may be missing -/

/-- No check with this label is written next. -/
def Fresh (label : String) (rest : List String) : Prop :=
  ∀ line ∈ rest.head?, ¬ label.toList <+: line.toList

section Label

variable {label label' : String} (width : label.toList.length = label'.toList.length)
  (differ : label ≠ label')
include width differ

theorem fresh_labelled (text : String) (rest : List String) : Fresh label ((label' ++ text) :: rest) := by
  intro line first begins
  cases first
  rw [String.toList_append] at begins
  have within := List.prefix_of_prefix_length_le begins (List.prefix_append ..) (Nat.le_of_eq width)
  exact differ (String.toList_inj.mp (within.eq_of_length width))

theorem fresh_optionalLine (check : Option Bool) {rest : List String} (fresh : Fresh label rest) :
    Fresh label (optionalLine label' false check ++ rest) := by
  cases check with
  | none => exact fresh
  | some ok => exact fresh_labelled width differ _ rest

end Label

theorem checkText_injective :
    ∀ {ok ok' : Bool}, checkText false ok = checkText false ok' → ok = ok' := by
  decide

theorem eq_of_labelled_eq {label : String} {ok ok' : Bool}
    (same : label ++ checkText false ok = label ++ checkText false ok') : ok = ok' := by
  have same := congrArg String.toList same
  rw [String.toList_append, String.toList_append] at same
  exact checkText_injective (String.toList_inj.mp (List.append_cancel_left same))

/-- Whether a check was made is seen by its label, and how it went by the text after it. -/
theorem optionalLine_append_inj {label : String} {check check' : Option Bool}
    {rest rest' : List String} (fresh : Fresh label rest) (fresh' : Fresh label rest')
    (same : optionalLine label false check ++ rest = optionalLine label false check' ++ rest') :
    check = check' ∧ rest = rest' := by
  have begins (ok : Bool) : label.toList <+: (label ++ checkText false ok).toList := by
    rw [String.toList_append]
    exact List.prefix_append ..
  cases check with
  | none =>
    cases check' with
    | none => exact ⟨rfl, same⟩
    | some ok => exact absurd (begins ok) (fresh _ (congrArg List.head? same))
  | some ok =>
    cases check' with
    | none => exact absurd (begins ok) (fresh' _ (congrArg List.head? same).symm)
    | some ok' =>
      obtain ⟨line, others⟩ := List.cons_eq_cons.mp same
      exact ⟨congrArg some (eq_of_labelled_eq line), others⟩

theorem eq_of_checks_eq (same : report.checks false = other.checks false) :
    report.fifo = other.fifo ∧ report.producerOrder = other.producerOrder ∧
      report.exactlyOnce = other.exactlyOnce ∧ report.timedOut = other.timedOut := by
  -- the labels all have one width, so it is enough that they differ
  have once {label : String} (width : label.toList.length = 18) (differ : label ≠ "  exactly once  : ")
      (text : String) (rest : List String) : Fresh label (("  exactly once  : " ++ text) :: rest) :=
    fresh_labelled width differ text rest
  rw [checks, checks] at same
  obtain ⟨fifo, same⟩ := optionalLine_append_inj
    (fresh_optionalLine (by decide) (by decide) _ (once (by decide) (by decide) _ _))
    (fresh_optionalLine (by decide) (by decide) _ (once (by decide) (by decide) _ _)) same
  obtain ⟨order, same⟩ := optionalLine_append_inj (once (by decide) (by decide) _ _)
    (once (by decide) (by decide) _ _) same
  obtain ⟨line, ending⟩ := List.cons_eq_cons.mp same
  have size := congrArg List.length ending
  have deadline : report.timedOut = other.timedOut := by
    cases late : report.timedOut <;> cases late' : other.timedOut <;> simp [late, late'] at size ⊢
  exact ⟨fifo, order, eq_of_labelled_eq line, deadline⟩

theorem eq_of_pretty_eq {colours : Bool} (same : report.pretty colours = other.pretty colours) :
    other = { report with elapsedMs := other.elapsedMs, throughput := other.throughput } := by
  have plain : (report.pretty false).toList = (other.pretty false).toList := by
    rw [← shown_pretty colours, same, shown_pretty]
  have lines : report.lines false = other.lines false :=
    ofLines_inj (fun _ => line_feed_not_mem) (fun _ => line_feed_not_mem) (String.toList_inj.mp plain)
  rw [lines_eq, lines_eq] at lines
  obtain ⟨heading, lines⟩ := List.cons_eq_cons.mp lines
  obtain ⟨items, lines⟩ := List.cons_eq_cons.mp lines
  obtain ⟨-, checks⟩ := List.cons_eq_cons.mp lines
  obtain ⟨scenario, dimensions⟩ := eq_of_heading_eq heading
  obtain ⟨capacity, producers, consumers⟩ := eq_of_dimensions_eq dimensions
  obtain ⟨sent, received⟩ := eq_of_itemsLine_eq items
  obtain ⟨fifo, order, once, late⟩ := eq_of_checks_eq checks
  rw [scenario, capacity, producers, consumers, sent, received, fifo, order, once, late]

/-- The text of a report is faithful. Painted it shows the same as unpainted; its last line is the
verdict, and a line tells of a failure just if that is one; and two reports with one text differ in
their measured times at most. -/
theorem pretty_faithful (report : Report) :
    shown (report.pretty true).toList = (report.pretty false).toList ∧
    (Text.lines (report.pretty false).toList).getLast? =
      some (if report.passed then "PASS" else "FAIL").toList ∧
    ((∃ line ∈ Text.lines (report.pretty false).toList,
      "FAILED".toList <:+: line ∨ "deadline expired".toList <:+: line) ↔ report.passed = false) ∧
    ∀ (other : Report) (colours : Bool), report.pretty colours = other.pretty colours →
      other = { report with elapsedMs := other.elapsedMs, throughput := other.throughput } := by
  refine ⟨shown_pretty true report, ?_, ?_, fun _ _ => eq_of_pretty_eq⟩
  · rw [lines_pretty, List.getLast?_map, getLast?_lines]
    cases report.passed <;> rfl
  · rw [lines_pretty, ← exists_alarming_iff]
    simp only [List.mem_map, exists_exists_and_eq_and, Alarming]

/-- A late run of which a check failed, with no times to speak of, and one that passed. -/
theorem pretty_faithful_of_late_report :
    let late : Report := {
      scenario := .mpmc, capacity := 4, producers := 2, consumers := 1, itemsSent := 8,
      itemsReceived := 5, elapsedMs := .nan, throughput := .infinite true, fifo := none,
      producerOrder := some true, exactlyOnce := false, timedOut := true }
    let passed : Report := { late with itemsReceived := 8, exactlyOnce := true, timedOut := false }
    (Text.lines (late.pretty false).toList).getLast? = some "FAIL".toList ∧
    (Text.lines (passed.pretty false).toList).getLast? = some "PASS".toList ∧
    late.pretty true ≠ passed.pretty true := by
  intro late passed
  obtain ⟨-, failure, -, apart⟩ := pretty_faithful late
  obtain ⟨-, success, -, -⟩ := pretty_faithful passed
  refine ⟨failure, success, fun same => ?_⟩
  exact absurd (congrArg Report.timedOut (apart passed true same)) (by decide)

end RingQueue.Report
