import Mathlib.Data.List.TakeWhile
import Mathlib.Tactic.SplitIfs
import RingQueue.Toml.Quoted
import RingQueue.Toml.Writer

/-! A string that was written in any of the four notations is read back as it was. -/
namespace RingQueue.Toml

open RingQueue.Number

theorem isControl_eq (c : Char) : isControl c = (needsEscape c || decide (c = '\n')) := by
  by_cases lineEnd : c = '\n'
  · subst lineEnd
    rfl
  · simp [isControl, needsEscape, lineEnd]

/-! ### Escapes -/

/-- After a backslash, `text` stands for `c` and does not join lines. -/
structure StandsFor (text : List Char) (c : Char) : Prop where
  escape : ∀ rest, escape? (text ++ rest) = some (c, rest)
  noJoin : ∀ rest, lineJoin? (text ++ rest) = none

theorem lineJoin?_eq_none {c : Char} (shown : isBlank c = false ∧ c ≠ '\n' ∧ c ≠ '\r')
    (rest : List Char) : lineJoin? (c :: rest) = none := by
  have none_skipped : skipBlanks (c :: rest) = c :: rest := by simp [skipBlanks, shown.1]
  rw [lineJoin?, none_skipped]
  split
  · rename_i same
    exact absurd (List.cons.inj same).1 shown.2.1
  · rename_i same
    exact absurd (List.cons.inj same).1 shown.2.2
  · rfl

theorem standsFor_letter {letter c : Char} (meaning : shortEscape? letter = some c)
    (shown : isBlank letter = false ∧ letter ≠ '\n' ∧ letter ≠ '\r') : StandsFor [letter] c where
  escape rest := by simp [escape?, meaning]
  noJoin := lineJoin?_eq_none shown

theorem character?_upperHex : ∀ n < 128,
    character? ['0', '0', upperHexChar (n / 16), upperHexChar (n % 16)] = some (.ofNat n) := by
  decide

theorem standsFor_upperHex {c : Char} (ascii : c.toNat < 128) :
    StandsFor ['u', '0', '0', upperHexChar (c.toNat / 16), upperHexChar (c.toNat % 16)] c where
  escape rest := by
    have read := character?_upperHex c.toNat ascii
    rw [Char.ofNat_toNat] at read
    simp [escape?, shortEscape?, numericEscape?, read]
  noJoin _ := lineJoin?_eq_none (by decide) _

/-- A character other than a quote is written as an escape that stands for it, or as itself if it
may stand there. -/
theorem escapedChar_cases (multiLine : Bool) (c : Char) :
    (∃ text, escapedChar multiLine c = '\\' :: text ∧ StandsFor text c) ∨
    (escapedChar multiLine c = [c] ∧ c ≠ '\\' ∧ needsEscape c = false ∧
      (c = '\n' → multiLine = true)) := by
  have short (letter : Char) (meaning : shortEscape? letter = some c)
      (shown : isBlank letter = false ∧ letter ≠ '\n' ∧ letter ≠ '\r')
      (written : escapedChar multiLine c = ['\\', letter]) :
      ∃ text, escapedChar multiLine c = '\\' :: text ∧ StandsFor text c :=
    ⟨[letter], written, standsFor_letter meaning shown⟩
  by_cases lineEnd : c = '\n'
  · subst lineEnd
    cases multiLine with
    | true => exact .inr ⟨rfl, by decide, rfl, fun _ => rfl⟩
    | false => exact .inl (short 'n' rfl (by decide) rfl)
  by_cases back : c = '\x08'
  · subst back
    exact .inl (short 'b' rfl (by decide) rfl)
  by_cases tab : c = '\t'
  · subst tab
    exact .inl (short 't' rfl (by decide) rfl)
  by_cases feed : c = '\x0c'
  · subst feed
    exact .inl (short 'f' rfl (by decide) rfl)
  by_cases carriage : c = '\r'
  · subst carriage
    exact .inl (short 'r' rfl (by decide) rfl)
  by_cases backslash : c = '\\'
  · subst backslash
    exact .inl (short '\\' rfl (by decide) rfl)
  have written : escapedChar multiLine c = if needsEscape c then
      ['\\', 'u', '0', '0', upperHexChar (c.toNat / 16), upperHexChar (c.toNat % 16)] else [c] := by
    simp [escapedChar, back, tab, lineEnd, feed, carriage, backslash]
  by_cases hidden : needsEscape c = true
  · have ascii : c.toNat < 128 := by
      simp only [needsEscape, Bool.or_eq_true, Bool.and_eq_true, decide_eq_true_eq] at hidden
      omega
    rw [if_pos hidden] at written
    exact .inl ⟨_, written, standsFor_upperHex ascii⟩
  · rw [if_neg hidden] at written
    exact .inr ⟨written, backslash, by simpa using hidden, fun same => absurd same lineEnd⟩

/-- The content of a basic string begins with a quote that needs no escape, with an escape, or with
a character that stands for itself. -/
theorem escaped_cases (multiLine : Bool) (run : Nat) (c : Char) (content : List Char) :
    (c = '"' ∧ multiLine = true ∧ run + 1 ≤ 2 ∧
      escaped multiLine run (c :: content) = '"' :: escaped multiLine (run + 1) content) ∨
    (∃ text, StandsFor text c ∧
      escaped multiLine run (c :: content) = '\\' :: (text ++ escaped multiLine 0 content)) ∨
    (c ≠ '"' ∧ c ≠ '\\' ∧ needsEscape c = false ∧ (c = '\n' → multiLine = true) ∧
      escaped multiLine run (c :: content) = c :: escaped multiLine 0 content) := by
  rw [escaped]
  by_cases quote : c = '"'
  · subst quote
    rw [if_pos rfl]
    by_cases room : multiLine = true ∧ run < 2
    · exact .inl ⟨rfl, room.1, room.2, if_pos room⟩
    · exact .inr (.inl ⟨['"'], standsFor_letter rfl (by decide), if_neg room⟩)
  · rw [if_neg quote]
    rcases escapedChar_cases multiLine c with ⟨text, written, stands⟩ | ⟨written, other, shown, kept⟩
    · exact .inr (.inl ⟨text, stands, by rw [written, List.cons_append]⟩)
    · exact .inr (.inr ⟨quote, other, shown, kept, by rw [written, List.singleton_append]⟩)

/-! ### One line -/

section OneLine

variable {bound : Nat} {c : Char} {text more content last : List Char}

theorem basic?_escape (read : escape? text = some (c, more))
    (following : basic? bound more = some (content, last)) :
    basic? (bound + 1) ('\\' :: text) = some (c :: content, last) := by
  simp [basic?, read, following]

theorem basic?_plain (quote : c ≠ '"') (backslash : c ≠ '\\') (control : isControl c = false)
    (following : basic? bound text = some (content, last)) :
    basic? (bound + 1) (c :: text) = some (c :: content, last) := by
  simp [basic?, quote, backslash, control, following]

theorem basic?_escaped (content : List Char) (enough : (escaped false 0 content).length < bound) :
    basic? bound (escaped false 0 content ++ '"' :: last) = some (content, last) := by
  induction content generalizing bound with
  | nil =>
    obtain ⟨bound, rfl⟩ := Nat.exists_eq_add_one_of_ne_zero (Nat.ne_zero_of_lt enough)
    rfl
  | cons c content ih =>
    obtain ⟨bound, rfl⟩ := Nat.exists_eq_add_one_of_ne_zero (Nat.ne_zero_of_lt enough)
    rcases escaped_cases false 0 c content with ⟨-, impossible, -⟩ | ⟨text, stands, shape⟩ |
      ⟨quote, backslash, shown, lineEnd, shape⟩
    · cases impossible
    · rw [shape] at enough ⊢
      simp only [List.length_cons, List.length_append] at enough
      rw [List.cons_append, List.append_assoc]
      exact basic?_escape (stands.escape _) (ih (by omega))
    · rw [shape] at enough ⊢
      rw [List.length_cons] at enough
      have control : isControl c = false := by
        rw [isControl_eq, shown, Bool.false_or, decide_eq_false_iff_not]
        exact fun same => nomatch lineEnd same
      exact basic?_plain quote backslash control (ih (by omega))

theorem literal?_append
    (shown : ∀ c ∈ content, needsEscape c = false ∧ c ≠ '\'' ∧ c ≠ '\n') :
    literal? (content ++ '\'' :: last) = some (content, last) := by
  induction content with
  | nil => rfl
  | cons c content ih =>
    obtain ⟨⟨plain, quote, lineEnd⟩, others⟩ := List.forall_mem_cons.mp shown
    have control : isControl c = false := by simp [isControl_eq, plain, lineEnd]
    simp [literal?, quote, control, ih others]

end OneLine

/-! ### Runs of quotes -/

theorem length_takeWhile_eq_iff {quote : Char} {body : List Char} :
    (body.takeWhile (· = quote)).length = body.length ↔ ∀ c ∈ body, c = quote := by
  constructor
  · intro same c member
    have whole := (List.takeWhile_prefix (· = quote)).eq_of_length same
    rw [List.takeWhile_eq_self_iff] at whole
    exact of_decide_eq_true (whole c member)
  · intro all
    rw [List.takeWhile_eq_self_iff.mpr fun c member => decide_eq_true (all c member)]

/-- Up to two quotes before the three that end a string are the rest of its content. -/
theorem closing?_of_all {quote : Char} {body last : List Char} (all : ∀ c ∈ body, c = quote)
    (few : (body.takeWhile (· = quote)).length ≤ 2) (other : last.head? ≠ some quote) :
    closing? quote (body ++ quote :: quote :: quote :: last) = some (body, last) := by
  have whole := length_takeWhile_eq_iff.mpr all
  have ended : last.takeWhile (· = quote) = [] := by
    cases last with
    | nil => rfl
    | cons c last =>
      have differ : c ≠ quote := fun same => other (congrArg some same)
      simp [differ]
  have three : (quote :: quote :: quote :: last).takeWhile (· = quote) = [quote, quote, quote] := by
    simp [ended]
  have short : min (body.length + 3) 5 - 3 = body.length := by omega
  rw [whole] at few
  rw [closing?, List.takeWhile_append, if_pos whole, three]
  simp only [List.length_append, List.length_cons, List.length_nil]
  rw [if_pos (by omega), short, List.take_left, ← List.drop_drop, List.drop_left]
  rfl

/-- Up to two quotes before another character are content. -/
theorem closing?_of_not_all {quote : Char} {body : List Char} (mixed : ¬∀ c ∈ body, c = quote)
    (few : (body.takeWhile (· = quote)).length ≤ 2) (last : List Char) :
    closing? quote (body ++ last) = none := by
  rw [closing?, List.takeWhile_append, if_neg (mt length_takeWhile_eq_iff.mp mixed),
    if_neg (by omega)]

theorem few_of_hasRun {quote : Char} {body : List Char} {before : Nat} (start : before ≤ 2)
    (few : hasRun quote 2 before body = false) :
    before + (body.takeWhile (· = quote)).length ≤ 2 := by
  induction body generalizing before with
  | nil => simpa using start
  | cons c body ih =>
    rw [hasRun] at few
    split at few
    · rename_i same
      simp only [Bool.or_eq_false_iff, decide_eq_false_iff_not] at few
      have following := ih (by omega) few.2
      rw [same, List.takeWhile_cons_of_pos (by simp), List.length_cons]
      omega
    · rename_i differ
      simpa [differ] using start

/-- In the content of a basic string, two quotes stand in a row but not three. -/
theorem few_escaped (content : List Char) {run : Nat} (start : run ≤ 2) :
    run + ((escaped true run content).takeWhile (· = '"')).length ≤ 2 := by
  induction content generalizing run with
  | nil => simpa [escaped] using start
  | cons c content ih =>
    rcases escaped_cases true run c content with ⟨-, -, room, shape⟩ | ⟨text, -, shape⟩ |
      ⟨quote, -, -, -, shape⟩
    · have following := ih room
      rw [shape, List.takeWhile_cons_of_pos (by simp), List.length_cons]
      omega
    · simpa [shape] using start
    · simpa [shape, quote] using start

/-- Nothing but quotes is written for nothing but quotes. -/
theorem escaped_eq_of_all {content : List Char} {run : Nat}
    (all : ∀ c ∈ escaped true run content, c = '"') : escaped true run content = content := by
  induction content generalizing run with
  | nil => rfl
  | cons c content ih =>
    rcases escaped_cases true run c content with ⟨same, -, -, shape⟩ | ⟨text, -, shape⟩ |
      ⟨quote, -, -, -, shape⟩
    · rw [shape] at all ⊢
      rw [ih fun q member => all q (List.mem_cons_of_mem _ member), same]
    · rw [shape] at all
      exact absurd (all '\\' List.mem_cons_self) (by decide)
    · rw [shape] at all
      exact absurd (all c List.mem_cons_self) quote

/-! ### Several lines -/

section ManyLines

variable {bound : Nat} {c : Char} {text more content last : List Char}

theorem multiBasic?_escape (stands : StandsFor text c)
    (following : multiBasic? bound more = some (content, last)) :
    multiBasic? (bound + 1) ('\\' :: (text ++ more)) = some (c :: content, last) := by
  simp [multiBasic?, stands.noJoin, stands.escape, following]

theorem multiBasic?_ended (ended : closing? '"' ('"' :: text) = some (content, last)) :
    multiBasic? (bound + 1) ('"' :: text) = some (content, last) := by
  simp [multiBasic?, ended]

theorem multiBasic?_plain (backslash : c ≠ '\\') (shown : needsEscape c = false)
    (going : c = '"' → closing? '"' (c :: text) = none)
    (following : multiBasic? bound text = some (content, last)) :
    multiBasic? (bound + 1) (c :: text) = some (c :: content, last) := by
  have carriage : c ≠ '\r' := fun same => by rw [same] at shown; cases shown
  have unended : (if c = '"' then closing? '"' (c :: text) else none) = none := by
    split
    · rename_i same
      exact going same
    · rfl
  simp [multiBasic?, carriage, backslash, unended, isControl_eq, shown, following]

theorem multiLiteral?_ended (ended : closing? '\'' ('\'' :: text) = some (content, last)) :
    multiLiteral? ('\'' :: text) = some (content, last) := by
  simp [multiLiteral?, ended]

theorem multiLiteral?_plain (shown : needsEscape c = false)
    (going : c = '\'' → closing? '\'' (c :: text) = none)
    (following : multiLiteral? text = some (content, last)) :
    multiLiteral? (c :: text) = some (c :: content, last) := by
  have carriage : c ≠ '\r' := fun same => by rw [same] at shown; cases shown
  have unended : (if c = '\'' then closing? '\'' (c :: text) else none) = none := by
    split
    · rename_i same
      exact going same
    · rfl
  simp [multiLiteral?, carriage, unended, isControl_eq, shown, following]

theorem multiBasic?_escaped (content : List Char) {run : Nat} (start : run ≤ 2)
    (enough : (escaped true run content).length < bound) (other : last.head? ≠ some '"') :
    multiBasic? bound (escaped true run content ++ '"' :: '"' :: '"' :: last) =
      some (content, last) := by
  induction content generalizing run bound with
  | nil =>
    obtain ⟨bound, rfl⟩ := Nat.exists_eq_add_one_of_ne_zero (Nat.ne_zero_of_lt enough)
    have ended := closing?_of_all (List.forall_mem_nil (· = '"')) (Nat.zero_le 2) other
    exact multiBasic?_ended ended
  | cons c content ih =>
    obtain ⟨bound, rfl⟩ := Nat.exists_eq_add_one_of_ne_zero (Nat.ne_zero_of_lt enough)
    have few := few_escaped (c :: content) start
    rcases escaped_cases true run c content with ⟨rfl, -, room, shape⟩ | ⟨text, stands, shape⟩ |
      ⟨quote, backslash, shown, -, shape⟩
    · by_cases all : ∀ q ∈ escaped true run ('"' :: content), q = '"'
      · have same := escaped_eq_of_all all
        rw [same] at all few ⊢
        exact multiBasic?_ended (closing?_of_all all (by omega) other)
      · have going := closing?_of_not_all all (by omega) ('"' :: '"' :: '"' :: last)
        rw [shape] at enough going ⊢
        rw [List.length_cons] at enough
        exact multiBasic?_plain (by decide) rfl (fun _ => going) (ih room (by omega))
    · rw [shape] at enough ⊢
      simp only [List.length_cons, List.length_append] at enough
      rw [List.cons_append, List.append_assoc]
      exact multiBasic?_escape stands (ih (Nat.zero_le 2) (by omega))
    · rw [shape] at enough ⊢
      rw [List.length_cons] at enough
      exact multiBasic?_plain backslash shown (fun same => absurd same quote)
        (ih (Nat.zero_le 2) (by omega))

theorem multiLiteral?_append {before : Nat} (start : before ≤ 2)
    (shown : ∀ c ∈ content, needsEscape c = false) (few : hasRun '\'' 2 before content = false)
    (other : last.head? ≠ some '\'') :
    multiLiteral? (content ++ '\'' :: '\'' :: '\'' :: last) = some (content, last) := by
  induction content generalizing before with
  | nil =>
    have ended := closing?_of_all (List.forall_mem_nil (· = '\'')) (Nat.zero_le 2) other
    exact multiLiteral?_ended ended
  | cons c content ih =>
    obtain ⟨plain, others⟩ := List.forall_mem_cons.mp shown
    have ahead := few_of_hasRun start few
    rw [hasRun] at few
    by_cases quote : c = '\''
    · subst quote
      simp only [if_true, Bool.or_eq_false_iff, decide_eq_false_iff_not] at few
      by_cases all : ∀ q ∈ '\'' :: content, q = '\''
      · exact multiLiteral?_ended (closing?_of_all all (by omega) other)
      · have going := closing?_of_not_all all (by omega) ('\'' :: '\'' :: '\'' :: last)
        exact multiLiteral?_plain rfl (fun _ => going) (ih (by omega) others few.2)
    · rw [if_neg quote] at few
      exact multiLiteral?_plain plain (fun same => absurd same quote)
        (ih (Nat.zero_le 2) others few)

end ManyLines

/-! ### Any notation -/

section Notations

variable {content text last : List Char}

theorem choose_eq_literal (chosen : Quotes.choose content = .literal) :
    ∀ c ∈ content, needsEscape c = false ∧ c ≠ '\'' ∧ c ≠ '\n' := by
  simp only [Quotes.choose] at chosen
  split_ifs at chosen with basic literal
  simp only [Bool.and_eq_true, Bool.not_eq_true', List.any_eq_false, List.contains_eq_mem,
    decide_eq_false_iff_not] at literal
  obtain ⟨⟨shown, quotes⟩, lineEnds⟩ := literal
  exact fun c member => ⟨by simpa using shown c member, fun same => quotes (same ▸ member),
    fun same => lineEnds (same ▸ member)⟩

theorem choose_eq_multiLiteral (chosen : Quotes.choose content = .multiLiteral) :
    (∀ c ∈ content, needsEscape c = false) ∧ hasRun '\'' 2 0 content = false := by
  simp only [Quotes.choose] at chosen
  split_ifs at chosen with basic literal multiBasic multiLiteral
  simp only [Bool.and_eq_true, Bool.not_eq_true', List.any_eq_false] at multiLiteral
  exact ⟨fun c member => by simpa using multiLiteral.1 c member, multiLiteral.2⟩

/-- The first character of what is written for `c` and more. -/
theorem escaped_cons (multiLine : Bool) (run : Nat) (c : Char) (content : List Char) :
    ∃ first rest, escaped multiLine run (c :: content) = first :: rest ∧
      needsEscape first = false ∧ (first = '"' → multiLine = true) ∧ (first = '\n' → c = '\n') := by
  rcases escaped_cases multiLine run c content with ⟨-, several, -, shape⟩ | ⟨text, -, shape⟩ |
    ⟨quote, -, shown, -, shape⟩
  · exact ⟨'"', _, shape, rfl, fun _ => several, nofun⟩
  · exact ⟨'\\', _, shape, rfl, nofun, nofun⟩
  · exact ⟨c, _, shape, shown, fun same => absurd same quote, id⟩

/-- The line end that is written in front of content with line ends is left out again, and nothing
else is. -/
theorem skipFirstLineEnd_start
    (shown : '\n' ∉ content → ∀ c ∈ text.head?, needsEscape c = false ∧ c ≠ '\n') :
    skipFirstLineEnd ((if content.contains '\n' then ['\n'] else []) ++ text) = text := by
  by_cases lineEnd : '\n' ∈ content
  · simp [lineEnd, skipFirstLineEnd]
  · cases text with
    | nil => simp [lineEnd, skipFirstLineEnd]
    | cons c text =>
      obtain ⟨plain, other⟩ := shown lineEnd c rfl
      have carriage : c ≠ '\r' := fun same => by rw [same] at plain; cases plain
      simp [lineEnd, skipFirstLineEnd, other, carriage]

theorem string?_basic (content : List Char) (other : last.head? ≠ some '"') :
    string? ('"' :: (escaped false 0 content ++ '"' :: last)) = some (.ofList content, last) := by
  have single : ∀ more, escaped false 0 content ++ '"' :: last ≠ '"' :: '"' :: more := by
    intro more same
    cases content with
    | nil => exact other (congrArg List.head? (List.cons.inj same).2)
    | cons c content =>
      obtain ⟨first, rest, shape, -, quote, -⟩ := escaped_cons false 0 c content
      rw [shape] at same
      exact nomatch quote (List.cons.inj same).1
  rw [string?, basic?_escaped content (by simp)]
  · rfl
  · exact single

theorem string?_literal (chosen : Quotes.choose content = .literal) (other : last.head? ≠ some '\'') :
    string? ('\'' :: (content ++ '\'' :: last)) = some (.ofList content, last) := by
  have shown := choose_eq_literal chosen
  have single : ∀ more, content ++ '\'' :: last ≠ '\'' :: '\'' :: more := by
    intro more same
    cases content with
    | nil => exact other (congrArg List.head? (List.cons.inj same).2)
    | cons c content => exact (shown c List.mem_cons_self).2.1 (List.cons.inj same).1
  rw [string?, literal?_append shown]
  · rfl
  · exact single

theorem string?_multiBasic (content : List Char) (other : last.head? ≠ some '"') :
    string? ('"' :: '"' :: '"' :: ((if content.contains '\n' then ['\n'] else []) ++
      (escaped true 0 content ++ '"' :: '"' :: '"' :: last))) = some (.ofList content, last) := by
  have start : '\n' ∉ content → ∀ c ∈ (escaped true 0 content ++ '"' :: '"' :: '"' :: last).head?,
      needsEscape c = false ∧ c ≠ '\n' := by
    intro noLineEnd c first
    cases content with
    | nil =>
      obtain rfl := Option.some.inj first
      decide
    | cons d content =>
      obtain ⟨_, rest, shape, plain, -, lineEnd⟩ := escaped_cons true 0 d content
      rw [shape] at first
      obtain rfl := Option.some.inj first
      exact ⟨plain, fun same => noLineEnd (lineEnd same ▸ List.mem_cons_self)⟩
  rw [string?, skipFirstLineEnd_start start,
    multiBasic?_escaped content (Nat.zero_le 2) (by simp) other]
  rfl

theorem string?_multiLiteral (chosen : Quotes.choose content = .multiLiteral)
    (other : last.head? ≠ some '\'') :
    string? ('\'' :: '\'' :: '\'' :: ((if content.contains '\n' then ['\n'] else []) ++
      (content ++ '\'' :: '\'' :: '\'' :: last))) = some (.ofList content, last) := by
  obtain ⟨shown, few⟩ := choose_eq_multiLiteral chosen
  have start : '\n' ∉ content → ∀ c ∈ (content ++ '\'' :: '\'' :: '\'' :: last).head?,
      needsEscape c = false ∧ c ≠ '\n' := by
    intro noLineEnd c first
    cases content with
    | nil =>
      obtain rfl := Option.some.inj first
      decide
    | cons d content =>
      obtain rfl := Option.some.inj first
      exact ⟨shown d List.mem_cons_self, fun same => noLineEnd (same ▸ List.mem_cons_self)⟩
  rw [string?, skipFirstLineEnd_start start, multiLiteral?_append (Nat.zero_le 2) shown few other]
  rfl

/-- A string in quotes is read back, whatever it holds. -/
theorem string?_quoted (text : String) (other : ∀ c ∈ last.head?, c ≠ '"' ∧ c ≠ '\'') :
    string? ((quoted text).toList ++ last) = some (text, last) := by
  have double : last.head? ≠ some '"' := fun same => (other _ same).1 rfl
  have single : last.head? ≠ some '\'' := fun same => (other _ same).2 rfl
  have whole : .ofList text.toList = text := String.ofList_toList
  cases chosen : Quotes.choose text.toList with
  | basic =>
    have read := string?_basic text.toList double
    rw [whole] at read
    simpa [quoted, chosen, Quotes.delimiter] using read
  | literal =>
    have read := string?_literal chosen single
    rw [whole] at read
    simpa [quoted, chosen, Quotes.delimiter] using read
  | multiBasic =>
    have read := string?_multiBasic text.toList double
    rw [whole] at read
    simpa [quoted, chosen, Quotes.delimiter] using read
  | multiLiteral =>
    have read := string?_multiLiteral chosen single
    rw [whole] at read
    simpa [quoted, chosen, Quotes.delimiter] using read

-- a quote at the end of the content stands right before the closing three
example : (quoted "'\"").toList = ['"', '"', '"', '\'', '"', '"', '"', '"'] := by decide

end Notations

end RingQueue.Toml
