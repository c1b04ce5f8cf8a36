import Mathlib.Tactic.IntervalCases
import RingQueue.Proofs.Number.Digits
import RingQueue.Proofs.Toml.Quoted
import RingQueue.Toml.Reader

/-! Documents of sections with one value to a line are read back line by line. -/
namespace RingQueue.Toml

open RingQueue.Number

/-- What can follow a value: the end of its line or of what it stands in, or a comma. -/
def Closes (rest : List Char) : Prop :=
  ∃ c more, rest = c :: more ∧ c ∈ ['\n', ',', ']', '\x7d']

theorem closes_lineEnd (rest : List Char) : Closes ('\n' :: rest) := ⟨'\n', rest, rfl, by decide⟩

/-- A text without parts that is read as a value wherever one can stand. -/
structure Leaf (text : List Char) (value : Datum) : Prop where
  first : ∀ c ∈ text.head?, isBlank c = false
  read : ∀ bound depth rest, Closes rest →
    value? (bound + 1) depth (text ++ rest) = some (value, rest)

theorem exists_quoted (text : String) : ∃ quote rest, (quoted text).toList = quote :: rest ∧
    (quote = '"' ∨ quote = '\'') := by
  cases chosen : Quotes.choose text.toList <;> simp [quoted, chosen, Quotes.delimiter]

theorem leaf_quoted (text : String) : Leaf (quoted text).toList (.text text) := by
  have read (rest : List Char) (closes : Closes rest) :
      string? ((quoted text).toList ++ rest) = some (text, rest) := by
    obtain ⟨c, more, rfl, close⟩ := closes
    refine string?_quoted text fun d first => ?_
    obtain rfl := Option.some.inj first
    constructor <;> rintro rfl <;> exact absurd close (by decide)
  obtain ⟨quote, body, shape, kind⟩ := exists_quoted text
  rw [shape] at read ⊢
  rcases kind with rfl | rfl
  · refine ⟨by simp [isBlank], fun bound depth rest closes => ?_⟩
    have now := read rest closes
    rw [List.cons_append] at now ⊢
    simp [value?, now]
  · refine ⟨by simp [isBlank], fun bound depth rest closes => ?_⟩
    have now := read rest closes
    rw [List.cons_append] at now ⊢
    simp [value?, now]

theorem splitScalar_append {text rest : List Char} (all : ∀ c ∈ text, isScalarChar c = true)
    (closes : Closes rest) : splitScalar (text ++ rest) = (text, rest) := by
  obtain ⟨c, more, rfl, close⟩ := closes
  have ended : isScalarChar c = false := by
    simp only [List.mem_cons, List.not_mem_nil, or_false] at close
    rcases close with rfl | rfl | rfl | rfl <;> rfl
  have other : c ≠ ' ' := by
    rintro rfl
    exact absurd close (by decide)
  have front : (text ++ c :: more).takeWhile isScalarChar = text := by
    rw [List.takeWhile_append_of_pos all]
    simp [ended]
  have back : (text ++ c :: more).dropWhile isScalarChar = c :: more := by
    rw [List.dropWhile_append_of_pos all]
    simp [ended]
  simp [splitScalar, front, back, other]

theorem leaf_scalar {c : Char} {text : List Char} {value : Datum}
    (all : (c :: text).all isScalarChar = true) (scalar : scalar? (c :: text) = some value) :
    Leaf (c :: text) value := by
  rw [List.all_eq_true] at all
  have start := all c List.mem_cons_self
  have other (d : Char) (special : isScalarChar d = false) : c ≠ d := fun same => by
    rw [same, special] at start
    cases start
  refine ⟨?_, fun bound depth rest closes => ?_⟩
  · intro d first
    obtain rfl := Option.some.inj first
    simp [isBlank, other ' ' rfl, other '\t' rfl]
  · have split := splitScalar_append all closes
    rw [List.cons_append] at split ⊢
    simp [value?, other '[' rfl, other '\x7b' rfl, other '"' rfl, other '\'' rfl, split, scalar]

theorem grouped?_of_all {base : Nat} {c : Char} {text : List Char}
    (all : ∀ d ∈ c :: text, isDigit base d = true) : grouped? base (c :: text) = some (c :: text) := by
  induction text generalizing c with
  | nil => simp [grouped?, all c]
  | cons d text ih =>
    have next := ih fun e member => all e (List.mem_cons_of_mem c member)
    have other : d ≠ '_' := fun same => by
      have digit := all d (by simp)
      rw [same] at digit
      cases digit
    simp [grouped?, all c, other, next]

theorem decimal?_digits (n : Nat) : decimal? (digits n) = some n := by
  obtain ⟨first, rest, shape, zero⟩ := digits_eq_cons n
  have grouped : grouped? 10 (digits n) = some (digits n) := by
    rw [shape]
    exact grouped?_of_all fun d member => isDigit_of_mem_digits (shape ▸ member)
  have plain : noLeadingZero (digits n) = true := by
    by_cases same : first = '0'
    · rw [zero same, digits_zero]
      rfl
    · simp [shape, noLeadingZero, same]
  rw [decimal?, grouped, Option.bind_some, if_pos plain, ofDigits?_digits]

theorem whole?_digits {n : Nat} (small : n < 2 ^ 128) : whole? (digits n) = some (n : Int) := by
  obtain ⟨first, rest, shape, zero⟩ := digits_eq_cons n
  have unmarked : marked? (digits n) = none := by
    by_cases same : first = '0'
    · rw [zero same, digits_zero]
      rfl
    · simp [shape, marked?, same]
  have reach : inReach n = true := by
    simp only [inReach, Bool.and_eq_true, decide_eq_true_eq]
    omega
  have value := decimal?_digits n
  rw [shape] at value unmarked ⊢
  have start : first ∈ digits n := shape ▸ List.mem_cons_self
  have minus : first ≠ '-' := ne_of_mem_digits start rfl
  have plus : first ≠ '+' := ne_of_mem_digits start rfl
  simp [whole?, minus, plus, unmarked, value, reach]

theorem exists_digits {n : Nat} (small : n < 2 ^ 128) : ∃ c text, digits n = c :: text ∧
    (c :: text).all isScalarChar = true ∧ scalar? (c :: text) = some (.whole n) := by
  obtain ⟨first, rest, shape, -⟩ := digits_eq_cons n
  have all : (first :: rest).all isScalarChar = true := by
    rw [List.all_eq_true]
    intro d member
    rw [← shape] at member
    obtain ⟨digit, small, rfl⟩ := mem_digits member
    interval_cases digit <;> rfl
  have value := whole?_digits small
  have start : first ∈ digits n := shape ▸ List.mem_cons_self
  have flag (letter : Char) (word : List Char) (special : isDigit 10 letter = false) :
      first :: rest ≠ letter :: word := fun same =>
    ne_of_mem_digits start special (List.cons.inj same).1
  rw [shape] at value
  exact ⟨first, rest, shape, all,
    by rw [scalar?, if_neg (flag 't' _ rfl), if_neg (flag 'f' _ rfl), value]⟩

theorem leaf_decimal {n : Nat} (small : n < 2 ^ 128) : Leaf (digits n) (.whole n) := by
  obtain ⟨_, _, shape, all, scalar⟩ := exists_digits small
  rw [shape]
  exact leaf_scalar all scalar

/-! ### Lines -/

/-- A key that needs no quotes. -/
structure IsBare (key : String) : Prop where
  ne_nil : key.toList ≠ []
  all : key.toList.all isBareKeyChar = true

/-- The text of a key. Every string is a key, if it is written in quotes. -/
inductive Names : List Char → String → Prop
  | bare {key : String} (bare : IsBare key) : Names key.toList key
  | quoted (key : String) : Names ('"' :: (escaped false 0 key.toList ++ ['"'])) key

theorem IsBare.of_mem {key : String} (bare : IsBare key) : ∀ c ∈ key.toList, isBareKeyChar c = true :=
  List.all_eq_true.mp bare.all

namespace Names

variable {name : List Char} {key : String}

/-- A key starts like no other part of a document. -/
theorem eq_cons (names : Names name key) : ∃ c more, name = c :: more ∧
    ∀ other, isBareKeyChar other = false → other ≠ '"' → c ≠ other := by
  cases names with
  | bare bare =>
    obtain ⟨c, more, shape⟩ := List.exists_cons_of_ne_nil bare.ne_nil
    refine ⟨c, more, shape, fun other special _ same => ?_⟩
    have plain := bare.of_mem c (shape ▸ List.mem_cons_self)
    rw [same, special] at plain
    cases plain
  | quoted key => exact ⟨'"', _, rfl, fun _ _ apart same => apart same.symm⟩

theorem simpleKey?_append (names : Names name key) {c : Char} (ended : isBareKeyChar c = false)
    (rest : List Char) : simpleKey? (name ++ c :: rest) = some (key, c :: rest) := by
  have whole : String.ofList key.toList = key := String.ofList_toList
  cases names with
  | bare bare =>
    have front : (key.toList ++ c :: rest).takeWhile isBareKeyChar = key.toList := by
      rw [List.takeWhile_append_of_pos bare.of_mem]
      simp [ended]
    have back : (key.toList ++ c :: rest).dropWhile isBareKeyChar = c :: rest := by
      rw [List.dropWhile_append_of_pos bare.of_mem]
      simp [ended]
    obtain ⟨first, more, shape⟩ := List.exists_cons_of_ne_nil bare.ne_nil
    have plain := bare.of_mem first (shape ▸ List.mem_cons_self)
    have double : first ≠ '"' := by
      rintro rfl
      cases plain
    have single : first ≠ '\'' := by
      rintro rfl
      cases plain
    rw [shape] at front back whole ⊢
    rw [List.cons_append] at front back ⊢
    simp [simpleKey?, double, single, front, back, whole]
  | quoted key =>
    have read : basic? (escaped false 0 key.toList ++ '"' :: c :: rest).length
        (escaped false 0 key.toList ++ '"' :: c :: rest) = some (key.toList, c :: rest) :=
      basic?_escaped key.toList (by simp)
    simp only [List.cons_append, List.append_assoc, List.nil_append, simpleKey?, read,
      Option.map_some, whole]

theorem boundedKey?_append (names : Names name key) {c d : Char} {rest more : List Char}
    (ended : isBareKeyChar c = false) (next : skipBlanks (c :: rest) = d :: more)
    (single : d ≠ '.') : boundedKey? (name ++ c :: rest) = some (([], key), d :: more) := by
  have start : skipBlanks (name ++ c :: rest) = name ++ c :: rest := by
    obtain ⟨first, _, shape, other⟩ := names.eq_cons
    simp [shape, skipBlanks, isBlank, other ' ' rfl (by decide), other '\t' rfl (by decide)]
  simp [boundedKey?, key?, start, names.simpleKey?_append ended rest, next, single, depthLimit]

end Names

/-- A text that is read as the value of a line. -/
structure OnLine (text : List Char) (value : Datum) : Prop where
  first : ∀ c ∈ text.head?, isBlank c = false
  read : ∀ rest, value? (2 * (text ++ '\n' :: rest).length + 2) depthLimit (text ++ '\n' :: rest) =
    some (value, '\n' :: rest)

variable {key : String} {name text : List Char} {value : Datum}

theorem Leaf.onLine (leaf : Leaf text value) : OnLine text value :=
  ⟨leaf.first, fun rest => leaf.read _ _ _ (closes_lineEnd rest)⟩

theorem pair?_append (names : Names name key) (onLine : OnLine text value) (rest : List Char) :
    pair? (name ++ ' ' :: '=' :: ' ' :: (text ++ '\n' :: rest)) = some (⟨[], key, value⟩, rest) := by
  have named : boundedKey? (name ++ ' ' :: '=' :: ' ' :: (text ++ '\n' :: rest)) =
      some (([], key), '=' :: ' ' :: (text ++ '\n' :: rest)) :=
    names.boundedKey?_append rfl rfl (by decide)
  have given : skipBlanks (' ' :: (text ++ '\n' :: rest)) = text ++ '\n' :: rest := by
    cases text with
    | nil => rfl
    | cons c text =>
      have shown := onLine.first c rfl
      rw [skipBlanks, List.dropWhile_cons_of_pos rfl, List.cons_append, List.dropWhile_cons, shown]
      rfl
  simp only [pair?, named, given, onLine.read rest, skipLineEnd, bind, Option.bind, pure]

theorem header?_append (bare : IsBare key) (rest : List Char) :
    header? (key.toList ++ ']' :: '\n' :: rest) = some (⟨[], key, false, []⟩, rest) := by
  have named : boundedKey? (key.toList ++ ']' :: '\n' :: rest) =
      some (([], key), ']' :: '\n' :: rest) :=
    (Names.bare bare).boundedKey?_append rfl rfl (by decide)
  obtain ⟨first, more, shape, other⟩ := (Names.bare bare).eq_cons
  rw [shape, List.cons_append] at named ⊢
  simp [header?, other '[' rfl (by decide), named, skipLineEnd]

/-- What stands before the first header and what follows, read from `text`. Each line has at least
one character, so these bound the steps. -/
def Reads (text : List Char) (pairs : List Pair) (sections : List Section) : Prop :=
  ∀ bound, text.length < bound → lines? bound text = some (pairs, sections)

variable {rest : List Char} {pairs : List Pair} {sections : List Section}

theorem reads_nil : Reads [] [] [] := by
  intro bound enough
  obtain ⟨bound, rfl⟩ := Nat.exists_eq_add_one_of_ne_zero (Nat.ne_zero_of_lt enough)
  rfl

theorem Reads.line (names : Names name key) (onLine : OnLine text value)
    (following : Reads rest pairs sections) :
    Reads (name ++ ' ' :: '=' :: ' ' :: (text ++ '\n' :: rest))
      (⟨[], key, value⟩ :: pairs) sections := by
  intro bound enough
  obtain ⟨bound, rfl⟩ := Nat.exists_eq_add_one_of_ne_zero (Nat.ne_zero_of_lt enough)
  simp only [List.length_cons, List.length_append] at enough
  have last := following bound (by omega)
  have read := pair?_append names onLine rest
  obtain ⟨first, _, shape, other⟩ := names.eq_cons
  rw [shape, List.cons_append] at read ⊢
  have line (more : List Char) : skipTrivia false (first :: more) = some (first :: more) := by
    simp [skipTrivia, isBlank, other '\n' rfl (by decide), other '\r' rfl (by decide),
      other ' ' rfl (by decide), other '\t' rfl (by decide), other '#' rfl (by decide)]
  simp [lines?, line, other '[' rfl (by decide), read, last]

theorem Reads.pair (bare : IsBare key) (leaf : Leaf text value)
    (following : Reads rest pairs sections) :
    Reads (key.toList ++ ' ' :: '=' :: ' ' :: (text ++ '\n' :: rest))
      (⟨[], key, value⟩ :: pairs) sections :=
  following.line (.bare bare) leaf.onLine

theorem Reads.lineEnd (following : Reads rest pairs sections) :
    Reads ('\n' :: rest) pairs sections := by
  intro bound enough
  obtain ⟨bound, rfl⟩ := Nat.exists_eq_add_one_of_ne_zero (Nat.ne_zero_of_lt enough)
  have last := following (bound + 1) (Nat.lt_of_succ_lt enough)
  rw [lines?] at last ⊢
  exact last

theorem Reads.section (bare : IsBare key) (following : Reads rest pairs sections) :
    Reads ('[' :: (key.toList ++ ']' :: '\n' :: rest)) []
      (⟨[], key, false, pairs⟩ :: sections) := by
  intro bound enough
  obtain ⟨bound, rfl⟩ := Nat.exists_eq_add_one_of_ne_zero (Nat.ne_zero_of_lt enough)
  simp only [List.length_cons, List.length_append] at enough
  have last := following bound (by omega)
  have line (more : List Char) : skipTrivia false ('[' :: more) = some ('[' :: more) := by
    simp [skipTrivia, isBlank]
  simp [lines?, line, header?_append bare, last]

theorem Reads.header (bare : IsBare key) (following : Reads rest pairs sections) :
    Reads ('\n' :: '[' :: (key.toList ++ ']' :: '\n' :: rest)) []
      (⟨[], key, false, pairs⟩ :: sections) :=
  (following.section bare).lineEnd

theorem parse?_of_reads {document : String} (reads : Reads document.toList pairs sections)
    (unmarked : document.toList.head? ≠ some '\ufeff') : parse? document = build pairs sections := by
  have whole : skipMark document.toList = document.toList := by
    unfold skipMark
    split
    · rename_i shape
      exact absurd (congrArg List.head? shape) unmarked
    · rfl
  have read := reads (document.toList.length + 1) (Nat.lt_succ_self _)
  simp only [parse?, whole, read, bind, Option.bind]

end RingQueue.Toml
