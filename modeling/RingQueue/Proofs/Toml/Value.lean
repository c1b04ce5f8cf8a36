import RingQueue.Proofs.Toml.Document
import RingQueue.Proofs.Toml.Tree

/-! Values of parts. Arrays and inline tables hold values again, and the reader goes down no further
than its limit. Main results: a value that is nested no deeper is read back from its text, and of
one that is, nothing is read. -/
namespace RingQueue.Toml

/-- A key and its value, each with its text. -/
structure Assignment where
  name : List Char
  key : String
  text : List Char
  value : Datum

namespace Assignment

def shown (a : Assignment) : List Char := a.name ++ ' ' :: '=' :: ' ' :: a.text

def line (a : Assignment) : String × Datum := (a.key, a.value)

end Assignment

/-- Texts with commas between them, up to a closing bracket. -/
def closed (close : Char) : List (List Char) → List Char
  | [] => [close]
  | [text] => text ++ [close]
  | text :: next :: more => text ++ ',' :: ' ' :: closed close (next :: more)

/-- The text of a value whose arrays and inline tables are nested at most `depth` deep. -/
inductive Written : Nat → List Char → Datum → Prop
  | quoted {depth : Nat} (content : String) : Written depth (quoted content).toList (.text content)
  | scalar {depth : Nat} {c : Char} {text : List Char} {value : Datum}
      (all : (c :: text).all isScalarChar = true) (scalar : scalar? (c :: text) = some value) :
      Written depth (c :: text) value
  | list {depth : Nat} (items : List (List Char × Datum))
      (all : ∀ item ∈ items, Written depth item.1 item.2) :
      Written (depth + 1) ('[' :: closed ']' (items.map Prod.fst)) (.list (items.map Prod.snd))
  | table {depth : Nat} (members : List Assignment)
      (named : ∀ member ∈ members, Names member.name member.key)
      (all : ∀ member ∈ members, Written depth member.text member.value)
      (distinct : (members.map Assignment.key).Nodup) :
      Written (depth + 1) ('\x7b' :: closed '\x7d' (members.map Assignment.shown))
        (.table (members.map Assignment.line))

/-! ### Between the parts -/

/-- The text begins with something that is not gone past. -/
def Solid (text : List Char) : Prop :=
  ∃ c more, text = c :: more ∧ c ∉ ['\n', '\r', ' ', '\t', '#']

/-- The text begins with something that closes nothing either. -/
def Opens (text : List Char) : Prop :=
  ∃ c more, text = c :: more ∧ c ∉ ['\n', '\r', ' ', '\t', '#', ']', '\x7d']

variable {text rest : List Char}

theorem Opens.solid (opens : Opens text) : Solid text := by
  obtain ⟨c, more, rfl, other⟩ := opens
  exact ⟨c, more, rfl, fun trivia => other (List.mem_append_left [']', '\x7d'] trivia)⟩

theorem Opens.exists_start (opens : Opens text) :
    ∃ c more, text = c :: more ∧ c ≠ ']' ∧ c ≠ '\x7d' := by
  obtain ⟨c, more, rfl, other⟩ := opens
  simp only [List.mem_cons, List.not_mem_nil, or_false, not_or] at other
  exact ⟨c, more, rfl, other.2.2.2.2.2⟩

theorem Opens.append (opens : Opens text) (rest : List Char) : Opens (text ++ rest) := by
  obtain ⟨c, more, rfl, other⟩ := opens
  exact ⟨c, more ++ rest, rfl, other⟩

theorem Solid.skipTrivia (solid : Solid text) (rest : List Char) :
    skipTrivia false (text ++ rest) = some (text ++ rest) := by
  obtain ⟨c, more, rfl, other⟩ := solid
  simp only [List.mem_cons, List.not_mem_nil, or_false, not_or] at other
  obtain ⟨lineFeed, carriage, blank, tab, comment⟩ := other
  simp [Toml.skipTrivia, isBlank, carriage, blank, tab, comment]

theorem Names.opens {name : List Char} {key : String} (names : Names name key) : Opens name := by
  obtain ⟨c, more, shape, other⟩ := names.eq_cons
  refine ⟨c, more, shape, fun special => ?_⟩
  simp only [List.mem_cons, List.not_mem_nil, or_false] at special
  rcases special with h | h | h | h | h | h | h <;> exact other _ (by rfl) (by decide) h

theorem solid_closed {close : Char} (solid : Solid [close]) {texts : List (List Char)}
    (all : ∀ text ∈ texts, Opens text) : Solid (closed close texts) := by
  match texts with
  | [] => exact solid
  | [text] => exact ((all text (by simp)).append _).solid
  | text :: next :: more => exact ((all text (by simp)).append _).solid

/-- A value text begins as one and is read wherever a value can stand, if so many more levels are
allowed. -/
structure Legible (depth : Nat) (text : List Char) (value : Datum) : Prop where
  opens : Opens text
  read : ∀ bound rest, 2 * text.length ≤ bound → Closes rest →
    value? bound depth (text ++ rest) = some (value, rest)

theorem Leaf.legible {value : Datum} (leaf : Leaf text value) (opens : Opens text) (depth : Nat) :
    Legible depth text value where
  opens := opens
  read bound rest enough closes := by
    obtain ⟨c, more, rfl, -⟩ := opens
    rw [List.length_cons] at enough
    obtain ⟨bound, rfl⟩ := Nat.exists_eq_add_one_of_ne_zero (by omega : bound ≠ 0)
    exact leaf.read bound depth rest closes

/-- A reader of parts with commas between them up to a closing bracket, as far as such texts go. -/
structure ReadsParts {β : Type} (reader : Nat → List Char → Option (List β × List Char)) (close : Char)
    (text : List Char) (part : β) : Prop where
  opens : Opens text
  last : ∀ bound rest, 2 * text.length ≤ bound →
    reader (bound + 1) (text ++ close :: rest) = some ([part], rest)
  next : ∀ bound more parts rest, 2 * text.length ≤ bound → skipTrivia false more = some more →
    reader bound more = some (parts, rest) →
    reader (bound + 1) (text ++ ',' :: ' ' :: more) = some (part :: parts, rest)

section Closed

variable {β : Type} {reader : Nat → List Char → Option (List β × List Char)} {close : Char}
  {parts : List (List Char × β)} (solid : Solid [close])
  (all : ∀ part ∈ parts, ReadsParts reader close part.1 part.2)
include solid all

theorem solid_parts : Solid (closed close (parts.map Prod.fst)) := by
  refine solid_closed solid fun text member => ?_
  obtain ⟨part, source, rfl⟩ := List.mem_map.mp member
  exact (all part source).opens

theorem read_closed (none : ∀ bound rest, reader (bound + 1) (close :: rest) = some ([], rest))
    (bound : Nat) (enough : 2 * (closed close (parts.map Prod.fst)).length ≤ bound)
    (rest : List Char) :
    reader bound (closed close (parts.map Prod.fst) ++ rest) = some (parts.map Prod.snd, rest) := by
  induction parts generalizing bound with
  | nil =>
    have some : 2 ≤ bound := enough
    obtain ⟨bound, rfl⟩ := Nat.exists_eq_add_one_of_ne_zero (by omega : bound ≠ 0)
    exact none bound rest
  | cons part parts ih =>
    obtain ⟨here, others⟩ := List.forall_mem_cons.mp all
    cases parts with
    | nil =>
      simp only [List.map_cons, List.map_nil, closed, List.length_append, List.length_singleton]
        at enough
      obtain ⟨bound, rfl⟩ := Nat.exists_eq_add_one_of_ne_zero (by omega : bound ≠ 0)
      have last := here.last bound rest (by omega)
      rwa [List.append_cons] at last
    | cons next parts =>
      simp only [List.map_cons, closed, List.length_append, List.length_cons] at enough
      obtain ⟨bound, rfl⟩ := Nat.exists_eq_add_one_of_ne_zero (by omega : bound ≠ 0)
      have more := ih others bound (by rw [List.map_cons]; omega)
      rw [List.map_cons, List.map_cons, closed, ← List.map_cons, List.append_assoc]
      exact here.next bound _ _ rest (by omega) ((solid_parts solid others).skipTrivia rest) more

end Closed

section Parts

variable {depth : Nat} {value : Datum}

theorem Legible.readsItems (legible : Legible depth text value) :
    ReadsParts (fun bound => items? bound depth) ']' text value where
  opens := legible.opens
  last bound rest enough := by
    have read := legible.read bound (']' :: rest) enough ⟨']', rest, rfl, by decide⟩
    obtain ⟨c, more, rfl, start, -⟩ := legible.opens.exists_start
    rw [List.cons_append] at read ⊢
    simp [items?, start, read, skipTrivia, isBlank]
  next bound more values rest enough skipped others := by
    have read := legible.read bound (',' :: ' ' :: more) enough ⟨',', _, rfl, by decide⟩
    obtain ⟨c, begun, rfl, start, -⟩ := legible.opens.exists_start
    rw [List.cons_append] at read ⊢
    simp [items?, start, read, skipTrivia, isBlank, skipped, others]

theorem Legible.readsPairs {name : List Char} {key : String} (legible : Legible depth text value)
    (names : Names name key) :
    ReadsParts (fun bound => pairs? bound depth) '\x7d' (name ++ ' ' :: '=' :: ' ' :: text)
      ⟨[], key, value⟩ where
  opens := names.opens.append _
  last bound rest enough := by
    simp only [List.length_append, List.length_cons] at enough
    have read := legible.read bound ('\x7d' :: rest) (by omega) ⟨'\x7d', rest, rfl, by decide⟩
    have named : boundedKey? (name ++ ' ' :: '=' :: ' ' :: (text ++ '\x7d' :: rest)) =
      some (([], key), '=' :: ' ' :: (text ++ '\x7d' :: rest)) :=
      names.boundedKey?_append rfl rfl (by decide)
    have given := legible.opens.solid.skipTrivia ('\x7d' :: rest)
    obtain ⟨c, more, rfl, -, start⟩ := names.opens.exists_start
    simp only [List.append_assoc, List.cons_append] at named ⊢
    simp [pairs?, start, named, skipTrivia, isBlank, given, read]
  next bound more pairs rest enough skipped others := by
    simp only [List.length_append, List.length_cons] at enough
    have read := legible.read bound (',' :: ' ' :: more) (by omega) ⟨',', _, rfl, by decide⟩
    have named : boundedKey? (name ++ ' ' :: '=' :: ' ' :: (text ++ ',' :: ' ' :: more)) =
      some (([], key), '=' :: ' ' :: (text ++ ',' :: ' ' :: more)) :=
      names.boundedKey?_append rfl rfl (by decide)
    have given := legible.opens.solid.skipTrivia (',' :: ' ' :: more)
    obtain ⟨c, begun, rfl, -, start⟩ := names.opens.exists_start
    simp only [List.append_assoc, List.cons_append] at named ⊢
    simp [pairs?, start, named, skipTrivia, isBlank, given, read, skipped, others]

theorem legible_list {items : List (List Char × Datum)}
    (all : ∀ item ∈ items, Legible depth item.1 item.2) :
    Legible (depth + 1) ('[' :: closed ']' (items.map Prod.fst)) (.list (items.map Prod.snd)) := by
  refine ⟨⟨'[', _, rfl, by decide⟩, fun bound rest enough _ => ?_⟩
  rw [List.length_cons] at enough
  obtain ⟨bound, rfl⟩ := Nat.exists_eq_add_one_of_ne_zero (by omega : bound ≠ 0)
  have solid : Solid [']'] := ⟨']', [], rfl, by decide⟩
  have parts (item) (member : item ∈ items) := (all item member).readsItems
  have begun := (solid_parts solid parts).skipTrivia rest
  have read := read_closed solid parts (fun _ _ => rfl) bound (by omega) rest
  simp only [List.cons_append, value?, begun, read, Option.bind_eq_bind, Option.bind_some]
  rfl

theorem legible_table {members : List Assignment}
    (named : ∀ member ∈ members, Names member.name member.key)
    (all : ∀ member ∈ members, Legible depth member.text member.value)
    (distinct : (members.map Assignment.key).Nodup) :
    Legible (depth + 1) ('\x7b' :: closed '\x7d' (members.map Assignment.shown))
      (.table (members.map Assignment.line)) := by
  refine ⟨⟨'\x7b', _, rfl, by decide⟩, fun bound rest enough _ => ?_⟩
  rw [List.length_cons] at enough
  obtain ⟨bound, rfl⟩ := Nat.exists_eq_add_one_of_ne_zero (by omega : bound ≠ 0)
  have solid : Solid ['\x7d'] := ⟨'\x7d', [], rfl, by decide⟩
  let part (member : Assignment) : List Char × Pair := (member.shown, Pair.plain member.line)
  have parts : ∀ p ∈ members.map part,
      ReadsParts (fun bound => pairs? bound depth) '\x7d' p.1 p.2 := by
    intro p source
    obtain ⟨member, inside, rfl⟩ := List.mem_map.mp source
    exact (all member inside).readsPairs (named member inside)
  have shown : (members.map part).map Prod.fst = members.map Assignment.shown := List.map_map ..
  have lines : (members.map part).map Prod.snd = (members.map Assignment.line).map Pair.plain := by
    rw [List.map_map, List.map_map]
    rfl
  have begun := (solid_parts solid parts).skipTrivia rest
  have read := read_closed solid parts (fun _ _ => rfl) bound (by rw [shown]; omega) rest
  have keys : ((members.map Assignment.line).map Prod.fst).Nodup := by
    rw [List.map_map]
    exact distinct
  have table := inlineTable_plain keys
  rw [shown] at begun read
  rw [lines] at read
  simp only [List.cons_append, value?, begun, read, table, Option.bind_eq_bind, Option.bind_some]
  rfl

theorem Written.opens (written : Written depth text value) : Opens text := by
  cases written with
  | quoted content =>
    obtain ⟨quote, body, shape, kind⟩ := exists_quoted content
    exact ⟨quote, body, shape, by rcases kind with rfl | rfl <;> decide⟩
  | @scalar _ c text _ all =>
    refine ⟨c, text, rfl, fun special => ?_⟩
    have start := List.all_eq_true.mp all c List.mem_cons_self
    simp only [List.mem_cons, List.not_mem_nil, or_false] at special
    rcases special with rfl | rfl | rfl | rfl | rfl | rfl | rfl <;> cases start
  | list => exact ⟨'[', _, rfl, by decide⟩
  | table => exact ⟨'\x7b', _, rfl, by decide⟩

/-- A value is read back if no fewer levels are allowed than it has. -/
theorem Written.legible (written : Written depth text value) {limit : Nat} (within : depth ≤ limit) :
    Legible limit text value := by
  induction written generalizing limit with
  | @quoted depth content =>
    have written : Written depth _ _ := .quoted content
    exact (leaf_quoted content).legible written.opens limit
  | @scalar depth _ _ _ all scalar =>
    have written : Written depth _ _ := .scalar all scalar
    exact (leaf_scalar all scalar).legible written.opens limit
  | list items all ih =>
    obtain ⟨limit, rfl⟩ := Nat.exists_eq_add_one_of_ne_zero (by omega : limit ≠ 0)
    exact legible_list fun item member => ih item member (Nat.le_of_succ_le_succ within)
  | table members named all distinct ih =>
    obtain ⟨limit, rfl⟩ := Nat.exists_eq_add_one_of_ne_zero (by omega : limit ≠ 0)
    exact legible_table named (fun member inside => ih member inside (Nat.le_of_succ_le_succ within))
      distinct

theorem Written.onLine (written : Written depthLimit text value) : OnLine text value where
  first c start := by
    obtain ⟨d, more, rfl, other⟩ := written.opens
    obtain rfl := Option.some.inj start
    simp only [List.mem_cons, List.not_mem_nil, or_false, not_or] at other
    simp [isBlank, other.2.2.1, other.2.2.2.1]
  read rest := (written.legible (Nat.le_refl depthLimit)).read _ _
    (by rw [List.length_append]; omega) (closes_lineEnd rest)

end Parts

/-! ### Too deep -/

/-- One bracket more than there may be, and nothing that follows is looked at. -/
theorem value?_too_deep (bound depth : Nat) (rest : List Char) :
    value? bound depth (List.replicate (depth + 1) '[' ++ rest) = none := by
  induction depth generalizing bound with
  | zero => cases bound <;> rfl
  | succ depth ih =>
    -- one step for the bracket and one for the first item behind it
    cases bound with
    | zero => rfl
    | succ bound =>
      have begun : skipTrivia false (List.replicate (depth + 1) '[' ++ rest) =
          some (List.replicate (depth + 1) '[' ++ rest) := rfl
      rw [List.replicate_succ, List.cons_append]
      simp only [value?, begun, Option.bind_eq_bind, Option.bind_some]
      cases bound with
      | zero => rfl
      | succ bound =>
        have none := ih bound
        rw [List.replicate_succ, List.cons_append] at none ⊢
        simp [items?, none]

/-- Brackets around nothing, one pair in the other. -/
def brackets (count : Nat) : List Char := .replicate count '[' ++ .replicate count ']'

/-- The empty list in so many others. -/
def nested : Nat → Datum
  | 0 => .list []
  | depth + 1 => .list [nested depth]

theorem written_nested (depth : Nat) : Written (depth + 1) (brackets (depth + 1)) (nested depth) := by
  induction depth with
  | zero => exact .list [] nofun
  | succ depth ih =>
    have shape : brackets (depth + 1 + 1) = '[' :: closed ']' [brackets (depth + 1)] := by
      show '[' :: (.replicate (depth + 1) '[' ++ .replicate (depth + 1 + 1) ']') =
        '[' :: (.replicate (depth + 1) '[' ++ .replicate (depth + 1) ']' ++ [']'])
      rw [List.append_assoc, ← List.replicate_succ']
    rw [shape]
    exact .list [(brackets (depth + 1), nested depth)] (by simpa using ih)

theorem parse?_too_deep {name : List Char} {key : String} (names : Names name key)
    (rest : List Char) : parse? (.ofList (name ++ ' ' :: '=' :: ' ' ::
      (List.replicate (depthLimit + 1) '[' ++ rest))) = none := by
  have unread : pair? (name ++ ' ' :: '=' :: ' ' ::
      (List.replicate (depthLimit + 1) '[' ++ rest)) = none := by
    have named : boundedKey? (name ++ ' ' :: '=' :: ' ' ::
        (List.replicate (depthLimit + 1) '[' ++ rest)) =
        some (([], key), '=' :: ' ' :: (List.replicate (depthLimit + 1) '[' ++ rest)) :=
      names.boundedKey?_append rfl rfl (by decide)
    have given : skipBlanks (' ' :: (List.replicate (depthLimit + 1) '[' ++ rest)) =
        List.replicate (depthLimit + 1) '[' ++ rest := rfl
    simp only [pair?, named, given, value?_too_deep, bind, Option.bind]
  have begun := names.opens.solid.skipTrivia
    (' ' :: '=' :: ' ' :: (List.replicate (depthLimit + 1) '[' ++ rest))
  obtain ⟨c, more, rfl, other⟩ := names.eq_cons
  rw [List.cons_append] at begun unread ⊢
  have whole (text : List Char) : skipMark (c :: text) = c :: text := by
    simp [skipMark, other '\ufeff' rfl (by decide)]
  simp only [parse?, String.toList_ofList, whole, lines?, begun, bind, Option.bind]
  simp [other '[' rfl (by decide), unread]

end RingQueue.Toml
