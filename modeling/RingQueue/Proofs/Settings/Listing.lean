import RingQueue.Proofs.Settings.Decode
import RingQueue.Proofs.Toml.Value

/-! Documents that list some of the fields, in any order and among anything else. Main result: all
documents that list the same are read as the same settings, in which a field that is not listed has
its default. -/
namespace RingQueue

open RingQueue.Toml

/-- The lines before the first header, and for each header its part and the lines under it. -/
structure Listing where
  top : List Assignment
  tables : List (Part × List Assignment)

def linesText (assignments : List Assignment) : List Char :=
  assignments.flatMap fun a => a.shown ++ ['\n']

/-- Lines that are well-formed and give no key twice, with values nested at most `depth` deep. -/
structure Lines (depth : Nat) (assignments : List Assignment) : Prop where
  named : ∀ a ∈ assignments, Names a.name a.key
  written : ∀ a ∈ assignments, Written depth a.text a.value
  distinct : (assignments.map Assignment.key).Nodup

namespace Listing

def tableText (table : Part × List Assignment) : List Char :=
  '[' :: (table.1.name.toList ++ ']' :: '\n' :: linesText table.2)

def text (listing : Listing) : String :=
  .ofList (linesText listing.top ++ listing.tables.flatMap tableText)

/-- A part has at most one header and is given in no other way. -/
structure Sound (depth : Nat) (listing : Listing) : Prop where
  top : Lines depth listing.top
  under : ∀ table ∈ listing.tables, Lines depth table.2
  parts : (listing.tables.map Prod.fst).Nodup
  apart : ∀ part : Part, part.name ∉ listing.top.map Assignment.key

/-- The lines under the header of a part, if it has one. -/
def under (listing : Listing) (part : Part) : List Assignment :=
  (listing.tables.lookup part).getD []

/-- Of the fields just these are given, with these values, beside other keys. -/
structure Lists (listing : Listing) (env : Option String) (given : Given) : Prop where
  env : (listing.top.map Assignment.line).lookup "env" = env.map .text
  fields : ∀ field : Field, ((listing.under field.part).map Assignment.line).lookup field.name =
    (given field).map field.kind.datum

end Listing

/-! ### From the text to the table -/

theorem reads_lines {assignments : List Assignment} (lines : Lines depthLimit assignments)
    {rest : List Char} {pairs : List Pair} {sections : List Section}
    (following : Reads rest pairs sections) :
    Reads (linesText assignments ++ rest)
      ((assignments.map Assignment.line).map Pair.plain ++ pairs) sections := by
  obtain ⟨named, written, -⟩ := lines
  induction assignments with
  | nil => exact following
  | cons a assignments ih =>
    obtain ⟨name, names⟩ := List.forall_mem_cons.mp named
    obtain ⟨value, values⟩ := List.forall_mem_cons.mp written
    have read := (ih names values).line name value.onLine
    simpa [linesText, Assignment.shown, Pair.plain, Assignment.line] using read

theorem isBare_name (part : Part) : IsBare part.name := by
  cases part with
  | logging => exact ⟨by decide, rfl⟩
  | stress => exact ⟨by decide, rfl⟩

namespace Listing

variable {listing : Listing}

def lines (table : Part × List Assignment) : String × List (String × Datum) :=
  (table.1.name, table.2.map Assignment.line)

theorem reads_tables {tables : List (Part × List Assignment)}
    (sound : ∀ table ∈ tables, Lines depthLimit table.2) :
    Reads (tables.flatMap tableText) [] ((tables.map lines).map Section.plain) := by
  induction tables with
  | nil => exact reads_nil
  | cons table tables ih =>
    obtain ⟨here, others⟩ := List.forall_mem_cons.mp sound
    have read := (reads_lines here (ih others)).section (isBare_name table.1)
    simpa [tableText, lines, Section.plain] using read

def member (table : Part × List Assignment) : String × Datum :=
  (table.1.name, .table (table.2.map Assignment.line))

/-- What a listing denotes: its own lines and then one table for each header. -/
def members (listing : Listing) : List (String × Datum) :=
  listing.top.map Assignment.line ++ listing.tables.map member

/-- No document of lines starts with the mark that would be gone past. -/
theorem unmarked (sound : listing.Sound depthLimit) :
    listing.text.toList.head? ≠ some '\ufeff' := by
  obtain ⟨⟨named, -, -⟩, -, -, -⟩ := sound
  rw [text, String.toList_ofList]
  cases top : listing.top with
  | nil =>
    cases tables : listing.tables with
    | nil => nofun
    | cons table tables => exact fun same => nomatch same
  | cons a assignments =>
    obtain ⟨c, more, shape, other⟩ := (named a (by rw [top]; simp)).eq_cons
    simpa [linesText, Assignment.shown, shape] using other '\ufeff' rfl (by decide)

theorem distinct_names (sound : listing.Sound depthLimit) :
    ((listing.top.map Assignment.line).map Prod.fst ++
      (listing.tables.map lines).map Prod.fst).Nodup := by
  have keys : (listing.top.map Assignment.line).map Prod.fst = listing.top.map Assignment.key :=
    List.map_map ..
  have names : (listing.tables.map lines).map Prod.fst =
      (listing.tables.map Prod.fst).map Part.name := by
    rw [List.map_map, List.map_map]
    rfl
  rw [keys, names, List.nodup_append]
  refine ⟨sound.top.distinct, sound.parts.map fun _ _ => Part.eq_of_name, ?_⟩
  rintro key there _ member rfl
  obtain ⟨part, -, rfl⟩ := List.mem_map.mp member
  exact sound.apart part there

theorem parse?_text (sound : listing.Sound depthLimit) :
    parse? listing.text = some (.table listing.members) := by
  have reads : Reads listing.text.toList ((listing.top.map Assignment.line).map Pair.plain)
      ((listing.tables.map lines).map Section.plain) := by
    have whole := reads_lines sound.top (reads_tables sound.under)
    rw [List.append_nil] at whole
    rwa [text, String.toList_ofList]
  have built := build_plain (distinct_names sound) fun table member => by
    obtain ⟨source, inside, rfl⟩ := List.mem_map.mp member
    have distinct := (sound.under source inside).distinct
    rwa [lines, List.map_map]
  rw [parse?_of_reads reads (unmarked sound), built, List.map_map]
  rfl

/-! ### From the table to the settings -/

/-- A header is found by the name of its part. -/
theorem lookup_tables (tables : List (Part × List Assignment)) (part : Part) :
    (tables.map member).lookup part.name =
      (tables.lookup part).map fun assignments => .table (assignments.map Assignment.line) := by
  induction tables with
  | nil => rfl
  | cons table tables ih =>
    obtain ⟨other, assignments⟩ := table
    by_cases same : part = other
    · subst same
      simp [member]
    · have apart : part.name ≠ other.name := fun equal => same (Part.eq_of_name equal)
      simpa [member, List.lookup_cons, beq_eq_false_iff_ne.mpr same,
        beq_eq_false_iff_ne.mpr apart] using ih

theorem lookup_tables_env (tables : List (Part × List Assignment)) :
    (tables.map member).lookup "env" = none := by
  rw [List.lookup_eq_none_iff]
  intro pair there
  obtain ⟨table, -, rfl⟩ := List.mem_map.mp there
  exact bne_iff_ne.mpr (Ne.symm table.1.name_ne_env)

theorem lookup_part (sound : listing.Sound depthLimit) (part : Part) :
    listing.members.lookup part.name = (listing.tables.lookup part).map fun assignments =>
      .table (assignments.map Assignment.line) := by
  have absent : (listing.top.map Assignment.line).lookup part.name = none := by
    rw [List.lookup_eq_none_iff]
    intro pair there
    obtain ⟨a, inside, rfl⟩ := List.mem_map.mp there
    exact bne_iff_ne.mpr fun same => sound.apart part (same ▸ List.mem_map_of_mem inside)
  rw [members, List.lookup_append, absent, Option.none_or, lookup_tables]

variable {env : Option String} {given : Given}

theorem Lists.shownIn (lists : listing.Lists env given) (sound : listing.Sound depthLimit)
    (part : Part) : part.ShownIn given listing.members := by
  have found := lookup_part sound part
  cases table : listing.tables.lookup part with
  | none =>
    rw [table] at found
    refine .inr ⟨found, ?_⟩
    rintro field rfl
    have fields := lists.fields field
    rwa [under, table] at fields
  | some assignments =>
    rw [table] at found
    refine .inl ⟨_, found, ?_⟩
    rintro field rfl
    have fields := lists.fields field
    rwa [under, table] at fields

theorem Lists.read?_env (lists : listing.Lists env given) (defaultEnv : String) :
    (Fields.named listing.members).read? "env" 0 (Reading.exact true).text defaultEnv =
      some (env.getD defaultEnv) := by
  rw [Fields.read?, Fields.get?, members, List.lookup_append, lists.env, lookup_tables_env,
    Option.or_none]
  cases env <;> rfl

theorem Lists.ofToml_eq (lists : listing.Lists env given) (sound : listing.Sound depthLimit)
    (defaultEnv : String) :
    Settings.ofToml defaultEnv listing.text = .ok (given.settings (env.getD defaultEnv)) := by
  have decoded := Settings.decode?_of_shown Reading.faithful_exact (lists.read?_env defaultEnv)
    (lists.shownIn sound)
  rw [Settings.ofToml, parse?_text sound, Option.bind_some, decoded]

end Listing

/-! ### From the settings to the text -/

/-- A value as a document shows it. -/
def Kind.lineText : (kind : Kind) → kind.Value → List Char
  | text, value => (quoted value).toList
  | flag, true => ['t', 'r', 'u', 'e']
  | flag, false => ['f', 'a', 'l', 's', 'e']
  | word, value => (wordText value).toList

theorem written_datum {depth : Nat} (kind : Kind) (value : kind.Value) :
    Written depth (kind.lineText value) (kind.datum value) := by
  cases kind with
  | text => exact .quoted value
  | flag => cases value <;> exact .scalar rfl rfl
  | word =>
    have small := UInt64.toNat_lt value
    obtain ⟨c, text, shape, all, scalar⟩ := exists_digits (n := UInt64.toNat value) (by omega)
    have shown : Kind.word.lineText value = c :: text := by
      rw [← shape]
      exact String.toList_ofList
    rw [shown]
    exact .scalar all scalar

def Field.assignment (field : Field) (value : field.kind.Value) : Assignment :=
  ⟨field.name.toList, field.name, field.kind.lineText value, field.kind.datum value⟩

def Part.fields : Part → List Field
  | logging => [.level, .json]
  | stress => [.producers, .consumers, .itemsPerProducer, .capacity, .pinThreads, .timeoutMs]

theorem Part.mem_fields {part : Part} {field : Field} : field ∈ part.fields ↔ field.part = part := by
  cases part <;> cases field <;> decide

theorem isBare_fieldName (field : Field) : IsBare field.name := by
  cases field <;> exact ⟨by decide, rfl⟩

namespace Given

/-- The lines for those of the fields that are given. -/
def assignments (given : Given) (fields : List Field) : List Assignment :=
  fields.filterMap fun field => (given field).map field.assignment

variable (given : Given)

theorem exists_of_mem_assignments {fields : List Field} {a : Assignment}
    (member : a ∈ given.assignments fields) :
    ∃ (field : Field) (value : field.kind.Value), field.assignment value = a := by
  obtain ⟨field, -, shown⟩ := List.mem_filterMap.mp member
  obtain ⟨value, -, rfl⟩ := Option.map_eq_some_iff.mp shown
  exact ⟨field, value, rfl⟩

theorem sublist_keys (fields : List Field) :
    ((given.assignments fields).map Assignment.key).Sublist (fields.map Field.name) := by
  induction fields with
  | nil => exact .slnil
  | cons field fields ih =>
    cases value : given field with
    | none => simpa [assignments, value] using ih.cons field.name
    | some value' => simpa [assignments, value, Field.assignment] using ih.cons_cons field.name

theorem lookup_assignments {fields : List Field} {field : Field}
    (unique : ∀ other ∈ fields, other.name = field.name → other = field) :
    ((given.assignments fields).map Assignment.line).lookup field.name =
      if field ∈ fields then (given field).map field.kind.datum else none := by
  induction fields with
  | nil => rfl
  | cons first fields ih =>
    obtain ⟨here, others⟩ := List.forall_mem_cons.mp unique
    have rest := ih others
    by_cases same : first = field
    · subst same
      cases value : given first with
      | none =>
        rw [value, Option.map_none, ite_self] at rest
        simpa [assignments, value] using rest
      | some value' => simp [assignments, value, Field.assignment, Assignment.line]
    · have apart : field.name ≠ first.name := fun equal => same (here equal.symm)
      have other : field ≠ first := Ne.symm same
      cases value : given first with
      | none => simpa [assignments, value, other] using rest
      | some value' =>
        simpa [assignments, value, Field.assignment, Assignment.line, List.lookup_cons,
          beq_eq_false_iff_ne.mpr apart, other] using rest

theorem lines_assignments (part : Part) {depth : Nat} :
    Lines depth (given.assignments part.fields) where
  named a member := by
    obtain ⟨field, value, rfl⟩ := given.exists_of_mem_assignments member
    exact .bare (isBare_fieldName field)
  written a member := by
    obtain ⟨field, value, rfl⟩ := given.exists_of_mem_assignments member
    exact written_datum field.kind value
  distinct := by
    refine (given.sublist_keys part.fields).nodup ?_
    cases part <;> decide

/-- The name of the environment first and then both parts, each with what is given. -/
def listing (env : Option String) : Listing where
  top := env.toList.map fun name => ⟨"env".toList, "env", (quoted name).toList, .text name⟩
  tables := [(.logging, given.assignments Part.logging.fields),
    (.stress, given.assignments Part.stress.fields)]

theorem sound_listing (env : Option String) {depth : Nat} : (given.listing env).Sound depth where
  top := by
    cases env with
    | none => exact ⟨nofun, nofun, .nil⟩
    | some name =>
      have bare : IsBare "env" := ⟨by decide, rfl⟩
      refine ⟨fun a member => ?_, fun a member => ?_, List.nodup_singleton _⟩
      · obtain rfl := List.mem_singleton.mp member
        exact .bare bare
      · obtain rfl := List.mem_singleton.mp member
        dsimp only
        exact .quoted name
  under table member := by
    simp only [listing, List.mem_cons, List.not_mem_nil, or_false] at member
    rcases member with rfl | rfl
    · exact given.lines_assignments .logging
    · exact given.lines_assignments .stress
  parts := by
    simp [listing]
  apart part member := by
    cases env with
    | none => cases member
    | some name => exact part.name_ne_env (List.mem_singleton.mp member)

theorem lists_listing (env : Option String) : (given.listing env).Lists env given where
  env := by cases env <;> rfl
  fields field := by
    have under : (given.listing env).under field.part = given.assignments field.part.fields := by
      cases field.part <;> rfl
    rw [under, given.lookup_assignments, if_pos (Part.mem_fields.mpr rfl)]
    intro other inside named
    exact Field.eq_of_name (Part.mem_fields.mp inside) named

end Given

/-! ### All together -/

/-- Documents that list some of the fields. There is such a document for any of the fields and any
values, and all of them, whatever their order and whatever else they give, are read as one and the
same settings: those with the values that are listed and the defaults for the rest. Values for
unknown keys may be nested as deep as the reader goes. -/
theorem Settings.ofToml_of_lists (environment : Environment) (env : Option String) (given : Given) :
    (∃ listing : Listing, listing.Sound depthLimit ∧ listing.Lists env given) ∧
    ∃ settings : Settings,
      settings.env = env.getD ((environment.lookup "CIRCQ_ENV").getD "development") ∧
      (∀ field, settings.value field =
        (given field).getD ((Settings.default environment).value field)) ∧
      ∀ listing : Listing, listing.Sound depthLimit → listing.Lists env given →
        ofToml environment.defaultEnv listing.text = .ok settings := by
  refine ⟨⟨given.listing env, given.sound_listing env, given.lists_listing env⟩,
    given.settings (env.getD environment.defaultEnv), rfl, fun field => ?_,
    fun listing sound lists => lists.ofToml_eq sound environment.defaultEnv⟩
  rw [given.value_settings]
  cases field <;> rfl

/-- One field, a part without a header, and a key that means nothing with a key in quotes below. -/
theorem ofToml_of_producers :
    let inner : Assignment := ⟨['"', 'a', ' ', 'b', '"'], "a b",
      ['[', '1', ',', ' ', 't', 'r', 'u', 'e', ']'], .list [.whole 1, .bool true]⟩
    let unknown : Assignment :=
      ⟨['x'], "x", '\x7b' :: closed '\x7d' [inner.shown], .table [inner.line]⟩
    let eight : Assignment := ⟨"producers".toList, "producers", ['8'], .whole 8⟩
    let listing : Listing := ⟨[unknown], [(.stress, [eight])]⟩
    let given : Given := fun
      | .producers => some (8 : UInt64)
      | .level | .json | .consumers | .itemsPerProducer | .capacity | .pinThreads | .timeoutMs => none
    listing.text = "x = \x7b\"a b\" = [1, true]\x7d\n[stress]\nproducers = 8\n" ∧
      listing.Sound depthLimit ∧ listing.Lists none given ∧
      Settings.ofToml "development" listing.text =
        .ok { env := "development", stress := { producers := 8 } } := by
  intro inner unknown eight listing given
  have items : Written 79 inner.text inner.value := by
    refine .list [(['1'], .whole 1), (['t', 'r', 'u', 'e'], .bool true)] ?_
    simp only [List.forall_mem_cons]
    exact ⟨.scalar rfl rfl, .scalar rfl rfl, nofun⟩
  have table : Written depthLimit unknown.text unknown.value :=
    .table [inner] (List.forall_mem_singleton.mpr (.quoted "a b"))
      (List.forall_mem_singleton.mpr items) (List.nodup_singleton _)
  have x : IsBare "x" := ⟨by decide, rfl⟩
  have producers : IsBare "producers" := ⟨by decide, rfl⟩
  have sound : listing.Sound depthLimit := by
    refine ⟨⟨?_, ?_, List.nodup_singleton _⟩, ?_, List.nodup_singleton _, ?_⟩
    · exact List.forall_mem_singleton.mpr (.bare x)
    · exact List.forall_mem_singleton.mpr table
    · refine List.forall_mem_singleton.mpr ⟨?_, ?_, List.nodup_singleton _⟩
      · exact List.forall_mem_singleton.mpr (.bare producers)
      · exact List.forall_mem_singleton.mpr (.scalar rfl rfl)
    · intro part
      cases part <;> decide
  have lists : listing.Lists none given := ⟨rfl, fun field => by cases field <;> rfl⟩
  have text : listing.text = "x = \x7b\"a b\" = [1, true]\x7d\n[stress]\nproducers = 8\n" := by decide
  obtain ⟨-, settings, env, values, read⟩ := Settings.ofToml_of_lists [] none given
  have same : settings = { env := "development", stress := { producers := 8 } } :=
    Settings.ext_value env fun field => by
      rw [values]
      cases field <;> rfl
  exact ⟨text, sound, lists, same ▸ read listing sound lists⟩

/-- Deeper than the reader goes, a value under an unknown key makes the whole document unreadable. -/
theorem ofToml_of_too_deep :
    let listing : Listing := ⟨[⟨['x'], "x", brackets 81, nested 80⟩], []⟩
    listing.Sound 81 ∧ listing.Lists none .nothing ∧
      Settings.ofToml "development" listing.text = .error .unreadable := by
  intro listing
  have bare : IsBare "x" := ⟨by decide, rfl⟩
  have name : Names ['x'] "x" := .bare bare
  refine ⟨⟨⟨?_, ?_, List.nodup_singleton _⟩, nofun, .nil, ?_⟩, ⟨rfl, fun _ => rfl⟩, ?_⟩
  · exact List.forall_mem_singleton.mpr name
  · exact List.forall_mem_singleton.mpr (written_nested 80)
  · intro part
    cases part <;> decide
  · have unread := parse?_too_deep name (.replicate 81 ']' ++ ['\n'])
    have same : linesText listing.top ++ listing.tables.flatMap Listing.tableText =
        ['x'] ++ ' ' :: '=' :: ' ' ::
          (List.replicate (depthLimit + 1) '[' ++ (List.replicate 81 ']' ++ ['\n'])) := by
      simp only [listing, linesText, List.flatMap_cons, List.flatMap_nil, Assignment.shown, brackets,
        List.append_assoc, List.append_nil, List.cons_append, depthLimit]
    rw [Settings.ofToml, Listing.text, same, unread]
    rfl

end RingQueue
