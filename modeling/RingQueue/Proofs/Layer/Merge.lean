import RingQueue.Layer.Merge
import RingQueue.Layer.Coerce
import RingQueue.Proofs.Settings.Field

/-! Layers of values. What a layer gives for a field takes the place of what was there, and what it
does not give stays as it was, whatever else the layer holds. -/
namespace RingQueue

/-- The member of a name, if the value is a table that has one. -/
def Datum.member? (value : Datum) (name : String) : Option Datum := value.members.lookup name

/-- The value that nested tables hold for a field. -/
def Field.datum? (field : Field) (root : Datum) : Option Datum :=
  (root.member? field.part.name).bind (·.member? field.name)

theorem Field.datum?_eq (field : Field) (root : Datum) :
    field.datum? root = ((root.member? field.part.name).getD .nil).member? field.name := by
  rw [Field.datum?]
  cases root.member? field.part.name <;> rfl

namespace Layer

/-! ### Members -/

theorem lookup_updateMember (name : String) (change : Datum → Datum)
    (members : List (String × Datum)) (other : String) :
    (updateMember name change members).lookup other =
      if other = name then some (change ((members.lookup name).getD .nil))
      else members.lookup other := by
  induction members with
  | nil =>
    by_cases same : other = name
    · simp [updateMember, same]
    · simp [updateMember, List.lookup_cons, beq_eq_false_iff_ne.mpr same, if_neg same]
  | cons member members ih =>
    obtain ⟨key, value⟩ := member
    rw [updateMember]
    by_cases here : key = name
    · subst here
      by_cases same : other = key
      · simp [same]
      · simp [List.lookup_cons, beq_eq_false_iff_ne.mpr same, if_neg same]
    · simp only [if_neg here, List.lookup_cons, ih]
      by_cases same : other = key
      · have different : other ≠ name := fun equal => here (same.symm.trans equal)
        simp [same, here]
      · simp [beq_eq_false_iff_ne.mpr same, beq_eq_false_iff_ne.mpr (Ne.symm here)]

/-- A value that takes the place of any other. -/
def Replaces (value : Datum) : Prop := ∀ old, overlay old value = value

theorem replaces_datum (kind : Kind) (value : kind.Value) : Replaces (kind.datum value) := by
  intro old
  cases kind <;> rfl

variable {name : String} {fields : List (String × Datum)}

theorem lookup_overlayMembers_of_absent (absent : ∀ value, (name, value) ∉ fields)
    (old : List (String × Datum)) :
    (overlayMembers old fields).lookup name = old.lookup name := by
  induction fields generalizing old with
  | nil => rfl
  | cons member fields ih =>
    obtain ⟨key, value⟩ := member
    have other : name ≠ key := fun same => absent value (by simp [same])
    rw [overlayMembers, ih fun value member => absent value (List.mem_cons_of_mem _ member),
      lookup_updateMember, if_neg other]

theorem lookup_overlayMembers_of_present {value : Datum} (replaces : Replaces value)
    (all : ∀ other, (name, other) ∈ fields → other = value) (present : (name, value) ∈ fields)
    (old : List (String × Datum)) :
    (overlayMembers old fields).lookup name = some value := by
  induction fields generalizing old with
  | nil => cases present
  | cons member fields ih =>
    obtain ⟨key, first⟩ := member
    have rest (other : Datum) (member : (name, other) ∈ fields) : other = value :=
      all other (List.mem_cons_of_mem _ member)
    rw [overlayMembers]
    by_cases again : (name, value) ∈ fields
    · exact ih rest again _
    · have absent (other : Datum) : (name, other) ∉ fields := fun member =>
        again (rest other member ▸ member)
      obtain ⟨rfl, rfl⟩ : name = key ∧ value = first := by
        rcases List.mem_cons.mp present with here | later
        · exact Prod.mk.inj here
        · exact absurd later again
      rw [lookup_overlayMembers_of_absent absent, lookup_updateMember, if_pos rfl, replaces]

/-! ### One entry -/

theorem placeOf_eq_cons (key : String) : ∃ name rest, placeOf key = .member name :: rest := by
  rw [placeOf]
  cases parsed : name? key.toList with
  | none => exact ⟨key, [], rfl⟩
  | some found =>
    cases followed : steps? found.2.length found.2 with
    | none => exact ⟨key, [], by simp [followed]⟩
    | some rest => exact ⟨found.1, rest, by simp [followed]⟩

theorem member?_setAt (whole : Datum) (name : String) (rest : List Step) (root : Datum)
    (other : String) :
    (setAt whole (.member name :: rest) root).member? other =
      if other = name then some (setAt whole rest ((root.member? name).getD .nil))
      else root.member? other :=
  lookup_updateMember name (setAt whole rest) root.members other

/-- The names that have a meaning at the top. -/
def topNames : List String := ["env", "logging", "stress"]

theorem name_mem_topNames (part : Part) : part.name ∈ topNames := by
  cases part <;> decide

/-- The entries that a layer may have: a name of the environment, tables of fields, single fields,
what stands beside the fields in their tables, and whatever has nothing to do with settings. -/
inductive Entry : String → Datum → Prop
  | env (value : Datum) : (text? value).isSome → Entry "env" value
  | part (part : Part) (fields : List (String × Datum)) : Entry part.name (.table fields)
  | field (field : Field) (key : String) (value : field.kind.Value) :
    placeOf key = [.member field.part.name, .member field.name] →
    Entry key (field.kind.datum value)
  | beside (part : Part) (key name : String) (rest : List Step) (value : Datum) :
    placeOf key = .member part.name :: .member name :: rest →
    (∀ field : Field, field.part = part → field.name ≠ name) → Entry key value
  | other (key : String) (value : Datum) :
    (∀ name ∈ topNames, ∀ rest, placeOf key ≠ .member name :: rest) → Entry key value

/-- An entry has a value for a field, by itself or in a table. -/
inductive Sets : String → Datum → Field → Datum → Prop
  | inside (field : Field) (fields : List (String × Datum)) (value : Datum) :
    (field.name, value) ∈ fields → Sets field.part.name (.table fields) field value
  | alone (field : Field) (key : String) (value : Datum) :
    placeOf key = [.member field.part.name, .member field.name] → Sets key value field value

theorem placeOf_part (part : Part) : placeOf part.name = [.member part.name] := by
  cases part <;> decide

theorem placeOf_env : placeOf "env" = [.member "env"] := by decide

variable {key : String} {whole value root : Datum} {field : Field}

/-- An entry for a single field sets no other. -/
theorem Sets.of_place {other : Field} (sets : Sets key whole field value)
    (place : placeOf key = [.member other.part.name, .member other.name]) :
    field = other ∧ value = whole := by
  cases sets with
  | inside fields value member =>
    rw [placeOf_part] at place
    cases (List.cons.inj place).2
  | alone _ _ _ here =>
    obtain ⟨part, rest⟩ := List.cons.inj (here.symm.trans place)
    have name := Step.member.inj (List.cons.inj rest).1
    exact ⟨Field.eq_of_name (Part.eq_of_name (Step.member.inj part)) name, rfl⟩

theorem Sets.of_part {part : Part} {fields : List (String × Datum)}
    (sets : Sets part.name (.table fields) field value) :
    field.part = part ∧ (field.name, value) ∈ fields := by
  generalize named : part.name = name at sets
  generalize held : Datum.table fields = table at sets
  cases sets with
  | inside _ members _ member =>
    obtain rfl := Datum.table.inj held
    exact ⟨(Part.eq_of_name named).symm, member⟩
  | alone _ _ _ place =>
    rw [← named, placeOf_part] at place
    cases (List.cons.inj place).2

theorem not_sets_env : ¬ Sets "env" whole field value := by
  intro sets
  generalize named : "env" = name at sets
  cases sets with
  | inside => exact field.part.name_ne_env named.symm
  | alone _ _ _ place =>
    rw [← named, placeOf_env] at place
    cases (List.cons.inj place).2

theorem datum?_setAt_of_sets (sets : Sets key whole field value) (replaces : Replaces value)
    (all : ∀ other, Sets key whole field other → other = value) (root : Datum) :
    field.datum? (setAt whole (placeOf key) root) = some value := by
  rw [Field.datum?_eq]
  cases sets with
  | inside _ fields _ present =>
    rw [placeOf_part, member?_setAt, if_pos rfl]
    exact lookup_overlayMembers_of_present replaces
      (fun other member => all other (.inside field fields other member)) present _
  | alone _ _ _ place =>
    rw [place, member?_setAt, if_pos rfl, Option.getD_some, member?_setAt, if_pos rfl]
    exact congrArg some (replaces _)

theorem datum?_setAt_of_not_sets (entry : Entry key whole)
    (never : ∀ value, ¬ Sets key whole field value) (root : Datum) :
    field.datum? (setAt whole (placeOf key) root) = field.datum? root := by
  rw [Field.datum?_eq, Field.datum?_eq]
  cases entry with
  | env _ =>
    rw [placeOf_env, member?_setAt, if_neg field.part.name_ne_env]
  | part part fields =>
    rw [placeOf_part, member?_setAt]
    by_cases same : field.part = part
    · subst same
      rw [if_pos rfl, Option.getD_some]
      exact lookup_overlayMembers_of_absent
        (fun value member => never value (.inside field fields value member)) _
    · rw [if_neg fun equal => same (Part.eq_of_name equal)]
  | field other _ value place =>
    rw [place, member?_setAt]
    by_cases same : field.part = other.part
    · have different : field.name ≠ other.name := fun equal => by
        obtain rfl := Field.eq_of_name same equal
        exact never _ (.alone field key _ place)
      rw [if_pos (congrArg Part.name same), Option.getD_some, member?_setAt, if_neg different, same]
    · rw [if_neg fun equal => same (Part.eq_of_name equal)]
  | beside part _ name rest _ place unknown =>
    rw [place, member?_setAt]
    by_cases same : field.part = part
    · rw [if_pos (congrArg Part.name same), Option.getD_some, member?_setAt,
        if_neg (unknown field same), same]
    · rw [if_neg fun equal => same (Part.eq_of_name equal)]
  | other _ _ apart =>
    obtain ⟨name, rest, place⟩ := placeOf_eq_cons key
    have different : field.part.name ≠ name := fun equal =>
      apart name (equal ▸ name_mem_topNames field.part) rest place
    rw [place, member?_setAt, if_neg different]

/-! ### Many entries -/

/-- What settings can be read from: a table, in which the tables of fields are tables. -/
structure Sound (root : Datum) : Prop where
  table : ∃ members, root = .table members
  env : ∀ value, root.member? "env" = some value → (text? value).isSome
  parts : ∀ (part : Part) value, root.member? part.name = some value →
    ∃ fields, value = .table fields

theorem replaces_of_text {value : Datum} (text : (text? value).isSome) : Replaces value := by
  intro old
  cases value <;> first | rfl | cases text

/-- What an entry does to the members that have a meaning: it leaves them alone, or puts a name of
the environment or a table in their place. -/
theorem Entry.member?_setAt (entry : Entry key whole) (root : Datum) {name : String}
    (top : name ∈ topNames) :
    (setAt whole (placeOf key) root).member? name = root.member? name ∨
      (name = "env" ∧ ∃ value, (setAt whole (placeOf key) root).member? name = some value ∧
        (text? value).isSome) ∨
      ((∃ part : Part, name = part.name) ∧
        ∃ fields, (setAt whole (placeOf key) root).member? name = some (.table fields)) := by
  cases entry with
  | env _ text =>
    rw [placeOf_env, Layer.member?_setAt]
    split
    · rename_i same
      exact .inr (.inl ⟨same, whole, by rw [Layer.setAt, replaces_of_text text], text⟩)
    · exact .inl rfl
  | part part fields =>
    rw [placeOf_part, Layer.member?_setAt]
    split
    · rename_i same
      exact .inr (.inr ⟨⟨part, same⟩, _, rfl⟩)
    · exact .inl rfl
  | field field _ value place =>
    rw [place, Layer.member?_setAt]
    split
    · rename_i same
      exact .inr (.inr ⟨⟨field.part, same⟩, _, rfl⟩)
    · exact .inl rfl
  | beside part _ _ rest _ place =>
    rw [place, Layer.member?_setAt]
    split
    · rename_i same
      exact .inr (.inr ⟨⟨part, same⟩, _, rfl⟩)
    · exact .inl rfl
  | other _ _ apart =>
    obtain ⟨first, rest, place⟩ := placeOf_eq_cons key
    have different : name ≠ first := fun same => apart name top rest (same ▸ place)
    rw [place, Layer.member?_setAt, if_neg different]
    exact .inl rfl

theorem Sound.setAt (sound : Sound root) (entry : Entry key whole) :
    Sound (setAt whole (placeOf key) root) where
  table := by
    obtain ⟨name, rest, place⟩ := placeOf_eq_cons key
    rw [place]
    exact ⟨_, rfl⟩
  env value found := by
    rcases entry.member?_setAt root (by decide : "env" ∈ topNames) with
      same | ⟨-, named, here, text⟩ | ⟨⟨part, same⟩, -⟩
    · exact sound.env value (same ▸ found)
    · obtain rfl := Option.some.inj (here.symm.trans found)
      exact text
    · exact absurd same.symm part.name_ne_env
  parts part value found := by
    rcases entry.member?_setAt root (name_mem_topNames part) with
      same | ⟨same, -⟩ | ⟨-, fields, here⟩
    · exact sound.parts part value (same ▸ found)
    · exact absurd same part.name_ne_env
    · exact ⟨fields, (Option.some.inj (here.symm.trans found)).symm⟩

variable {entries : List (String × Datum)}

theorem Sound.apply (sound : Sound root)
    (each : ∀ key whole, (key, whole) ∈ entries → Entry key whole) :
    Sound (apply root entries) := by
  induction entries generalizing root with
  | nil => exact sound
  | cons entry entries ih =>
    exact ih (sound.setAt (each _ _ List.mem_cons_self))
      fun key whole member => each key whole (List.mem_cons_of_mem _ member)

theorem datum?_apply_of_absent (each : ∀ key whole, (key, whole) ∈ entries → Entry key whole)
    (absent : ∀ key whole value, (key, whole) ∈ entries → ¬ Sets key whole field value)
    (root : Datum) : field.datum? (apply root entries) = field.datum? root := by
  induction entries generalizing root with
  | nil => rfl
  | cons entry entries ih =>
    have rest := ih (fun key whole member => each key whole (List.mem_cons_of_mem _ member))
      fun key whole value member => absent key whole value (List.mem_cons_of_mem _ member)
    have first := datum?_setAt_of_not_sets (each _ _ List.mem_cons_self)
      (fun value => absent _ _ value List.mem_cons_self) root
    exact (rest _).trans first

theorem datum?_apply_of_present (each : ∀ key whole, (key, whole) ∈ entries → Entry key whole)
    (replaces : Replaces value)
    (all : ∀ key whole other, (key, whole) ∈ entries → Sets key whole field other → other = value)
    (present : ∃ key whole, (key, whole) ∈ entries ∧ Sets key whole field value) (root : Datum) :
    field.datum? (apply root entries) = some value := by
  induction entries generalizing root with
  | nil =>
    obtain ⟨_, _, member, _⟩ := present
    cases member
  | cons entry entries ih =>
    have eachRest (key whole) (member : (key, whole) ∈ entries) : Entry key whole :=
      each key whole (List.mem_cons_of_mem _ member)
    have allRest (key whole other) (member : (key, whole) ∈ entries) :
        Sets key whole field other → other = value :=
      all key whole other (List.mem_cons_of_mem _ member)
    by_cases again : ∃ key whole, (key, whole) ∈ entries ∧ Sets key whole field value
    · exact ih eachRest allRest again _
    · have absent (key whole other) (member : (key, whole) ∈ entries) :
          ¬ Sets key whole field other := fun sets => by
        obtain rfl := allRest key whole other member sets
        exact again ⟨key, whole, member, sets⟩
      obtain ⟨key, whole, member, sets⟩ := present
      obtain rfl : (key, whole) = entry := by
        rcases List.mem_cons.mp member with here | later
        · exact here
        · exact absurd ⟨key, whole, later, sets⟩ again
      exact (datum?_apply_of_absent eachRest absent _).trans
        (datum?_setAt_of_sets sets replaces
          (fun other => all key whole other List.mem_cons_self) root)

/-! ### Layers -/

/-- Entries that give some of the fields their values. -/
structure Gives (entries : List (String × Datum)) (given : Given) : Prop where
  each : ∀ key whole, (key, whole) ∈ entries → Entry key whole
  fields : ∀ field value, (∃ key whole, (key, whole) ∈ entries ∧ Sets key whole field value) ↔
    (given field).map field.kind.datum = some value

/-- A root that shows values for some of the fields. -/
structure Shows (root : Datum) (given : Given) : Prop where
  sound : Sound root
  fields : ∀ field : Field, field.datum? root = (given field).map field.kind.datum

theorem shows_empty : Shows (.table []) .nothing where
  sound := ⟨⟨[], rfl⟩, nofun, nofun⟩
  fields _ := rfl

theorem gives_nil : Gives [] .nothing := ⟨nofun, by simp [Given.nothing]⟩

/-- One more layer. -/
theorem Shows.apply {sources : List Given} {given : Given} (shows : Shows root (.last sources))
    (gives : Gives entries given) : Shows (apply root entries) (.last (sources ++ [given])) where
  sound := shows.sound.apply gives.each
  fields field := by
    rw [Given.last_append]
    cases here : given field with
    | none =>
      have absent (key whole value) (member : (key, whole) ∈ entries) :
          ¬ Sets key whole field value := fun sets => by
        have value := (gives.fields field value).mp ⟨key, whole, member, sets⟩
        rw [here] at value
        cases value
      rw [datum?_apply_of_absent gives.each absent, shows.fields]
      rfl
    | some value =>
      have all (key whole other) (member : (key, whole) ∈ entries)
          (sets : Sets key whole field other) : other = field.kind.datum value := by
        have same := (gives.fields field other).mp ⟨key, whole, member, sets⟩
        rw [here] at same
        exact (Option.some.inj same).symm
      have present := (gives.fields field (field.kind.datum value)).mpr (by rw [here]; rfl)
      rw [datum?_apply_of_present gives.each (replaces_datum _ value) all present]
      rfl

end Layer
end RingQueue
