import RingQueue.Files.Tree
import RingQueue.Proofs.Text.Lines

/-! Files within a directory. The path of a plain name within it leads to the entry of that name,
and writing a file changes what is read there and nowhere else. -/
namespace RingQueue.Files

/-- A name that a file can have in a directory. -/
structure IsName (name : String) : Prop where
  nonempty : name ≠ ""
  single : '/' ∉ name.toList
  ne_here : name ≠ "."
  ne_above : name ≠ ".."

namespace IsName

variable {name : String}

theorem split_eq (plain : IsName name) : split name = [name.toList] :=
  Text.pieces_of_not_mem plain.single

theorem toList_ne (plain : IsName name) :
    name.toList ≠ [] ∧ name.toList ≠ ['.'] ∧ name.toList ≠ ['.', '.'] := by
  have other (text : String) (different : name ≠ text) : name.toList ≠ text.toList :=
    fun same => different (String.toList_inj.mp same)
  exact ⟨other "" plain.nonempty, other "." plain.ne_here, other ".." plain.ne_above⟩

theorem not_isAbsolute (plain : IsName name) : isAbsolute name = false := by
  rw [isAbsolute]
  cases shape : name.toList with
  | nil => rfl
  | cons c rest =>
    have slash : c ≠ '/' := fun same => plain.single (by simp [shape, same])
    simp [slash]

end IsName

variable {directory name : String}

/-- The three ways in which a name is put behind a directory. -/
theorem split_join (directory : String) (plain : IsName name) :
    ∃ front, split (join directory name) = front ++ [name.toList] ∧
      steps directory = (front.filter fun piece => piece ≠ [] && piece ≠ ['.']).map .ofList := by
  rw [join]
  by_cases none : directory = ""
  · rw [if_pos (.inr none), plain.split_eq, none]
    exact ⟨[], rfl, rfl⟩
  rw [if_neg (by simp [plain.not_isAbsolute, none])]
  split
  · rename_i last
    obtain ⟨front, shape⟩ := List.getLast?_eq_some_iff.mp last
    refine ⟨Text.pieces '/' front, ?_, ?_⟩
    · rw [split, String.toList_append, shape, List.append_assoc, List.singleton_append,
        Text.pieces_append, Text.pieces_of_not_mem plain.single]
    · simp [steps, split, shape, Text.pieces_append, Text.pieces]
  · refine ⟨split directory, ?_, rfl⟩
    rw [split, String.toList_append, String.toList_append]
    show Text.pieces '/' (directory.toList ++ ['/'] ++ name.toList) = _
    rw [List.append_assoc, List.singleton_append, Text.pieces_append,
      Text.pieces_of_not_mem plain.single]
    rfl

theorem steps_join (directory : String) (plain : IsName name) :
    steps (join directory name) = steps directory ++ [name] := by
  obtain ⟨front, shape, before⟩ := split_join directory plain
  have ⟨nonempty, here, _⟩ := plain.toList_ne
  rw [before, steps, shape, List.filter_append, List.map_append]
  simp [nonempty, here]

theorem namesDirectory_join (plain : IsName name) :
    namesDirectory (join directory name) = false := by
  obtain ⟨front, shape, -⟩ := split_join directory plain
  have ⟨nonempty, here, above⟩ := plain.toList_ne
  simp [namesDirectory, shape, nonempty, here, above]

theorem isAbsolute_join (plain : IsName name) :
    isAbsolute (join directory name) = isAbsolute directory := by
  have relative := plain.not_isAbsolute
  rw [join]
  by_cases none : directory = ""
  · rw [if_pos (.inr none), relative, none]
    rfl
  rw [if_neg (by simp [relative, none])]
  have start : directory.toList ≠ [] := fun empty => none (String.toList_inj.mp empty)
  obtain ⟨c, rest, shape⟩ := List.exists_cons_of_ne_nil start
  split <;> simp [isAbsolute, shape]

/-- Besides the directory's own characters there is at most a slash in front of the name. -/
theorem mem_join {c : Char} (member : c ∈ (join directory name).toList) :
    c ∈ directory.toList ∨ c = '/' ∨ c ∈ name.toList := by
  rw [join] at member
  split at member
  · exact .inr (.inr member)
  · split at member
    · rcases List.mem_append.mp (String.toList_append ▸ member) with front | back
      · exact .inl front
      · exact .inr (.inr back)
    · have slash : "/".toList = ['/'] := rfl
      simpa only [String.toList_append, slash, List.mem_append, List.mem_singleton, or_assoc]
        using member

/-- What is put behind a name is put behind the path of the name. -/
theorem join_append (plain : IsName name) (ending : String) :
    join directory name ++ ending = join directory (name ++ ending) := by
  have relative : isAbsolute (name ++ ending) = false := by
    have before := plain.not_isAbsolute
    obtain ⟨c, rest, shape⟩ := List.exists_cons_of_ne_nil plain.toList_ne.1
    simpa [isAbsolute, shape] using before
  simp only [join, relative, plain.not_isAbsolute]
  split
  · rfl
  · split <;> simp [String.append_assoc]

namespace Tree

variable {tree : Tree} {location : List String} {content : ByteArray}

theorem walk_append (tree : Tree) (location : List String) (front back : List String) :
    tree.walk location (front ++ back) =
      (tree.walk location front).bind fun reached => tree.walk reached back := by
  induction front generalizing location with
  | nil => rfl
  | cons step front ih =>
    rw [List.cons_append, walk, walk]
    split
    · exact ih _
    · rfl

/-- A directory that a path leads to. -/
structure Located (tree : Tree) (directory : String) (location : List String) : Prop where
  located : tree.locate directory = some location
  isDirectory : tree.isDirectoryAt location = true

/-- A name whose path can be followed. -/
structure Reaches (tree : Tree) (directory name : String) : Prop where
  unbroken : '\x00' ∉ name.toList
  short : (join tree.currentPath (join directory name)).utf8ByteSize ≤ longestPath

theorem walk_join (there : tree.Located directory location) (plain : IsName name) :
    tree.walk (if isAbsolute (join directory name) then [] else tree.current)
      (steps (join directory name)) = some (location ++ [name]) := by
  have located := there.located
  rw [locate] at located
  split at located
  · cases located
  · rw [isAbsolute_join plain, steps_join directory plain, walk_append, located, Option.bind_some,
      walk, if_pos there.isDirectory, if_neg plain.ne_above]
    rfl

theorem Located.locate_join (there : tree.Located directory location) (plain : IsName name)
    (reaches : tree.Reaches directory name) :
    tree.locate (join directory name) = some (location ++ [name]) := by
  have located := there.located
  rw [locate] at located
  split at located
  · cases located
  · rename_i fine
    have nonempty : join directory name ≠ "" := fun empty => by
      have last := steps_join directory plain
      rw [empty] at last
      exact absurd last.symm (by simp [steps, split, Text.pieces])
    have unbroken : '\x00' ∉ (join directory name).toList := fun member => by
      rcases mem_join member with front | slash | back
      · exact fine (.inr (.inl front))
      · exact absurd slash (by decide)
      · exact reaches.unbroken back
    have short := Nat.not_lt.mpr reaches.short
    rw [locate, if_neg (by simp only [nonempty, unbroken, short, or_self, not_false_eq_true]),
      walk_join there plain]

theorem Located.locate_join_of_some (there : tree.Located directory location)
    (plain : IsName name) {reached : List String}
    (leads : tree.locate (join directory name) = some reached) :
    reached = location ++ [name] := by
  rw [locate] at leads
  split at leads
  · cases leads
  · rw [walk_join there plain] at leads
    exact (Option.some.inj leads).symm

theorem Located.read?_join (there : tree.Located directory location) (plain : IsName name)
    (reaches : tree.Reaches directory name)
    (entry : tree.entry? (location ++ [name]) = some (.file content)) :
    tree.read? (join directory name) = some content := by
  rw [read?, find?, there.locate_join plain reaches, Option.bind_some, entry]
  simp [namesDirectory_join plain]

theorem Located.read?_join_eq_none (there : tree.Located directory location) (plain : IsName name)
    (vacant : ∀ content, tree.entry? (location ++ [name]) ≠ some (.file content)) :
    tree.read? (join directory name) = none := by
  rw [read?, find?]
  cases leads : tree.locate (join directory name) with
  | none => rfl
  | some reached =>
    obtain rfl := there.locate_join_of_some plain leads
    rw [Option.bind_some]
    cases entry : tree.entry? (location ++ [name]) with
    | none => rfl
    | some found =>
      cases found with
      | file content => exact absurd entry (vacant content)
      | directory => rfl

/-! ### Writing -/

/-- The tree with a file at a location. -/
def put (tree : Tree) (location : List String) (content : ByteArray) : Tree :=
  { tree with entries := (location, .file content) :: tree.entries }

theorem entry?_put (nonempty : location ≠ []) (tree : Tree) (content : ByteArray)
    (other : List String) :
    Tree.entry? (tree.put location content) other =
      if other = location then some (.file content) else tree.entry? other := by
  simp only [put, entry?, List.lookup_cons]
  by_cases same : other = location
  · simp [same, nonempty]
  · simp only [beq_eq_false_iff_ne.mpr same, if_neg same]

theorem isDirectoryAt_put (nonempty : location ≠ []) (free : tree.isDirectoryAt location = false)
    (content : ByteArray) (other : List String) :
    (tree.put location content).isDirectoryAt other = tree.isDirectoryAt other := by
  rw [isDirectoryAt, entry?_put nonempty]
  by_cases same : other = location
  · rw [if_pos same, same, free]
  · rw [if_neg same]
    rfl

/-- Where no directory was, a file changes no way. -/
theorem locate_put (nonempty : location ≠ []) (free : tree.isDirectoryAt location = false)
    (content : ByteArray) (path : String) :
    (tree.put location content).locate path = tree.locate path := by
  have ways (start : List String) (steps : List String) :
      (tree.put location content).walk start steps = tree.walk start steps := by
    induction steps generalizing start with
    | nil => rfl
    | cons step steps ih => rw [walk, walk, isDirectoryAt_put nonempty free, ih]
  simp only [locate, ways]
  rfl

theorem Located.put (there : tree.Located directory location) {file : List String}
    (nonempty : file ≠ []) (free : tree.isDirectoryAt file = false) (content : ByteArray) :
    (tree.put file content).Located directory location where
  located := by rw [locate_put nonempty free, there.located]
  isDirectory := by rw [isDirectoryAt_put nonempty free, there.isDirectory]

theorem Reaches.put (reaches : tree.Reaches directory name) (file : List String)
    (content : ByteArray) : (tree.put file content).Reaches directory name :=
  ⟨reaches.unbroken, reaches.short⟩

theorem Located.write?_join (there : tree.Located directory location) (plain : IsName name)
    (reaches : tree.Reaches directory name) (content : ByteArray)
    (free : tree.isDirectoryAt (location ++ [name]) = false)
    (short : ∀ step ∈ location ++ [name], step.utf8ByteSize ≤ longestName) :
    tree.write? (join directory name) content = some (tree.put (location ++ [name]) content) := by
  have named : ((location ++ [name]).any (longestName < ·.utf8ByteSize)) = false :=
    List.any_eq_false.mpr fun step member => by simpa using short step member
  rw [write?, namesDirectory_join plain, there.locate_join plain reaches]
  simp only [List.dropLast_concat, there.isDirectory, free, named]
  rfl

end Tree
end RingQueue.Files
