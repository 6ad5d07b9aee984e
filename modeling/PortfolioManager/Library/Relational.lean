import Mathlib.Data.List.Induction
import Mathlib.Data.List.Pairwise
import Mathlib.Tactic.Common

/-! # Tables with keys and references

Rows map column names to values, and NULL is `none`. An INSERT is checked against the column types, the keys
and the references of its table. A DELETE takes along the rows that refer to a deleted row through a cascading
reference, and fails if one that refers through another reference is left behind. A schema lists a table after
the tables it refers to, so one pass over it finds everything that a DELETE takes along.
-/

namespace Relational

inductive OnDelete where
  | noAction
  | cascade
deriving DecidableEq

structure Column (V : Type*) where
  name : String
  nullable : Bool
  admits : V → Bool

structure Reference where
  columns : List String
  target : String
  targetColumns : List String
  onDelete : OnDelete
deriving DecidableEq

/-- A table; the primary key is the first of its keys. -/
structure Table (V : Type*) where
  name : String
  columns : List (Column V)
  keys : List (List String)
  references : List Reference

abbrev Schema (V : Type*) := List (Table V)

abbrev Row (V : Type*) := String → Option V

abbrev Database (V : Type*) := String → List (Row V)

variable {V : Type*}

/-- The values of a row in some columns, unless one of them is NULL. -/
def tuple (row : Row V) : List String → Option (List V)
  | [] => some []
  | column :: rest =>
      match row column, tuple row rest with
      | some value, some values => some (value :: values)
      | _, _ => none

variable [DecidableEq V]

/-- Both rows have the same values in their columns, and no NULL among them. -/
def agree (row other : Row V) (columns otherColumns : List String) : Bool :=
  (tuple row columns).isSome && tuple row columns = tuple other otherColumns

/-- A reference with a NULL in it is satisfied, and any other by a row of its target. -/
def satisfied (db : Database V) (row : Row V) (reference : Reference) : Bool :=
  (tuple row reference.columns).isNone ||
    (db reference.target).any fun parent => agree row parent reference.columns reference.targetColumns

def Column.fits (column : Column V) (row : Row V) : Bool :=
  match row column.name with
  | none => column.nullable
  | some value => column.admits value

inductive Violation where
  | undefinedTable
  | column (name : String)
  | key (columns : List String)
  | reference (reference : Reference)
deriving DecidableEq

/-- What an INSERT into a table checks, in this order. -/
def violation? (db : Database V) (table : Table V) (row : Row V) : Option Violation :=
  match table.columns.find? fun column => !column.fits row with
  | some column => some (.column column.name)
  | none =>
      match table.keys.find? fun key => (db table.name).any fun other => agree row other key key with
      | some key => some (.key key)
      | none => (table.references.find? fun reference => !satisfied db row reference).map .reference

def insert (schema : Schema V) (name : String) (row : Row V) (db : Database V) : Except Violation (Database V) :=
  match schema.find? (·.name = name) with
  | none => .error .undefinedTable
  | some table =>
      match violation? db table row with
      | some violation => .error violation
      | none => .ok (Function.update db name (db name ++ [row]))

/-- The rows a DELETE takes away: the ones it selects, and the ones that refer to such rows and cascade. -/
def doom (db : Database V) (name : String) (selects : Row V → Bool) :
    Schema V → (String → Row V → Bool) → String → Row V → Bool
  | [], doomed => doomed
  | table :: rest, doomed =>
      doom db name selects rest (Function.update doomed table.name fun row =>
        (table.name = name && selects row) ||
          table.references.any fun reference => reference.onDelete = .cascade &&
            (db reference.target).any fun parent => doomed reference.target parent &&
              agree row parent reference.columns reference.targetColumns)

/-- The rows that a DELETE on a database takes away. -/
def doomed (schema : Schema V) (db : Database V) (name : String) (selects : Row V → Bool) : String → Row V → Bool :=
  doom db name selects schema fun _ _ => false

/-- What a DELETE leaves. -/
def survivors (schema : Schema V) (db : Database V) (name : String) (selects : Row V → Bool) : Database V :=
  fun table => (db table).filter fun row => !doomed schema db name selects table row

/-- A reference that a database leaves unsatisfied. -/
def dangling? (schema : Schema V) (db : Database V) : Option Reference :=
  schema.findSome? fun table => (db table.name).findSome? fun row =>
    table.references.find? fun reference => !satisfied db row reference

def delete (schema : Schema V) (name : String) (selects : Row V → Bool) (db : Database V) :
    Except Violation (Database V) :=
  if name ∈ schema.map (·.name) then
    match dangling? schema (survivors schema db name selects) with
    | some reference => .error (.reference reference)
    | none => .ok (survivors schema db name selects)
  else .error .undefinedTable

inductive Statement (V : Type*) where
  | insert (name : String) (row : Row V)
  | delete (name : String) (selects : Row V → Bool)

def Statement.run (schema : Schema V) (db : Database V) : Statement V → Except Violation (Database V)
  | insert name row => Relational.insert schema name row db
  | delete name selects => Relational.delete schema name selects db

/-- A statement that fails leaves the database as it was. -/
def execute (schema : Schema V) (db : Database V) (statement : Statement V) : Database V :=
  match statement.run schema db with
  | .ok next => next
  | .error _ => db

/-- Tables have different names, and refer to tables before them. -/
def Ordered : Schema V → List String → Prop
  | [], _ => True
  | table :: rest, earlier =>
      table.name ∉ earlier ∧ (∀ reference ∈ table.references, reference.target ∈ earlier) ∧ Ordered rest (table.name :: earlier)

/-- The same table with its keys and references in another order. -/
structure Table.Alike (table other : Table V) : Prop where
  name : table.name = other.name
  columns : table.columns = other.columns
  keys : table.keys.Perm other.keys
  references : table.references.Perm other.references

/-- What the constraints of a schema say about a database. -/
structure Sound (schema : Schema V) (db : Database V) : Prop where
  typed : ∀ table ∈ schema, ∀ row ∈ db table.name, ∀ column ∈ table.columns, column.fits row = true
  keyed : ∀ table ∈ schema, ∀ key ∈ table.keys, (db table.name).Pairwise fun row other => agree other row key key = false
  linked : ∀ table ∈ schema, ∀ row ∈ db table.name, ∀ reference ∈ table.references, satisfied db row reference = true

variable {schema : Schema V} {db next : Database V} {name : String} {row : Row V} {selects : Row V → Bool}

/-! ## Names -/

omit [DecidableEq V] in
theorem not_mem_of_ordered {earlier : List String} (ordered : Ordered schema earlier) {table : Table V}
    (member : table ∈ schema) : table.name ∉ earlier := by
  induction schema generalizing earlier with
  | nil => contradiction
  | cons first rest ih =>
    obtain ⟨fresh, _, later⟩ := ordered
    rcases List.mem_cons.mp member with rfl | inside
    · exact fresh
    · exact fun old => ih later inside (List.mem_cons_of_mem _ old)

omit [DecidableEq V] in
/-- A table is found by its name. -/
theorem eq_of_name_eq {earlier : List String} (ordered : Ordered schema earlier) {table other : Table V}
    (here : table ∈ schema) (there : other ∈ schema) (same : table.name = other.name) : table = other := by
  induction schema generalizing earlier with
  | nil => contradiction
  | cons first rest ih =>
    obtain ⟨_, _, later⟩ := ordered
    rcases List.mem_cons.mp here with rfl | inside
    · rcases List.mem_cons.mp there with rfl | inside'
      · rfl
      · exact absurd (List.mem_cons.mpr (.inl same.symm)) (not_mem_of_ordered later inside')
    · rcases List.mem_cons.mp there with rfl | inside'
      · exact absurd (List.mem_cons.mpr (.inl same)) (not_mem_of_ordered later inside)
      · exact ih later inside inside'

/-! ## INSERT -/

theorem violation?_eq_none_iff {table : Table V} :
    violation? db table row = none ↔
      (∀ column ∈ table.columns, column.fits row = true) ∧
        (∀ key ∈ table.keys, ∀ other ∈ db table.name, agree row other key key = false) ∧
        ∀ reference ∈ table.references, satisfied db row reference = true := by
  unfold violation?
  split
  · next column found =>
    refine iff_of_false (by simp) fun fits => ?_
    have misfit := List.find?_some found
    rw [fits.1 column (List.mem_of_find?_eq_some found)] at misfit
    contradiction
  · next fits =>
    split
    · next key found =>
      refine iff_of_false (by simp) fun free => ?_
      have hit := List.find?_some found
      obtain ⟨other, present, taken⟩ := List.any_eq_true.mp hit
      rw [free.2.1 key (List.mem_of_find?_eq_some found) other present] at taken
      contradiction
    · next free =>
      rw [Option.map_eq_none_iff, List.find?_eq_none]
      rw [List.find?_eq_none] at fits free
      simp only [List.any_eq_true, not_exists, not_and, Bool.not_eq_true, Bool.not_eq_eq_eq_not, Bool.not_true,
        Bool.not_eq_false] at fits free ⊢
      exact ⟨fun linked => ⟨fits, free, linked⟩, fun sound => sound.2.2⟩

/-- An INSERT that succeeds adds its row to its table. -/
theorem insert_eq_ok (inserted : insert schema name row db = .ok next) :
    ∃ table ∈ schema, table.name = name ∧ violation? db table row = none ∧
      next = Function.update db name (db name ++ [row]) := by
  unfold insert at inserted
  cases found : schema.find? (·.name = name) with
  | none => simp [found] at inserted
  | some table =>
    have named : table.name = name := by simpa using List.find?_some found
    cases checked : violation? db table row with
    | some violation => simp [found, checked] at inserted
    | none =>
      simp only [found, checked, Except.ok.injEq] at inserted
      exact ⟨table, List.mem_of_find?_eq_some found, named, checked, inserted.symm⟩

/-- More rows satisfy more references. -/
theorem satisfied_mono {reference : Reference} (grown : ∀ parent ∈ db reference.target, parent ∈ next reference.target)
    (holds : satisfied db row reference = true) : satisfied next row reference = true := by
  simp only [satisfied, Bool.or_eq_true, List.any_eq_true] at holds ⊢
  exact holds.imp id fun ⟨parent, present, agrees⟩ => ⟨parent, grown parent present, agrees⟩

theorem insert_sound (ordered : Ordered schema []) (sound : Sound schema db)
    (inserted : insert schema name row db = .ok next) : Sound schema next := by
  obtain ⟨target, declared, rfl, checked, rfl⟩ := insert_eq_ok inserted
  obtain ⟨fits, free, linked⟩ := violation?_eq_none_iff.mp checked
  have grown (table : String) (other : Row V) (present : other ∈ db table) :
      other ∈ Function.update db target.name (db target.name ++ [row]) table := by
    by_cases same : table = target.name
    · subst same
      rw [Function.update_self]
      exact List.mem_append_left _ present
    · rwa [Function.update_of_ne same]
  have split {table : Table V} (member : table ∈ schema) {other : Row V}
      (present : other ∈ Function.update db target.name (db target.name ++ [row]) table.name) :
      other ∈ db table.name ∨ table = target ∧ other = row := by
    by_cases same : table.name = target.name
    · have owner := eq_of_name_eq ordered member declared same
      subst owner
      rw [Function.update_self] at present
      exact (List.mem_append.mp present).imp id fun new => ⟨rfl, List.mem_singleton.mp new⟩
    · rw [Function.update_of_ne same] at present
      exact .inl present
  constructor
  case typed =>
    intro table member other present column listed
    rcases split member present with old | ⟨rfl, rfl⟩
    · exact sound.typed table member other old column listed
    · exact fits column listed
  case keyed =>
    intro table member key listed
    by_cases same : table.name = target.name
    · have owner := eq_of_name_eq ordered member declared same
      subst owner
      rw [Function.update_self, List.pairwise_append]
      refine ⟨sound.keyed table member key listed, List.pairwise_singleton .., fun other present last new => ?_⟩
      rw [List.mem_singleton.mp new]
      exact free key listed other present
    · rw [Function.update_of_ne same]
      exact sound.keyed table member key listed
  case linked =>
    intro table member other present reference listed
    apply satisfied_mono (grown reference.target)
    rcases split member present with old | ⟨rfl, rfl⟩
    · exact sound.linked table member other old reference listed
    · exact linked reference listed

/-! ## DELETE -/

theorem doom_frame {other : String} (absent : other ∉ schema.map (·.name)) (start : String → Row V → Bool) :
    doom db name selects schema start other = start other := by
  induction schema generalizing start with
  | nil => rfl
  | cons table rest ih =>
    rw [List.map_cons, List.mem_cons, not_or] at absent
    rw [doom, ih absent.2, Function.update_of_ne absent.1]

/-- A row is doomed when it is selected or refers to a doomed row and cascades. -/
theorem doom_iff {earlier : List String} (ordered : Ordered schema earlier) (start : String → Row V → Bool) {table : Table V}
    (member : table ∈ schema) (row : Row V) :
    doom db name selects schema start table.name row = true ↔
      (table.name = name ∧ selects row = true) ∨
        ∃ reference ∈ table.references, reference.onDelete = .cascade ∧ ∃ parent ∈ db reference.target,
          doom db name selects schema start reference.target parent = true ∧
            agree row parent reference.columns reference.targetColumns = true := by
  induction schema generalizing earlier start with
  | nil => contradiction
  | cons first rest ih =>
    obtain ⟨fresh, known, later⟩ := ordered
    rcases List.mem_cons.mp member with rfl | inside
    · have absent : table.name ∉ rest.map (·.name) := by
        intro again
        obtain ⟨other, present, same⟩ := List.mem_map.mp again
        exact not_mem_of_ordered later present (same ▸ List.mem_cons_self ..)
      have settled (reference : Reference) (listed : reference ∈ table.references) :
          doom db name selects (table :: rest) start reference.target = start reference.target := by
        apply doom_frame
        rw [List.map_cons, List.mem_cons, not_or]
        refine ⟨fun same => fresh (same ▸ known reference listed), fun again => ?_⟩
        obtain ⟨other, present, same⟩ := List.mem_map.mp again
        exact not_mem_of_ordered later present (same ▸ List.mem_cons_of_mem _ (known reference listed))
      rw [doom, doom_frame absent, Function.update_self]
      simp only [Bool.or_eq_true, Bool.and_eq_true, decide_eq_true_eq, List.any_eq_true]
      refine or_congr Iff.rfl (exists_congr fun reference => and_congr_right fun listed => and_congr_right fun _ => ?_)
      have same := settled reference listed
      rw [doom] at same
      rw [same]
    · exact ih later _ inside

theorem doomed_iff (ordered : Ordered schema []) {table : Table V} (member : table ∈ schema) {row : Row V} :
    doomed schema db name selects table.name row = true ↔
      (table.name = name ∧ selects row = true) ∨
        ∃ reference ∈ table.references, reference.onDelete = .cascade ∧ ∃ parent ∈ db reference.target,
          doomed schema db name selects reference.target parent = true ∧
            agree row parent reference.columns reference.targetColumns = true :=
  doom_iff ordered _ member row

theorem mem_survivors_iff {table : String} {row : Row V} :
    row ∈ survivors schema db name selects table ↔ row ∈ db table ∧ doomed schema db name selects table row = false := by
  simp [survivors]

/-- A row that survives keeps what it refers to through a cascading reference. -/
theorem satisfied_of_cascade (ordered : Ordered schema []) (sound : Sound schema db) {table : Table V}
    (member : table ∈ schema) {row : Row V} (survives : row ∈ survivors schema db name selects table.name)
    {reference : Reference} (listed : reference ∈ table.references) (cascades : reference.onDelete = .cascade) :
    satisfied (survivors schema db name selects) row reference = true := by
  obtain ⟨present, spared⟩ := mem_survivors_iff.mp survives
  have linked := sound.linked table member row present reference listed
  simp only [satisfied, Bool.or_eq_true, List.any_eq_true] at linked ⊢
  refine linked.imp id ?_
  rintro ⟨parent, inside, agrees⟩
  refine ⟨parent, mem_survivors_iff.mpr ⟨inside, ?_⟩, agrees⟩
  by_contra lost
  have taken := (doomed_iff ordered member).mpr
    (.inr ⟨reference, listed, cascades, parent, inside, (Bool.not_eq_false _).mp lost, agrees⟩)
  rw [spared] at taken
  contradiction

theorem dangling?_eq_none_iff :
    dangling? schema db = none ↔
      ∀ table ∈ schema, ∀ row ∈ db table.name, ∀ reference ∈ table.references, satisfied db row reference = true := by
  simp [dangling?, List.findSome?_eq_none_iff]

/-- A DELETE fails only for a reference that does not cascade and whose row survives. -/
theorem delete_eq_ok_iff (ordered : Ordered schema []) (sound : Sound schema db) :
    delete schema name selects db = .ok next ↔
      name ∈ schema.map (·.name) ∧
        (∀ table ∈ schema, ∀ row ∈ survivors schema db name selects table.name, ∀ reference ∈ table.references,
          reference.onDelete = .noAction → satisfied (survivors schema db name selects) row reference = true) ∧
        next = survivors schema db name selects := by
  unfold delete
  by_cases declared : name ∈ schema.map (·.name)
  · rw [if_pos declared]
    cases checked : dangling? schema (survivors schema db name selects) with
    | some reference =>
      refine iff_of_false (by simp) fun conditions => ?_
      have unchecked : dangling? schema (survivors schema db name selects) = none := by
        refine dangling?_eq_none_iff.mpr fun table member row survives reference listed => ?_
        cases action : reference.onDelete with
        | noAction => exact conditions.2.1 table member row survives reference listed action
        | cascade => exact satisfied_of_cascade ordered sound member survives listed action
      rw [checked] at unchecked
      contradiction
    | none =>
      rw [Except.ok.injEq]
      constructor
      · rintro rfl
        exact ⟨declared, fun table member row survives reference listed _ =>
          dangling?_eq_none_iff.mp checked table member row survives reference listed, rfl⟩
      · exact fun conditions => conditions.2.2.symm
  · rw [if_neg declared]
    exact iff_of_false (by simp) fun conditions => declared conditions.1

theorem delete_sound (ordered : Ordered schema []) (sound : Sound schema db)
    (deleted : delete schema name selects db = .ok next) : Sound schema next := by
  obtain ⟨_, kept, rfl⟩ := (delete_eq_ok_iff ordered sound).mp deleted
  constructor
  case typed =>
    intro table member row survives
    exact sound.typed table member row (mem_survivors_iff.mp survives).1
  case keyed =>
    intro table member key listed
    exact (sound.keyed table member key listed).sublist List.filter_sublist
  case linked =>
    intro table member row survives reference listed
    cases action : reference.onDelete with
    | noAction => exact kept table member row survives reference listed action
    | cascade => exact satisfied_of_cascade ordered sound member survives listed action

/-! ## Runs -/

theorem execute_sound (ordered : Ordered schema []) (sound : Sound schema db) (statement : Statement V) :
    Sound schema (execute schema db statement) := by
  unfold execute
  cases outcome : statement.run schema db with
  | error violation => exact sound
  | ok next =>
    cases statement with
    | insert name row => exact insert_sound ordered sound outcome
    | delete name selects => exact delete_sound ordered sound outcome

theorem sound_empty : Sound schema fun _ => [] := by
  constructor <;> simp

/-- The database that statements lead to from the empty one. -/
def after (schema : Schema V) (statements : List (Statement V)) : Database V := statements.foldl (execute schema) fun _ => []

/-- The constraints hold after any statements. -/
theorem after_sound (ordered : Ordered schema []) (statements : List (Statement V)) : Sound schema (after schema statements) := by
  induction statements using List.reverseRecOn with
  | nil => exact sound_empty
  | append_singleton statements statement ih =>
    rw [after, List.foldl_append]
    exact execute_sound ordered ih statement

/-! ## Columns that are required -/

omit [DecidableEq V] in
theorem tuple_eq_some_iff {columns : List String} {values : List V} :
    tuple row columns = some values ↔ columns.map row = values.map some := by
  induction columns generalizing values with
  | nil => cases values <;> simp [tuple]
  | cons column rest ih =>
    cases here : row column with
    | none => cases values <;> simp [tuple, here]
    | some value =>
      cases later : tuple row rest with
      | none =>
        cases values with
        | nil => simp [tuple, here, later]
        | cons first others =>
          have different := mt (@ih others).mpr (by simp [later])
          simp [tuple, here, later, different]
      | some tail =>
        cases values with
        | nil => simp [tuple, here, later]
        | cons first others =>
          have same := @ih others
          rw [later, Option.some.injEq] at same
          simp [tuple, here, later, same]

omit [DecidableEq V] in
theorem exists_tuple {columns : List String} (present : ∀ column ∈ columns, row column ≠ none) :
    ∃ values, tuple row columns = some values := by
  induction columns with
  | nil => exact ⟨[], rfl⟩
  | cons column rest ih =>
    obtain ⟨here, later⟩ := List.forall_mem_cons.mp present
    obtain ⟨value, found⟩ := Option.ne_none_iff_exists'.mp here
    obtain ⟨values, others⟩ := ih later
    exact ⟨value :: values, by rw [tuple, found, others]⟩

/-- Where nothing is NULL, rows agree when their columns have the same contents. -/
theorem agree_iff {other : Row V} {columns otherColumns : List String} (present : ∀ column ∈ columns, row column ≠ none) :
    agree row other columns otherColumns = true ↔ columns.map row = otherColumns.map other := by
  obtain ⟨values, found⟩ := exists_tuple present
  have contents := tuple_eq_some_iff.mp found
  rw [agree, found, Option.isSome_some, Bool.true_and, decide_eq_true_eq, eq_comm, tuple_eq_some_iff, contents, eq_comm]

theorem satisfied_iff {reference : Reference} (present : ∀ column ∈ reference.columns, row column ≠ none) :
    satisfied db row reference = true ↔
      ∃ parent ∈ db reference.target, reference.columns.map row = reference.targetColumns.map parent := by
  obtain ⟨values, found⟩ := exists_tuple present
  simp [satisfied, found, agree_iff present]

/-- A column that may not be NULL is not. -/
theorem Sound.present (sound : Sound schema db) {table : Table V} (member : table ∈ schema) (inside : row ∈ db table.name)
    {column : Column V} (listed : column ∈ table.columns) (required : column.nullable = false) : row column.name ≠ none := by
  intro missing
  have fits := sound.typed table member row inside column listed
  simp [Column.fits, missing, required] at fits

/-- Rows differ on a key whose columns may not be NULL. -/
theorem Sound.distinct (sound : Sound schema db) {table : Table V} (member : table ∈ schema) {key : List String}
    (listed : key ∈ table.keys) (required : ∀ name ∈ key, ∃ column ∈ table.columns, column.name = name ∧ column.nullable = false) :
    ((db table.name).map fun row => key.map row).Nodup := by
  rw [List.Nodup, List.pairwise_map]
  apply (sound.keyed table member key listed).imp_of_mem
  intro row other _ later differ same
  have present (name : String) (inside : name ∈ key) : other name ≠ none := by
    obtain ⟨column, declared, rfl, strict⟩ := required name inside
    exact sound.present member later declared strict
  rw [(agree_iff present).mpr same.symm] at differ
  contradiction

/-! ## The order of constraints -/

section

variable {other : Schema V} (alike : List.Forall₂ Table.Alike schema other)
include alike

omit [DecidableEq V] in
theorem find?_alike (name : String) :
    Option.Rel Table.Alike (schema.find? (·.name = name)) (other.find? (·.name = name)) := by
  induction alike with
  | nil => exact .none
  | @cons table table' rest rest' same _ ih =>
    rw [List.find?_cons, List.find?_cons, same.name]
    cases decide (table'.name = name) with
    | true => exact .some same
    | false => exact ih

omit [DecidableEq V] in
theorem names_alike : schema.map (·.name) = other.map (·.name) := by
  induction alike with
  | nil => rfl
  | cons same _ ih => rw [List.map_cons, List.map_cons, same.name, ih]

theorem doom_alike (start : String → Row V → Bool) : doom db name selects schema start = doom db name selects other start := by
  induction alike generalizing start with
  | nil => rfl
  | cons same _ ih =>
    rw [doom, doom, ih, same.name]
    congr 2
    funext row
    rw [same.references.any_eq]

theorem dangling?_alike : dangling? schema db = none ↔ dangling? other db = none := by
  rw [dangling?_eq_none_iff, dangling?_eq_none_iff]
  induction alike with
  | nil => rfl
  | cons same _ ih => simp only [List.forall_mem_cons, ih, same.name, same.references.mem_iff]

omit alike in
theorem violation?_alike {table table' : Table V} (same : table.Alike table') :
    violation? db table row = none ↔ violation? db table' row = none := by
  simp only [violation?_eq_none_iff, same.name, same.columns, same.keys.mem_iff, same.references.mem_iff]

/-- The order of constraints decides which violation a statement reports, and nothing else. -/
theorem execute_alike (statement : Statement V) : execute schema db statement = execute other db statement := by
  cases statement with
  | insert name row =>
    have found := find?_alike alike name
    unfold execute Statement.run insert
    dsimp only
    generalize schema.find? (·.name = name) = here at found ⊢
    generalize other.find? (·.name = name) = there at found ⊢
    cases found with
    | none => rfl
    | @some table table' same =>
      have agreed := @violation?_alike _ _ db row table table' same
      cases checked : violation? db table row with
      | none => simp only [checked, agreed.mp checked]
      | some violation =>
        cases checked' : violation? db table' row with
        | none =>
          rw [agreed.mpr checked'] at checked
          contradiction
        | some violation' => simp only [checked, checked']
  | delete name selects =>
    have left : survivors schema db name selects = survivors other db name selects := by
      unfold survivors doomed
      rw [doom_alike alike]
    have agreed := @dangling?_alike _ _ schema (survivors other db name selects) other alike
    unfold execute Statement.run delete
    dsimp only
    rw [names_alike alike, left]
    split_ifs with declared
    · cases checked : dangling? schema (survivors other db name selects) with
      | none => simp only [agreed.mp checked]
      | some reference =>
        cases checked' : dangling? other (survivors other db name selects) with
        | none =>
          rw [agreed.mpr checked'] at checked
          contradiction
        | some reference' => rfl
    · rfl

theorem after_alike (statements : List (Statement V)) : after schema statements = after other statements := by
  have same : execute schema = execute other := funext fun db => funext fun statement => execute_alike alike statement
  rw [after, after, same]

end

end Relational
