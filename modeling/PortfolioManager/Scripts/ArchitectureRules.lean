import PortfolioManager.Library.Checked
import PortfolioManager.Python.Text
import Mathlib.Data.Finset.Sort
import Mathlib.Data.Rat.Defs

/-! # The policy of the architecture checker

`load_rules` on a parsed policy whose module entries are well typed: a path, an import prefix and
a list of names. Tables keep the order of the file. A set of names is iterated in an order of the
interpreter's choosing, and recursion is cut off at the interpreter's limit; both are parameters.
-/

namespace PortfolioManager.Scripts.CheckArchitecture

open PortfolioManager.Python Checked

/-- A relative or absolute POSIX path, without empty and `.` components. -/
structure PurePath where
  absolute : Bool
  parts : List String
deriving DecidableEq

def PurePath.ofText (text : String) : PurePath where
  absolute := startsWith text "/"
  parts := ((text.toList.splitOn '/').map String.ofList).filter fun part => part ≠ "" && part ≠ "."

/-- `str` of a relative path. -/
def PurePath.text (path : PurePath) : String :=
  if path.parts = [] then "." else String.intercalate "/" path.parts

structure ModuleRule where
  name : String
  path : PurePath
  importPrefix : String
  mayImport : Finset String
deriving DecidableEq

/-- `rules.values()`; the keys are the rules' names. -/
abbrev Rules := List ModuleRule

def Rules.names (rules : Rules) : List String := rules.map (·.name)

def Rules.get? (rules : Rules) (name : String) : Option ModuleRule := rules.find? (·.name = name)

/-- A scalar that may stand under `version`. -/
inductive TomlScalar where
  | integer (value : ℤ)
  | float (value : ℚ)
  | boolean (value : Bool)
  | other
deriving DecidableEq

/-- `== 1`, which `1.0` and `True` also satisfy. -/
def TomlScalar.isOne : TomlScalar → Bool
  | integer value => value = 1
  | float value => value = 1
  | boolean value => value
  | other => false

structure RawRule where
  path : String
  importPrefix : String
  mayImport : Option (List String)
deriving DecidableEq

/-- A TOML table of modules, whose keys cannot repeat. -/
structure ModuleTable where
  entries : List (String × RawRule)
  distinct : (entries.map Prod.fst).Nodup

/-- A parsed policy; `modules` is absent when it is missing or no table. -/
structure Policy where
  version : Option TomlScalar
  modules : Option ModuleTable

inductive PolicyError where
  | version
  | noModules
  | unsafePath (name : String)
  | duplicatePath (path : PurePath)
  | duplicatePrefix (importPrefix : String)
  | unknownModules (name : String) (unknown : List String)
  | selfImport (name : String)
  | cycle (chain : List String)
  | missingKey (name : String)
  | recursion
deriving DecidableEq

/-- The texts of the `ValueError`s, with the interpreter's `repr` of a string. -/
def PolicyError.message (repr : String → String) : PolicyError → String
  | version => "architecture.toml must declare version = 1"
  | noModules => "architecture.toml must define at least one module"
  | unsafePath name => s!"module {repr name} has an unsafe path"
  | duplicatePath path => s!"module path {path.text} is declared more than once"
  | duplicatePrefix importPrefix => s!"import prefix {repr importPrefix} is declared more than once"
  | unknownModules name unknown =>
      s!"module {repr name} references unknown modules: [" ++ String.intercalate ", " (unknown.map repr) ++ "]"
  | selfImport name => s!"module {repr name} cannot list itself in may_import"
  | cycle chain => "architecture dependency cycle detected: " ++ String.intercalate " -> " chain
  | missingKey name => repr name
  | recursion => "maximum recursion depth exceeded"

/-- `sorted` on a set of names. -/
def sortedNames (names : Finset String) : List String := names.sort (· ≤ ·)

@[simp] theorem mem_sortedNames {names : Finset String} {name : String} : name ∈ sortedNames names ↔ name ∈ names :=
  Finset.mem_sort _

theorem sortedNames_nodup (names : Finset String) : (sortedNames names).Nodup := names.sort_nodup (· ≤ ·)

/-- The interpreter: its recursion limit, and the order in which it iterates the set of names of a module. Equal
sets of two modules need not have one order. -/
structure Interpreter where
  limit : ℕ
  iterate : String → Finset String → List String
  complete : ∀ owner names name, name ∈ iterate owner names ↔ name ∈ names
  single : ∀ owner names, (iterate owner names).Nodup

/-- An interpreter that iterates sets in order and can go three calls deep. -/
def sampleInterpreter : Interpreter where
  limit := 3
  iterate _ := sortedNames
  complete _ _ _ := mem_sortedNames
  single _ := sortedNames_nodup

/-- What the loop of `load_rules` over the modules has gathered. -/
structure Declared where
  rules : Rules
  paths : List PurePath
  importPrefixes : List String

def declare (declared : Declared) (entry : String × RawRule) : Except PolicyError Declared := do
  let (name, rawRule) := entry
  let path := PurePath.ofText rawRule.path
  let ⟨_⟩ ← check (path.absolute = false ∧ ".." ∉ path.parts) (.unsafePath name)
  let ⟨_⟩ ← check (path ∉ declared.paths) (.duplicatePath path)
  let ⟨_⟩ ← check (rawRule.importPrefix ∉ declared.importPrefixes) (.duplicatePrefix rawRule.importPrefix)
  let rule : ModuleRule := ⟨name, path, rawRule.importPrefix, (rawRule.mayImport.getD []).toFinset⟩
  return ⟨declared.rules ++ [rule], declared.paths ++ [path], declared.importPrefixes ++ [rawRule.importPrefix]⟩

/-- The checks on the dependencies of one rule. -/
def checkDependencies (rules : Rules) (rule : ModuleRule) : Except PolicyError Unit := do
  let unknown := rule.mayImport \ rules.names.toFinset
  let ⟨_⟩ ← check (unknown = ∅) (.unknownModules rule.name (sortedNames unknown))
  let ⟨_⟩ ← check (rule.name ∉ rule.mayImport) (.selfImport rule.name)
  return ()

/-- The two sets of the depth-first search. -/
structure Marks where
  visiting : Finset String
  visited : Finset String

/-- `visit`; the first argument is the recursion depth that is left. -/
def visit (interpreter : Interpreter) (rules : Rules) : ℕ → String → List String → Marks → Except PolicyError Marks
  | 0, _, _, _ => .error .recursion
  | depth + 1, name, chain, marks =>
      if name ∈ marks.visiting then .error (.cycle (chain ++ [name]))
      else if name ∈ marks.visited then .ok marks
      else
        match rules.get? name with
        | none => .error (.missingKey name)
        | some rule => do
            let marks ← (interpreter.iterate name rule.mayImport).foldlM
              (fun marks dependency => visit interpreter rules depth dependency (chain ++ [name]) marks)
              { marks with visiting := insert name marks.visiting }
            return ⟨marks.visiting.erase name, insert name marks.visited⟩

def detectCycles (interpreter : Interpreter) (rules : Rules) : Except PolicyError Unit := do
  let _ ← rules.names.foldlM (fun marks name => visit interpreter rules interpreter.limit name [] marks) ⟨∅, ∅⟩
  return ()

def loadRules (interpreter : Interpreter) (policy : Policy) : Except PolicyError Rules := do
  let ⟨_⟩ ← check (policy.version.any TomlScalar.isOne = true) .version
  match policy.modules with
  | none => throw .noModules
  | some modules => do
      let ⟨_⟩ ← check (modules.entries ≠ []) .noModules
      let declared ← modules.entries.foldlM declare ⟨[], [], []⟩
      declared.rules.forM (checkDependencies declared.rules)
      detectCycles interpreter declared.rules
      return declared.rules

/-! ## Accepted rules -/

/-- What every rule table has that `load_rules` returns, apart from being acyclic. -/
structure WellFormed (rules : Rules) : Prop where
  names : rules.names.Nodup
  paths : (rules.map (·.path)).Nodup
  importPrefixes : (rules.map (·.importPrefix)).Nodup
  safe : ∀ rule ∈ rules, rule.path.absolute = false ∧ ".." ∉ rule.path.parts
  closed : ∀ rule ∈ rules, ∀ name ∈ rule.mayImport, name ∈ rules.names
  proper : ∀ rule ∈ rules, rule.name ∉ rule.mayImport

/-- The gathered sets are those of the gathered rules, without repetition. -/
structure Declared.Consistent (declared : Declared) (names : List String) : Prop where
  names : declared.rules.names = names
  paths : declared.paths = declared.rules.map (·.path)
  importPrefixes : declared.importPrefixes = declared.rules.map (·.importPrefix)
  pathsDistinct : declared.paths.Nodup
  importPrefixesDistinct : declared.importPrefixes.Nodup
  safe : ∀ rule ∈ declared.rules, rule.path.absolute = false ∧ ".." ∉ rule.path.parts

theorem declare_consistent {declared next : Declared} {names : List String} {entry : String × RawRule}
    (consistent : declared.Consistent names) (accepted : declare declared entry = .ok next) :
    next.Consistent (names ++ [entry.1]) := by
  obtain ⟨name, rawRule⟩ := entry
  obtain ⟨safe, accepted⟩ := check_bind_eq_ok_iff.mp accepted
  obtain ⟨newPath, accepted⟩ := check_bind_eq_ok_iff.mp accepted
  obtain ⟨newPrefix, accepted⟩ := check_bind_eq_ok_iff.mp accepted
  cases pure_eq_ok_iff.mp accepted
  refine ⟨?_, ?_, ?_, ?_, ?_, ?_⟩
  · simp [Rules.names, ← consistent.names]
  · simp [consistent.paths]
  · simp [consistent.importPrefixes]
  · exact consistent.pathsDistinct.append (List.nodup_singleton _) (by simpa using newPath)
  · exact consistent.importPrefixesDistinct.append (List.nodup_singleton _) (by simpa using newPrefix)
  · intro rule member
    rcases List.mem_append.mp member with old | new
    · exact consistent.safe rule old
    · rw [List.mem_singleton.mp new]
      exact safe

theorem foldlM_declare_consistent {declared next : Declared} {names : List String} {entries : List (String × RawRule)}
    (consistent : declared.Consistent names) (accepted : entries.foldlM declare declared = .ok next) :
    next.Consistent (names ++ entries.map Prod.fst) := by
  induction entries generalizing declared names with
  | nil =>
    cases pure_eq_ok_iff.mp accepted
    simpa using consistent
  | cons entry rest ih =>
    rw [List.foldlM_cons] at accepted
    obtain ⟨middle, first, accepted⟩ := bind_eq_ok_iff.mp accepted
    simpa using ih (declare_consistent consistent first) accepted

theorem checkDependencies_eq_ok_iff {rules : Rules} {rule : ModuleRule} :
    checkDependencies rules rule = .ok () ↔
      (∀ name ∈ rule.mayImport, name ∈ rules.names) ∧ rule.name ∉ rule.mayImport := by
  simp only [checkDependencies, check_bind_eq_ok_iff, pure_eq_ok_iff, exists_prop, and_true]
  rw [Finset.sdiff_eq_empty_iff_subset, Finset.subset_iff]
  simp only [List.mem_toFinset]

theorem loadRules_wellFormed {interpreter : Interpreter} {policy : Policy} {rules : Rules}
    (loaded : loadRules interpreter policy = .ok rules) : WellFormed rules := by
  obtain ⟨_, loaded⟩ := check_bind_eq_ok_iff.mp loaded
  cases table : policy.modules with
  | none => simp [table, throw, throwThe, MonadExceptOf.throw] at loaded
  | some modules =>
    simp only [table] at loaded
    obtain ⟨_, loaded⟩ := check_bind_eq_ok_iff.mp loaded
    obtain ⟨declared, gathered, loaded⟩ := bind_eq_ok_iff.mp loaded
    obtain ⟨_, checked, loaded⟩ := bind_eq_ok_iff.mp loaded
    obtain ⟨_, _, loaded⟩ := bind_eq_ok_iff.mp loaded
    cases pure_eq_ok_iff.mp loaded
    have empty : Declared.Consistent ⟨[], [], []⟩ [] := ⟨rfl, rfl, rfl, .nil, .nil, nofun⟩
    have consistent := foldlM_declare_consistent empty gathered
    have dependencies := fun rule member => checkDependencies_eq_ok_iff.mp (forM_eq_ok_iff.mp checked rule member)
    refine ⟨?_, ?_, ?_, consistent.safe, fun rule member => (dependencies rule member).1,
      fun rule member => (dependencies rule member).2⟩
    · rw [consistent.names]
      exact modules.distinct
    · exact consistent.paths ▸ consistent.pathsDistinct
    · exact consistent.importPrefixes ▸ consistent.importPrefixesDistinct

end PortfolioManager.Scripts.CheckArchitecture
