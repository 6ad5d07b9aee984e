import PortfolioManager.Scripts.ArchitectureImports

/-! # Imports the architecture checker misses

What a statement makes Python load is more than the name it spells out: the parent packages of
that name, the submodules in the list of a `from` import, and for a relative import the module it
resolves to. The checker judges spelled-out names only, so a forbidden load is reported when such
a name happens to be forbidden too.
-/

namespace PortfolioManager.Scripts.CheckArchitecture

open PortfolioManager.Python Checked

/-- What Python knows when it runs a file: the components of the file's package, and which names of
a package are submodules. -/
structure Runtime where
  package : List String
  submodule : String → String → Bool

/-- The absolute name of the module in a `from` import, unless it lies beyond the top-level package. -/
def Runtime.resolve (runtime : Runtime) (level : ℕ) (module : Option String) : Option String :=
  if level = 0 then module
  else if runtime.package.length < level then none
  else some (String.intercalate "." (runtime.package.take (runtime.package.length + 1 - level) ++ module.toList))

/-- Importing a dotted name loads the module and every package on the way to it. -/
def Reaches (importName loaded : String) : Prop :=
  loaded ≠ "" ∧ (importName = loaded ∨ startsWith importName (loaded ++ ".") = true)

/-- What a node makes Python load. -/
inductive Loads (runtime : Runtime) : Node → String → Prop where
  | imported {names : List Alias} {item : Alias} {loaded : String} :
      item ∈ names → Reaches item.name loaded → Loads runtime (.import_ names) loaded
  | source {module : Option String} {names : List Alias} {level : ℕ} {base loaded : String} :
      runtime.resolve level module = some base → Reaches base loaded →
      Loads runtime (.importFrom module names level) loaded
  | submodule {module : Option String} {names : List Alias} {item : Alias} {level : ℕ} {base : String} :
      runtime.resolve level module = some base → item ∈ names → runtime.submodule base item.name = true →
      Loads runtime (.importFrom module names level) (base ++ "." ++ item.name)

/-- A node spells a name out: after `import`, or as the module of a `from` import of any level. -/
inductive Spells : Node → String → Prop where
  | imported {names : List Alias} {item : Alias} : item ∈ names → Spells (.import_ names) item.name
  | source {module : String} {names : List Alias} {level : ℕ} :
      module ≠ "" → Spells (.importFrom (some module) names level) module

def FileLoads (runtime : Runtime) (body : Node) (name : String) : Prop := ∃ node ∈ body.walk, Loads runtime node name

def FileSpells (body : Node) (name : String) : Prop := ∃ node ∈ body.walk, Spells node name

variable {rules : Rules} {tree : SourceTree} {entry : Entry} {body : Node} {runtime : Runtime} {name : String}

theorem mem_names_iff {node : Node} : name ∈ node.names ↔ Spells node name := by
  constructor
  · intro named
    cases node with
    | import_ names =>
      obtain ⟨item, member, rfl⟩ := List.mem_map.mp named
      exact .imported member
    | importFrom module names level =>
      cases module with
      | none => contradiction
      | some module =>
        by_cases empty : module = ""
        · simp [Node.names, empty] at named
        · simp only [Node.names, ne_eq, empty, not_false_eq_true, ↓reduceIte, List.mem_singleton] at named
          subst named
          exact .source empty
    | other children => contradiction
  · rintro (member | nonempty)
    · exact List.mem_map_of_mem member
    · simp [Node.names, nonempty]

/-- The scan reads the names that the file spells out. -/
theorem mem_importedModules_iff : name ∈ importedModules body ↔ FileSpells body name := by
  simp only [importedModules, List.mem_toFinset, List.mem_flatMap, mem_names_iff, FileSpells]

/-- The checker reports a file for its forbidden loads exactly when the hidden ones among them come
with a name, spelled out in the file, that a module holding the file may not import. -/
theorem forbidden_load_reported_iff (runtime : Runtime) {interpreter : Interpreter} {policy : Policy}
    {source : ModuleRule} (loaded : loadRules interpreter policy = .ok rules) (member : entry ∈ tree.entries)
    (parsed : entry.content = .ok body) (declared : source ∈ rules) (holds : source.holds entry = true) :
    ((∃ name, FileLoads runtime body name ∧ Forbidden rules source name) → Reported tree rules entry) ↔
      ((∃ name, FileLoads runtime body name ∧ ¬FileSpells body name ∧ Forbidden rules source name) →
        ∃ other ∈ rules, other.holds entry = true ∧ ∃ name, FileSpells body name ∧ Forbidden rules other name) := by
  have reported := reported_iff (loadRules_wellFormed loaded) member parsed
  simp only [mem_importedModules_iff] at reported
  constructor
  · rintro covered ⟨name, loads, _, forbidden⟩
    exact reported.mp (covered ⟨name, loads, forbidden⟩)
  · rintro accompanied ⟨name, loads, forbidden⟩
    by_cases spelled : FileSpells body name
    · exact reported.mpr ⟨source, declared, holds, name, spelled, forbidden⟩
    · exact reported.mpr (accompanied ⟨name, loads, spelled, forbidden⟩)

/-! ## A sample policy -/

def sampleModules : ModuleTable where
  entries := [("domain", ⟨"domain", "example.domain", some []⟩),
    ("persistence", ⟨"persistence", "example.persistence", some ["domain"]⟩)]
  distinct := by decide

def sampleDomain : ModuleRule := ⟨"domain", ⟨false, ["domain"]⟩, "example.domain", ∅⟩
def samplePersistence : ModuleRule := ⟨"persistence", ⟨false, ["persistence"]⟩, "example.persistence", {"domain"}⟩
def sampleRules : Rules := [sampleDomain, samplePersistence]

theorem loadRules_sample :
    loadRules sampleInterpreter ⟨some (.integer 1), some sampleModules⟩ = .ok sampleRules := by
  have gathered : sampleModules.entries.foldlM declare ⟨[], [], []⟩ =
      .ok ⟨sampleRules, [⟨false, ["domain"]⟩, ⟨false, ["persistence"]⟩], ["example.domain", "example.persistence"]⟩ := by
    rfl
  have checked : sampleRules.forM (checkDependencies sampleRules) = .ok () :=
    forM_eq_ok_iff.mpr (by simp only [checkDependencies_eq_ok_iff]; decide)
  have acyclic : detectCycles sampleInterpreter sampleRules = .ok () := by
    simp [detectCycles, Rules.names, sampleInterpreter, sampleRules, sampleDomain, samplePersistence, visit, Rules.get?, sortedNames]
  have one : (some (TomlScalar.integer 1)).any TomlScalar.isOne = true := rfl
  have present : sampleModules.entries ≠ [] := by decide
  simp only [loadRules, check_of _ one, check_of _ present, gathered, checked, acyclic, ok_bind]
  rfl

/-- A file of the domain module with one statement. -/
def sampleEntry (statement : Node) : Entry := ⟨["domain", "model.py"], .ok (.other [statement])⟩

def sampleTree (statement : Node) : SourceTree := ⟨[sampleEntry statement], List.nodup_singleton _⟩

/-- The file is `example.domain.model`, and `example` has the two modules as submodules. -/
def sampleRuntime : Runtime where
  package := ["example", "domain"]
  submodule base name := base = "example" && ["domain", "persistence"].contains name

/-- The domain may not load the persistence module. -/
theorem forbidden_sample : Forbidden sampleRules sampleDomain "example.persistence" := by
  refine ⟨samplePersistence, ⟨by decide, by decide, ?_⟩, by decide, by decide⟩
  decide

/-- `import example.persistence`. -/
def sampleImport : Node := .import_ [⟨"example.persistence", none⟩]

/-- `from example import persistence`. -/
def sampleFromImport : Node := .importFrom (some "example") [⟨"persistence", none⟩] 0

/-- The name is spelled out, and the file is reported for it. -/
theorem forbidden_load_reported_iff_sample : Reported (sampleTree sampleImport) sampleRules (sampleEntry sampleImport) := by
  have here : sampleImport ∈ (Node.other [sampleImport]).walk := by simp [Node.walk, sampleImport]
  have loads : FileLoads sampleRuntime (.other [sampleImport]) "example.persistence" :=
    ⟨_, here, .imported (List.mem_singleton_self _) ⟨by decide, .inl rfl⟩⟩
  have spells : FileSpells (.other [sampleImport]) "example.persistence" :=
    ⟨_, here, .imported (List.mem_singleton_self _)⟩
  have listed : sampleEntry sampleImport ∈ (sampleTree sampleImport).entries := List.mem_singleton_self _
  have holds : sampleDomain.holds (sampleEntry sampleImport) = true := rfl
  have covered := forbidden_load_reported_iff sampleRuntime loadRules_sample listed rfl (List.mem_cons_self ..) holds
  exact covered.mpr (fun _ => ⟨sampleDomain, List.mem_cons_self .., rfl, _, spells, forbidden_sample⟩)
    ⟨_, loads, forbidden_sample⟩

/-- The same load through a `from` import goes unreported: the only name spelled out is that of the
common package, which no module owns. -/
theorem from_import_unreported :
    loadRules sampleInterpreter ⟨some (.integer 1), some sampleModules⟩ = .ok sampleRules ∧
      sampleDomain ∈ sampleRules ∧ sampleDomain.holds (sampleEntry sampleFromImport) = true ∧
      FileLoads sampleRuntime (.other [sampleFromImport]) "example.persistence" ∧
      Forbidden sampleRules sampleDomain "example.persistence" ∧
      ¬Reported (sampleTree sampleFromImport) sampleRules (sampleEntry sampleFromImport) := by
  have here : sampleFromImport ∈ (Node.other [sampleFromImport]).walk := by simp [Node.walk, sampleFromImport]
  have loads : FileLoads sampleRuntime (.other [sampleFromImport]) "example.persistence" :=
    ⟨_, here, @Loads.submodule _ _ _ ⟨"persistence", none⟩ _ "example" rfl (List.mem_singleton_self _) (by decide)⟩
  refine ⟨loadRules_sample, List.mem_cons_self .., rfl, loads, forbidden_sample, fun reported => ?_⟩
  rw [reported_iff (loadRules_wellFormed loadRules_sample) (List.mem_singleton_self _) rfl] at reported
  obtain ⟨source, _, _, name, imported, target, owns, _⟩ := reported
  have package : name = "example" := by
    simpa [importedModules, Node.walk, Node.names, sampleFromImport] using imported
  have uncovered : ∀ rule ∈ sampleRules, rule.covers "example" = false := by decide
  have covers := owns.covers
  rw [package, uncovered target owns.declared] at covers
  contradiction

end PortfolioManager.Scripts.CheckArchitecture
