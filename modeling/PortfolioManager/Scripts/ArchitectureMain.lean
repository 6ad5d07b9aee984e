import PortfolioManager.Scripts.ArchitectureCycles
import PortfolioManager.Scripts.ArchitectureCoverage

/-! # The verdict of the architecture checker

`main` turns a policy file and a source tree into an exit code. Code zero means more than that each
spelled-out import is one its module may make: since the policy has no cycles, the modules have layers,
and every import between modules leads to a lower one.
-/

namespace PortfolioManager.Scripts.CheckArchitecture

open PortfolioManager.Python Checked DepthFirst Relation

/-- How the script ends. -/
structure Ending where
  code : ℕ
  stdout : List String
  stderr : List String
deriving DecidableEq

/-- `main`; the file is what opening and parsing `architecture.toml` gives, a policy or the text of the error.
`RecursionError` is not among the exceptions it handles. -/
def main (interpreter : Interpreter) (repr : String → String) (file : Except String Policy) (tree : SourceTree) :
    Except PolicyError Ending :=
  match file with
  | .error error => .ok ⟨2, [], [s!"architecture policy error: {error}"]⟩
  | .ok policy =>
      match loadRules interpreter policy with
      | .error .recursion => .error .recursion
      | .error error => .ok ⟨2, [], [s!"architecture policy error: {error.message repr}"]⟩
      | .ok rules =>
          match checkImports tree rules with
          | [] => .ok ⟨0, [s!"architecture boundaries valid ({rules.length} modules)"], []⟩
          | violations =>
              .ok ⟨1, [], "architecture boundary violations:" :: violations.map fun violation => s!"- {violation.text}"⟩

variable {interpreter : Interpreter} {repr : String → String} {file : Except String Policy} {policy : Policy}
  {tree : SourceTree} {rules : Rules} {source target : ModuleRule}

/-! ## What a tree without violations is like -/

/-- Some file of the module spells out a name that another module owns. -/
structure Uses (tree : SourceTree) (rules : Rules) (source target : ModuleRule) : Prop where
  declared : source ∈ rules
  other : target ≠ source
  spelled : ∃ entry ∈ tree.entries, source.holds entry = true ∧ ∃ body, entry.content = .ok body ∧
    ∃ name, FileSpells body name ∧ Owns rules target name

/-- Every file of a module can be read, and the modules use only what they may. -/
structure Respected (tree : SourceTree) (rules : Rules) : Prop where
  readable : ∀ source ∈ rules, ∀ entry ∈ tree.entries, source.holds entry = true → ∃ body, entry.content = .ok body
  allowed : ∀ source target, Uses tree rules source target → target.name ∈ source.mayImport

theorem rule_eq_of_name (wellFormed : WellFormed rules) (here : source ∈ rules) (there : target ∈ rules)
    (same : target.name = source.name) : target = source :=
  List.inj_on_of_nodup_map wellFormed.names there here same

/-- The scan finds nothing exactly in a tree that respects the rules. -/
theorem checkImports_eq_nil_iff (wellFormed : WellFormed rules) : checkImports tree rules = [] ↔ Respected tree rules := by
  constructor
  · intro clean
    have silent (source : ModuleRule) (declared : source ∈ rules) (entry : Entry) (member : entry ∈ tree.entries)
        (holds : source.holds entry = true) : checkFile rules source entry = [] := by
      rw [checkImports, List.flatMap_eq_nil_iff] at clean
      exact List.flatMap_eq_nil_iff.mp (clean source declared) entry (mem_filesOf_iff.mpr ⟨member, holds⟩)
    have readable (source : ModuleRule) (declared : source ∈ rules) (entry : Entry) (member : entry ∈ tree.entries)
        (holds : source.holds entry = true) : ∃ body, entry.content = .ok body := by
      have nothing := silent source declared entry member holds
      cases content : entry.content with
      | ok body => exact ⟨body, rfl⟩
      | error error => simp [checkFile, content] at nothing
    refine ⟨readable, ?_⟩
    rintro source target ⟨declared, other, entry, member, holds, body, parsed, name, spelled, owns⟩
    by_contra unlisted
    have nothing := silent source declared entry member holds
    rw [checkFile, parsed, List.flatMap_eq_nil_iff] at nothing
    have reported : .mayNotImport entry.path source.name target.name name ∈ checkName rules source entry.path name :=
      (mem_checkName_iff wellFormed).mpr
        ⟨target, owns, fun same => other (rule_eq_of_name wellFormed declared owns.declared same), unlisted, rfl⟩
    rw [nothing name (mem_sortedNames.mpr (mem_importedModules_iff.mpr spelled))] at reported
    contradiction
  · rintro ⟨readable, allowed⟩
    rw [checkImports, List.flatMap_eq_nil_iff]
    intro source declared
    rw [List.flatMap_eq_nil_iff]
    intro entry held
    obtain ⟨member, holds⟩ := mem_filesOf_iff.mp held
    obtain ⟨body, parsed⟩ := readable source declared entry member holds
    rw [checkFile, parsed, List.flatMap_eq_nil_iff]
    intro name imported
    refine List.eq_nil_iff_forall_not_mem.mpr fun violation found => ?_
    obtain ⟨target, owns, different, unlisted, _⟩ := (mem_checkName_iff wellFormed).mp found
    have spelled := mem_importedModules_iff.mp (mem_sortedNames.mp imported)
    exact unlisted (allowed source target
      ⟨declared, fun same => different (congrArg ModuleRule.name same), entry, member, holds, body, parsed, name, spelled, owns⟩)

/-! ## Layers -/

theorem exists_modules (loaded : loadRules interpreter policy = .ok rules) : ∃ modules, policy.modules = some modules := by
  cases table : policy.modules with
  | some modules => exact ⟨modules, rfl⟩
  | none =>
    obtain ⟨_, loaded⟩ := check_bind_eq_ok_iff.mp loaded
    simp [table, throw, throwThe, MonadExceptOf.throw] at loaded

theorem acyclic_of_loadRules (loaded : loadRules interpreter policy = .ok rules) (deep : rules.length < interpreter.limit) :
    ∀ name, ¬TransGen (Edge rules) name name := by
  have wellFormed := loadRules_wellFormed loaded
  obtain ⟨modules, table⟩ := exists_modules loaded
  obtain ⟨_, _, _, _, _, _, acyclic, rfl⟩ := (loadRules_eq_ok_iff table).mp loaded
  exact (detectCycles_spec wellFormed.closed deep).1.mp acyclic

theorem edge_of_uses (wellFormed : WellFormed rules) (respected : Respected tree rules) (uses : Uses tree rules source target) :
    Edge rules source.name target.name := by
  obtain ⟨rule, found⟩ := Rules.exists_get? (List.mem_map_of_mem uses.declared)
  obtain ⟨declared, same⟩ := Rules.get?_eq_some found
  obtain rfl := rule_eq_of_name wellFormed uses.declared declared same
  exact ⟨rule, found, respected.allowed _ _ uses⟩

/-- Under an accepted policy, the modules of a tree that respects it have layers. -/
theorem exists_layers (loaded : loadRules interpreter policy = .ok rules) (deep : rules.length < interpreter.limit)
    (respected : Respected tree rules) :
    ∃ layer : String → ℕ, (∀ rule ∈ rules, layer rule.name < rules.length) ∧
      ∀ source target, Uses tree rules source target → layer target.name < layer source.name := by
  have wellFormed := loadRules_wellFormed loaded
  obtain ⟨layer, lower, bounded⟩ := exists_rank rules.names.toFinset (by
    rintro name dependency ⟨rule, found, listed⟩
    rw [List.mem_toFinset]
    exact wellFormed.closed rule (Rules.get?_eq_some found).1 dependency listed) (acyclic_of_loadRules loaded deep)
  refine ⟨layer, fun rule declared => ?_, fun source target uses => lower _ _ (edge_of_uses wellFormed respected uses)⟩
  have below := bounded rule.name (List.mem_toFinset.mpr (List.mem_map_of_mem declared))
  rwa [List.toFinset_card_of_nodup wellFormed.names, Rules.names, List.length_map] at below

/-! ## Exit codes -/

/-- The rules of a policy file that is accepted. -/
def Accepted (interpreter : Interpreter) (file : Except String Policy) (rules : Rules) : Prop :=
  ∃ policy, file = .ok policy ∧ loadRules interpreter policy = .ok rules

theorem length_of_loadRules {modules : ModuleTable} (table : policy.modules = some modules)
    (loaded : loadRules interpreter policy = .ok rules) : rules.length = modules.entries.length := by
  obtain ⟨_, _, _, _, _, _, _, rfl⟩ := (loadRules_eq_ok_iff table).mp loaded
  exact List.length_map ..

theorem main_of_accepted (loaded : loadRules interpreter policy = .ok rules) :
    ∃ ending, main interpreter repr (.ok policy) tree = .ok ending ∧
      ending.code = if checkImports tree rules = [] then 0 else 1 := by
  cases violations : checkImports tree rules with
  | nil =>
    simp only [main, loaded, violations]
    exact ⟨_, rfl, rfl⟩
  | cons violation others =>
    simp only [main, loaded, violations]
    exact ⟨_, rfl, rfl⟩

theorem main_of_rejected {error : PolicyError} (rejected : loadRules interpreter policy = .error error)
    (checked : error.isValueError = true) :
    main interpreter repr (.ok policy) tree =
      .ok ⟨2, [], [s!"architecture policy error: {error.message repr}"]⟩ := by
  cases error with
  | recursion => contradiction
  | _ => simp only [main, rejected]

/-- The script ends with code two when the policy is not accepted, and otherwise with code zero or one, by whether
the tree respects the rules; with code zero, the modules have layers and every import leads to a lower one. -/
theorem main_verdict (repr : String → String) (tree : SourceTree)
    (deep : ∀ policy, file = .ok policy → ∀ modules ∈ policy.modules, modules.entries.length < interpreter.limit) :
    ∃ ending, main interpreter repr file tree = .ok ending ∧ ending.code ≤ 2 ∧
      (ending.code = 2 ↔ ¬∃ rules, Accepted interpreter file rules) ∧
      (ending.code = 0 ↔ ∃ rules, Accepted interpreter file rules ∧ Respected tree rules) ∧
      (ending.code = 0 → ∃ rules, Accepted interpreter file rules ∧
        ∃ layer : String → ℕ, (∀ rule ∈ rules, layer rule.name < rules.length) ∧
          ∀ source target, Uses tree rules source target → layer target.name < layer source.name) := by
  cases file with
  | error error =>
    have rejected : ¬∃ rules, Accepted interpreter (.error error) rules := by
      rintro ⟨rules, policy, opened, _⟩
      contradiction
    refine ⟨_, rfl, le_rfl, iff_of_true rfl rejected, iff_of_false (by simp) ?_, by simp⟩
    rintro ⟨rules, accepted, _⟩
    exact rejected ⟨rules, accepted⟩
  | ok policy =>
    have only {rules : Rules} : Accepted interpreter (.ok policy) rules ↔ loadRules interpreter policy = .ok rules := by
      constructor
      · rintro ⟨policy', same, loaded⟩
        cases same
        exact loaded
      · exact fun loaded => ⟨policy, rfl, loaded⟩
    simp only [only]
    cases loaded : loadRules interpreter policy with
    | error error =>
      have checked := raises_loadRules (deep policy rfl) error loaded
      exact ⟨_, main_of_rejected loaded checked, by simp⟩
    | ok rules =>
      have wellFormed := loadRules_wellFormed loaded
      obtain ⟨ending, ended, code⟩ := @main_of_accepted interpreter repr policy tree rules loaded
      refine ⟨ending, ended, ?_⟩
      simp only [Except.ok.injEq, exists_eq_left', exists_eq', not_true_eq_false, iff_false, code]
      split_ifs with clean
      · have respected := (checkImports_eq_nil_iff wellFormed).mp clean
        obtain ⟨modules, table⟩ := exists_modules loaded
        have bounded : rules.length < interpreter.limit := length_of_loadRules table loaded ▸ deep policy rfl modules table
        exact ⟨by simp, by simp, iff_of_true rfl respected, fun _ => exists_layers loaded bounded respected⟩
      · have broken := mt (checkImports_eq_nil_iff wellFormed).mpr clean
        exact ⟨by simp, by simp, iff_of_false (by simp) broken, by simp⟩

/-- In the sample tree the domain uses the persistence module. -/
theorem uses_sample : Uses (sampleTree sampleImport) sampleRules sampleDomain samplePersistence := by
  have here : sampleImport ∈ (Node.other [sampleImport]).walk := by simp [Node.walk, sampleImport]
  refine ⟨List.mem_cons_self .., by decide, sampleEntry sampleImport, List.mem_singleton_self _, rfl, _, rfl,
    "example.persistence", ⟨_, here, .imported (List.mem_singleton_self _)⟩, by decide, by decide, by decide⟩

theorem main_verdict_sample :
    ∃ ending, main sampleInterpreter id (.ok ⟨some (.integer 1), some sampleModules⟩) (sampleTree sampleImport) = .ok ending ∧
      ending.code = 1 := by
  have deep : ∀ policy, (.ok ⟨some (.integer 1), some sampleModules⟩ : Except String Policy) = .ok policy →
      ∀ modules ∈ policy.modules, modules.entries.length < sampleInterpreter.limit := by
    rintro policy same modules present
    cases same
    cases present
    decide
  obtain ⟨ending, ended, bounded, rejected, respected, _⟩ := main_verdict id (sampleTree sampleImport) deep
  have accepted : Accepted sampleInterpreter (.ok ⟨some (.integer 1), some sampleModules⟩) sampleRules :=
    ⟨_, rfl, loadRules_sample⟩
  have notTwo : ending.code ≠ 2 := fun two => rejected.mp two ⟨_, accepted⟩
  have notZero : ending.code ≠ 0 := by
    intro zero
    obtain ⟨rules, ⟨policy, same, loaded⟩, respects⟩ := respected.mp zero
    cases same
    rw [loadRules_sample, Except.ok.injEq] at loaded
    subst loaded
    exact absurd (respects.allowed _ _ uses_sample) (by decide)
  exact ⟨ending, ended, by omega⟩

end PortfolioManager.Scripts.CheckArchitecture
