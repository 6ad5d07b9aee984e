import PortfolioManager.Scripts.ArchitectureCycles
import PortfolioManager.Scripts.ArchitectureImports

/-! # Violations that the architecture checker reports wrongly

An imported name belongs to the module with the longest prefix that covers it, but a file is checked
for every module whose path it lies below. A module whose path lies inside another's is therefore
held to the rules of both, and each of the two reports the same import.
-/

namespace PortfolioManager.Scripts.CheckArchitecture

open PortfolioManager.Python

/-- The module a file belongs to: it holds the file, and every other that does has a shorter path. -/
structure OwnsFile (rules : Rules) (owner : ModuleRule) (entry : Entry) : Prop where
  declared : owner ∈ rules
  holds : owner.holds entry = true
  closest : ∀ rule ∈ rules, rule.holds entry = true → rule ≠ owner → rule.path.parts.length < owner.path.parts.length

/-- The file a violation names, and the import if it names one. -/
def Violation.subject : Violation → List String × Option String
  | cannotInspect path _ => (path, none)
  | mayNotImport path _ _ imported => (path, some imported)

theorem subject_fst (violation : Violation) : violation.subject.1 = violation.path := by
  cases violation <;> rfl

/-- A violation is right when it names a file and an import of it that the module owning the file may not make. -/
def Justified (tree : SourceTree) (rules : Rules) (violation : Violation) : Prop :=
  ∃ entry ∈ tree.entries, ∃ body owner imported, entry.content = .ok body ∧ imported ∈ importedModules body ∧
    violation.subject = (entry.path, some imported) ∧ OwnsFile rules owner entry ∧ Forbidden rules owner imported

/-- Every violation is right, and no two are about the same file and import. -/
structure NoFalsePositives (tree : SourceTree) (rules : Rules) : Prop where
  justified : ∀ violation ∈ checkImports tree rules, Justified tree rules violation
  single : ((checkImports tree rules).map Violation.subject).Nodup

/-- Every Python file can be read and parsed. -/
def SourceTree.Parseable (tree : SourceTree) : Prop :=
  ∀ entry ∈ tree.entries, entry.isPython = true → ∃ body, entry.content = .ok body

variable {rules : Rules} {tree : SourceTree} {entry : Entry} {body : Node}

theorem OwnsFile.unique {owner other : ModuleRule} (owns : OwnsFile rules owner entry) (owns' : OwnsFile rules other entry) :
    owner = other := by
  by_contra different
  have shorter := owns.closest other owns'.declared owns'.holds (Ne.symm different)
  have longer := owns'.closest owner owns.declared owns.holds different
  omega

theorem isPython_of_holds {rule : ModuleRule} (holds : rule.holds entry = true) : entry.isPython = true := by
  simp only [ModuleRule.holds, Bool.and_eq_true] at holds
  exact holds.2

theorem subject_of_mem_checkName (wellFormed : WellFormed rules) {source : ModuleRule} {path : List String}
    {imported : String} {violation : Violation} (found : violation ∈ checkName rules source path imported) :
    violation.subject = (path, some imported) ∧ Forbidden rules source imported := by
  obtain ⟨target, owns, different, unlisted, rfl⟩ := (mem_checkName_iff wellFormed).mp found
  exact ⟨rfl, target, owns, different, unlisted⟩

/-- A module's rule reports an import of a file that it holds. -/
structure Reports (tree : SourceTree) (rules : Rules) (source : ModuleRule) (entry : Entry) (imported : String)
    (violation : Violation) : Prop where
  member : entry ∈ tree.entries
  holds : source.holds entry = true
  imports : ∃ body, entry.content = .ok body ∧ imported ∈ importedModules body
  subject : violation.subject = (entry.path, some imported)
  forbidden : Forbidden rules source imported

/-- Where all files parse, the files of a module come to such reports only. -/
theorem exists_reports (wellFormed : WellFormed rules) (parseable : tree.Parseable) {source : ModuleRule}
    {violation : Violation} (found : violation ∈ (tree.filesOf source).flatMap (checkFile rules source)) :
    ∃ entry imported, Reports tree rules source entry imported violation := by
  obtain ⟨entry, held, found⟩ := List.mem_flatMap.mp found
  obtain ⟨member, holds⟩ := mem_filesOf_iff.mp held
  obtain ⟨body, parsed⟩ := parseable entry member (isPython_of_holds holds)
  rw [checkFile, parsed] at found
  obtain ⟨imported, named, found⟩ := List.mem_flatMap.mp found
  obtain ⟨subject, forbidden⟩ := subject_of_mem_checkName wellFormed found
  exact ⟨entry, imported, member, holds, ⟨body, parsed, mem_sortedNames.mp named⟩, subject, forbidden⟩

/-- A forbidden import of a file is reported by every module that holds the file. -/
theorem exists_violation (wellFormed : WellFormed rules) {source : ModuleRule} (declared : source ∈ rules)
    (member : entry ∈ tree.entries) (holds : source.holds entry = true) {imported : String}
    (imports : ∃ body, entry.content = .ok body ∧ imported ∈ importedModules body)
    (forbidden : Forbidden rules source imported) :
    ∃ target, .mayNotImport entry.path source.name target imported ∈ checkImports tree rules := by
  obtain ⟨body, parsed, named⟩ := imports
  obtain ⟨target, owns, different, unlisted⟩ := forbidden
  refine ⟨target.name, List.mem_flatMap.mpr ⟨source, declared, ?_⟩⟩
  refine List.mem_flatMap.mpr ⟨entry, mem_filesOf_iff.mpr ⟨member, holds⟩, ?_⟩
  rw [checkFile, parsed]
  exact List.mem_flatMap.mpr ⟨imported, mem_sortedNames.mpr named,
    (mem_checkName_iff wellFormed).mpr ⟨target, owns, different, unlisted, rfl⟩⟩

theorem nodup_checkFile (wellFormed : WellFormed rules) {source : ModuleRule} (parsed : entry.content = .ok body) :
    ((checkFile rules source entry).map Violation.subject).Nodup := by
  rw [checkFile, parsed]
  simp only [List.map_flatMap, List.nodup_flatMap]
  constructor
  · intro imported _
    unfold checkName
    split
    · exact .nil
    · split_ifs <;> simp
  · refine (sortedNames_nodup _).imp fun different => List.disjoint_left.mpr fun subject first second => different ?_
    obtain ⟨violation, found, rfl⟩ := List.mem_map.mp first
    obtain ⟨violation', found', same⟩ := List.mem_map.mp second
    rw [(subject_of_mem_checkName wellFormed found).1, (subject_of_mem_checkName wellFormed found').1] at same
    exact (Option.some.inj (Prod.mk.inj same).2).symm

theorem nodup_filesOf (rule : ModuleRule) : (tree.filesOf rule).Nodup :=
  (List.mergeSort_perm _ _).nodup_iff.mpr ((List.Nodup.of_map _ tree.distinct).filter _)

/-- Within one module no file and import is reported twice. -/
theorem nodup_checkFiles (wellFormed : WellFormed rules) (parseable : tree.Parseable) (source : ModuleRule) :
    (((tree.filesOf source).flatMap (checkFile rules source)).map Violation.subject).Nodup := by
  simp only [List.map_flatMap, List.nodup_flatMap]
  have parsed {entry : Entry} (member : entry ∈ tree.filesOf source) : ∃ body, entry.content = .ok body := by
    obtain ⟨present, holds⟩ := mem_filesOf_iff.mp member
    exact parseable entry present (isPython_of_holds holds)
  constructor
  · intro entry member
    obtain ⟨body, content⟩ := parsed member
    exact nodup_checkFile wellFormed content
  · refine (nodup_filesOf source).imp_of_mem fun member member' different => List.disjoint_left.mpr fun subject first second => ?_
    obtain ⟨violation, found, rfl⟩ := List.mem_map.mp first
    obtain ⟨violation', found', same⟩ := List.mem_map.mp second
    have path := congrArg Prod.fst same
    rw [subject_fst, subject_fst, path_of_mem_checkFile wellFormed found, path_of_mem_checkFile wellFormed found'] at path
    exact different (List.inj_on_of_nodup_map tree.distinct (mem_filesOf_iff.mp member).1 (mem_filesOf_iff.mp member').1 path.symm)

/-- The modules that hold a file without owning it forbid none of its imports. -/
def OuterRulesAllow (tree : SourceTree) (rules : Rules) : Prop :=
  ∀ entry ∈ tree.entries, ∀ body, entry.content = .ok body → ∀ outer ∈ rules, outer.holds entry = true →
    ¬OwnsFile rules outer entry → ∀ imported ∈ importedModules body, ¬Forbidden rules outer imported

theorem OuterRulesAllow.owns (allowed : OuterRulesAllow tree rules) {source : ModuleRule} (declared : source ∈ rules)
    {imported : String} {violation : Violation} (reports : Reports tree rules source entry imported violation) :
    OwnsFile rules source entry := by
  obtain ⟨body, parsed, named⟩ := reports.imports
  by_contra outside
  exact allowed entry reports.member body parsed source declared reports.holds outside imported named reports.forbidden

/-- Where only owners forbid, no two modules report the same import of a file. -/
theorem nodup_checkImports (wellFormed : WellFormed rules) (parseable : tree.Parseable)
    (allowed : OuterRulesAllow tree rules) : ((checkImports tree rules).map Violation.subject).Nodup := by
  rw [checkImports, List.map_flatMap, List.nodup_flatMap]
  refine ⟨fun source _ => nodup_checkFiles wellFormed parseable source, ?_⟩
  have distinct : rules.Nodup := .of_map _ wellFormed.names
  refine distinct.imp_of_mem fun {first second} declared declared' different => ?_
  refine List.disjoint_left.mpr fun subject here there => different ?_
  obtain ⟨violation, found, rfl⟩ := List.mem_map.mp here
  obtain ⟨violation', found', same⟩ := List.mem_map.mp there
  obtain ⟨entry, imported, reports⟩ := exists_reports wellFormed parseable found
  obtain ⟨entry', imported', reports'⟩ := exists_reports wellFormed parseable found'
  rw [reports.subject, reports'.subject] at same
  obtain rfl := List.inj_on_of_nodup_map tree.distinct reports'.member reports.member (Prod.mk.inj same).1
  exact (allowed.owns declared reports).unique (allowed.owns declared' reports')

/-- A module that forbids an import of a file it does not own reports what its owner reports too. -/
theorem NoFalsePositives.outerRulesAllow (right : NoFalsePositives tree rules) (wellFormed : WellFormed rules) :
    OuterRulesAllow tree rules := by
  intro entry member body parsed outer declared holds outside imported named forbidden
  obtain ⟨target, found⟩ := exists_violation wellFormed declared member holds ⟨body, parsed, named⟩ forbidden
  obtain ⟨other, member', body', owner, imported', parsed', named', subject, owns, forbidden'⟩ := right.justified _ found
  obtain ⟨path, same⟩ := Prod.mk.inj subject
  cases same
  obtain rfl := List.inj_on_of_nodup_map tree.distinct member' member path.symm
  obtain ⟨target', found'⟩ := exists_violation wellFormed owns.declared member' owns.holds ⟨body', parsed', named'⟩ forbidden'
  have twice := List.inj_on_of_nodup_map right.single found found' rfl
  have names : outer.name = owner.name := (Violation.mayNotImport.inj twice).2.1
  obtain rfl := List.inj_on_of_nodup_map wellFormed.names declared owns.declared names
  exact outside owns

/-- A file is reported only for imports that its own module may not make, once each, exactly when the
other modules that hold it forbid none of its imports. -/
theorem no_false_positives_iff {interpreter : Interpreter} {policy : Policy}
    (loaded : loadRules interpreter policy = .ok rules) (parseable : tree.Parseable) :
    NoFalsePositives tree rules ↔ OuterRulesAllow tree rules := by
  have wellFormed := loadRules_wellFormed loaded
  refine ⟨fun right => right.outerRulesAllow wellFormed, fun allowed => ⟨?_, nodup_checkImports wellFormed parseable allowed⟩⟩
  intro violation found
  obtain ⟨source, declared, found⟩ := List.mem_flatMap.mp found
  obtain ⟨entry, imported, reports⟩ := exists_reports wellFormed parseable found
  obtain ⟨body, parsed, named⟩ := reports.imports
  exact ⟨entry, reports.member, body, source, imported, parsed, named, reports.subject,
    allowed.owns declared reports, reports.forbidden⟩

/-! ### A module inside another -/

def nestedModules : ModuleTable where
  entries := [("app", ⟨"src", "example", some []⟩), ("plugin", ⟨"src/plugin", "example.plugin", some []⟩)]
  distinct := by decide

def outerRule : ModuleRule := ⟨"app", ⟨false, ["src"]⟩, "example", ∅⟩
def pluginRule : ModuleRule := ⟨"plugin", ⟨false, ["src", "plugin"]⟩, "example.plugin", ∅⟩
def nestedRules : Rules := [outerRule, pluginRule]

/-- A file with one import. -/
def importing (path : List String) (name : String) : Entry := ⟨path, .ok (.other [.import_ [⟨name, none⟩]])⟩

def singleFile (entry : Entry) : SourceTree := ⟨[entry], List.nodup_singleton _⟩

theorem nestedRules_independent : ∀ rule ∈ nestedRules, rule.mayImport = ∅ := by decide

theorem loadRules_nested : loadRules sampleInterpreter ⟨some (.integer 1), some nestedModules⟩ = .ok nestedRules := by
  apply (loadRules_eq_ok_iff rfl).mpr
  have closed : Closed nestedRules := by
    intro rule member
    simp [nestedRules_independent rule member]
  have acyclic (name : String) : ¬Relation.TransGen (Edge nestedRules) name name := by
    intro cycle
    obtain ⟨next, ⟨rule, found, listed⟩, _⟩ := Relation.TransGen.head'_iff.mp cycle
    rw [nestedRules_independent rule (Rules.get?_eq_some found).1] at listed
    contradiction
  refine ⟨rfl, by decide, by decide, by decide, by decide, ?_, ?_, rfl⟩
  · intro rule member
    apply checkDependencies_eq_ok_iff.mpr
    simp [nestedRules_independent rule member]
  · exact (detectCycles_spec closed (by decide)).1.mpr acyclic

theorem parseable_importing {path : List String} {name : String} : (singleFile (importing path name)).Parseable := by
  intro entry member _
  rw [List.mem_singleton.mp member]
  exact ⟨_, rfl⟩

/-- A file of the outer module that imports the inner one is reported, rightly and once. -/
theorem no_false_positives_iff_sample :
    NoFalsePositives (singleFile (importing ["src", "main.py"] "example.plugin.registry")) nestedRules := by
  apply (no_false_positives_iff loadRules_nested parseable_importing).mpr
  intro entry member body _ outer declared holds outside
  rw [List.mem_singleton.mp member] at holds outside
  have only : ∀ rule ∈ nestedRules, rule.holds (importing ["src", "main.py"] "example.plugin.registry") = true →
      rule = outerRule := by decide
  refine absurd ⟨declared, holds, fun rule listed holds' different => ?_⟩ outside
  rw [only rule listed holds', only outer declared holds] at different
  contradiction

/-- A file of the inner module that imports its own module. -/
def ownImport : Entry := importing ["src", "plugin", "loader.py"] "example.plugin.registry"

/-- It is reported, because the outer module holds it too and may not import the inner one. -/
theorem own_import_reported :
    loadRules sampleInterpreter ⟨some (.integer 1), some nestedModules⟩ = .ok nestedRules ∧
      (singleFile ownImport).Parseable ∧ OwnsFile nestedRules pluginRule ownImport ∧
      Owns nestedRules pluginRule "example.plugin.registry" ∧
      .mayNotImport ownImport.path "app" "plugin" "example.plugin.registry" ∈ checkImports (singleFile ownImport) nestedRules ∧
      ¬NoFalsePositives (singleFile ownImport) nestedRules := by
  have wellFormed := loadRules_wellFormed loadRules_nested
  have owns : Owns nestedRules pluginRule "example.plugin.registry" := ⟨by decide, by decide, by decide⟩
  have ownsFile : OwnsFile nestedRules pluginRule ownImport := ⟨by decide, rfl, by decide⟩
  have reported : .mayNotImport ownImport.path "app" "plugin" "example.plugin.registry" ∈
      checkImports (singleFile ownImport) nestedRules := by
    have file : ownImport ∈ (singleFile ownImport).filesOf outerRule := mem_filesOf_iff.mpr ⟨List.mem_singleton_self _, rfl⟩
    refine List.mem_flatMap.mpr ⟨outerRule, List.mem_cons_self .., List.mem_flatMap.mpr ⟨ownImport, file, ?_⟩⟩
    rw [checkFile]
    refine List.mem_flatMap.mpr ⟨"example.plugin.registry", mem_sortedNames.mpr ?_, ?_⟩
    · simp [importedModules, Node.walk, Node.names]
    · exact (mem_checkName_iff wellFormed).mpr ⟨pluginRule, owns, by decide, by decide, rfl⟩
  refine ⟨loadRules_nested, parseable_importing, ownsFile, owns, reported, fun right => ?_⟩
  obtain ⟨entry, member, _, owner, imported, _, _, subject, owns', target, targetOwns, different, _⟩ :=
    right.justified _ reported
  obtain rfl := List.mem_singleton.mp member
  obtain rfl := owns'.unique ownsFile
  cases subject
  have same := (matchModule_eq_some_iff wellFormed.importPrefixes).mpr ⟨target, targetOwns, rfl⟩
  rw [(matchModule_eq_some_iff wellFormed.importPrefixes).mpr ⟨pluginRule, owns, rfl⟩] at same
  exact different (Option.some.inj same).symm

end PortfolioManager.Scripts.CheckArchitecture
