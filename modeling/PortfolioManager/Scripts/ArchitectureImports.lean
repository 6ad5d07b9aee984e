import PortfolioManager.Scripts.ArchitectureRules
import Mathlib.Data.List.MinMax

/-! # The import scan of the architecture checker

A source file is what reading and parsing it gives: a syntax tree, of which only the import
statements matter here, or an error that the scan reports. Every module is checked against all
Python files below its path.
-/

namespace PortfolioManager.Scripts.CheckArchitecture

open PortfolioManager.Python

structure Alias where
  name : String
  asname : Option String
deriving DecidableEq

/-- A node of a syntax tree: `ast.Import`, `ast.ImportFrom`, or any other node with its children. -/
inductive Node where
  | import_ (names : List Alias)
  | importFrom (module : Option String) (names : List Alias) (level : ℕ)
  | other (children : List Node)

/-- `ast.walk`: the node and all its descendants, in an order that nothing depends on. -/
def Node.walk : Node → List Node
  | import_ names => [import_ names]
  | importFrom module names level => [importFrom module names level]
  | other children => other children :: children.flatMap walk

/-- The names the scan reads off one node. -/
def Node.names : Node → List String
  | import_ names => names.map (·.name)
  | importFrom (some module) _ _ => if module ≠ "" then [module] else []
  | _ => []

def importedModules (tree : Node) : Finset String := (tree.walk.flatMap Node.names).toFinset

/-- The test of `match_module` on one rule. -/
def ModuleRule.covers (rule : ModuleRule) (importName : String) : Bool :=
  importName = rule.importPrefix || startsWith importName (rule.importPrefix ++ ".")

def matchModule (importName : String) (rules : Rules) : Option String :=
  ((rules.filter (·.covers importName)).argmax (·.importPrefix.length)).map (·.name)

/-- An entry of the file system, by its path from the root: the tree that reading and parsing it gives,
or the text of the error. -/
structure Entry where
  path : List String
  content : Except String Node

/-- The pattern `*.py`. -/
def Entry.isPython (entry : Entry) : Bool := entry.path.getLast?.any fun name => ".py".toList.isSuffixOf name.toList

structure SourceTree where
  entries : List Entry
  distinct : (entries.map (·.path)).Nodup

/-- `rglob("*.py")` finds the matching entries strictly below a directory; below a missing one there are none. -/
def ModuleRule.holds (rule : ModuleRule) (entry : Entry) : Bool :=
  rule.path.parts.isPrefixOf entry.path && rule.path.parts ≠ entry.path && entry.isPython

inductive Violation where
  | cannotInspect (path : List String) (error : String)
  | mayNotImport (path : List String) (source target imported : String)
deriving DecidableEq

/-- The file a violation names. -/
def Violation.path : Violation → List String
  | cannotInspect path _ => path
  | mayNotImport path .. => path

def Violation.text (violation : Violation) : String :=
  String.intercalate "/" violation.path ++
    match violation with
    | cannotInspect _ error => s!": cannot inspect: {error}"
    | mayNotImport _ source target imported => s!": {source} may not import {target} ({imported})"

/-- The violations of one imported name. -/
def checkName (rules : Rules) (sourceRule : ModuleRule) (path : List String) (imported : String) : List Violation :=
  match matchModule imported rules with
  | none => []
  | some target =>
      if target = sourceRule.name then []
      else if target ∉ sourceRule.mayImport then [.mayNotImport path sourceRule.name target imported]
      else []

/-- The violations of one file of a module. -/
def checkFile (rules : Rules) (sourceRule : ModuleRule) (entry : Entry) : List Violation :=
  match entry.content with
  | .error error => [.cannotInspect entry.path error]
  | .ok tree => (sortedNames (importedModules tree)).flatMap (checkName rules sourceRule entry.path)

/-- The files below a module's path, in path order. -/
def SourceTree.filesOf (tree : SourceTree) (rule : ModuleRule) : List Entry :=
  (tree.entries.filter rule.holds).mergeSort fun first second => first.path ≤ second.path

def checkImports (tree : SourceTree) (rules : Rules) : List Violation :=
  rules.flatMap fun sourceRule => (tree.filesOf sourceRule).flatMap (checkFile rules sourceRule)

/-! ## Ownership by longest prefix -/

variable {rules : Rules} {importName : String}

/-- The rule that a dotted name belongs to: it covers the name, and every other that does has a shorter prefix. -/
structure Owns (rules : Rules) (target : ModuleRule) (importName : String) : Prop where
  declared : target ∈ rules
  covers : target.covers importName = true
  longest : ∀ rule ∈ rules, rule.covers importName = true → rule ≠ target →
    rule.importPrefix.length < target.importPrefix.length

theorem isPrefix_of_covers {rule : ModuleRule} (covers : rule.covers importName = true) :
    rule.importPrefix.toList <+: importName.toList := by
  simp only [ModuleRule.covers, Bool.or_eq_true, decide_eq_true_eq] at covers
  rcases covers with rfl | below
  · exact List.prefix_rfl
  · refine List.IsPrefix.trans ?_ (startsWith_iff.mp below)
    rw [String.toList_append]
    exact List.prefix_append ..

/-- Two prefixes of one name that have the same length are the same. -/
theorem importPrefix_eq_of_length_eq {rule other : ModuleRule} (covers : rule.covers importName = true)
    (covers' : other.covers importName = true) (length : rule.importPrefix.length = other.importPrefix.length) :
    rule.importPrefix = other.importPrefix := by
  have shorter := List.prefix_of_prefix_length_le (isPrefix_of_covers covers) (isPrefix_of_covers covers')
    (by simp [String.length_toList, length])
  exact String.toList_inj.mp (shorter.eq_of_length (by simp [String.length_toList, length]))

/-- Among distinct prefixes, the scan finds the owner of a name. -/
theorem matchModule_eq_some_iff (distinct : (rules.map (·.importPrefix)).Nodup) {name : String} :
    matchModule importName rules = some name ↔ ∃ target, Owns rules target importName ∧ target.name = name := by
  rw [matchModule, Option.map_eq_some_iff]
  refine exists_congr fun target => and_congr_left fun _ => ⟨fun best => ?_, fun owns => ?_⟩
  · have member := List.mem_filter.mp (List.argmax_mem best)
    refine ⟨member.1, member.2, fun rule declared covers different => ?_⟩
    have bounded := List.le_of_mem_argmax (List.mem_filter.mpr ⟨declared, covers⟩) best
    apply lt_of_le_of_ne bounded
    intro same
    apply different
    exact List.inj_on_of_nodup_map distinct declared member.1 (importPrefix_eq_of_length_eq covers member.2 same)
  · have member : target ∈ rules.filter (·.covers importName) := List.mem_filter.mpr ⟨owns.declared, owns.covers⟩
    cases best : (rules.filter (·.covers importName)).argmax (·.importPrefix.length) with
    | none =>
      rw [List.argmax_eq_none.mp best] at member
      contradiction
    | some found =>
      have chosen := List.mem_filter.mp (List.argmax_mem best)
      have bounded := List.le_of_mem_argmax member best
      by_cases same : found = target
      · rw [same]
      · have shorter := owns.longest found chosen.1 chosen.2 same
        omega

/-! ## What the scan reports -/

/-- A rule's files may not import the name: another module owns it that the rule does not list. -/
def Forbidden (rules : Rules) (source : ModuleRule) (importName : String) : Prop :=
  ∃ target, Owns rules target importName ∧ target.name ≠ source.name ∧ target.name ∉ source.mayImport

theorem mem_checkName_iff (wellFormed : WellFormed rules) {source : ModuleRule} {path : List String}
    {violation : Violation} :
    violation ∈ checkName rules source path importName ↔
      ∃ target, Owns rules target importName ∧ target.name ≠ source.name ∧ target.name ∉ source.mayImport ∧
        violation = .mayNotImport path source.name target.name importName := by
  have owner := fun name => @matchModule_eq_some_iff rules importName wellFormed.importPrefixes name
  unfold checkName
  constructor
  · intro found
    split at found
    · contradiction
    · next name matched =>
      obtain ⟨target, owns, rfl⟩ := (owner name).mp matched
      split at found
      · contradiction
      · next different =>
        split at found
        · next unlisted => exact ⟨target, owns, different, unlisted, List.mem_singleton.mp found⟩
        · contradiction
  · rintro ⟨target, owns, different, unlisted, rfl⟩
    simp [(owner target.name).mpr ⟨target, owns, rfl⟩, different, unlisted]

theorem mem_filesOf_iff {tree : SourceTree} {rule : ModuleRule} {entry : Entry} :
    entry ∈ tree.filesOf rule ↔ entry ∈ tree.entries ∧ rule.holds entry = true := by
  rw [SourceTree.filesOf, List.mem_mergeSort, List.mem_filter]

theorem path_of_mem_checkFile {source : ModuleRule} {entry : Entry} {violation : Violation}
    (wellFormed : WellFormed rules) (found : violation ∈ checkFile rules source entry) : violation.path = entry.path := by
  unfold checkFile at found
  split at found
  · rw [List.mem_singleton.mp found]
    rfl
  · obtain ⟨imported, _, found⟩ := List.mem_flatMap.mp found
    obtain ⟨target, _, _, _, rfl⟩ := (mem_checkName_iff wellFormed).mp found
    rfl

/-- A violation names the file. -/
def Reported (tree : SourceTree) (rules : Rules) (entry : Entry) : Prop :=
  ∃ violation ∈ checkImports tree rules, violation.path = entry.path

/-- A parsed file is reported exactly when some module that holds it may not import one of its names. -/
theorem reported_iff (wellFormed : WellFormed rules) {tree : SourceTree} {entry : Entry} {body : Node}
    (member : entry ∈ tree.entries) (parsed : entry.content = .ok body) :
    Reported tree rules entry ↔
      ∃ source ∈ rules, source.holds entry = true ∧ ∃ name ∈ importedModules body, Forbidden rules source name := by
  constructor
  · rintro ⟨violation, found, same⟩
    obtain ⟨source, declared, found⟩ := List.mem_flatMap.mp found
    obtain ⟨other, held, found⟩ := List.mem_flatMap.mp found
    obtain ⟨present, holds⟩ := mem_filesOf_iff.mp held
    have path := (path_of_mem_checkFile wellFormed found).symm.trans same
    obtain rfl := List.inj_on_of_nodup_map tree.distinct present member path
    rw [checkFile, parsed] at found
    obtain ⟨name, imported, found⟩ := List.mem_flatMap.mp found
    obtain ⟨target, owns, different, unlisted, _⟩ := (mem_checkName_iff wellFormed).mp found
    exact ⟨source, declared, holds, name, mem_sortedNames.mp imported, target, owns, different, unlisted⟩
  · rintro ⟨source, declared, holds, name, imported, target, owns, different, unlisted⟩
    refine ⟨.mayNotImport entry.path source.name target.name name, ?_, rfl⟩
    refine List.mem_flatMap.mpr ⟨source, declared, List.mem_flatMap.mpr ⟨entry, mem_filesOf_iff.mpr ⟨member, holds⟩, ?_⟩⟩
    rw [checkFile, parsed]
    exact List.mem_flatMap.mpr ⟨name, mem_sortedNames.mpr imported,
      (mem_checkName_iff wellFormed).mpr ⟨target, owns, different, unlisted, rfl⟩⟩

end PortfolioManager.Scripts.CheckArchitecture
