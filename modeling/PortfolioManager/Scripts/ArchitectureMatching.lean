import PortfolioManager.Scripts.ArchitectureImports

/-! # The most specific owner of a dotted name

`match_module` compares the prefixes that a name lies below. They are prefixes of one text, so among distinct
ones the longest is unique, whatever the order of the table, and a longer name keeps all those of a shorter one.
-/

namespace PortfolioManager.Scripts.CheckArchitecture

open PortfolioManager.Python

/-- A name lies below a prefix: it is the prefix, or goes on after it with a dot. -/
def Below (importName importPrefix : String) : Prop :=
  importName = importPrefix ∨ ∃ rest, importName = importPrefix ++ "." ++ rest

variable {rules : Rules} {importName : String}

theorem covers_iff {rule : ModuleRule} : rule.covers importName = true ↔ Below importName rule.importPrefix := by
  simp only [ModuleRule.covers, Bool.or_eq_true, decide_eq_true_eq, startsWith_iff, Below]
  refine or_congr_right ⟨?_, ?_⟩
  · rintro ⟨rest, whole⟩
    refine ⟨String.ofList rest, String.toList_inj.mp ?_⟩
    rw [String.toList_append, String.toList_ofList, whole]
  · rintro ⟨rest, rfl⟩
    have whole : (rule.importPrefix ++ "." ++ rest).toList = (rule.importPrefix ++ ".").toList ++ rest.toList :=
      String.toList_append
    exact whole ▸ List.prefix_append ..

/-- What a name lies below, every longer dotted name lies below. -/
theorem Below.extend {importPrefix : String} (below : Below importName importPrefix) (component : String) :
    Below (importName ++ "." ++ component) importPrefix := by
  rcases below with rfl | ⟨rest, rfl⟩
  · exact .inr ⟨component, rfl⟩
  · exact .inr ⟨rest ++ "." ++ component, by simp only [String.append_assoc]⟩

/-- A name that goes on after a prefix with another character than a dot does not lie below it. -/
theorem not_below_of_longer_component {importPrefix : String} {character : Char} {rest : List Char} (other : character ≠ '.') :
    ¬Below (importPrefix ++ String.ofList (character :: rest)) importPrefix := by
  rintro (same | ⟨suffix, same⟩)
  · have texts := congrArg String.toList same
    simp at texts
  · have texts := congrArg String.toList same
    simp only [String.toList_append, String.toList_ofList, List.append_assoc, List.append_cancel_left_eq] at texts
    exact other (List.cons.inj texts).1

theorem matchModule_eq_none_iff : matchModule importName rules = none ↔ ∀ rule ∈ rules, ¬Below importName rule.importPrefix := by
  rw [matchModule, Option.map_eq_none_iff, List.argmax_eq_none, List.filter_eq_nil_iff]
  simp only [covers_iff]

/-- A name below a declared prefix has an owner, with a prefix at least as long. -/
theorem exists_owns (distinct : (rules.map (·.importPrefix)).Nodup) {rule : ModuleRule} (declared : rule ∈ rules)
    (below : Below importName rule.importPrefix) :
    ∃ target, Owns rules target importName ∧ rule.importPrefix.length ≤ target.importPrefix.length := by
  cases found : matchModule importName rules with
  | none => exact absurd below (matchModule_eq_none_iff.mp found rule declared)
  | some name =>
    obtain ⟨target, owns, _⟩ := (matchModule_eq_some_iff distinct).mp found
    refine ⟨target, owns, ?_⟩
    rcases eq_or_ne rule target with rfl | different
    · exact le_refl _
    · exact (owns.longest rule declared (covers_iff.mpr below) different).le

theorem Owns.perm {reordered : Rules} (same : reordered.Perm rules) {target : ModuleRule} (owns : Owns rules target importName) :
    Owns reordered target importName where
  declared := same.mem_iff.mpr owns.declared
  covers := owns.covers
  longest rule declared := owns.longest rule (same.mem_iff.mp declared)

theorem matchModule_perm (distinct : (rules.map (·.importPrefix)).Nodup) {reordered : Rules} (same : reordered.Perm rules) :
    matchModule importName reordered = matchModule importName rules := by
  have distinct' : (reordered.map (·.importPrefix)).Nodup := (same.map _).nodup_iff.mpr distinct
  apply Option.ext
  intro name
  rw [matchModule_eq_some_iff distinct, matchModule_eq_some_iff distinct']
  constructor
  · rintro ⟨target, owns, named⟩
    exact ⟨target, owns.perm same.symm, named⟩
  · rintro ⟨target, owns, named⟩
    exact ⟨target, owns.perm same, named⟩

/-- The scan attributes a name to the most specific module that declares it. -/
structure MostSpecific (rules : Rules) (importName : String) : Prop where
  missing : matchModule importName rules = none ↔ ∀ rule ∈ rules, ¬Below importName rule.importPrefix
  found : (∃ rule ∈ rules, Below importName rule.importPrefix) →
    ∃ target ∈ rules, matchModule importName rules = some target.name ∧ Below importName target.importPrefix ∧
      ∀ rule ∈ rules, Below importName rule.importPrefix → rule ≠ target →
        rule.importPrefix.length < target.importPrefix.length
  reordered : ∀ reordered : Rules, reordered.Perm rules → matchModule importName reordered = matchModule importName rules
  atDots : ∀ target character rest, importName = target.importPrefix ++ String.ofList (character :: rest) → character ≠ '.' →
    ¬Owns rules target importName
  extended : ∀ target, Owns rules target importName → ∀ component, ∃ longer, Owns rules longer (importName ++ "." ++ component) ∧
    matchModule (importName ++ "." ++ component) rules = some longer.name ∧
    target.importPrefix.length ≤ longer.importPrefix.length

/-- Among distinct prefixes the scan finds the one most specific owner of every dotted name. -/
theorem matchModule_most_specific (distinct : (rules.map (·.importPrefix)).Nodup) (importName : String) :
    MostSpecific rules importName := by
  constructor
  case missing => exact matchModule_eq_none_iff
  case found =>
    rintro ⟨rule, declared, below⟩
    obtain ⟨target, owns, _⟩ := exists_owns distinct declared below
    refine ⟨target, owns.declared, (matchModule_eq_some_iff distinct).mpr ⟨target, owns, rfl⟩, covers_iff.mp owns.covers, ?_⟩
    intro other declared' below' different
    exact owns.longest other declared' (covers_iff.mpr below') different
  case reordered => exact fun _ same => matchModule_perm distinct same
  case atDots =>
    rintro target character rest rfl other owns
    exact not_below_of_longer_component other (covers_iff.mp owns.covers)
  case extended =>
    intro target owns component
    obtain ⟨longer, owns', bound⟩ := exists_owns distinct owns.declared ((covers_iff.mp owns.covers).extend component)
    exact ⟨longer, owns', (matchModule_eq_some_iff distinct).mpr ⟨longer, owns', rfl⟩, bound⟩

/-- Two modules, one below the other. -/
def sampleLayers : Rules :=
  [⟨"core", ⟨false, ["core"]⟩, "example", ∅⟩, ⟨"store", ⟨false, ["store"]⟩, "example.store", ∅⟩]

theorem matchModule_most_specific_sample :
    MostSpecific sampleLayers "example.store.rows" ∧ matchModule "example.store.rows" sampleLayers = some "store" ∧
      matchModule "example.storefront" sampleLayers = some "core" :=
  ⟨matchModule_most_specific (by decide) "example.store.rows", by decide, by decide⟩

end PortfolioManager.Scripts.CheckArchitecture
