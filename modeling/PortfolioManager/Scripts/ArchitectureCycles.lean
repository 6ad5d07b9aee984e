import PortfolioManager.Library.DepthFirst
import PortfolioManager.Scripts.ArchitectureRules

/-! # The policies that the architecture checker accepts

`load_rules` accepts a policy exactly when it is well formed and its dependencies have no cycle.
The search for cycles keeps its open path in `visiting` and what it is done with in `visited`;
the order in which the interpreter iterates a set of names makes no difference to its verdict.
-/

namespace PortfolioManager.Scripts.CheckArchitecture

open PortfolioManager.Python Checked DepthFirst Relation

/-- The graph that `detect_cycles` searches. -/
def Edge (rules : Rules) (name dependency : String) : Prop :=
  ∃ rule, rules.get? name = some rule ∧ dependency ∈ rule.mayImport

/-- Every name in a `may_import` is that of a rule. -/
def Closed (rules : Rules) : Prop := ∀ rule ∈ rules, ∀ name ∈ rule.mayImport, name ∈ rules.names

/-- The `ValueError`s among the errors. -/
def PolicyError.isValueError : PolicyError → Bool
  | missingKey _ => false
  | recursion => false
  | _ => true

variable {interpreter : Interpreter} {rules : Rules} {path : List String} {marks : Marks} {name : String}

theorem Rules.get?_eq_some {rule : ModuleRule} (found : rules.get? name = some rule) : rule ∈ rules ∧ rule.name = name :=
  ⟨List.mem_of_find?_eq_some found, by simpa using List.find?_some found⟩

theorem Rules.exists_get? (declared : name ∈ rules.names) : ∃ rule, rules.get? name = some rule := by
  obtain ⟨rule, member, named⟩ := List.mem_map.mp declared
  exact Option.isSome_iff_exists.mp (List.find?_isSome.mpr ⟨rule, member, by simpa using named⟩)

/-! ## The search -/

/-- The marks of a search that is on a path. -/
structure OnPath (rules : Rules) (path : List String) (marks : Marks) : Prop where
  frontier : Frontier (Edge rules) path ↑marks.visited
  visiting : marks.visiting = path.toFinset
  declared : ∀ name ∈ path, name ∈ rules.names

/-- What visiting some names from a path comes to: they are all visited, or a cycle is reported. -/
def Visited (rules : Rules) (path : List String) (marks : Marks) (names : List String) :
    Except PolicyError Marks → Prop
  | .ok next => OnPath rules path next ∧ marks.visited ⊆ next.visited ∧ ∀ name ∈ names, name ∈ next.visited
  | .error error => ∃ walk, error = .cycle walk ∧ Closes (Edge rules) walk

/-- Visits go on from the marks that visits have left, unless these reported a cycle. -/
theorem Visited.bind {path' : List String} {marks' : Marks} {names names' : List String}
    {outcome : Except PolicyError Marks} {next : Marks → Except PolicyError Marks}
    (visited : Visited rules path marks names outcome)
    (rest : ∀ middle, OnPath rules path middle → marks.visited ⊆ middle.visited →
      (∀ name ∈ names, name ∈ middle.visited) → Visited rules path' marks' names' (next middle)) :
    Visited rules path' marks' names' (outcome >>= next) := by
  cases outcome with
  | error error => exact visited
  | ok middle =>
    obtain ⟨onPath, grown, all⟩ := visited
    exact rest middle onPath grown all

/-- A name that is visited already can be counted among those that further visits are for. -/
theorem Visited.cons {marks' : Marks} {names : List String} {outcome : Except PolicyError Marks}
    (visited : Visited rules path marks' names outcome) (grown : marks.visited ⊆ marks'.visited)
    (done : name ∈ marks'.visited) : Visited rules path marks (name :: names) outcome := by
  cases outcome with
  | error error => exact visited
  | ok next =>
    obtain ⟨onPath, later, all⟩ := visited
    exact ⟨onPath, grown.trans later, List.forall_mem_cons.mpr ⟨later done, all⟩⟩

/-- A loop of visits visits all its names, if each visit does. -/
theorem visited_foldlM {names : List String} {action : Marks → String → Except PolicyError Marks}
    (each : ∀ name ∈ names, ∀ marks, OnPath rules path marks → Visited rules path marks [name] (action marks name))
    (onPath : OnPath rules path marks) : Visited rules path marks names (names.foldlM action marks) := by
  induction names generalizing marks with
  | nil => exact ⟨onPath, Finset.Subset.refl _, by simp⟩
  | cons name rest ih =>
    rw [List.forall_mem_cons] at each
    rw [List.foldlM_cons]
    apply (each.1 marks onPath).bind
    intro middle onPath' grown first
    exact (ih each.2 onPath').cons grown (first name (List.mem_singleton_self name))

/-- Entering a name puts it on the path. -/
theorem OnPath.enter (onPath : OnPath rules path marks) (linked : Linked (Edge rules) path name)
    (declared : name ∈ rules.names) (fresh : name ∉ marks.visiting) (undone : name ∉ marks.visited) :
    OnPath rules (path ++ [name]) { marks with visiting := insert name marks.visiting } where
  frontier := onPath.frontier.enter linked (by simpa [onPath.visiting] using fresh) undone
  visiting := by rw [onPath.visiting, List.toFinset_append, List.toFinset_cons, List.toFinset_nil,
    insert_empty_eq, Finset.union_comm, ← Finset.insert_eq]
  declared := by
    intro other member
    rcases List.mem_append.mp member with old | new
    · exact onPath.declared other old
    · rw [List.mem_singleton.mp new]
      exact declared

/-- Leaving a name takes it off the path. -/
theorem OnPath.leave (onPath : OnPath rules (path ++ [name]) marks)
    (finished : ∀ next, Edge rules name next → next ∈ marks.visited) :
    OnPath rules path ⟨marks.visiting.erase name, insert name marks.visited⟩ where
  frontier := by
    rw [Finset.coe_insert]
    exact onPath.frontier.leave finished
  visiting := by
    have outside := (List.nodup_append.mp onPath.frontier.single).2.2
    ext other
    simp only [onPath.visiting, Finset.mem_erase, List.mem_toFinset, List.mem_append, List.mem_singleton]
    constructor
    · rintro ⟨different, member | same⟩
      · exact member
      · contradiction
    · intro member
      exact ⟨outside other member name (List.mem_singleton_self name), .inl member⟩
  declared := fun other member => onPath.declared other (List.mem_append_left _ member)

/-- With enough depth left, a visit visits its name or reports a cycle. -/
theorem visit_visited (closed : Closed rules) {depth : ℕ} (deep : rules.names.toFinset.card < depth + path.length)
    (onPath : OnPath rules path marks) (declared : name ∈ rules.names) (linked : Linked (Edge rules) path name) :
    Visited rules path marks [name] (visit interpreter rules depth name path marks) := by
  induction depth generalizing path marks name with
  | zero =>
    have short : path.length ≤ rules.names.toFinset.card :=
      onPath.frontier.length_le fun name member => List.mem_toFinset.mpr (onPath.declared name member)
    omega
  | succ depth ih =>
    rw [visit]
    split_ifs with again done
    · have revisited : name ∈ path := by simpa [onPath.visiting] using again
      exact ⟨path ++ [name], rfl, onPath.frontier.closes linked revisited⟩
    · exact ⟨onPath, Finset.Subset.refl _, by simpa using done⟩
    · obtain ⟨rule, found⟩ := Rules.exists_get? declared
      have edges (dependency : String) : Edge rules name dependency ↔ dependency ∈ interpreter.iterate name rule.mayImport := by
        rw [interpreter.complete]
        constructor
        · rintro ⟨other, found', member⟩
          cases found.symm.trans found'
          exact member
        · exact fun member => ⟨rule, found, member⟩
      simp only [found]
      apply (visited_foldlM _ (onPath.enter linked declared again done)).bind
      · intro next onPath' grown all
        refine ⟨onPath'.leave fun dependency edge => all dependency ((edges dependency).mp edge), ?_, by simp⟩
        exact grown.trans (Finset.subset_insert ..)
      · intro dependency member marks onPath'
        have edge := (edges dependency).mpr member
        apply ih
        · simp only [List.length_append, List.length_singleton]
          omega
        · exact onPath'
        · exact closed rule (Rules.get?_eq_some found).1 dependency ((interpreter.complete _ _ _).mp member)
        · intro last isLast
          rw [List.getLast?_append_of_ne_nil _ (List.cons_ne_nil name [])] at isLast
          cases isLast
          exact edge

/-- Given the depth, `detect_cycles` returns exactly on graphs without a cycle, and otherwise reports one. -/
theorem detectCycles_spec (closed : Closed rules) (deep : rules.length < interpreter.limit) :
    (detectCycles interpreter rules = .ok () ↔ ∀ name, ¬TransGen (Edge rules) name name) ∧
      ∀ error, detectCycles interpreter rules = .error error →
        ∃ walk, error = .cycle walk ∧ Closes (Edge rules) walk := by
  have start : OnPath rules [] ⟨∅, ∅⟩ := ⟨by simpa using Frontier.start, rfl, by simp⟩
  have bounded : rules.names.toFinset.card < interpreter.limit + ([] : List String).length := by
    have card := List.toFinset_card_le rules.names
    simp only [Rules.names, List.length_map] at card ⊢
    exact card.trans_lt deep
  have swept := visited_foldlM (fun name declared marks onPath =>
    @visit_visited interpreter _ _ _ _ closed _ bounded onPath declared (by simp [Linked])) start
  unfold detectCycles
  cases outcome : rules.names.foldlM (fun marks name => visit interpreter rules interpreter.limit name [] marks) ⟨∅, ∅⟩ with
  | error error =>
    rw [outcome] at swept
    obtain ⟨walk, rfl, closes⟩ := swept
    obtain ⟨name, cycle⟩ := closes.exists_cycle
    refine ⟨⟨?_, fun acyclic => absurd cycle (acyclic name)⟩, ?_⟩
    · intro accepted
      cases accepted
    · rintro error reported
      cases reported
      exact ⟨walk, rfl, closes⟩
  | ok last =>
    rw [outcome] at swept
    obtain ⟨onPath, _, all⟩ := swept
    refine ⟨⟨fun _ => onPath.frontier.acyclic_of_done ?_, fun _ => rfl⟩, ?_⟩
    · rintro name next ⟨rule, found, _⟩
      obtain ⟨member, rfl⟩ := Rules.get?_eq_some found
      exact all rule.name (List.mem_map_of_mem member)
    · rintro error reported
      cases reported

/-! ## The rules a policy declares -/

/-- The rule of one entry. -/
def ruleOf (entry : String × RawRule) : ModuleRule :=
  ⟨entry.1, PurePath.ofText entry.2.path, entry.2.importPrefix, (entry.2.mayImport.getD []).toFinset⟩

/-- One module of a table lists another. -/
def ModuleTable.Depends (modules : ModuleTable) (name dependency : String) : Prop :=
  ∃ entry ∈ modules.entries, entry.1 = name ∧ dependency ∈ entry.2.mayImport.getD []

/-- A well-formed policy without dependency cycles. -/
structure Policy.Acceptable (policy : Policy) (modules : ModuleTable) : Prop where
  version : policy.version.any TomlScalar.isOne = true
  nonempty : modules.entries ≠ []
  safe : ∀ entry ∈ modules.entries,
    (PurePath.ofText entry.2.path).absolute = false ∧ ".." ∉ (PurePath.ofText entry.2.path).parts
  paths : (modules.entries.map fun entry => PurePath.ofText entry.2.path).Nodup
  importPrefixes : (modules.entries.map fun entry => entry.2.importPrefix).Nodup
  declared : ∀ entry ∈ modules.entries, ∀ name ∈ entry.2.mayImport.getD [], name ∈ modules.entries.map Prod.fst
  acyclic : ∀ name, ¬TransGen modules.Depends name name

variable {policy : Policy} {modules : ModuleTable}

/-- What `declare` asks of an entry, given the paths and prefixes so far. -/
theorem declare_eq_ok_iff {declared next : Declared} {entry : String × RawRule} :
    declare declared entry = .ok next ↔
      ((ruleOf entry).path.absolute = false ∧ ".." ∉ (ruleOf entry).path.parts) ∧ (ruleOf entry).path ∉ declared.paths ∧
        (ruleOf entry).importPrefix ∉ declared.importPrefixes ∧
        next = ⟨declared.rules ++ [ruleOf entry], declared.paths ++ [(ruleOf entry).path],
          declared.importPrefixes ++ [(ruleOf entry).importPrefix]⟩ := by
  simp only [declare, check_bind_eq_ok_iff, pure_eq_ok_iff, exists_prop]
  constructor
  · rintro ⟨safe, newPath, newPrefix, rfl⟩
    exact ⟨safe, newPath, newPrefix, rfl⟩
  · rintro ⟨safe, newPath, newPrefix, rfl⟩
    exact ⟨safe, newPath, newPrefix, rfl⟩

/-- A list without repetition goes on with an element that is new. -/
private theorem nodup_append_cons_iff {α : Type} {seen items : List α} {item : α} :
    (seen ++ item :: items).Nodup ↔ item ∉ seen ∧ ((seen ++ [item]) ++ items).Nodup := by
  rw [List.append_assoc, List.singleton_append, List.nodup_append]
  refine ⟨fun distinct => ⟨fun member => ?_, distinct⟩, fun distinct => distinct.2⟩
  exact distinct.2.2 item member item (List.mem_cons_self ..) rfl

/-- The loop over the modules gathers a rule for each of them, unless a path is unsafe or something repeats. -/
theorem foldlM_declare_eq_ok_iff {declared next : Declared} {entries : List (String × RawRule)}
    (paths : declared.paths.Nodup) (importPrefixes : declared.importPrefixes.Nodup) :
    entries.foldlM declare declared = .ok next ↔
      (∀ entry ∈ entries, (ruleOf entry).path.absolute = false ∧ ".." ∉ (ruleOf entry).path.parts) ∧
        (declared.paths ++ entries.map fun entry => (ruleOf entry).path).Nodup ∧
        (declared.importPrefixes ++ entries.map fun entry => (ruleOf entry).importPrefix).Nodup ∧
        next = ⟨declared.rules ++ entries.map ruleOf, declared.paths ++ entries.map fun entry => (ruleOf entry).path,
          declared.importPrefixes ++ entries.map fun entry => (ruleOf entry).importPrefix⟩ := by
  induction entries generalizing declared with
  | nil =>
    rw [List.foldlM_nil, pure_eq_ok_iff, eq_comm]
    simp [paths, importPrefixes]
  | cons entry rest ih =>
    rw [List.foldlM_cons, bind_eq_ok_iff, List.forall_mem_cons, List.map_cons, List.map_cons, List.map_cons,
      nodup_append_cons_iff, nodup_append_cons_iff]
    constructor
    · rintro ⟨middle, first, accepted⟩
      obtain ⟨safe, newPath, newPrefix, rfl⟩ := declare_eq_ok_iff.mp first
      have paths' := List.Nodup.concat newPath paths
      have importPrefixes' := List.Nodup.concat newPrefix importPrefixes
      rw [List.concat_eq_append] at paths' importPrefixes'
      obtain ⟨safe', paths'', importPrefixes'', rfl⟩ := (ih paths' importPrefixes').mp accepted
      refine ⟨⟨safe, safe'⟩, ⟨newPath, paths''⟩, ⟨newPrefix, importPrefixes''⟩, ?_⟩
      simp only [List.append_assoc, List.singleton_append]
    · rintro ⟨⟨safe, safe'⟩, ⟨newPath, paths'⟩, ⟨newPrefix, importPrefixes'⟩, rfl⟩
      refine ⟨_, declare_eq_ok_iff.mpr ⟨safe, newPath, newPrefix, rfl⟩, ?_⟩
      apply (ih (List.nodup_append.mp paths').1 (List.nodup_append.mp importPrefixes').1).mpr
      refine ⟨safe', paths', importPrefixes', ?_⟩
      simp only [List.append_assoc, List.singleton_append]

theorem gather_eq_ok_iff {next : Declared} {entries : List (String × RawRule)} :
    entries.foldlM declare ⟨[], [], []⟩ = .ok next ↔
      (∀ entry ∈ entries, (ruleOf entry).path.absolute = false ∧ ".." ∉ (ruleOf entry).path.parts) ∧
        (entries.map fun entry => (ruleOf entry).path).Nodup ∧ (entries.map fun entry => (ruleOf entry).importPrefix).Nodup ∧
        next = ⟨entries.map ruleOf, entries.map fun entry => (ruleOf entry).path,
          entries.map fun entry => (ruleOf entry).importPrefix⟩ :=
  @foldlM_declare_eq_ok_iff ⟨[], [], []⟩ next entries .nil .nil

/-- What `load_rules` checks of a table of modules, and what it returns. -/
theorem loadRules_eq_ok_iff (table : policy.modules = some modules) {loaded : Rules} :
    loadRules interpreter policy = .ok loaded ↔
      policy.version.any TomlScalar.isOne = true ∧ modules.entries ≠ [] ∧
        (∀ entry ∈ modules.entries, (ruleOf entry).path.absolute = false ∧ ".." ∉ (ruleOf entry).path.parts) ∧
        (modules.entries.map fun entry => (ruleOf entry).path).Nodup ∧
        (modules.entries.map fun entry => (ruleOf entry).importPrefix).Nodup ∧
        (∀ rule ∈ modules.entries.map ruleOf, checkDependencies (modules.entries.map ruleOf) rule = .ok ()) ∧
        detectCycles interpreter (modules.entries.map ruleOf) = .ok () ∧ loaded = modules.entries.map ruleOf := by
  constructor
  · intro accepted
    obtain ⟨version, accepted⟩ := check_bind_eq_ok_iff.mp accepted
    simp only [table] at accepted
    obtain ⟨nonempty, accepted⟩ := check_bind_eq_ok_iff.mp accepted
    obtain ⟨declared, gathered, accepted⟩ := bind_eq_ok_iff.mp accepted
    obtain ⟨_, checked, accepted⟩ := bind_eq_ok_iff.mp accepted
    obtain ⟨_, acyclic, accepted⟩ := bind_eq_ok_iff.mp accepted
    obtain ⟨safe, paths, importPrefixes, rfl⟩ := gather_eq_ok_iff.mp gathered
    exact ⟨version, nonempty, safe, paths, importPrefixes, forM_eq_ok_iff.mp checked, acyclic,
      (pure_eq_ok_iff.mp accepted).symm⟩
  · rintro ⟨version, nonempty, safe, paths, importPrefixes, checked, acyclic, rfl⟩
    refine check_bind_eq_ok_iff.mpr ⟨version, ?_⟩
    simp only [table]
    have gathered := gather_eq_ok_iff.mpr ⟨safe, paths, importPrefixes, rfl⟩
    refine check_bind_eq_ok_iff.mpr ⟨nonempty, bind_eq_ok_iff.mpr ⟨_, gathered, ?_⟩⟩
    exact bind_eq_ok_iff.mpr ⟨(), forM_eq_ok_iff.mpr checked, bind_eq_ok_iff.mpr ⟨(), acyclic, rfl⟩⟩

/-- In a table the rules depend on each other as the modules do. -/
theorem edge_iff_depends {name dependency : String} :
    Edge (modules.entries.map ruleOf) name dependency ↔ modules.Depends name dependency := by
  constructor
  · rintro ⟨rule, found, member⟩
    obtain ⟨present, rfl⟩ := Rules.get?_eq_some found
    obtain ⟨entry, listed, rfl⟩ := List.mem_map.mp present
    exact ⟨entry, listed, rfl, List.mem_toFinset.mp member⟩
  · rintro ⟨entry, listed, rfl, member⟩
    have named : entry.1 ∈ Rules.names (modules.entries.map ruleOf) :=
      List.mem_map.mpr ⟨ruleOf entry, List.mem_map_of_mem listed, rfl⟩
    obtain ⟨rule, found⟩ := Rules.exists_get? named
    obtain ⟨present, same⟩ := Rules.get?_eq_some found
    obtain ⟨other, listed', rfl⟩ := List.mem_map.mp present
    obtain rfl := List.inj_on_of_nodup_map modules.distinct listed' listed same
    exact ⟨ruleOf other, found, List.mem_toFinset.mpr member⟩

/-- The errors before the search for cycles are `ValueError`s. -/
theorem raises_declare (declared : Declared) (entry : String × RawRule) :
    Raises (declare declared entry) fun error => error.isValueError = true := by
  obtain ⟨name, rawRule⟩ := entry
  refine Raises.bind (raises_check rfl) fun _ _ => ?_
  refine Raises.bind (raises_check rfl) fun _ _ => ?_
  exact Raises.bind (raises_check rfl) fun _ _ => raises_ok _

theorem raises_checkDependencies (rules : Rules) (rule : ModuleRule) :
    Raises (checkDependencies rules rule) fun error => error.isValueError = true := by
  refine Raises.bind (raises_check rfl) fun _ _ => ?_
  exact Raises.bind (raises_check rfl) fun _ _ => raises_ok _

/-- Whatever `load_rules` objects to, it raises a `ValueError`. -/
theorem raises_loadRules (deep : ∀ modules ∈ policy.modules, modules.entries.length < interpreter.limit) :
    Raises (loadRules interpreter policy) fun error => error.isValueError = true := by
  refine Raises.bind (raises_check rfl) fun _ _ => ?_
  cases table : policy.modules with
  | none =>
    rintro error raised
    cases raised
    rfl
  | some modules =>
    refine Raises.bind (raises_check rfl) fun _ _ => ?_
    refine Raises.bind (raises_foldlM (fun entry _ declared => raises_declare declared entry) _) fun declared gathered => ?_
    obtain ⟨_, _, _, rfl⟩ := gather_eq_ok_iff.mp gathered
    refine Raises.bind (raises_forM fun rule _ => raises_checkDependencies _ rule) fun _ checked => ?_
    refine Raises.bind ?_ fun _ _ => raises_ok _
    intro error raised
    have closed : Closed (modules.entries.map ruleOf) := fun rule member =>
      (checkDependencies_eq_ok_iff.mp (forM_eq_ok_iff.mp checked rule member)).1
    have bounded : (modules.entries.map ruleOf).length < interpreter.limit := by
      rw [List.length_map]
      exact deep modules table
    obtain ⟨walk, rfl, _⟩ := (detectCycles_spec closed bounded).2 error raised
    rfl

/-- `load_rules` accepts exactly the well-formed policies without dependency cycles and raises a
`ValueError` for all others. On every closed graph `detect_cycles` ends, and it raises exactly when there
is a cycle, with a walk that comes back to one of its names. -/
theorem loadRules_accepts_iff (table : policy.modules = some modules) (deep : modules.entries.length < interpreter.limit) :
    ((∃ loaded, loadRules interpreter policy = .ok loaded) ↔ policy.Acceptable modules) ∧
      (∀ error, loadRules interpreter policy = .error error → error.isValueError = true) ∧
      ∀ (interpreter : Interpreter) (rules : Rules), Closed rules → rules.length < interpreter.limit →
        (detectCycles interpreter rules = .ok () ↔ ∀ name, ¬TransGen (Edge rules) name name) ∧
          ∀ error, detectCycles interpreter rules = .error error →
            ∃ walk, error = .cycle walk ∧ Closes (Edge rules) walk := by
  refine ⟨?_, raises_loadRules (by simpa [table] using deep), fun interpreter rules closed bounded =>
    detectCycles_spec closed bounded⟩
  have depends : Edge (modules.entries.map ruleOf) = modules.Depends := by
    funext name dependency
    exact propext edge_iff_depends
  have bounded : (modules.entries.map ruleOf).length < interpreter.limit := by rwa [List.length_map]
  constructor
  · rintro ⟨loaded, accepted⟩
    obtain ⟨version, nonempty, safe, paths, importPrefixes, checked, acyclic, _⟩ := (loadRules_eq_ok_iff table).mp accepted
    have closed : Closed (modules.entries.map ruleOf) := fun rule member =>
      (checkDependencies_eq_ok_iff.mp (checked rule member)).1
    refine ⟨version, nonempty, safe, paths, importPrefixes, ?_, ?_⟩
    · intro entry member name listed
      have known := closed (ruleOf entry) (List.mem_map_of_mem member) name (List.mem_toFinset.mpr listed)
      simpa [Rules.names, ruleOf, Function.comp_def] using known
    · exact depends ▸ (detectCycles_spec closed bounded).1.mp acyclic
  · intro acceptable
    have closed : Closed (modules.entries.map ruleOf) := by
      intro rule member name listed
      obtain ⟨entry, present, rfl⟩ := List.mem_map.mp member
      have known := acceptable.declared entry present name (List.mem_toFinset.mp listed)
      simpa [Rules.names, ruleOf, Function.comp_def] using known
    refine ⟨_, (loadRules_eq_ok_iff table).mpr ⟨acceptable.version, acceptable.nonempty, acceptable.safe,
      acceptable.paths, acceptable.importPrefixes, ?_, ?_, rfl⟩⟩
    · intro rule member
      apply checkDependencies_eq_ok_iff.mpr
      refine ⟨closed rule member, fun own => ?_⟩
      obtain ⟨entry, present, rfl⟩ := List.mem_map.mp member
      exact acceptable.acyclic entry.1 (.single ⟨entry, present, rfl, List.mem_toFinset.mp own⟩)
    · apply (detectCycles_spec closed bounded).1.mpr
      rw [depends]
      exact acceptable.acyclic

/-- Two modules that import each other. -/
def cyclicModules : ModuleTable where
  entries := [("one", ⟨"one", "example.one", some ["two"]⟩), ("two", ⟨"two", "example.two", some ["one"]⟩)]
  distinct := by decide

theorem loadRules_accepts_iff_sample :
    ¬∃ loaded, loadRules sampleInterpreter ⟨some (.integer 1), some cyclicModules⟩ = .ok loaded := by
  have decided := (@loadRules_accepts_iff sampleInterpreter ⟨some (.integer 1), some cyclicModules⟩ _ rfl (by decide)).1
  rw [decided]
  intro acceptable
  have forth : cyclicModules.Depends "one" "two" := ⟨_, List.mem_cons_self .., rfl, List.mem_singleton_self _⟩
  have back : cyclicModules.Depends "two" "one" :=
    ⟨_, List.mem_cons_of_mem _ (List.mem_singleton_self _), rfl, List.mem_singleton_self _⟩
  exact acceptable.acyclic "one" (.tail (.single forth) back)

end PortfolioManager.Scripts.CheckArchitecture
