import Mathlib.Data.List.Nodup
import VolumeMigration.Strategy.Registry

/-!
# The candidates of a request

`StrategyRegistry.Answers` says what a registry makes of the names in a request: which lists of
names it accepts, which candidates it gives for them, and which name it rejects a list for. Both
directions go by what `StrategyRegistry.choose` does with the names that follow those already
chosen (`choose_eq_ok_iff`, `rejects_of_choose`).
-/

namespace VolumeMigration

namespace StrategyRegistry

/-- The strategies that have some names, in the order of the names. -/
structure Picks (registry : StrategyRegistry) (names : List String)
    (candidates : List Strategy) : Prop where
  named : candidates.map Strategy.name = names
  known : candidates ⊆ registry.strategies

/-- Names of known strategies, none of them twice. -/
structure Admits (registry : StrategyRegistry) (names : List String) : Prop where
  distinct : names.Nodup
  known : names ⊆ registry.names

/-- A list of names is rejected for the first of them that repeats an earlier one or that no known
strategy has. -/
inductive Rejects (registry : StrategyRegistry) (names : List String) :
    ConfigurationFault → Prop where
  | repeated {before after : List String} {name : String}
      (parted : names = before ++ name :: after) (admitted : registry.Admits before)
      (earlier : name ∈ before) : Rejects registry names (.listedTwice name)
  | unknown {before after : List String} {name : String}
      (parted : names = before ++ name :: after) (admitted : registry.Admits before)
      (strange : name ∉ registry.names) :
      Rejects registry names (.unknownStrategy name registry.names)

/-- What a registry makes of the names in a request. -/
structure Answers (registry : StrategyRegistry) (overrides : List String) : Prop where
  accepts : (∃ candidates, registry.resolve overrides = .ok candidates) ↔
    overrides = [] ∧ registry.strategies ≠ [] ∨ overrides ≠ [] ∧ registry.Admits overrides
  unnamed : ∀ candidates, registry.resolve overrides = .ok candidates → overrides = [] →
    candidates = registry.strategies
  named : ∀ candidates, registry.resolve overrides = .ok candidates → overrides ≠ [] →
    registry.Picks overrides candidates
  again : ∀ candidates, registry.resolve overrides = .ok candidates →
    registry.resolve (candidates.map Strategy.name) = .ok candidates
  rejects : ∀ fault, registry.resolve overrides = .error fault → overrides ≠ [] →
    registry.Rejects overrides fault

/-! ## Registries -/

section Registries

variable {registry : StrategyRegistry} {strategies : List Strategy} {strategy : Strategy}
  {name : String}

theorem ofList_eq_ok_iff : ofList strategies = .ok registry ↔ registry.strategies = strategies := by
  unfold ofList
  split
  next repeated found =>
    have unrepeated : registry.strategies ≠ strategies := by
      rintro rfl
      have nothing := (firstRepeated_eq_none_iff [] _).mpr ⟨registry.distinct, by simp⟩
      rw [found] at nothing
      cases nothing
    simp [unrepeated]
  next =>
    cases registry
    simp [eq_comm]

/-- A registry can be made of strategies exactly if their names are distinct. -/
theorem exists_ofList_iff :
    (∃ registry, ofList strategies = .ok registry) ↔ (strategies.map Strategy.name).Nodup := by
  constructor
  · rintro ⟨registry, accepted⟩
    rw [← ofList_eq_ok_iff.mp accepted]
    exact registry.distinct
  · intro distinct
    exact ⟨⟨strategies, distinct⟩, ofList_eq_ok_iff.mpr rfl⟩

/-- A name leads to the only strategy that has it. -/
theorem find?_eq_some_iff :
    registry.find? name = some strategy ↔
      strategy ∈ registry.strategies ∧ strategy.name = name := by
  constructor
  · intro found
    have named := List.find?_some found
    exact ⟨List.mem_of_find?_eq_some found, by simpa using named⟩
  · rintro ⟨strategy_mem, rfl⟩
    cases found : registry.find? strategy.name with
    | none =>
        have unnamed := List.find?_eq_none.mp found strategy strategy_mem
        simp at unnamed
    | some other =>
        have other_mem := List.mem_of_find?_eq_some found
        have same_name : other.name = strategy.name := by simpa using List.find?_some found
        rw [List.inj_on_of_nodup_map registry.distinct other_mem strategy_mem same_name]

theorem find?_eq_none_iff : registry.find? name = none ↔ name ∉ registry.names := by
  simp [find?, names]

end Registries

/-! ## Choosing -/

section Choosing

variable {registry : StrategyRegistry} {chosen names rest : List String} {name : String}
  {candidates : List Strategy} {strategy : Strategy} {fault : ConfigurationFault}

/-- A name is chosen if it was not chosen before and is known. -/
theorem choose_cons_ok_iff :
    registry.choose chosen (name :: rest) = .ok candidates ↔
      name ∉ chosen ∧ ∃ strategy others, registry.find? name = some strategy ∧
        registry.choose (name :: chosen) rest = .ok others ∧ candidates = strategy :: others := by
  by_cases earlier : name ∈ chosen
  · simp [choose, earlier]
  · cases found : registry.find? name with
    | none => simp [choose, earlier, found]
    | some strategy =>
        cases chose : registry.choose (name :: chosen) rest <;>
          simp [choose, earlier, found, chose, Except.map, eq_comm]

/-- A choice fails at the first name that was chosen before or is not known. -/
theorem choose_cons_error_iff :
    registry.choose chosen (name :: rest) = .error fault ↔
      name ∈ chosen ∧ fault = .listedTwice name ∨
        name ∉ chosen ∧ name ∉ registry.names ∧ fault = .unknownStrategy name registry.names ∨
          name ∉ chosen ∧ name ∈ registry.names ∧
            registry.choose (name :: chosen) rest = .error fault := by
  by_cases earlier : name ∈ chosen
  · simp [choose, earlier, eq_comm]
  · cases found : registry.find? name with
    | none =>
        have strange := find?_eq_none_iff.mp found
        simp [choose, earlier, found, strange, eq_comm]
    | some strategy =>
        have known : name ∈ registry.names := by
          by_contra strange
          simp [find?_eq_none_iff.mpr strange] at found
        cases chose : registry.choose (name :: chosen) rest <;>
          simp [choose, earlier, found, chose, known, Except.map]

theorem picks_cons_iff :
    registry.Picks (name :: rest) candidates ↔
      ∃ strategy others, registry.find? name = some strategy ∧ registry.Picks rest others ∧
        candidates = strategy :: others := by
  constructor
  · rintro ⟨named, known⟩
    rcases List.map_eq_cons_iff.mp named with ⟨strategy, others, rfl, rfl, others_named⟩
    rw [List.cons_subset] at known
    exact ⟨strategy, others, find?_eq_some_iff.mpr ⟨known.1, rfl⟩, ⟨others_named, known.2⟩, rfl⟩
  · rintro ⟨strategy, others, found, ⟨rfl, known⟩, rfl⟩
    rcases find?_eq_some_iff.mp found with ⟨strategy_mem, rfl⟩
    exact ⟨rfl, List.cons_subset.mpr ⟨strategy_mem, known⟩⟩

theorem Picks.known_names (picks : registry.Picks names candidates) : names ⊆ registry.names := by
  rw [← picks.named]
  exact List.map_subset Strategy.name picks.known

/-- A choice succeeds exactly for distinct names that are known and not yet chosen. -/
theorem choose_eq_ok_iff :
    registry.choose chosen names = .ok candidates ↔
      names.Nodup ∧ names.Disjoint chosen ∧ registry.Picks names candidates := by
  induction names generalizing chosen candidates with
  | nil =>
      constructor
      · rintro ⟨⟩
        exact ⟨.nil, List.disjoint_nil_left _, rfl, List.nil_subset _⟩
      · rintro ⟨-, -, picks⟩
        rw [List.map_eq_nil_iff.mp picks.named]
        rfl
  | cons name rest ih =>
      rw [choose_cons_ok_iff, picks_cons_iff, List.nodup_cons, List.disjoint_cons_left]
      simp only [ih, List.disjoint_cons_right]
      tauto

/-- For known names there are candidates. -/
theorem exists_picks (known : names ⊆ registry.names) :
    ∃ candidates, registry.Picks names candidates := by
  induction names with
  | nil => exact ⟨[], rfl, List.nil_subset _⟩
  | cons name rest ih =>
      rw [List.cons_subset] at known
      rcases List.mem_map.mp known.1 with ⟨strategy, strategy_mem, rfl⟩
      rcases ih known.2 with ⟨others, named, others_known⟩
      refine ⟨strategy :: others, ?_, List.cons_subset.mpr ⟨strategy_mem, others_known⟩⟩
      rw [List.map_cons, named]

/-- The names in front of a fault are those chosen before it. -/
theorem rejects_of_choose (admitted : registry.Admits chosen.reverse)
    (rejected : registry.choose chosen names = .error fault) :
    registry.Rejects (chosen.reverse ++ names) fault := by
  induction names generalizing chosen with
  | nil => cases rejected
  | cons name rest ih =>
      rcases choose_cons_error_iff.mp rejected with
        ⟨earlier, rfl⟩ | ⟨-, strange, rfl⟩ | ⟨fresh, known, rejected⟩
      · exact .repeated rfl admitted (List.mem_reverse.mpr earlier)
      · exact .unknown rfl admitted strange
      · have longer : registry.Admits (name :: chosen).reverse := by
          constructor
          · rw [List.nodup_reverse, List.nodup_cons]
            exact ⟨fresh, List.nodup_reverse.mp admitted.distinct⟩
          · simpa [known] using admitted.known
        simpa using ih longer rejected

end Choosing

/-! ## Resolving -/

section Resolving

variable {registry : StrategyRegistry} {overrides : List String} {candidates : List Strategy}

/-- Without overrides all strategies are candidates, in the order of the registry. -/
theorem resolve_nil_iff :
    registry.resolve [] = .ok candidates ↔
      registry.strategies ≠ [] ∧ candidates = registry.strategies := by
  cases strategies_eq : registry.strategies <;>
    simp [resolve, isEmpty, strategies_eq, eq_comm]

/-- With overrides the candidates are those that they name, in their order. -/
theorem resolve_ne_nil_iff (given : overrides ≠ []) :
    registry.resolve overrides = .ok candidates ↔
      overrides.Nodup ∧ registry.Picks overrides candidates := by
  rw [resolve, if_neg given, choose_eq_ok_iff]
  simp

/-- The names of candidates lead back to them. -/
theorem Picks.resolve (picks : registry.Picks overrides candidates) (given : overrides ≠ [])
    (distinct : overrides.Nodup) :
    registry.resolve (candidates.map Strategy.name) = .ok candidates := by
  rw [picks.named]
  exact (resolve_ne_nil_iff given).mpr ⟨distinct, picks⟩

theorem answers_nil (registry : StrategyRegistry) : registry.Answers [] := by
  constructor
  · simp [resolve_nil_iff]
  · intro candidates resolved _
    exact (resolve_nil_iff.mp resolved).2
  · intro _ _ given
    exact absurd rfl given
  · intro candidates resolved
    rcases resolve_nil_iff.mp resolved with ⟨filled, rfl⟩
    have picks : registry.Picks registry.names registry.strategies := ⟨rfl, List.Subset.refl _⟩
    exact picks.resolve (by simpa [names] using filled) registry.distinct
  · intro _ _ given
    exact absurd rfl given

theorem answers_of_ne_nil (given : overrides ≠ []) : registry.Answers overrides := by
  constructor
  · constructor
    · rintro ⟨candidates, resolved⟩
      rcases (resolve_ne_nil_iff given).mp resolved with ⟨distinct, picks⟩
      exact .inr ⟨given, distinct, picks.known_names⟩
    · rintro (⟨rfl, -⟩ | ⟨-, distinct, known⟩)
      · exact absurd rfl given
      · rcases exists_picks known with ⟨candidates, picks⟩
        exact ⟨candidates, (resolve_ne_nil_iff given).mpr ⟨distinct, picks⟩⟩
  · intro _ _ unnamed
    exact absurd unnamed given
  · intro candidates resolved _
    exact ((resolve_ne_nil_iff given).mp resolved).2
  · intro candidates resolved
    rcases (resolve_ne_nil_iff given).mp resolved with ⟨distinct, picks⟩
    exact picks.resolve given distinct
  · intro fault rejected _
    rw [resolve, if_neg given] at rejected
    have admitted : registry.Admits ([] : List String).reverse := ⟨.nil, List.nil_subset _⟩
    exact rejects_of_choose admitted rejected

end Resolving

/-- A list of strategies makes a registry just when their names are distinct, and the registry then
answers every list of names as it should. -/
theorem ofList_answers (strategies : List Strategy) (registry : StrategyRegistry)
    (overrides : List String) :
    ((∃ accepted, ofList strategies = .ok accepted) ↔ (strategies.map Strategy.name).Nodup) ∧
      (ofList strategies = .ok registry ↔ registry.strategies = strategies) ∧
      registry.Answers overrides := by
  refine ⟨exists_ofList_iff, ofList_eq_ok_iff, ?_⟩
  by_cases unnamed : overrides = []
  · rw [unnamed]
    exact answers_nil registry
  · exact answers_of_ne_nil unnamed

/-- A name that was listed before is told from one that nobody knows. -/
example :
    StrategyRegistry.builtin.resolve ["mount-both", "mount-both", "scp"] =
      .error (.listedTwice "mount-both") :=
  rfl

end StrategyRegistry

end VolumeMigration
