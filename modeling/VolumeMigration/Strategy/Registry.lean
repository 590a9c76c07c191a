import VolumeMigration.Strategy.MountBoth
import VolumeMigration.Strategy.Tunnel

/-!
# Choosing the candidates of a request

A registry holds the known strategies, the preferred one first; their names are distinct. A request
that names no strategy gets all of them in that order; otherwise it gets exactly those that it
names, in its own order. Naming one twice, or one that is not known, is a fault of the
configuration.
-/

namespace VolumeMigration

/-- The first text of a list that repeats an earlier one, or one of those already seen. -/
def firstRepeated (seen : List String) : List String → Option String
  | [] => none
  | name :: rest => if name ∈ seen then some name else firstRepeated (name :: seen) rest

/-- Nothing repeats exactly when the texts are distinct and none was seen before. -/
theorem firstRepeated_eq_none_iff (seen names : List String) :
    firstRepeated seen names = none ↔ names.Nodup ∧ ∀ name ∈ names, name ∉ seen := by
  induction names generalizing seen with
  | nil => simp [firstRepeated]
  | cons name rest ih =>
      by_cases known : name ∈ seen
      · simp [firstRepeated, known]
      · simp only [firstRepeated, known, if_false, ih, List.nodup_cons, List.mem_cons,
          not_or]
        grind

/-- Known strategies with distinct names, the preferred one first. -/
structure StrategyRegistry where
  strategies : List Strategy
  distinct : (strategies.map Strategy.name).Nodup

namespace StrategyRegistry

/-- The registry of some strategies, unless two have the same name. -/
def ofList (strategies : List Strategy) : Except ConfigurationFault StrategyRegistry :=
  match repeated : firstRepeated [] (strategies.map Strategy.name) with
  | some name => .error (.registeredTwice name)
  | none => .ok ⟨strategies, ((firstRepeated_eq_none_iff _ _).mp repeated).1⟩

/-- The strategies of this library. -/
def builtin : StrategyRegistry :=
  { strategies := [mountBoth, rsyncInCluster, rsyncCrossCluster]
    distinct := by decide }

/-- The names of the strategies. -/
def names (registry : StrategyRegistry) : List String :=
  registry.strategies.map Strategy.name

/-- The number of strategies. -/
def size (registry : StrategyRegistry) : Nat := registry.strategies.length

/-- Whether there are no strategies. -/
def isEmpty (registry : StrategyRegistry) : Bool := registry.strategies.isEmpty

/-- The strategy with a name. -/
def find? (registry : StrategyRegistry) (name : String) : Option Strategy :=
  registry.strategies.find? (·.name = name)

/-- The strategies with some names, given the names already chosen. -/
def choose (registry : StrategyRegistry) (chosen : List String) :
    List String → Except ConfigurationFault (List Strategy)
  | [] => .ok []
  | name :: rest =>
      if name ∈ chosen then .error (.listedTwice name)
      else
        match registry.find? name with
        | none => .error (.unknownStrategy name registry.names)
        | some strategy => (registry.choose (name :: chosen) rest).map (strategy :: ·)

/-- The candidates of a request that names some strategies. -/
def resolve (registry : StrategyRegistry) (overrides : List String) :
    Except ConfigurationFault (List Strategy) :=
  if overrides = [] then
    if registry.isEmpty then .error .noStrategies else .ok registry.strategies
  else registry.choose [] overrides

/-- A registry in words. -/
def text (registry : StrategyRegistry) : String :=
  "StrategyRegistry \x7b strategies: " ++ Text.quotedList registry.names ++ " \x7d"

end StrategyRegistry

end VolumeMigration
