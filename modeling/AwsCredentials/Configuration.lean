import AwsCredentials.Parameters.Source
import AwsCredentials.Validation.Report

/-!
# Configurations

A configuration is what a session is asked for with: a parameter set, a mapping, or nothing, and
then the environment counts. It resolves as the parameter set does that it makes
(`Configuration.resolve_eq_of_parameterSet`), or not at all when some of its values cannot be held
by their fields (`Configuration.resolve_eq_values`).
-/

namespace AwsCredentials

/-- What a session is asked for with. Only the last kind looks at the environment; a mapping is read
alone, and a parameter set has been read before. -/
inductive Configuration
  /-- A parameter set. -/
  | parameters (p : ParameterSet)
  /-- A mapping, which is read alone. -/
  | mapping (m : Mapping)
  /-- Nothing, so that the environment is read. -/
  | environment (e : Environment)

namespace Configuration

/-- The parameter set that a configuration makes, or the faults of the values that its fields cannot
hold. -/
def parameterSet : Configuration → Except (List FieldFault) ParameterSet
  | parameters p => .ok p
  | mapping m => ParameterSet.ofMapping m
  | environment e => ParameterSet.ofLayers [] e

/-- Why a configuration does not resolve: it makes no parameter set, or it makes one that does not
resolve. -/
inductive Refusal
  /-- Some values cannot be held by their fields. -/
  | values (faults : List FieldFault)
  /-- The parameter set does not resolve. -/
  | parameters (r : ParameterSet.Refusal)
deriving DecidableEq

/-- The descriptor that a configuration resolves to. The two steps, making a parameter set and
resolving it, fail each with a refusal of its own. -/
def resolve (c : Configuration) : Except Refusal Descriptor := do
  let p ← c.parameterSet.mapError .values
  p.resolve.mapError .parameters

variable {c : Configuration}

/-- A configuration that makes a parameter set resolves to what this set resolves to, and is refused
for the reasons of the set. -/
theorem resolve_eq_of_parameterSet {p : ParameterSet} (h : c.parameterSet = .ok p) :
    c.resolve = p.resolve.mapError .parameters := by
  rw [resolve, h]
  rfl

/-- A configuration with values that cannot be held is refused for these, before any rule is looked
at. -/
theorem resolve_eq_values {faults : List FieldFault} (h : c.parameterSet = .error faults) :
    c.resolve = .error (.values faults) := by
  rw [resolve, h]
  rfl

end Configuration

end AwsCredentials
