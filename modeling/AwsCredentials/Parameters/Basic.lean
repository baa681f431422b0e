import AwsCredentials.Parameters.Value

/-!
# Parameter sets

A parameter set holds an optional text for each field. It is built from a value for each field
(`ParameterSet.ofValues`); the faults of all values are collected, in the order of the fields.

A field is *set* when it holds a text, also an empty one. The secret key is the exception on the way
out: `secretValue` takes an empty secret for none.

Once built, a parameter set keeps its texts. Assigning under a name is refused, also when no field
has the name (`assign_eq_error_iff`). Names that begin with an underscore are the exception: no
field has one, so they are left to the holder of the set, and `assign` accepts them and changes no
text (`assign_eq_ok_iff`).
-/

namespace AwsCredentials

/-- An optional text for each field. Nothing more is kept of the values that a set was built from,
neither their types nor where they came from. -/
@[ext]
structure ParameterSet where
  /-- The text that a field holds. -/
  text : Field → Option String

/-- A field together with the reason why its value cannot be held. The value itself is left out, so
that a secret does not get into a message. -/
structure FieldFault where
  /-- The field. -/
  field : Field
  /-- What is wrong with its value. -/
  fault : ValueFault
deriving DecidableEq

/-- The fault of a change to a parameter set, which is there for every name that is not private. -/
structure FrozenFault where
  /-- The name of what was to be changed. -/
  name : String
deriving DecidableEq

/-- The wording of a refused change, which is the same for all names. -/
def FrozenFault.message (_ : FrozenFault) : String :=
  "Instance is frozen"

namespace ParameterSet

instance : DecidableEq ParameterSet := fun p q ↦
  decidable_of_iff (∀ f ∈ Field.all, p.text f = q.text f)
    ⟨fun h ↦ ParameterSet.ext (funext fun f ↦ h f (Field.mem_all f)), fun h _ _ ↦ h ▸ rfl⟩

/-- A field is set when it holds a text, also the empty one that bytes without content come to. -/
def isSet (p : ParameterSet) (f : Field) : Bool :=
  (p.text f).isSome

/-- The fields that are set, in the order in which fields are declared. -/
def setFields (p : ParameterSet) : List Field :=
  Field.all.filter p.isSet

/-- The secret key, when it is not empty. An empty secret is handed out as none. -/
def secretValue (p : ParameterSet) : Option String :=
  (p.text .secretKey).filter (· ≠ "")

/-- The parameter set without any text, as a mapping without entries makes it. -/
def blank : ParameterSet :=
  ⟨fun _ ↦ none⟩

/-- The faults of the values given to the fields, all of them, in the order of the fields. -/
def faults (value : Field → Value) : List FieldFault :=
  Field.all.filterMap fun f ↦
    match (value f).normalise f with
    | .ok _ => none
    | .error e => some ⟨f, e⟩

/-- The text that a field holds after it is given a value, a faulty value counting as none. -/
def textOf (value : Field → Value) (f : Field) : Option String :=
  match (value f).normalise f with
  | .ok t => t
  | .error _ => none

/-- The parameter set in which each field is given a value, or the faults of all values. -/
def ofValues (value : Field → Value) : Except (List FieldFault) ParameterSet :=
  match faults value with
  | [] => .ok ⟨textOf value⟩
  | es => .error es

/-- A name is private when it begins with an underscore. What is assigned under such a name is no
part of the parameters. -/
def isPrivateName (name : String) : Bool :=
  name.toList.head? = some '_'

/-- Assigns a value under a name: refused unless the name is private, and then without effect on the
texts. -/
def assign (p : ParameterSet) (name : String) (_ : Value) : Except FrozenFault ParameterSet :=
  if isPrivateName name then .ok p else .error ⟨name⟩

@[simp]
theorem isSet_blank (f : Field) : blank.isSet f = false :=
  rfl

/-- No field has a private name, so no assignment that is accepted can be meant for a field. -/
@[simp]
theorem isPrivateName_name (f : Field) : isPrivateName f.name = false := by
  cases f <;> simp [isPrivateName, Field.name]

/-- Assigning succeeds under private names only, and then leaves the set as it was: there is no way
to change a text. -/
theorem assign_eq_ok_iff {p q : ParameterSet} {name : String} {v : Value} :
    p.assign name v = .ok q ↔ isPrivateName name = true ∧ p = q := by
  cases h : isPrivateName name <;> simp [assign, h]

/-- Assigning is refused under every name that is not private, and the fault says under which,
whether a field has the name or not. -/
theorem assign_eq_error_iff {p : ParameterSet} {name : String} {v : Value} {e : FrozenFault} :
    p.assign name v = .error e ↔ isPrivateName name = false ∧ ⟨name⟩ = e := by
  cases h : isPrivateName name <;> simp [assign, h]

/-- Assigning to a field is refused, whatever the value. -/
@[simp]
theorem assign_name (p : ParameterSet) (f : Field) (v : Value) :
    p.assign f.name v = .error ⟨f.name⟩ :=
  assign_eq_error_iff.2 ⟨isPrivateName_name f, rfl⟩

/-- A value is at fault exactly when its field is reported, and it is reported with the reason for
which the value is refused. -/
theorem mem_faults_iff {value : Field → Value} {e : FieldFault} :
    e ∈ faults value ↔ (value e.field).normalise e.field = .error e.fault := by
  simp only [faults, List.mem_filterMap]
  constructor
  · rintro ⟨f, _, h⟩
    split at h
    · exact absurd h (by simp)
    · next h' =>
      obtain rfl := Option.some.inj h
      exact h'
  · intro h
    exact ⟨e.field, Field.mem_all _, by rw [h]⟩

/-- **A parameter set is built when its texts are those of the values**, for every field. -/
theorem ofValues_eq_ok_iff {value : Field → Value} {p : ParameterSet} :
    ofValues value = .ok p ↔ ∀ f, (value f).normalise f = .ok (p.text f) := by
  unfold ofValues
  -- Texts are taken only if no field is at fault, so one bad value leaves no set at all.
  cases h : faults value with
  | cons e es =>
    have bad := mem_faults_iff.1 (h ▸ List.mem_cons_self : e ∈ faults value)
    refine iff_of_false (by simp) fun good ↦ ?_
    simp [good e.field] at bad
  | nil =>
    have good (f : Field) : (value f).normalise f = .ok (textOf value f) := by
      cases hf : (value f).normalise f with
      | ok t => simp [textOf, hf]
      | error e =>
        have bad : (⟨f, e⟩ : FieldFault) ∈ faults value := mem_faults_iff.2 hf
        simp [h] at bad
    constructor
    · intro built f
      obtain rfl := Except.ok.inj built
      exact good f
    · intro texts
      refine congrArg _ (ParameterSet.ext (funext fun f ↦ ?_))
      exact Except.ok.inj ((good f).symm.trans (texts f))

/-- Values that are normalised alike make the same parameter set, or have the same faults. -/
theorem ofValues_congr {value value' : Field → Value}
    (h : ∀ f, (value f).normalise f = (value' f).normalise f) :
    ofValues value = ofValues value' := by
  have same_faults : faults value = faults value' := by simp only [faults, h]
  have same_texts : textOf value = textOf value' := funext fun f ↦ by simp only [textOf, h]
  rw [ofValues, ofValues, same_faults, same_texts]

end ParameterSet

end AwsCredentials
