import AwsCredentials.Proofs.Parameters.Texts

/-!
# What a parameter set holds

A field is meant to hold a text with something to it and no white space around it, or nothing. Four
things are meant to follow: a field is set when its value is not blank, the secret key is set when
its secret can be had, and a set can be built again from its own texts, alone or in any environment
(`ParameterSet.IsNormalised`).

Values of all types are normalised before a field takes them, but for bytes, which are decoded and
taken as they are. **The main statement**, `isNormalised_iff`, is that nothing else stands in the
way: a set is normalised exactly when no field is given bytes that are blank or begin or end with
white space. The same is so for the values of a mapping that is read alone and of one that is read
beside the environment.
-/

namespace AwsCredentials

/-! ### Values -/

namespace Value

/-- A value says nothing: it is absent, or a text of white space alone. -/
def IsBlank : Value → Prop
  | absent => True
  | text s => Text.strip s.toList = []
  | secret s => Text.strip s.toList = []
  | bytes b => ∃ s, Text.Utf8.decode b = .ok s ∧ Text.strip s = []
  | flag _ => False
  | whole _ => False
  | unsuitable => False

/-- If a value is bytes, there is no white space around the text of the bytes, and it is not
empty. -/
def IsTight (v : Value) : Prop :=
  ∀ b s, v = bytes b → Text.Utf8.decode b = .ok s → Text.IsTrimmed (String.ofList s)

/-- A text that is held is trimmed. -/
def HoldsTrimmed (held : Option String) : Prop :=
  ∀ s, held = some s → Text.IsTrimmed s

variable {v : Value} {f : Field} {held : Option String}

theorem isTight_absent : absent.IsTight := by
  rintro _ _ ⟨⟩

theorem isTight_text (s : String) : (text s).IsTight := by
  rintro _ _ ⟨⟩

theorem nonBlank_eq_none_iff {s : String} : nonBlank s = none ↔ Text.strip s.toList = [] := by
  simp [nonBlank]

/-- A trimmed text is not blank: what is left after trimming is the text itself, and it is not
empty. -/
theorem strip_ne_nil_of_isTrimmed {s : List Char} (h : Text.IsTrimmed (String.ofList s)) :
    Text.strip s ≠ [] := by
  intro blank
  have same : Text.stripped (String.ofList s) = String.ofList s := h.2
  rw [Text.stripped, String.toList_ofList, blank] at same
  exact h.1 same.symm

/-- What is held of bytes is their text, as it is. Blanks around it are kept, and an empty one is no
absent one. -/
theorem normalise_bytes_eq_ok {b : List UInt8} (h : (bytes b).normalise f = .ok held) :
    ∃ s, Text.Utf8.decode b = .ok s ∧ held = some (String.ofList s) := by
  rw [normalise] at h
  split at h
  · next s decoded => exact ⟨s, decoded, (Except.ok.inj h).symm⟩
  · simp at h

/-- What is held of a whole number is its decimal text, unless it has too many digits. -/
theorem normalise_whole_eq_ok {n : Int} (h : (whole n).normalise f = .ok held) :
    held = some (Text.decimal n) := by
  rw [normalise] at h
  split at h
  · simp at h
  · exact (Except.ok.inj h).symm

/-- **What is held of a value is trimmed, unless the value is bytes that are not tight.** -/
theorem holdsTrimmed_iff (h : v.normalise f = .ok held) : HoldsTrimmed held ↔ v.IsTight := by
  -- Every value but bytes is trimmed or written out when it is held, and is tight for no reason.
  cases v with
  | bytes b =>
    obtain ⟨s, decoded, rfl⟩ := normalise_bytes_eq_ok h
    constructor
    · rintro trimmed _ s' ⟨⟩ decoded'
      obtain rfl := Except.ok.inj (decoded.symm.trans decoded')
      exact trimmed _ rfl
    · rintro tight _ ⟨⟩
      exact tight b s rfl decoded
  | absent =>
    obtain rfl := Except.ok.inj h
    exact iff_of_true (by simp [HoldsTrimmed]) isTight_absent
  | text s | secret s =>
    obtain rfl := Except.ok.inj h
    exact iff_of_true (fun _ ↦ isTrimmed_of_nonBlank) (by simp [IsTight])
  | flag b =>
    obtain rfl := Except.ok.inj h
    refine iff_of_true ?_ (by simp [IsTight])
    rintro _ ⟨⟩
    cases b <;> decide
  | whole n =>
    obtain rfl := normalise_whole_eq_ok h
    refine iff_of_true ?_ (by simp [IsTight])
    rintro _ ⟨⟩
    exact Text.isTrimmed_decimal n
  | unsuitable => simp [normalise] at h

/-- Of a tight value something is held exactly when it is not blank. Bytes without content would be
held and say nothing. -/
theorem isSome_iff (h : v.normalise f = .ok held) (tight : v.IsTight) :
    held.isSome = true ↔ ¬v.IsBlank := by
  cases v with
  | absent =>
    obtain rfl := Except.ok.inj h
    simp [IsBlank]
  | text s | secret s =>
    obtain rfl := Except.ok.inj h
    rw [Option.isSome_iff_ne_none]
    exact not_congr nonBlank_eq_none_iff
  | flag b =>
    obtain rfl := Except.ok.inj h
    simp [IsBlank]
  | whole n =>
    obtain rfl := normalise_whole_eq_ok h
    simp [IsBlank]
  | bytes b =>
    obtain ⟨s, decoded, rfl⟩ := normalise_bytes_eq_ok h
    refine iff_of_true rfl ?_
    rintro ⟨s', decoded', blank⟩
    exact strip_ne_nil_of_isTrimmed (tight b s' rfl decoded') blank
  | unsuitable => simp [normalise] at h

end Value

/-! ### Parameter sets -/

namespace ParameterSet

/-- A mapping with an entry under the name of each field: its text, or nothing. -/
def copy (p : ParameterSet) : Mapping :=
  Field.all.map fun f ↦ (f.name, ((p.text f).map Value.text).getD .absent)

/-- A set built from values is as it is meant to be. -/
structure IsNormalised (p : ParameterSet) (value : Field → Value) : Prop where
  /-- Each field holds a trimmed text or nothing. -/
  isTrimmed : p.IsTrimmed
  /-- A field is set when its value says something. -/
  isSet_iff : ∀ f, p.isSet f = true ↔ ¬(value f).IsBlank
  /-- The secret key is set when its secret can be had. -/
  secret_iff : p.isSet .secretKey = true ↔ p.secretValue ≠ none
  /-- The set is built again from its texts under the names or the keys. -/
  rebuilt : ofMapping (p.entries Field.name) = .ok p ∧ ofMapping p.mapping = .ok p
  /-- The set is built again from a copy in any environment. -/
  copied : ∀ e, ofLayers p.copy e = .ok p

variable {p : ParameterSet} {value : Field → Value}

theorem named?_copy (p : ParameterSet) (f : Field) :
    p.copy.named? f = some (((p.text f).map Value.text).getD .absent) := by
  unfold copy Mapping.named?
  rw [List.find?_map]
  have found : Field.all.find? (fun g ↦ decide (Text.IsVariantOf g.name f.name)) = some f := by
    simp only [Field.isVariantOf_name_iff]
    cases f <;> rfl
  rw [Function.comp_def, found]
  rfl

/-- A copy gives every field its text, so that nothing is looked for elsewhere. -/
theorem IsTrimmed.copied (h : p.IsTrimmed) (e : Environment) : ofLayers p.copy e = .ok p := by
  refine ofValues_eq_ok_iff.2 fun f ↦ ?_
  have listed : (f.name, ((p.text f).map Value.text).getD .absent) ∈ p.copy :=
    List.mem_map.2 ⟨f, Field.mem_all f, rfl⟩
  have given : p.copy.hasName f = true := List.any_eq_true.2 ⟨_, listed, decide_eq_true rfl⟩
  rw [layeredValue, Mapping.valueBeside_eq, Mapping.explicitValue?_of_hasName given, named?_copy]
  exact h.normalise f

/-- A trimmed secret can be had, because it is not empty, and it is only an empty one that is handed
out as none. -/
theorem IsTrimmed.secret_iff (h : p.IsTrimmed) :
    p.isSet .secretKey = true ↔ p.secretValue ≠ none := by
  rw [isSet, secretValue]
  cases hs : p.text .secretKey with
  | none => simp
  | some s => simp [Option.filter, (h _ _ hs).1]

/-- **A set is normalised exactly when all values are tight.** That tight values are needed is told
by the texts alone; that they are enough gives all the other properties. -/
theorem isNormalised_iff_of_ofValues (h : ofValues value = .ok p) :
    p.IsNormalised value ↔ ∀ f, (value f).IsTight := by
  have held := ofValues_eq_ok_iff.1 h
  constructor
  · exact fun normalised f ↦ (Value.holdsTrimmed_iff (held f)).1 (normalised.isTrimmed f)
  · intro tight
    have trimmed : p.IsTrimmed := fun f ↦ (Value.holdsTrimmed_iff (held f)).2 (tight f)
    exact {
      isTrimmed := trimmed
      isSet_iff := fun f ↦ Value.isSome_iff (held f) (tight f)
      secret_iff := trimmed.secret_iff
      rebuilt := ⟨ofMapping_entries trimmed Mapping.nameOf_name, ofMapping_mapping trimmed⟩
      copied := trimmed.copied }

/-- Where all values of a mapping are tight, so are those of the fields, each of which is absent or
one of them. -/
theorem isTight_mappingValue {m : Mapping} (h : ∀ v ∈ m, v.2.IsTight) (f : Field) :
    (mappingValue m f).IsTight := by
  obtain absent | ⟨v, hv, same⟩ := mappingValue_cases m f
  · exact absent ▸ Value.isTight_absent
  · exact same ▸ h v hv

/-- What the environment gives is tight in any case, since it is a text, so only the mapping needs
to be looked at. -/
theorem isTight_layeredValue {m : Mapping} (h : ∀ v ∈ m, v.2.IsTight) (e : Environment)
    (f : Field) : (layeredValue m e f).IsTight := by
  obtain absent | ⟨s, text⟩ | ⟨v, hv, same⟩ := layeredValue_cases m e f
  · exact absent ▸ Value.isTight_absent
  · exact text ▸ Value.isTight_text s
  · exact same ▸ h v hv

/-- **A set that is built is normalised exactly when the values of its fields are tight**, whether
they are those of a mapping alone or of a mapping and the environment. -/
theorem isNormalised_iff (m : Mapping) (e : Environment) (p : ParameterSet) :
    (ofMapping m = .ok p → (p.IsNormalised (mappingValue m) ↔ ∀ f, (mappingValue m f).IsTight)) ∧
      (ofLayers m e = .ok p →
        (p.IsNormalised (layeredValue m e) ↔ ∀ f, (layeredValue m e f).IsTight)) :=
  ⟨isNormalised_iff_of_ofValues, isNormalised_iff_of_ofValues⟩

/-- A padded text beside a variable of the environment: both values are tight, and the set is
normalised with and without the variable. -/
theorem isNormalised_profile :
    ∃ p q, ofMapping [("profile-name", .text " a ")] = .ok p ∧
      ofLayers [("profile-name", .text " a ")] [("AWS_AUTH_SECRET_KEY", "b")] = .ok q ∧
      p.IsNormalised (mappingValue [("profile-name", .text " a ")]) ∧
      q.IsNormalised (layeredValue [("profile-name", .text " a ")]
        [("AWS_AUTH_SECRET_KEY", "b")]) := by
  have texts : Mapping.OfTexts [("profile-name", .text " a ")] := by simp [Mapping.OfTexts]
  obtain ⟨p, alone, -⟩ := ofMapping_of_ofTexts texts
  obtain ⟨q, beside, -⟩ := ofLayers_of_ofTexts texts [("AWS_AUTH_SECRET_KEY", "b")]
  refine ⟨p, q, alone, beside, ((isNormalised_iff _ [] p).1 alone).2 fun f ↦ ?_,
    ((isNormalised_iff _ _ q).2 beside).2 fun f ↦ ?_⟩
  · exact isTight_mappingValue (by simp [Value.isTight_text]) f
  · exact isTight_layeredValue (by simp [Value.isTight_text]) _ f

/-- No bytes set the secret key, and yet there is no secret. Only tight values are what the set is
meant for. -/
theorem not_isNormalised_noBytes :
    ∃ p, ofMapping [("secret_key", .bytes [])] = .ok p ∧ p.isSet .secretKey = true ∧
      p.secretValue = none ∧ ¬p.IsNormalised (mappingValue [("secret_key", .bytes [])]) := by
  have built : ofMapping [("secret_key", .bytes [])] = .ok ⟨_⟩ := rfl
  refine ⟨_, built, rfl, rfl, fun normalised ↦ ?_⟩
  exact (normalised.isTrimmed .secretKey "" rfl).1 rfl

end ParameterSet

end AwsCredentials
