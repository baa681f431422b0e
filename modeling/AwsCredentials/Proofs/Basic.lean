import Mathlib.Data.List.Forall2

/-!
# Computations that can fail

General lemmas on `Except` and on partial functions over lists, which are the same for every kind of
fault. A computation in steps is taken apart by what came of each step (`bind_eq_ok_iff`,
`bind_eq_error_iff`); a traversal fails with the error of the first element that fails, so what its
error is and whether it has one are two questions (`mapM_eq_error_iff`,
`exists_mapM_eq_error_iff`).
-/

namespace AwsCredentials

variable {ε ε' α β : Type}

/-! ### One computation -/

section

variable {x : Except ε α} {e : ε}

/-- Either a computation fails, or it has a value: that it has one is shown by showing that no error
is its outcome. -/
theorem exists_eq_ok_iff : (∃ a, x = .ok a) ↔ ¬∃ e, x = .error e := by
  cases x <;> simp

@[simp]
theorem mapError_ok (f : ε → ε') (a : α) : (Except.ok a : Except ε α).mapError f = .ok a :=
  rfl

@[simp]
theorem mapError_error (f : ε → ε') (e : ε) :
    (Except.error e : Except ε α).mapError f = .error (f e) :=
  rfl

theorem mapError_eq_error_iff {f : ε → ε'} {e' : ε'} :
    x.mapError f = .error e' ↔ ∃ e, x = .error e ∧ f e = e' := by
  cases x <;> simp

theorem map_eq_ok_iff {g : α → β} {b : β} : g <$> x = .ok b ↔ ∃ a, x = .ok a ∧ g a = b := by
  cases x <;> simp [Functor.map, Except.map]

/-- A computation in two steps has a value when both steps have one, and it is the value of the
second. -/
theorem bind_eq_ok_iff {f : α → Except ε β} {b : β} :
    x >>= f = .ok b ↔ ∃ a, x = .ok a ∧ f a = .ok b := by
  cases x <;> simp [Bind.bind, Except.bind]

/-- A computation in two steps fails in the first, or in the second after the first has a value. -/
theorem bind_eq_error_iff {f : α → Except ε β} :
    x >>= f = .error e ↔ x = .error e ∨ ∃ a, x = .ok a ∧ f a = .error e := by
  cases x <;> simp [Bind.bind, Except.bind]

end

/-! ### Traversals -/

section

variable {f : α → Except ε β} {l : List α}

/-- **A traversal fails at the first element that fails**, with the error of this element. The
induction is on the list, and an element that succeeds joins the prefix. -/
theorem mapM_eq_error_iff {e : ε} :
    l.mapM f = .error e ↔
      ∃ before a after, l = before ++ a :: after ∧ (∀ b ∈ before, ∃ c, f b = .ok c) ∧
        f a = .error e := by
  induction l with
  | nil => simp [Pure.pure, Except.pure]
  | cons x l ih =>
    rw [List.mapM_cons, bind_eq_error_iff]
    have goes_on (y : β) :
        (do let ys ← l.mapM f; pure (y :: ys)) = .error e ↔ l.mapM f = .error e := by
      rw [bind_eq_error_iff]
      simp [Pure.pure, Except.pure]
    simp only [goes_on, ih]
    constructor
    · rintro (failed | ⟨y, ok, before, a, after, rfl, all_ok, failed⟩)
      · exact ⟨[], x, l, rfl, List.forall_mem_nil _, failed⟩
      · exact ⟨x :: before, a, after, rfl, List.forall_mem_cons.2 ⟨⟨y, ok⟩, all_ok⟩, failed⟩
    · rintro ⟨before, a, after, cut, all_ok, failed⟩
      cases before with
      | nil =>
        obtain ⟨rfl, -⟩ := List.cons.inj cut
        exact .inl failed
      | cons b before =>
        obtain ⟨rfl, rfl⟩ := List.cons.inj cut
        obtain ⟨⟨y, ok⟩, all_ok⟩ := List.forall_mem_cons.1 all_ok
        exact .inr ⟨y, ok, before, a, after, rfl, all_ok, failed⟩

/-- A traversal fails if any element does, whatever the errors are. Here it does not matter which
element comes first. -/
theorem exists_mapM_eq_error_iff :
    (∃ e, l.mapM f = .error e) ↔ ∃ a ∈ l, ∃ e, f a = .error e := by
  constructor
  · rintro ⟨e, failed⟩
    obtain ⟨before, a, after, rfl, -, failed⟩ := mapM_eq_error_iff.1 failed
    exact ⟨a, by simp, e, failed⟩
  · -- An earlier element may fail as well, and then the error is another one.
    induction l with
    | nil => simp
    | cons x l ih =>
      rintro ⟨a, mem, e, failed⟩
      simp only [List.mapM_cons, bind_eq_error_iff]
      cases first : f x with
      | error e' => exact ⟨e', .inl rfl⟩
      | ok y =>
        rcases List.mem_cons.1 mem with rfl | among_others
        · simp [first] at failed
        · obtain ⟨e', failed'⟩ := ih ⟨a, among_others, e, failed⟩
          exact ⟨e', .inr ⟨y, rfl, .inl failed'⟩⟩

end

/-! ### Partial functions over lists -/

/-- What a partial function finds in a list is found for a part of the list, element by element. -/
theorem forall₂_filterMap (f : α → Option β) (l : List α) :
    ∃ l', l'.Sublist l ∧ List.Forall₂ (fun a b ↦ f a = some b) l' (l.filterMap f) := by
  induction l with
  | nil => exact ⟨[], .slnil, .nil⟩
  | cons a l ih =>
    obtain ⟨l', hl, h⟩ := ih
    cases ha : f a with
    | none => exact ⟨l', hl.cons a, by rwa [List.filterMap_cons_none ha]⟩
    | some b =>
      refine ⟨a :: l', hl.cons_cons a, ?_⟩
      rw [List.filterMap_cons_some ha]
      exact .cons ha h

end AwsCredentials
