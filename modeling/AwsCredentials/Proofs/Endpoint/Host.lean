import AwsCredentials.Endpoint.Url
import AwsCredentials.Proofs.Text.Blank

/-!
# The host that an endpoint names

The host of an endpoint is looked for in a copy of the text from which some characters are removed,
while the URL of the endpoint is the text itself, without the slashes at its end. A removal at the
end could eat into what was taken for the host, and a client that is given the URL would not find
the host that was checked.

It does not. `ReadsAs` says what it is for a text to be a URL with a scheme and an authority, and
the two are still there after the removal when the authority is not empty
(`ReadsAs.of_append_slashes`): the slashes that go are kept in the copy, and the authority before
them does not end with one. **The URLs of an endpoint are exactly the texts that keep its host**
(`url_eq_ok_iff`).
-/

namespace AwsCredentials.Endpoint

open Text

variable {s u scheme authority : List Char}

/-! ### Reading a text as a URL -/

/-- A text is read as a URL with this scheme and this authority. -/
structure ReadsAs (s scheme authority : List Char) : Prop where
  /-- Without the characters that count for nothing, the text is the scheme, the mark, the authority
  and more, and the authority goes on until something ends it. -/
  shape : ∃ rest, sanitised s = scheme ++ ':' :: '/' :: '/' :: (authority ++ rest) ∧
    ∀ c ∈ rest.head?, endsAuthority c = true
  /-- The scheme is one. -/
  isScheme_eq : isScheme scheme = true
  /-- Nothing in the authority ends it. -/
  undivided : ∀ c ∈ authority, endsAuthority c = false
  /-- Nothing is wrong with the authority. -/
  sound : authorityFault authority = none

theorem colon_not_mem_of_isScheme (h : isScheme scheme = true) : ':' ∉ scheme := by
  intro hc
  simp only [isScheme, Bool.and_eq_true, List.all_eq_true] at h
  exact absurd (h.2 ':' hc) (by decide)

/-- A scheme stands before the first colon. No scheme holds a colon, so the first colon is the only
place to look at. -/
theorem splitScheme_eq_iff {r : List Char} :
    splitScheme s = (some scheme, r) ↔ s = scheme ++ ':' :: r ∧ isScheme scheme = true := by
  constructor
  · intro h
    unfold splitScheme at h
    split at h
    · simp at h
    · next r' after =>
      split at h
      · next legal =>
        obtain ⟨front, rfl⟩ := Prod.mk.inj h
        obtain rfl := Option.some.inj front
        exact ⟨(before_append_after after).symm, legal⟩
      · simp at h
  · rintro ⟨rfl, legal⟩
    have colon := colon_not_mem_of_isScheme legal
    simp only [splitScheme, after?_append colon, before_append colon, legal, if_true]

/-- An authority stands between two slashes and what ends it. -/
theorem authorityOf_eq_iff {r : List Char} (hne : authority ≠ []) :
    authorityOf r = authority ↔
      ∃ rest, r = '/' :: '/' :: (authority ++ rest) ∧ (∀ c ∈ authority, endsAuthority c = false) ∧
        ∀ c ∈ rest.head?, endsAuthority c = true := by
  constructor
  · intro h
    unfold authorityOf at h
    split at h
    · next r =>
      refine ⟨r.dropWhile (!endsAuthority ·), by rw [← h, List.takeWhile_append_dropWhile], ?_, ?_⟩
      · intro c hc
        rw [← h] at hc
        simpa using List.mem_takeWhile_imp hc
      · intro c hc
        have ended := List.head?_dropWhile_not (!endsAuthority ·) r
        rw [Option.mem_def.1 hc] at ended
        simpa using ended
    · exact absurd h.symm hne
  · -- All of the authority is taken, and nothing of the rest as it begins with an end or is empty.
    rintro ⟨rest, rfl, undivided, ended⟩
    have inside : ∀ c ∈ authority, (!endsAuthority c) = true :=
      fun c hc ↦ by rw [undivided c hc]; rfl
    have outside : rest.takeWhile (!endsAuthority ·) = [] := by
      cases rest with
      | nil => rfl
      | cons c rest => exact List.takeWhile_cons_of_neg (by simp [ended c rfl])
    rw [authorityOf, List.takeWhile_append_of_pos inside, outside, List.append_nil]

/-- A text is read as it is taken apart: the relation says of the parts what the function does to
find them. -/
theorem readsAs_iff (hne : authority ≠ []) :
    ReadsAs s scheme authority ↔
      dissect s = (some scheme, authority) ∧ authorityFault authority = none := by
  constructor
  · intro h
    obtain ⟨rest, shape, ended⟩ := h.shape
    have cut := splitScheme_eq_iff.2 ⟨shape, h.isScheme_eq⟩
    have found := (authorityOf_eq_iff hne).2 ⟨rest, rfl, h.undivided, ended⟩
    exact ⟨by rw [dissect, cut, found], h.sound⟩
  · rintro ⟨h, sound⟩
    rcases cut : splitScheme (sanitised s) with ⟨front, r⟩
    rw [dissect, cut] at h
    obtain ⟨rfl, found⟩ := Prod.mk.inj h
    obtain ⟨shape, legal⟩ := splitScheme_eq_iff.1 cut
    obtain ⟨rest, rfl, undivided, ended⟩ := (authorityOf_eq_iff hne).1 found
    exact ⟨⟨rest, shape, ended⟩, legal, undivided, sound⟩

theorem ne_nil_of_hostOf_ne_nil (h : hostOf authority ≠ []) : authority ≠ [] := by
  rintro rfl
  exact h rfl

/-- Nothing is wrong with a text that is read as a URL with a host, and with no other text. -/
theorem fault?_eq_none_iff {endpoint : String} :
    fault? endpoint s = none ↔
      ∃ scheme authority, ReadsAs s scheme authority ∧ hostOf authority ≠ [] := by
  rcases parts : dissect s with ⟨front, authority⟩
  have fault : fault? endpoint s = none ↔
      authorityFault authority = none ∧ front.isSome = true ∧ hostOf authority ≠ [] := by
    rw [fault?, parts]
    cases authorityFault authority with
    | some e => simp
    | none => cases front <;> simp
  -- A host that is not empty makes the authority so, and then `dissect` is known by its law.
  rw [fault]
  constructor
  · rintro ⟨sound, named, host⟩
    obtain ⟨scheme, rfl⟩ := Option.isSome_iff_exists.1 named
    exact ⟨scheme, authority, (readsAs_iff (ne_nil_of_hostOf_ne_nil host)).2 ⟨parts, sound⟩, host⟩
  · rintro ⟨scheme, authority', reads, host⟩
    obtain ⟨parts', sound⟩ := (readsAs_iff (ne_nil_of_hostOf_ne_nil host)).1 reads
    obtain ⟨rfl, rfl⟩ := Prod.mk.inj (parts.symm.trans parts')
    exact ⟨sound, rfl, host⟩

/-! ### Slashes at the end -/

/-- Slashes at the end are kept by what removes characters, because a slash is neither a control
character nor a blank. -/
theorem sanitised_append_slashes (u : List Char) (k : Nat) :
    sanitised (u ++ List.replicate k '/') = sanitised u ++ List.replicate k '/' := by
  have kept : (List.replicate k '/').dropWhile isControlOrSpace = List.replicate k '/' := by
    cases k with
    | zero => rfl
    | succ k => exact List.dropWhile_cons_of_neg (by decide)
  have counted : (List.replicate k '/').filter (!isRemoved ·) = List.replicate k '/' :=
    List.filter_eq_self.2 fun c hc ↦ by rw [List.eq_of_mem_replicate hc]; rfl
  unfold sanitised
  rw [List.dropWhile_append, kept]
  split
  · next gone => rw [List.isEmpty_iff.1 gone, List.filter_nil, List.nil_append, counted]
  · rw [List.filter_append, counted]

/-- **Without slashes at its end, a text is read as before**, since the authority does not reach
that far. -/
theorem ReadsAs.of_append_slashes {k : Nat}
    (h : ReadsAs (u ++ List.replicate k '/') scheme authority) (hne : authority ≠ []) :
    ReadsAs u scheme authority := by
  obtain ⟨rest, shape, ended⟩ := h.shape
  suffices shape' : ∃ rest', sanitised u = scheme ++ ':' :: '/' :: '/' :: (authority ++ rest') ∧
      ∀ c ∈ rest'.head?, endsAuthority c = true from
    ⟨shape', h.isScheme_eq, h.undivided, h.sound⟩
  have whole : (scheme ++ ':' :: '/' :: '/' :: authority) ++ rest =
      sanitised u ++ List.replicate k '/' := by
    rw [← sanitised_append_slashes, shape]
    simp
  rcases List.append_eq_append_iff.1 whole with ⟨more, front, back⟩ | ⟨lost, front, back⟩
  · -- The slashes stand in the rest, which begins with what is left of it or with a slash.
    refine ⟨more, by rw [front]; simp, fun c hc ↦ ended c ?_⟩
    rw [back, List.head?_append, Option.mem_def.1 hc]
    rfl
  · -- What would be lost are slashes, and the authority does not end with one.
    have none_lost : lost = [] := by
      by_contra hl
      have slash : lost.getLast hl = '/' :=
        List.eq_of_mem_replicate (back ▸ List.mem_append_left _ (List.getLast_mem hl))
      have last : authority.getLast hne = lost.getLast hl := by
        have ends := congrArg List.getLast? front
        simpa [List.getLast?_append, List.getLast?_cons, List.getLast?_eq_some_getLast hne,
          List.getLast?_eq_some_getLast hl] using ends
      have inside := h.undivided _ (List.getLast_mem hne)
      rw [last, slash] at inside
      exact absurd inside (by decide)
    subst none_lost
    exact ⟨[], by simpa using front.symm, by simp⟩

/-! ### URLs -/

theorem hasSchemeMark_eq_true_iff : hasSchemeMark s = true ↔ "://".toList <:+: s := by
  induction s with
  | nil => decide
  | cons c s ih =>
    rw [hasSchemeMark, Bool.or_eq_true, ih, List.isPrefixOf_iff_prefix, List.infix_cons_iff]
    rfl

/-- An endpoint with a scheme: the endpoint itself if it holds the mark of one, otherwise the
endpoint after the default scheme. -/
inductive Completes (endpoint : List Char) : List Char → Prop
  /-- The endpoint holds the mark. -/
  | whole (h : "://".toList <:+: endpoint) : Completes endpoint endpoint
  /-- The endpoint does not hold it. -/
  | bare (h : ¬"://".toList <:+: endpoint) : Completes endpoint ("https://".toList ++ endpoint)

/-- There is one way to complete an endpoint, since it either holds the mark or does not. -/
theorem completes_iff {endpoint : List Char} : Completes endpoint s ↔ s = candidate endpoint := by
  unfold candidate
  by_cases h : "://".toList <:+: endpoint
  · rw [if_pos (hasSchemeMark_eq_true_iff.2 h)]
    constructor
    · intro hc
      cases hc with
      | whole => rfl
      | bare h' => exact absurd h h'
    · rintro rfl
      exact .whole h
  · rw [if_neg (mt hasSchemeMark_eq_true_iff.1 h)]
    constructor
    · intro hc
      cases hc with
      | whole h' => exact absurd h' h
      | bare => rfl
    · rintro rfl
      exact .bare h

/-- A text keeps the host of an endpoint, with this scheme and this authority around it. -/
structure KeepsHost (endpoint u scheme authority : List Char) : Prop where
  /-- Up to slashes at its end, the text is the endpoint with a scheme, and that is read so. -/
  completes : ∃ k, Completes endpoint (u ++ List.replicate k '/') ∧
    ReadsAs (u ++ List.replicate k '/') scheme authority
  /-- No slash is left at the end. -/
  getLast?_ne : u.getLast? ≠ some '/'
  /-- The text is still read so. -/
  reads : ReadsAs u scheme authority
  /-- A host is named. -/
  host : hostOf authority ≠ []

/-- **The URL of an endpoint is the text that keeps its host**, and without such a text there is no
URL. -/
theorem url_eq_ok_iff {endpoint u : String} :
    url endpoint = .ok u ↔
      ∃ scheme authority, KeepsHost endpoint.toList u.toList scheme authority := by
  have accepted : url endpoint = .ok u ↔ fault? endpoint (candidate endpoint.toList) = none ∧
      dropTrailing (· = '/') (candidate endpoint.toList) = u.toList := by
    unfold url
    dsimp only
    cases fault? endpoint (candidate endpoint.toList) with
    | some e => simp
    | none => simp [← String.toList_inj]
  rw [accepted, fault?_eq_none_iff, dropTrailing_eq_iff]
  constructor
  · rintro ⟨⟨scheme, authority, reads, host⟩, ⟨k, cut⟩, last⟩
    rw [cut] at reads
    exact ⟨scheme, authority, ⟨k, completes_iff.2 cut.symm, reads⟩, last,
      reads.of_append_slashes (ne_nil_of_hostOf_ne_nil host), host⟩
  · rintro ⟨scheme, authority, ⟨k, completes, reads⟩, last, -, host⟩
    have cut := completes_iff.1 completes
    exact ⟨⟨scheme, authority, cut ▸ reads, host⟩, ⟨k, cut.symm⟩, last⟩

end AwsCredentials.Endpoint
