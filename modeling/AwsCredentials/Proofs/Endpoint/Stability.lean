import AwsCredentials.Proofs.Endpoint.Host

/-!
# The URL of a URL

A URL that was made of an endpoint can be given as an endpoint itself, and one expects it to be its
own URL: it needs no scheme any more, and there are no slashes left at its end. An endpoint for
which this holds is stable (`IsStable`).

Not every endpoint is. Whether a scheme is needed is told by the mark `://` in the text itself,
while the scheme and the host are found in a copy of the text, where the mark may come about only by
the removal of what stands between its characters. Such a text is taken for a URL if it holds the
mark in another place, and if that place is among the slashes at its end, the mark goes with them.
**The endpoints that are not stable are exactly these** (`isStable_iff`).

* While the mark is there, nothing changes: the URL keeps the host of the endpoint, and so its own
  (`url_eq_self`).
* Without the mark the URL is given the default scheme. It is not refused, since its own scheme is
  now read as the host (`ReadsAs.after_default`).
-/

namespace AwsCredentials.Endpoint

open Text

variable {s scheme authority host front : List Char} {endpoint u : String} {j k : Nat}

/-! ### The scheme as a host -/

/-- A character that means nothing but itself in an authority: an ASCII character that delimits no
part of a URL. -/
def IsInert (c : Char) : Prop :=
  c.toNat < 128 ∧ c ∉ "/?#@[]:".toList

theorem isInert_of_isControlOrSpace {c : Char} (h : isControlOrSpace c = true) : IsInert c := by
  have small : c.toNat ≤ 0x20 := of_decide_eq_true h
  refine ⟨by omega, fun delimiter ↦ ?_⟩
  have visible : "/?#@[]:".toList.all (!isControlOrSpace ·) = true := rfl
  simpa [h] using List.all_eq_true.1 visible c delimiter

/-- The last of the letters and digits is the small z, so that all of them are ASCII characters. -/
theorem toNat_le_of_isAlphanum {c : Char} (h : c.isAlphanum = true) : c.toNat ≤ 'z'.toNat := by
  have order : 'Z'.val ≤ 'z'.val ∧ '9'.val ≤ 'z'.val := by decide
  suffices below : c.val ≤ 'z'.val from UInt32.le_iff_toNat_le.1 below
  rcases Bool.or_eq_true_iff.1 h with letter | digit
  · rcases Bool.or_eq_true_iff.1 letter with capital | small
    · exact UInt32.le_trans (of_decide_eq_true capital).2 order.1
    · exact of_decide_eq_true (Bool.and_eq_true_iff.1 small).2
  · exact UInt32.le_trans (of_decide_eq_true (Bool.and_eq_true_iff.1 digit).2) order.2

theorem isInert_of_isSchemeChar {c : Char} (h : isSchemeChar c = true) : IsInert c := by
  constructor
  · simp only [isSchemeChar, Bool.or_eq_true, decide_eq_true_eq] at h
    rcases h with ((alphanumeric | rfl) | rfl) | rfl
    · exact (toNat_le_of_isAlphanum alphanumeric).trans_lt (by decide)
    all_goals decide
  · intro delimiter
    have no_delimiter : "/?#@[]:".toList.all (!isSchemeChar ·) = true := rfl
    simpa [h] using List.all_eq_true.1 no_delimiter c delimiter

theorem IsInert.endsAuthority_eq {c : Char} (h : IsInert c) : endsAuthority c = false := by
  rw [← Bool.not_eq_true]
  intro ends
  simp only [endsAuthority, Bool.or_eq_true, decide_eq_true_eq] at ends
  rcases ends with (rfl | rfl) | rfl <;> exact absurd h.2 (by decide)

/-- The characters with a compatibility form that holds a delimiter are not among the inert ones. -/
theorem IsInert.not_mem_delimiterCompatible {c : Char} (h : IsInert c) :
    c ∉ delimiterCompatible := by
  intro compatible
  have no_ascii : delimiterCompatible.all (128 ≤ ·.toNat) = true := rfl
  have large : 128 ≤ c.toNat := by simpa using List.all_eq_true.1 no_ascii c compatible
  exact absurd h.1 (Nat.not_lt.2 large)

/-- Inert characters and a colon make an authority: nothing ends it, nothing is wrong with it, and
its host stands before the colon, after which the port is empty. -/
theorem authority_of_isInert (inert : ∀ c ∈ host, IsInert c) :
    (∀ c ∈ host ++ [':'], endsAuthority c = false) ∧ authorityFault (host ++ [':']) = none ∧
      hostOf (host ++ [':']) = host := by
  -- Every delimiter but the colon written last is absent, so each cut of the authority is trivial.
  have absent {d : Char} (delimiter : d ∈ "/?#@[]:".toList) (other : d ≠ ':') :
      d ∉ host ++ [':'] := by
    rw [List.mem_append, List.mem_singleton, not_or]
    exact ⟨fun hd ↦ (inert d hd).2 delimiter, other⟩
  have no_user : '@' ∉ host ++ [':'] := absent (by decide) (by decide)
  have no_bracket : '[' ∉ host ++ [':'] := absent (by decide) (by decide)
  have no_partner : ']' ∉ host ++ [':'] := absent (by decide) (by decide)
  have no_port : ':' ∉ host := fun hd ↦ (inert ':' hd).2 (by decide)
  refine ⟨?_, ?_, ?_⟩
  · exact List.forall_mem_append.2
      ⟨fun c hc ↦ (inert c hc).endsAuthority_eq, List.forall_mem_singleton.2 (by decide)⟩
  · have compatible : (host ++ [':']).any delimiterCompatible.contains = false := by
      rw [List.any_append, Bool.or_eq_false_iff, List.any_eq_false]
      exact ⟨fun c hc ↦ by simpa using (inert c hc).not_mem_delimiterCompatible, by decide⟩
    simp [authorityFault, bracketFault, no_bracket, no_partner, compatible]
  · rw [hostOf, afterLast_eq_self no_user, after?_eq_none no_bracket]
    exact before_append no_port []

/-- What follows the default scheme keeps its leading control characters and blanks, since these are
removed at the beginning of a text only. -/
theorem sanitised_default (s : List Char) :
    sanitised ("https://".toList ++ s) = "https://".toList ++ s.filter (!isRemoved ·) :=
  rfl

/-- **After the default scheme the scheme of a URL is read as its host**, together with what stands
before it. -/
theorem ReadsAs.after_default (h : ReadsAs s scheme authority) :
    ∃ host, host ≠ [] ∧ ReadsAs ("https://".toList ++ s) "https".toList (host ++ [':']) ∧
      hostOf (host ++ [':']) = host := by
  -- Behind the default scheme the old one is what stands before the first colon, with the controls
  -- that were passed over in front of it.
  obtain ⟨rest, shape, -⟩ := h.shape
  obtain ⟨lead, cut, controls⟩ : ∃ lead, s.filter (!isRemoved ·) = lead ++ sanitised s ∧
      ∀ c ∈ lead, isControlOrSpace c = true := by
    refine ⟨(s.takeWhile isControlOrSpace).filter (!isRemoved ·), ?_, fun c hc ↦ ?_⟩
    · rw [sanitised, ← List.filter_append, List.takeWhile_append_dropWhile]
    · exact List.mem_takeWhile_imp (List.mem_filter.1 hc).1
  have legal := h.isScheme_eq
  simp only [isScheme, Bool.and_eq_true, List.all_eq_true] at legal
  have inert : ∀ c ∈ lead ++ scheme, IsInert c :=
    List.forall_mem_append.2 ⟨fun c hc ↦ isInert_of_isControlOrSpace (controls c hc),
      fun c hc ↦ isInert_of_isSchemeChar (legal.2 c hc)⟩
  have something : lead ++ scheme ≠ [] := by
    intro nothing
    rw [(List.append_eq_nil_iff.1 nothing).2] at legal
    exact absurd legal.1 (by decide)
  obtain ⟨undivided, sound, named⟩ := authority_of_isInert inert
  refine ⟨lead ++ scheme, something, ⟨?_, by decide, undivided, sound⟩, named⟩
  refine ⟨'/' :: '/' :: (authority ++ rest), ?_, fun c hc ↦ ?_⟩
  · rw [sanitised_default, cut, shape]
    simp
  · obtain rfl := Option.some.inj hc
    decide

/-! ### URLs with the mark, and without it -/

/-- A text without slashes at its end is the URL of what it completes, if it names a host. -/
theorem url_eq_ok_of_completes (completes : Completes endpoint.toList u.toList)
    (last : u.toList.getLast? ≠ some '/') (reads : ReadsAs u.toList scheme authority)
    (named : hostOf authority ≠ []) : url endpoint = .ok u := by
  have no_slashes : u.toList ++ List.replicate 0 '/' = u.toList := List.append_nil _
  refine url_eq_ok_iff.2 ⟨scheme, authority, ⟨0, ?_⟩, last, reads, named⟩
  rw [no_slashes]
  exact ⟨completes, reads⟩

/-- A URL with the mark of a scheme is its own URL: it is completed by nothing, and it has no slash
at its end to lose. -/
theorem url_eq_self (h : url endpoint = .ok u) (marked : "://".toList <:+: u.toList) :
    url u = .ok u := by
  obtain ⟨scheme, authority, keeps⟩ := url_eq_ok_iff.1 h
  exact url_eq_ok_of_completes (.whole marked) keeps.getLast?_ne keeps.reads keeps.host

/-- A URL without the mark of a scheme is taken for the name of a host and given the default
scheme. -/
theorem url_eq_default (h : url endpoint = .ok u) (unmarked : ¬"://".toList <:+: u.toList) :
    url u = .ok ("https://" ++ u) := by
  obtain ⟨scheme, authority, keeps⟩ := url_eq_ok_iff.1 h
  obtain ⟨host, something, reads, named⟩ := keeps.reads.after_default
  have whole : ("https://" ++ u).toList = "https://".toList ++ u.toList := String.toList_append
  rw [← whole] at reads
  refine url_eq_ok_of_completes (whole ▸ .bare unmarked) ?_ reads (by rwa [named])
  have some_text : u.toList ≠ [] := by
    intro nothing
    obtain ⟨rest, shape, -⟩ := keeps.reads.shape
    rw [nothing] at shape
    simp [sanitised] at shape
  have last := keeps.getLast?_ne
  rw [List.getLast?_eq_some_getLast some_text] at last
  rw [whole, List.getLast?_append, List.getLast?_eq_some_getLast some_text, Option.some_or]
  exact last

/-! ### Marks among the slashes at the end -/

/-- A text holds the mark of a scheme at its end only, where nothing but slashes follows. -/
def MarkedAtEnd (s : List Char) : Prop :=
  ∃ front k, s = front ++ "://".toList ++ List.replicate k '/' ∧ ¬"://".toList <:+: front

/-- With the slashes at the end, the slashes of a mark go that has only slashes after it. -/
theorem eq_of_append_slashes (last : s.getLast? ≠ some '/')
    (h : s ++ List.replicate k '/' = front ++ "://".toList ++ List.replicate j '/') :
    s = front ++ [':'] := by
  have colon_last : (front ++ [':']).getLast? ≠ some '/' := by simp
  have more : front ++ "://".toList ++ List.replicate j '/' =
      front ++ [':'] ++ List.replicate (2 + j) '/' := by
    rw [List.replicate_add]
    simp
  calc s = dropTrailing (· = '/') (s ++ List.replicate k '/') :=
        (dropTrailing_eq_iff.2 ⟨⟨k, rfl⟩, last⟩).symm
    _ = front ++ [':'] := dropTrailing_eq_iff.2 ⟨⟨2 + j, h.trans more⟩, colon_last⟩

/-- **The mark goes with the slashes at the end if it stands there only.** -/
theorem markedAtEnd_append_slashes (last : s.getLast? ≠ some '/') :
    MarkedAtEnd (s ++ List.replicate k '/') ↔
      "://".toList <:+: s ++ List.replicate k '/' ∧ ¬"://".toList <:+: s := by
  constructor
  · rintro ⟨front, j, cut, unmarked⟩
    refine ⟨⟨front, List.replicate j '/', cut.symm⟩, ?_⟩
    rw [eq_of_append_slashes last cut, List.infix_concat_iff, not_or]
    refine ⟨fun ⟨t, ht⟩ ↦ ?_, unmarked⟩
    have ends := congrArg List.getLast? ht
    simp at ends
  · rintro ⟨⟨front, back, cut⟩, unmarked⟩
    rcases List.append_eq_append_iff.1 cut with ⟨more, whole, -⟩ | ⟨lost, -, slashes⟩
    · exact absurd ⟨front, more, whole.symm⟩ unmarked
    · obtain ⟨-, -, back_slashes⟩ := List.append_eq_replicate_iff.1 slashes.symm
      rw [back_slashes] at cut
      refine ⟨front, back.length, cut.symm, fun marked ↦ unmarked ?_⟩
      rw [eq_of_append_slashes last cut.symm]
      exact marked.trans (List.prefix_append front [':']).isInfix

/-- The URL of an endpoint lacks the mark if the endpoint has it at its end only, for the slashes
there are removed. -/
theorem markedAtEnd_iff (h : url endpoint = .ok u) :
    MarkedAtEnd endpoint.toList ↔ ¬"://".toList <:+: u.toList := by
  obtain ⟨scheme, authority, keeps⟩ := url_eq_ok_iff.1 h
  obtain ⟨k, completes, -⟩ := keeps.completes
  generalize whole : u.toList ++ List.replicate k '/' = w at completes
  cases completes with
  | whole marked =>
    rw [← whole, markedAtEnd_append_slashes keeps.getLast?_ne, whole]
    exact and_iff_right marked
  | bare unmarked =>
    have marked_again : "://".toList <:+: u.toList := by
      rcases List.append_eq_append_iff.1 whole with ⟨lost, -, slashes⟩ | ⟨more, cut, -⟩
      · -- Then the endpoint is nothing but slashes, and the URL is no more than the scheme.
        obtain ⟨-, -, endpoint_slashes⟩ := List.append_eq_replicate_iff.1 slashes.symm
        rw [endpoint_slashes] at whole
        have scheme_only : u.toList = "https".toList ++ [':'] :=
          eq_of_append_slashes keeps.getLast?_ne whole
        obtain ⟨rest, shape, -⟩ := keeps.reads.shape
        have slash : '/' ∈ sanitised u.toList := by simp [shape]
        rw [scheme_only] at slash
        exact absurd slash (by decide)
      · exact ⟨"https".toList, more, cut.symm⟩
    refine iff_of_false ?_ (not_not_intro marked_again)
    rintro ⟨front, j, cut, -⟩
    exact unmarked ⟨front, List.replicate j '/', cut.symm⟩

/-- A URL is its own URL exactly when the mark is still there. Otherwise a second scheme is put
before it. -/
theorem url_eq_self_iff (h : url endpoint = .ok u) :
    url u = .ok u ↔ ¬MarkedAtEnd endpoint.toList := by
  rw [markedAtEnd_iff h, not_not]
  refine ⟨fun again ↦ ?_, url_eq_self h⟩
  by_contra unmarked
  have longer := Except.ok.inj ((url_eq_default h unmarked).symm.trans again)
  have length := congrArg String.length longer
  rw [String.length_append] at length
  have eight : "https://".length = 8 := rfl
  omega

/-- The URL of an endpoint, if it has one, is its own URL: to make it a URL once more changes
nothing. -/
def IsStable (endpoint : String) : Prop :=
  ∀ u, url endpoint = .ok u → url u = .ok u

/-- **An endpoint is stable unless it has a URL and holds the mark of a scheme at its end only.**
Then its URL is not refused either, but is given a second scheme. -/
theorem isStable_iff (endpoint : String) :
    (IsStable endpoint ↔ ∀ u, url endpoint = .ok u → ¬MarkedAtEnd endpoint.toList) ∧
      ∀ u, url endpoint = .ok u → MarkedAtEnd endpoint.toList →
        url u = .ok ("https://" ++ u) := by
  constructor
  · exact forall_congr' fun u ↦ forall_congr' fun h ↦ url_eq_self_iff h
  · intro u h marked
    exact url_eq_default h ((markedAtEnd_iff h).1 marked)

/-- A tab stands in the mark before the host, so the only mark that is seen stands at the end and is
removed with the slashes. -/
theorem not_isStable_tab :
    url "http:/\t/host/://" = .ok "http:/\t/host/:" ∧
      url "http:/\t/host/:" = .ok "https://http:/\t/host/:" ∧ ¬IsStable "http:/\t/host/://" := by
  have once : url "http:/\t/host/://" = .ok "http:/\t/host/:" := by rfl
  have twice : url "http:/\t/host/:" = .ok "https://http:/\t/host/:" := by rfl
  refine ⟨once, twice, fun stable ↦ ?_⟩
  have same := Except.ok.inj (twice.symm.trans (stable _ once))
  exact absurd same (by decide)

/-- A mark among the slashes at the end does no harm beside another one. -/
theorem isStable_twoMarks :
    IsStable " http://h://" ∧ url "http:/\t/host/:" = .ok ("https://" ++ "http:/\t/host/:") := by
  have found : url " http://h://" = .ok " http://h:" := by rfl
  have found_tab : url "http:/\t/host/://" = .ok "http:/\t/host/:" := by rfl
  have inside : ∀ u, url " http://h://" = .ok u → ¬MarkedAtEnd " http://h://".toList := by
    intro _ _
    rw [markedAtEnd_iff found, not_not, ← hasSchemeMark_eq_true_iff]
    rfl
  have before : ¬"://".toList <:+: "http:/\t/host/".toList := by
    rw [← hasSchemeMark_eq_true_iff]
    decide
  have at_end : MarkedAtEnd "http:/\t/host/://".toList :=
    ⟨"http:/\t/host/".toList, 0, rfl, before⟩
  exact ⟨(isStable_iff " http://h://").1.2 inside,
    (isStable_iff "http:/\t/host/://").2 _ found_tab at_end⟩

end AwsCredentials.Endpoint
