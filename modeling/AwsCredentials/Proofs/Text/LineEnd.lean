import AwsCredentials.Text.LineEnd

/-!
# Writing line ends

`LineEnd` is a way to write the end of a line. A line is cut off where one is written after it
(`naturalLines_append`). The one thing to look out for is a line feed that comes next: it would join
a carriage return before it.

`Lined` says of a text which lines it is made of, in any mix of ends, and `lined_iff` that these are
the lines it is cut into. Which ends they are does not show in them (`naturalLines_unifyLineEnds`).

Where a text goes on after a line end, its lines go on as well (`naturalLines_append_cases`); the
line feed to look out for is here at the seam of two texts.
-/

namespace AwsCredentials.Text

/-- A way to write the end of a line. There are three, and texts may mix them. -/
inductive LineEnd
  /-- A line feed. -/
  | lf
  /-- A carriage return. -/
  | cr
  /-- A carriage return and a line feed. -/
  | crlf

/-- The characters of a line end. -/
def LineEnd.chars : LineEnd → List Char
  | lf => ['\n']
  | cr => ['\r']
  | crlf => ['\r', '\n']

/-- A line holds no character that ends a line, neither a carriage return nor a line feed. -/
def IsLine (l : List Char) : Prop :=
  ∀ c ∈ l, c ≠ '\r' ∧ c ≠ '\n'

theorem isLine_nil : IsLine [] :=
  List.forall_mem_nil _

theorem isLine_append {k l : List Char} : IsLine (k ++ l) ↔ IsLine k ∧ IsLine l :=
  List.forall_mem_append

theorem isLine_cons {c : Char} {l : List Char} :
    IsLine (c :: l) ↔ (c ≠ '\r' ∧ c ≠ '\n') ∧ IsLine l :=
  List.forall_mem_cons

/-- A line end ends a line. A carriage return does so alone if no line feed follows. -/
theorem naturalLines_chars_append (e : LineEnd) {s : List Char}
    (h : e = .cr → s.head? ≠ some '\n') :
    naturalLines (e.chars ++ s) = [] :: naturalLines s := by
  cases e with
  | lf => rw [LineEnd.chars, List.singleton_append, naturalLines]
  | cr => exact naturalLines_return (h rfl)
  | crlf => rw [LineEnd.chars, List.cons_append, List.singleton_append, naturalLines]

/-- The characters of a line belong to the first line of the text that they are put before. -/
theorem naturalLines_line_append {l : List Char} (hl : IsLine l) {s : List Char} {f : List Char}
    {ls : List (List Char)} (h : naturalLines s = f :: ls) :
    naturalLines (l ++ s) = (l ++ f) :: ls := by
  induction l with
  | nil => exact h
  | cons c l ih =>
    obtain ⟨⟨hr, hn⟩, hl⟩ := isLine_cons.1 hl
    rw [List.cons_append, naturalLines_cons hr hn, ih hl, List.modifyHead_cons, List.cons_append]

/-- **A line is cut off where a line end is written after it**, and the lines of what comes then
follow. -/
theorem naturalLines_append {l : List Char} (hl : IsLine l) (e : LineEnd) {s : List Char}
    (h : e = .cr → s.head? ≠ some '\n') :
    naturalLines (l ++ (e.chars ++ s)) = l :: naturalLines s := by
  rw [naturalLines_line_append hl (naturalLines_chars_append e h), List.append_nil]

/-! ### Lines in any mix of line ends -/

/-- A text is made of lines. The last one has no end, and each of the others has one of its own. -/
inductive Lined : List Char → List (List Char) → Prop
  /-- The last line. -/
  | last {l : List Char} (line : IsLine l) : Lined l [l]
  /-- A line, its end and the lines after it. -/
  | cons {l s : List Char} {ls : List (List Char)} (line : IsLine l) (e : LineEnd)
      (alone : e = .cr → s.head? ≠ some '\n') (rest : Lined s ls) :
      Lined (l ++ (e.chars ++ s)) (l :: ls)

/-- The lines of a text are found, whichever ends they have, by induction on how the text is made of
them. -/
theorem Lined.naturalLines_eq {s : List Char} {ls : List (List Char)} (h : Lined s ls) :
    naturalLines s = ls := by
  induction h with
  | last line =>
    have found := naturalLines_line_append line (s := []) rfl
    rwa [List.append_nil] at found
  | cons line e alone _ ih => rw [naturalLines_append line e alone, ih]

/-- A character that ends no line can be put before the first line, and no other line changes. -/
theorem Lined.modifyHead {s : List Char} {ls : List (List Char)} {c : Char} (hr : c ≠ '\r')
    (hn : c ≠ '\n') (h : Lined s ls) : Lined (c :: s) (ls.modifyHead (c :: ·)) := by
  cases h with
  | last line => exact .last (isLine_cons.2 ⟨⟨hr, hn⟩, line⟩)
  | cons line e alone rest => exact .cons (isLine_cons.2 ⟨⟨hr, hn⟩, line⟩) e alone rest

/-- Every text is made of its lines, by the recursion that finds them. -/
theorem lined_naturalLines (s : List Char) : Lined s (naturalLines s) := by
  fun_induction naturalLines s with
  | case1 => exact .last isLine_nil
  | case2 r ih => exact .cons isLine_nil .crlf (by simp) ih
  | case3 r lone ih =>
    refine .cons isLine_nil .cr (fun _ feed ↦ ?_) ih
    obtain ⟨t, rfl⟩ := List.head?_eq_some_iff.1 feed
    exact lone t rfl
  | case4 r ih => exact .cons isLine_nil .lf (by simp) ih
  | case5 c r not_crlf not_return not_feed ih => exact ih.modifyHead not_return not_feed

/-- **A text is made of its lines and of no others**, whichever ends they have. -/
theorem lined_iff {s : List Char} {ls : List (List Char)} : Lined s ls ↔ naturalLines s = ls := by
  constructor
  · exact Lined.naturalLines_eq
  · rintro rfl
    exact lined_naturalLines s

/-- What a text is cut into are lines: no line end is left in any of them. -/
theorem isLine_of_mem_naturalLines {s l : List Char} (h : l ∈ naturalLines s) : IsLine l := by
  have made := lined_naturalLines s
  generalize naturalLines s = ls at made h
  induction made with
  | last line => rwa [List.mem_singleton.1 h]
  | cons line _ _ _ ih => exact (List.mem_cons.1 h).elim (fun first ↦ first ▸ line) ih

/-! ### One text after another -/

/-- The lines of a text that is empty or ends with a line end: the last one is empty. -/
theorem exists_naturalLines_eq_concat {s : List Char}
    (h : ∀ c ∈ s.getLast?, c = '\r' ∨ c = '\n') : ∃ ls, naturalLines s = ls ++ [[]] := by
  have made := lined_naturalLines s
  generalize naturalLines s = lines at made ⊢
  -- The last line has no end after it, so a text that ends in one has an empty last line.
  induction made with
  | @last l line =>
    have empty : l = [] := by
      refine List.getLast?_eq_none_iff.1 (Option.eq_none_iff_forall_ne_some.2 fun c hc ↦ ?_)
      have no_end := line c (List.mem_of_getLast? hc)
      exact (h c hc).elim no_end.1 no_end.2
    exact ⟨[], by rw [empty]; rfl⟩
  | @cons l s _ _ e _ _ ih =>
    have same_end : ∀ c ∈ s.getLast?, c = '\r' ∨ c = '\n' := by
      intro c hc
      refine h c ?_
      rw [Option.mem_def] at hc ⊢
      rw [List.getLast?_append, List.getLast?_append, hc]
      rfl
    obtain ⟨ls, rfl⟩ := ih same_end
    exact ⟨l :: ls, rfl⟩

/-- **After a line end a text goes on with new lines**, but for a line feed that may belong to that
line end. -/
theorem naturalLines_append_cases {s : List Char} {ls : List (List Char)}
    (h : naturalLines s = ls ++ [[]]) (t : List Char) :
    naturalLines (s ++ t) = ls ++ naturalLines t ∨
      ∃ r, t = '\n' :: r ∧ naturalLines (s ++ t) = ls ++ naturalLines r := by
  have made := lined_naturalLines s
  rw [h] at made
  generalize hall : ls ++ [[]] = lines at made
  clear h
  -- Along the lines of `s`: each is passed over, and what happens at the last is the claim.
  induction made generalizing ls with
  | @last l line =>
    have length := congrArg List.length hall
    obtain rfl : ls = [] := by simpa using length
    obtain rfl : [] = l := by simpa using hall
    exact .inl rfl
  | @cons l s lines line e alone rest ih =>
    obtain ⟨ls, rfl, rfl⟩ : ∃ ks, ls = l :: ks ∧ lines = ks ++ [[]] := by
      cases ls with
      | nil =>
        obtain ⟨-, rfl⟩ : [] = l ∧ [] = lines := by simpa using hall
        exact absurd rest.naturalLines_eq (naturalLines_ne_nil s)
      | cons k ks =>
        obtain ⟨rfl, rfl⟩ : k = l ∧ ks ++ [[]] = lines := by simpa using hall
        exact ⟨ks, rfl, rfl⟩
    rw [List.append_assoc, List.append_assoc]
    by_cases joins : e = .cr ∧ (s ++ t).head? = some '\n'
    · -- A carriage return is alone in its own text, so the line feed is the first of the other.
      obtain ⟨rfl, feed⟩ := joins
      have nothing : s = [] := by
        cases s with
        | nil => rfl
        | cons c s => exact absurd feed (alone rfl)
      subst nothing
      obtain ⟨r, rfl⟩ := List.head?_eq_some_iff.1 feed
      have single := rest.naturalLines_eq
      obtain rfl : ls = [] := by simpa [naturalLines] using single
      exact .inr ⟨r, rfl, naturalLines_append line .crlf (by simp)⟩
    · have still_alone : e = .cr → (s ++ t).head? ≠ some '\n' := not_and.1 joins
      rw [naturalLines_append line e still_alone]
      obtain whole | ⟨r, ht, whole⟩ := ih rfl
      · exact .inl (congrArg (l :: ·) whole)
      · exact .inr ⟨r, ht, congrArg (l :: ·) whole⟩

/-! ### Line ends made equal -/

/-- **Which ends the lines of a text have makes no difference to the lines**: with line feeds for
all of them the lines are the same. -/
theorem naturalLines_unifyLineEnds (s : List Char) :
    naturalLines (unifyLineEnds s) = naturalLines s := by
  fun_induction unifyLineEnds s with
  | case1 => rfl
  | case2 r ih => rw [naturalLines, naturalLines, ih]
  | case3 r lone ih =>
    have no_feed : r.head? ≠ some '\n' := by
      intro feed
      obtain ⟨t, rfl⟩ := List.head?_eq_some_iff.1 feed
      exact lone t rfl
    rw [naturalLines_return no_feed, naturalLines, ih]
  | case4 c r not_crlf not_return ih =>
    by_cases hn : c = '\n'
    · rw [hn, naturalLines, naturalLines, ih]
    · have hr : c ≠ '\r' := fun h ↦ not_return h
      rw [naturalLines_cons hr hn, naturalLines_cons hr hn, ih]

/-- No carriage return is left where line ends are unified, so what is read from a file never holds
one. -/
theorem return_not_mem_unifyLineEnds (s : List Char) : '\r' ∉ unifyLineEnds s := by
  fun_induction unifyLineEnds s with
  | case1 => exact List.not_mem_nil
  | case2 r ih => simpa using ih
  | case3 r _ ih => simpa using ih
  | case4 c r _ not_return ih =>
    have other : '\r' ≠ c := fun h ↦ not_return h.symm
    simpa [other] using ih

end AwsCredentials.Text
