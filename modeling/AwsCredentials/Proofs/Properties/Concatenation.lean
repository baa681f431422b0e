import AwsCredentials.Proofs.Dictionary
import AwsCredentials.Proofs.Properties.Grammar

/-!
# Texts one after the other

Properties texts can be put one after the other where the first one is *closed* (`IsClosed`): it is
empty, or it ends with a line end after which no logical line goes on. **The main statement**,
`parse_append`, is that the parser then reads both of them on their own. A fault in the first text
is the fault of the whole, and so is one in the second when there is none in the first; without a
fault, the dictionary of the first text is updated with that of the second.

Two things could leak from one text into the other:

* a logical line that goes on. Whether one does is told line by line (`goesOn`), and where none does
  the lines after it are joined on their own (`joinLines_append`). A comment leaves nothing behind,
  even if it ends in a backslash (`IsClosed.append_ignored`);
* a line feed at the head of the second text, after a carriage return at the end of the first. The
  two make one line end where each text alone has a line end of its own, and the line lost by that
  is an empty one, which leaves no trace (`IsClosed.logicalLines_append`).
-/

namespace AwsCredentials.Properties

open Text (IsLine LineEnd isLine_cons naturalLines)

/-! ### Lines after which a logical line goes on -/

/-- A logical line goes on after a natural line, which is part of one already or not. -/
def goesOn (pending : Bool) (natural : List Char) : Bool :=
  (pending || !isIgnorable (natural.dropWhile isSpace)) && continues (natural.dropWhile isSpace)

/-- A logical line goes on after natural lines, the first of which is part of one already or not. -/
def goesOnAfter (pending : Bool) (ls : List (List Char)) : Bool :=
  ls.foldl goesOn pending

@[simp]
theorem goesOnAfter_cons (pending : Bool) (natural : List Char) (ls : List (List Char)) :
    goesOnAfter pending (natural :: ls) = goesOnAfter (goesOn pending natural) ls :=
  rfl

theorem goesOnAfter_concat (pending : Bool) (ls : List (List Char)) (natural : List Char) :
    goesOnAfter pending (ls ++ [natural]) = goesOn (goesOnAfter pending ls) natural :=
  List.foldl_append

/-- **Where no logical line goes on, lines are joined apart.** The induction is on the lines before
the place, with the logical line begun so far kept general. -/
theorem joinLines_append (begun : Option (List Char)) {ls : List (List Char)}
    (settled : goesOnAfter begun.isSome ls = false) (rest : List (List Char)) :
    joinLines begun (ls ++ rest) = joinLines begun ls ++ joinLines none rest := by
  -- What was begun varies, since a line that goes on is joined to the lines after it.
  induction ls generalizing begun with
  | nil =>
    obtain rfl : begun = none := by simpa [goesOnAfter] using settled
    rfl
  | cons natural ls ih =>
    rw [goesOnAfter_cons] at settled
    rw [List.cons_append, joinLines, joinLines]
    split
    · next skipped =>
      have ended_here : goesOn begun.isSome natural = false := by cases begun <;> simp_all [goesOn]
      rw [ended_here] at settled
      exact ih none settled
    · next counts =>
      split
      · next more =>
        have on : goesOn begun.isSome natural = true := by cases begun <;> simp_all [goesOn]
        rw [on] at settled
        exact ih (some _) settled
      · next ended =>
        have ended_here : goesOn begun.isSome natural = false := by simp_all [goesOn]
        rw [ended_here] at settled
        rw [ih none settled, List.cons_append]

/-! ### Closed texts -/

/-- A text is empty or ends with a line end, and no logical line goes on after it. -/
structure IsClosed (s : List Char) : Prop where
  /-- The last character, if there is one, ends a line. -/
  ends : ∀ c ∈ s.getLast?, c = '\r' ∨ c = '\n'
  /-- No logical line goes on after the lines that have ended. -/
  settled : goesOnAfter false (naturalLines s).dropLast = false

variable {s : List Char}

/-- The lines of a closed text: an empty one begins after those that have ended, and no logical line
goes on into it. -/
theorem IsClosed.exists_lines (h : IsClosed s) :
    ∃ ls, naturalLines s = ls ++ [[]] ∧ goesOnAfter false ls = false := by
  obtain ⟨ls, lines⟩ := Text.exists_naturalLines_eq_concat h.ends
  have settled := h.settled
  rw [lines, List.dropLast_concat] at settled
  exact ⟨ls, lines, settled⟩

/-- A blank line or a comment leaves a text closed, whatever the comment ends in. -/
theorem IsClosed.append_ignored (h : IsClosed s) {l : List Char} (line : IsLine l)
    (ignored : IsIgnored l) (e : LineEnd) : IsClosed (s ++ (l ++ e.chars)) where
  ends c hc := by
    obtain ⟨d, last, ends⟩ : ∃ d, e.chars.getLast? = some d ∧ (d = '\r' ∨ d = '\n') := by
      cases e <;> exact ⟨_, rfl, by decide⟩
    rw [← List.append_assoc, List.getLast?_append, last] at hc
    exact Option.some.inj hc ▸ ends
  settled := by
    obtain ⟨ls, lines, settled⟩ := h.exists_lines
    obtain whole | ⟨r, feed, whole⟩ := Text.naturalLines_append_cases lines (l ++ e.chars)
    · have alone : naturalLines (l ++ e.chars) = [l] ++ [[]] := by
        simpa [naturalLines] using Text.naturalLines_append line e (s := []) (by simp)
      have nothing : goesOn false l = false := by simp [goesOn, isIgnored_iff.1 ignored]
      rw [whole, alone, ← List.append_assoc, List.dropLast_concat, goesOnAfter_concat, settled,
        nothing]
    · -- The line feed is all of a blank line, and it belongs to the line end before it.
      have nothing : r = [] := by
        cases l with
        | nil => cases e <;> simp_all [LineEnd.chars]
        | cons c l => exact absurd (List.cons.inj feed).1 (isLine_cons.1 line).1.2
      rw [whole, nothing, naturalLines, List.dropLast_concat, settled]

/-- **A closed text and the text after it have the logical lines of both**, also where a line feed
of the second text joins a carriage return of the first. -/
theorem IsClosed.logicalLines_append (h : IsClosed s) (t : List Char) :
    logicalLines (s ++ t) = logicalLines s ++ logicalLines t := by
  obtain ⟨ls, lines, settled⟩ := h.exists_lines
  have apart (rest : List (List Char)) :
      joinLines none (ls ++ rest) = joinLines none ls ++ joinLines none rest :=
    joinLines_append none settled rest
  have first : logicalLines s = joinLines none ls := by
    rw [logicalLines, lines, apart, joinLines_ignorable rfl, joinLines_none_nil, List.append_nil]
  obtain whole | ⟨r, rfl, whole⟩ := Text.naturalLines_append_cases lines t
  · rw [first, logicalLines, whole, apart, logicalLines]
  · -- On its own, the line feed makes an empty line, which leaves no trace.
    rw [first, logicalLines, whole, apart, logicalLines, naturalLines, joinLines_ignorable rfl]

/-! ### Dictionaries -/

/-- The entries of both texts are read in order, up to the first fault, which may be in either. -/
theorem IsClosed.readEntries_append (h : IsClosed s) (t : List Char) :
    readEntries (s ++ t) = do
      let es ← readEntries s
      let fs ← readEntries t
      return es ++ fs := by
  rw [readEntries, h.logicalLines_append, List.mapM_append]
  rfl

theorem IsClosed.parse_append_eq (h : IsClosed s) (t : List Char) :
    parse (s ++ t) = do
      let d ← parse s
      let e ← parse t
      return d.update e := by
  rw [parse, h.readEntries_append, parse, parse]
  cases readEntries s with
  | error e => rfl
  | ok es =>
    cases readEntries t with
    | error e => rfl
    | ok fs => exact congrArg Except.ok (Dictionary.ofList_append es fs)

/-- **Closed texts are parsed apart from what comes after them.** A fault in the first text is the
fault of the whole, and so is one in the second when there is none in the first. Otherwise the
dictionary of the first text is updated with that of the second. Blank lines and comments leave a
text closed, also a comment that ends in a backslash. -/
theorem parse_append (h : IsClosed s) :
    (∀ t, parse (s ++ t) = do
      let d ← parse s
      let e ← parse t
      return d.update e) ∧
    ∀ l, IsLine l → IsIgnored l → ∀ e : LineEnd, IsClosed (s ++ (l ++ e.chars)) :=
  ⟨h.parse_append_eq, fun _ line ignored e ↦ h.append_ignored line ignored e⟩

/-- An entry and a comment, which ends in a backslash and a carriage return. A line feed may still
join the latter. -/
def remarked : List Char :=
  "a=1\n# old\\\r".toList

theorem parse_append_remarked :
    IsClosed remarked ∧ (parse (remarked ++ "\na=2\nb=3".toList) = do
      let d ← parse remarked
      let e ← parse "\na=2\nb=3".toList
      return d.update e) ∧
      IsClosed (remarked ++ ("!\\".toList ++ LineEnd.crlf.chars)) :=
  have last : remarked.getLast? = some '\r' := by decide
  have closed : IsClosed remarked := ⟨by simp [last], by decide⟩
  have comment : IsIgnored "!\\".toList := isIgnored_iff.2 (by decide)
  ⟨closed, (parse_append closed).1 _,
    (parse_append closed).2 _ (by simp [IsLine]) comment .crlf⟩

end AwsCredentials.Properties
