/-!
# Cutting a text at a mark

The parts of addresses, endpoints and paths are found by cutting a text at a mark: before the first
one, after the last one, or at each.

* `before` and `after?` cut at the first mark, and `afterLast` keeps what follows the last mark;
* `splitAt` cuts at every mark, so that a text with `n` marks has `n + 1` parts;
* `cutAtDouble` cuts at the first place where the mark stands twice in a row.

Nothing but the mark is lost in a cut (`before_append_after`). A text that is put together at a mark
is cut there again (`before_append`, `after?_append`), and one without marks is not cut
(`after?_eq_none`, `afterLast_eq_self`).
-/

namespace AwsCredentials.Text

variable {α : Type} [DecidableEq α]

/-- What stands before the first mark, or all of the text if there is no mark. -/
def before (mark : α) (s : List α) : List α :=
  s.takeWhile (· ≠ mark)

/-- What stands after the first mark, if there is one. -/
def after? (mark : α) (s : List α) : Option (List α) :=
  match s.dropWhile (· ≠ mark) with
  | [] => none
  | _ :: r => some r

/-- What stands after the last mark, or all of the text if there is no mark. -/
def afterLast (mark : α) (s : List α) : List α :=
  (s.reverse.takeWhile (· ≠ mark)).reverse

/-- The parts of a text between marks, one more than there are marks. -/
def splitAt (mark : α) : List α → List (List α)
  | [] => [[]]
  | c :: r => if c = mark then [] :: splitAt mark r else (splitAt mark r).modifyHead (c :: ·)

/-- What stands before and after the first place where the mark stands twice in a row. A third mark
in a row stands after it. -/
def cutAtDouble (mark : α) : List α → Option (List α × List α)
  | [] => none
  | [_] => none
  | c :: d :: r =>
    if c = mark ∧ d = mark then some ([], r)
    else (cutAtDouble mark (d :: r)).map fun cut ↦ (c :: cut.1, cut.2)

/-- A text is what stands before the first mark, the mark, and what stands after it. -/
theorem before_append_after {mark : α} {s r : List α} (h : after? mark s = some r) :
    before mark s ++ mark :: r = s := by
  induction s with
  | nil => simp [after?] at h
  | cons c s ih =>
    by_cases hc : c = mark
    · subst hc
      simp_all [after?, before]
    · have h' : after? mark s = some r := by simpa [after?, hc] using h
      simpa [before, hc] using ih h'

/-- What holds no mark stands before the first one, when a mark is put behind it. -/
theorem before_append {mark : α} {s : List α} (h : mark ∉ s) (r : List α) :
    before mark (s ++ mark :: r) = s := by
  have unmarked : ∀ c ∈ s, decide (c ≠ mark) = true :=
    fun c hc ↦ decide_eq_true fun he ↦ h (he ▸ hc)
  rw [before, List.takeWhile_append_of_pos unmarked, List.takeWhile_cons_of_neg (by simp),
    List.append_nil]

/-- After what holds no mark, the first one is found, and what follows it is the rest. -/
theorem after?_append {mark : α} {s : List α} (h : mark ∉ s) (r : List α) :
    after? mark (s ++ mark :: r) = some r := by
  have unmarked : ∀ c ∈ s, decide (c ≠ mark) = true :=
    fun c hc ↦ decide_eq_true fun he ↦ h (he ▸ hc)
  rw [after?, List.dropWhile_append_of_pos unmarked, List.dropWhile_cons_of_neg (by simp)]

/-- In a text without marks none is found, so nothing stands after one. -/
theorem after?_eq_none {mark : α} {s : List α} (h : mark ∉ s) : after? mark s = none := by
  have unmarked : ∀ c ∈ s, decide (c ≠ mark) = true :=
    fun c hc ↦ decide_eq_true fun he ↦ h (he ▸ hc)
  have nothing : (s ++ []).dropWhile (decide <| · ≠ mark) = [] :=
    List.dropWhile_append_of_pos unmarked
  rw [List.append_nil] at nothing
  rw [after?, nothing]

/-- In a text without marks all of it counts as what stands after the last one. -/
theorem afterLast_eq_self {mark : α} {s : List α} (h : mark ∉ s) : afterLast mark s = s := by
  have unmarked : ∀ c ∈ s.reverse, decide (c ≠ mark) = true :=
    fun c hc ↦ decide_eq_true fun he ↦ h (he ▸ List.mem_reverse.1 hc)
  have all : (s.reverse ++ []).takeWhile (decide <| · ≠ mark) = s.reverse ++ [] :=
    List.takeWhile_append_of_pos unmarked
  rw [List.append_nil] at all
  rw [afterLast, all, List.reverse_reverse]

end AwsCredentials.Text
