import AwsCredentials.Proofs.Dictionary
import AwsCredentials.Proofs.Properties.Grammar
import AwsCredentials.Proofs.Session.Execution
import AwsCredentials.Proofs.Session.SecretFile

/-!
# The key pair that a file defines

A properties file defines a key pair by its entries, of which it may hold any others, in any order,
and also earlier ones for the same keys. Only the last entry under a key counts (`GivesLast`), and
there may be white space around its value.

**The main statement**, `keyPair_of_written`: a file that is written to hold such entries yields the
key pair that they define, and building a session for it opens one session, with this key pair. How
the entries are written is left to the grammar of properties texts: which escapes and line ends are
used, where a line goes on with the next, and which comments stand between the entries.
-/

namespace AwsCredentials.Session

open Text (CodeText)

/-! ### Entries -/

/-- The last entry under a key gives a text, with any white space around it. Earlier entries under
the key do not count. -/
def GivesLast (es : List (CodeText × CodeText)) (key : String) (half : CodeText) : Prop :=
  ∃ before after, Dictionary.LastUnder (· = CodeText.ofString key) es (before ++ half ++ after) ∧
    (∀ c ∈ before, Text.CodePoint.isBlank c = true) ∧
      ∀ c ∈ after, Text.CodePoint.isBlank c = true

/-- Entries define a key pair: the last ones under its two keys give its halves. -/
structure Defines (es : List (CodeText × CodeText)) (pair : KeyPair) : Prop where
  /-- The public half. -/
  accessKey : GivesLast es accessKeyProperty pair.accessKey
  /-- The secret half. -/
  secretKey : GivesLast es secretKeyProperty pair.secretKey

/-- **What is given last is the value under the key**, without the white space around it. -/
theorem GivesLast.trimmedValue_eq {es : List (CodeText × CodeText)} {key : String}
    {half : CodeText} (h : GivesLast es key half) :
    trimmedValue (.ofList es) key = Text.trim Text.CodePoint.isBlank half := by
  obtain ⟨before, after, last, blank_before, blank_after⟩ := h
  rw [trimmedValue, Dictionary.get?_ofList_eq_some_iff.2 last]
  exact Text.trim_padded blank_before blank_after half

variable {es : List (CodeText × CodeText)} {pair : KeyPair}

/-- **Entries yield the key pair that they define**, if its halves are not empty and have no white
space around them. -/
theorem Defines.keyPairOf_eq (h : Defines es pair) (trimmed : pair.IsTrimmed) :
    keyPairOf (.ofList es) = .ok pair := by
  obtain ⟨access_given, access_trimmed⟩ := trimmed pair.accessKey (by simp)
  obtain ⟨secret_given, secret_trimmed⟩ := trimmed pair.secretKey (by simp)
  have complete : ¬(pair.accessKey = [] ∨ pair.secretKey = []) :=
    not_or.2 ⟨access_given, secret_given⟩
  rw [keyPairOf, h.accessKey.trimmedValue_eq, h.secretKey.trimmedValue_eq, access_trimmed,
    secret_trimmed]
  exact if_neg complete

/-! ### Files -/

variable {w : World} {path : String} {s : List Char}

/-- The text of a file in UTF-8 is read as it is, but for its line ends, which are unified. -/
theorem readText_of_encode (no_null : '\x00' ∉ path.toList)
    (content : w.files.content (.ofString path) = .ok (Text.Utf8.encode s)) :
    w.files.readText path = .ok (Text.unifyLineEnds s) :=
  Files.FileTree.readText_eq_ok no_null content (Text.Utf8.decode_eq_ok_iff.2 rfl)

/-- From any trace, building a session for a file that yields a key pair opens one session, with
that key pair. -/
theorem startedAt_build_credentialsFile (read : readKeyPair w.files path = .ok pair) (t : Trace) :
    (build w (.credentialsFile path)).startedAt t =
      (.ok t.nextSession,
        t.extend [.building .credentialsFile] [.session t.nextSession (.keyPair pair)]) := by
  have carried := carriesOut_build w (.credentialsFile path) t
  rw [CarriesOut, plan, read] at carried
  exact carried

/-- **A file yields exactly the key pair that it defines**, and building a session for it opens
exactly one session, with exactly this key pair. -/
theorem keyPair_of_written (no_null : '\x00' ∉ path.toList)
    (content : w.files.content (.ofString path) = .ok (Text.Utf8.encode s))
    (written : Properties.IsWritten s es) (defines : Defines es pair) (trimmed : pair.IsTrimmed)
    (t : Trace) :
    readKeyPair w.files path = .ok pair ∧
      (build w (.credentialsFile path)).startedAt t =
        (.ok t.nextSession,
          t.extend [.building .credentialsFile] [.session t.nextSession (.keyPair pair)]) := by
  have read : readKeyPair w.files path = .ok pair := by
    rw [readKeyPair, readText_of_encode no_null content]
    dsimp only
    rw [keyPairOfText, written.unifyLineEnds.parse_eq]
    exact defines.keyPairOf_eq trimmed
  exact ⟨read, startedAt_build_credentialsFile read t⟩

/-! ### A file written by hand -/

/-- A comment that ends in a backslash, an entry that a later one replaces, an entry on two lines
and one without a separator, with three kinds of line ends. -/
def handwrittenText : List Char :=
  "# keys\\\naccessKey=old\r\naccess\\\r  Key : a\nsecretKey \\u0073 ".toList

/-- The entries of the text. -/
def handwrittenEntries : List (CodeText × CodeText) :=
  [(.ofString "accessKey", .ofString "old"), (.ofString "accessKey", .ofString "a"),
    (.ofString "secretKey", .ofString "s ")]

/-- A directory with the text in a file, encoded as such a file has to be. -/
def handwrittenFile : Files.FileTree :=
  Files.FileTree.empty.put [['c']] (.file (Text.Utf8.encode handwrittenText))

section

open Properties

/-- The lines of the text hold its entries, which is shown rule by rule of the grammar. -/
theorem isWritten_handwritten : IsWritten handwrittenText handwrittenEntries := by
  have access_key : Spells endsKey "accessKey".toList (.ofString "accessKey") :=
    spells_of_not_mem (by simp [endsKey, isSeparator, isSpace])
  have secret_key : Spells endsKey "secretKey".toList (.ofString "secretKey") :=
    spells_of_not_mem (by simp [endsKey, isSeparator, isSpace])
  have value {v : List Char} (h : ∀ c ∈ v, c ≠ '\\' ∧ false = false) :
      Spells (fun _ ↦ false) v (CodeText.ofChars v) := spells_of_not_mem h
  have escaped_s : Spells (fun _ ↦ false) "\\u0073 ".toList (.ofString "s ") :=
    .number (a := '0') (b := '0') (c := '7') (d := '3') (n := 0x73) rfl (value (v := [' '])
      (by simp))
  have no_blank : AreBlanks [] := List.forall_mem_nil _
  have blank : AreBlanks [' '] := by decide
  have replaced : WritesEntry "accessKey=old".toList (.ofString "accessKey") (.ofString "old") :=
    ⟨"accessKey".toList, ['='], "old".toList, rfl, access_key,
      .separator no_blank rfl no_blank (by simp [isSpace]), value (by simp)⟩
  have access : WritesEntry "accessKey : a".toList (.ofString "accessKey") (.ofString "a") :=
    ⟨"accessKey".toList, " : ".toList, ['a'], rfl, access_key,
      .separator blank rfl blank (by simp [isSpace]), value (by simp)⟩
  have secret : WritesEntry "secretKey \\u0073 ".toList (.ofString "secretKey") (.ofString "s ") :=
    ⟨"secretKey".toList, [' '], "\\u0073 ".toList, rfl, secret_key,
      .blanks (by simp) blank (by simp [endsKey, isSeparator, isSpace]), escaped_s⟩
  have first : Spreads ["accessKey=old".toList] "accessKey=old".toList :=
    spreads_line rfl replaced.isSpelled
  have second : Spreads ["access\\".toList, "  Key : a".toList] "accessKey : a".toList :=
    .more (s := "access".toList) no_blank (by simp [isSpace]) (isSpelled_of_not_mem (by simp))
      (spreads_line rfl (isSpelled_of_not_mem (s := "Key : a".toList) (by simp)))
  have third : Spreads ["secretKey \\u0073 ".toList] "secretKey \\u0073 ".toList :=
    spreads_line rfl secret.isSpelled
  refine ⟨["# keys\\".toList, "accessKey=old".toList, "access\\".toList, "  Key : a".toList,
    "secretKey \\u0073 ".toList], Text.lined_iff.2 (by decide), ?_⟩
  refine .ignored (isIgnored_iff.2 rfl) (.entry (mt isIgnored_iff.1 ?_) first replaced
    (.entry (mt isIgnored_iff.1 ?_) second access
      (.entry (mt isIgnored_iff.1 ?_) third secret .nil)))
  all_goals decide

end

theorem keyPair_of_written_handwritten :
    Defines handwrittenEntries ⟨.ofString "a", .ofString "s"⟩ ∧
      readKeyPair handwrittenFile "c" = .ok ⟨.ofString "a", .ofString "s"⟩ ∧
      (build ⟨handwrittenFile, none, none, []⟩ (.credentialsFile "c")).startedAt .empty =
        (.ok 0, ⟨[.building .credentialsFile],
          [.session 0 (.keyPair ⟨.ofString "a", .ofString "s"⟩)]⟩) :=
  have defines : Defines handwrittenEntries ⟨.ofString "a", .ofString "s"⟩ :=
    ⟨⟨[], [], ⟨[(.ofString "accessKey", .ofString "old")], _,
        [(.ofString "secretKey", .ofString "s ")], rfl, rfl, by decide⟩, by decide, by decide⟩,
      ⟨[], .ofString " ", ⟨[(.ofString "accessKey", .ofString "old"),
        (.ofString "accessKey", .ofString "a")], _, [], rfl, rfl, by decide⟩, by decide,
        by decide⟩⟩
  ⟨defines, keyPair_of_written (w := ⟨handwrittenFile, none, none, []⟩) (by decide) rfl
    isWritten_handwritten defines (by unfold KeyPair.IsTrimmed; decide) .empty⟩

end AwsCredentials.Session
