import AwsCredentials.Proofs.Text.LineEnd
import AwsCredentials.Proofs.Text.Utf8
import AwsCredentials.Session.KeyFile

/-!
# Line ends do not matter

A properties text can be written with line feeds, with carriage returns, or with both, in any mix.
**The main statement**, `lineEnds_immaterial`, is that the choice makes no difference to what the
text stands for: texts of the same lines are parsed alike, to the same dictionary in the same order
or to the same fault. In particular it does no harm that reading a file unifies the line ends. What
is parsed is another text than the one the bytes of the file stand for, but it is parsed as that
text would be.

The parser looks at the lines of a text only, so all of this rests on the fact that the lines do not
show their ends.
-/

namespace AwsCredentials

open Text (Lined lined_iff lined_naturalLines naturalLines unifyLineEnds)

namespace Properties

/-- Texts are made of the same lines, so that they differ in the ends of their lines at most. -/
def DifferInLineEnds (s t : List Char) : Prop :=
  ∃ ls, Lined s ls ∧ Lined t ls

variable {s t : List Char}

/-- **Texts of the same lines are parsed alike**: the parser cuts a text into natural lines before
it looks at anything else. -/
theorem DifferInLineEnds.parse_eq (h : DifferInLineEnds s t) : parse s = parse t := by
  obtain ⟨ls, hs, ht⟩ := h
  rw [parse, parse, readEntries, readEntries, logicalLines, logicalLines, hs.naturalLines_eq,
    ht.naturalLines_eq]

/-- To unify the line ends of a text leaves its lines as they are, so reading a file and parsing its
text in one go would do the same. -/
theorem differInLineEnds_unifyLineEnds (s : List Char) : DifferInLineEnds s (unifyLineEnds s) :=
  ⟨naturalLines s, lined_naturalLines s, lined_iff.2 (Text.naturalLines_unifyLineEnds s)⟩

end Properties

namespace Session

open Properties (DifferInLineEnds parse)

/-- The key pair of a text does not depend on the ends of its lines, and neither does the fault
where it has none. -/
theorem keyPairOfText_eq_of_differInLineEnds {s t : List Char} (h : DifferInLineEnds s t) :
    keyPairOfText s = keyPairOfText t := by
  rw [keyPairOfText, keyPairOfText, h.parse_eq]

/-- **The ends of lines make no difference.** Unifying them changes nothing else, and the text is
parsed as before, as is any other text of the same lines. What is parsed of a file is therefore
parsed as the text that its bytes stand for, and so the key pair in the file is that of this
text. -/
theorem lineEnds_immaterial :
    (∀ s, DifferInLineEnds s (unifyLineEnds s) ∧ '\r' ∉ unifyLineEnds s ∧
      parse (unifyLineEnds s) = parse s) ∧
    (∀ s t, DifferInLineEnds s t → parse s = parse t) ∧
    ∀ (f : Files.FileTree) (path : String) (bytes : List UInt8) (s : List Char),
      '\x00' ∉ path.toList → f.content (.ofString path) = .ok bytes →
      Text.Utf8.decode bytes = .ok s →
      (∃ u, f.readText path = .ok u ∧ parse u = parse s) ∧
        readKeyPair f path = keyPairOfText s := by
  refine ⟨fun s ↦ ?_, fun s t h ↦ h.parse_eq, fun f path bytes s no_null content decoded ↦ ?_⟩
  · have same_lines := Properties.differInLineEnds_unifyLineEnds s
    exact ⟨same_lines, Text.return_not_mem_unifyLineEnds s, same_lines.parse_eq.symm⟩
  · have same_lines := Properties.differInLineEnds_unifyLineEnds s
    have read := Files.FileTree.readText_eq_ok no_null content decoded
    refine ⟨⟨_, read, same_lines.parse_eq.symm⟩, ?_⟩
    rw [readKeyPair, read]
    exact (keyPairOfText_eq_of_differInLineEnds same_lines).symm

/-- A key pair on lines of three kinds of ends, in one of which a value goes on. -/
def mixedText : List Char :=
  "accessKey=a\\\r\n  b\rsecretKey=s\n".toList

/-- The same lines with line feeds. -/
def feedText : List Char :=
  "accessKey=a\\\n  b\nsecretKey=s\n".toList

/-- A directory with the text in a file, in its UTF-8 form. -/
def mixedFile : Files.FileTree :=
  Files.FileTree.empty.put [['c']] (.file (Text.Utf8.encode mixedText))

theorem lineEnds_immaterial_mixed :
    DifferInLineEnds mixedText feedText ∧ parse mixedText = parse feedText ∧
      mixedFile.content (.ofString "c") = .ok (Text.Utf8.encode mixedText) ∧
      (∃ u, mixedFile.readText "c" = .ok u ∧ parse u = parse mixedText) ∧
      readKeyPair mixedFile "c" = keyPairOfText mixedText :=
  have same_lines : DifferInLineEnds mixedText feedText :=
    ⟨_, lined_naturalLines mixedText, lined_iff.2 (by decide)⟩
  have content : mixedFile.content (.ofString "c") = .ok (Text.Utf8.encode mixedText) := rfl
  have decoded := Text.Utf8.decode_eq_ok_iff.2 (Eq.refl (Text.Utf8.encode mixedText))
  ⟨same_lines, lineEnds_immaterial.2.1 _ _ same_lines, content,
    lineEnds_immaterial.2.2 _ _ _ _ (by decide) content decoded⟩

end Session

end AwsCredentials
