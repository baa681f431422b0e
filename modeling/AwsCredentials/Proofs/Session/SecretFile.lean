import AwsCredentials.Proofs.Session.Execution
import AwsCredentials.Proofs.Text.Blank
import AwsCredentials.Proofs.Text.Utf8

/-!
# Files with secrets

Key pairs and tokens are read from files, and a bad file is meant to show in one way only: a
provider is at fault, and nothing was seen from outside. What a good file yields has no white space
around it and is not empty.

That a file is bad can have many reasons. For key pairs all of them are accounted for but two: the
path holds a NUL, or the bytes are no text (`FileTree.IsUnreadable`). For tokens there is a third.
Nothing is asked of the text of a file, so a blank one makes an empty token, which is sent.

**The main statement**, `guarded_iff`, is that these are the only exceptions, and that each of them
is one.
-/

namespace AwsCredentials

open Text (CodeText)

/-! ### What a file holds -/

namespace Files.FileTree

/-- What is at a path cannot be read, for a reason that is no failure of the system: the path holds
a NUL, or there is a file and no text is encoded as its bytes. -/
def IsUnreadable (t : FileTree) (path : String) : Prop :=
  '\x00' ∈ path.toList ∨ ∃ bytes, t.content (.ofString path) = .ok bytes ∧
    ∀ s, Text.Utf8.encode s ≠ bytes

/-- There is a text at a path, but it is blank. -/
def IsBlank (t : FileTree) (path : String) : Prop :=
  ∃ s, t.readText path = .ok s ∧ Text.strip s = []

/-- The token in the file at a path, if there is one. A blank file holds none, whatever a build
makes of it. -/
def token? (t : FileTree) (path : String) : Option String :=
  match t.readText path with
  | .ok s => Value.nonBlank (String.ofList s)
  | .error _ => none

variable {t : FileTree} {path : String}

/-- What cannot be read fails to be read, and not by a failure of the system, so the fault is no
provider's. -/
theorem IsUnreadable.exists_fault (h : t.IsUnreadable path) :
    ∃ e, t.readText path = .error e ∧ ∀ f, e ≠ .notOpened f := by
  unfold readText
  split
  · exact ⟨_, rfl, by simp⟩
  · next no_null =>
    obtain null | ⟨bytes, content, no_text⟩ := h
    · exact absurd (List.elem_eq_true_of_mem null) no_null
    · obtain ⟨e, undecodable⟩ := Text.Utf8.exists_decode_eq_error_iff.2 no_text
      rw [content]
      dsimp only
      rw [undecodable]
      exact ⟨_, rfl, by simp⟩

/-- What can be read fails to be read by a failure of the system only, which is what providers are
ready for. -/
theorem exists_notOpened {e : ReadFault} (h : ¬t.IsUnreadable path)
    (he : t.readText path = .error e) : ∃ f, e = .notOpened f := by
  unfold readText at he
  split at he
  · next null => exact absurd (.inl (List.mem_of_elem_eq_true null)) h
  · split at he
    · exact ⟨_, (Except.error.inj he).symm⟩
    · next bytes content =>
      split at he
      · next e' undecodable =>
        have no_text := Text.Utf8.exists_decode_eq_error_iff.1 ⟨e', undecodable⟩
        exact absurd (.inr ⟨bytes, content, no_text⟩) h
      · simp at he

/-- Without a text there is no token, whatever the reason. -/
theorem token?_of_error {e : ReadFault} (h : t.readText path = .error e) :
    t.token? path = none := by
  rw [token?, h]

/-- A blank text makes no token. -/
theorem IsBlank.token?_eq_none (h : t.IsBlank path) : t.token? path = none := by
  obtain ⟨s, read, blank⟩ := h
  rw [token?, read]
  simp [Value.nonBlank, blank]

/-- A text that is not blank makes a token: the text without the white space around it. -/
theorem token?_of_ok {s : List Char} (h : t.readText path = .ok s) (given : ¬t.IsBlank path) :
    t.token? path = some (String.ofList (Text.strip s)) := by
  have something : Text.strip s ≠ [] := fun blank ↦ given ⟨s, h, blank⟩
  rw [token?, h]
  simp [Value.nonBlank, something, Text.stripped]

/-- A token is trimmed: it is not empty and has no white space around it. -/
theorem isTrimmed_of_token? {token : String} (h : t.token? path = some token) :
    Text.IsTrimmed token := by
  unfold token? at h
  split at h
  · exact Value.isTrimmed_of_nonBlank h
  · simp at h

end Files.FileTree

namespace Session

/-! ### Key pairs -/

/-- Both halves of a key pair are given and have no white space around them, as the service needs
them. -/
def KeyPair.IsTrimmed (pair : KeyPair) : Prop :=
  ∀ half ∈ [pair.accessKey, pair.secretKey],
    half ≠ [] ∧ Text.trim Text.CodePoint.isBlank half = half

/-- The file at a path yields a trimmed key pair, or a provider is at fault. -/
def KeyFileGuarded (t : Files.FileTree) (path : String) : Prop :=
  match readKeyPair t path with
  | .ok pair => pair.IsTrimmed
  | .error e => ∃ p, Fault.ofKeyFile path e = .provider p

variable {t : Files.FileTree} {path : String}

/-- The key pair that a dictionary holds is trimmed, or one of its halves is missing, be it blank or
not there. -/
theorem keyPairOf_cases (d : Dictionary CodeText CodeText) :
    (∃ pair, keyPairOf d = .ok pair ∧ pair.IsTrimmed) ∨ keyPairOf d = .error .incomplete := by
  rw [keyPairOf]
  dsimp only
  split
  · exact .inr rfl
  · next given =>
    rw [not_or] at given
    refine .inl ⟨_, rfl, ?_⟩
    simp only [KeyPair.IsTrimmed, List.forall_mem_cons]
    exact ⟨⟨given.1, Text.trim_trim _ _⟩, ⟨given.2, Text.trim_trim _ _⟩, by simp⟩

/-- A text holds a trimmed key pair, or a provider is at fault: once a file is read, nothing else
can happen. -/
theorem keyPairOfText_guarded (s : List Char) (path : String) :
    match keyPairOfText s with
    | .ok pair => pair.IsTrimmed
    | .error e => ∃ p, Fault.ofKeyFile path e = .provider p := by
  unfold keyPairOfText
  cases Properties.parse s with
  | error e => exact ⟨_, rfl⟩
  | ok d =>
    dsimp only
    obtain ⟨pair, held, trimmed⟩ | incomplete := keyPairOf_cases d
    · rw [held]
      exact trimmed
    · rw [incomplete]
      exact ⟨_, rfl⟩

/-- **A key file is guarded unless it cannot be read.** Only failures of the system are caught where
the file is read. -/
theorem keyFileGuarded_iff : KeyFileGuarded t path ↔ ¬t.IsUnreadable path := by
  unfold KeyFileGuarded readKeyPair
  constructor
  · intro guarded unreadable
    obtain ⟨e, he, other⟩ := unreadable.exists_fault
    rw [he] at guarded
    obtain ⟨p, hp⟩ := guarded
    cases e with
    | embeddedNull | undecodable => simp [Fault.ofKeyFile] at hp
    | notOpened f => exact other f rfl
  · intro readable
    cases h : t.readText path with
    | ok s => exact keyPairOfText_guarded s path
    | error e =>
      obtain ⟨f, rfl⟩ := Files.FileTree.exists_notOpened readable h
      exact ⟨_, rfl⟩

/-! ### Tokens -/

variable {w : World} {role : RoleRequest}

/-- For a role by a token from a file, no call is made without the trimmed token of the file, and if
the file has none, a provider is at fault before anything is seen. -/
structure TokenGuarded (w : World) (role : RoleRequest) (path : String) : Prop where
  /-- A call takes the token of the file along. -/
  sent : ∀ c, .call c ∈ ((build w (.webIdentity role path)).startedAt .empty).2.events →
    ∃ token, w.files.token? path = some token ∧ Text.IsTrimmed token ∧
      c = .assumeRoleWithWebIdentity role.arn role.sessionName token role.maxSeconds
  /-- Without a token a provider is at fault, and nothing is seen. -/
  refused : w.files.token? path = none →
    (∃ p, ((build w (.webIdentity role path)).startedAt .empty).1 = .error (.provider p)) ∧
      ((build w (.webIdentity role path)).startedAt .empty).2.events = []

/-- If the file with the token cannot be read, the fault is of the file and nothing is seen. -/
theorem build_webIdentity_of_error (role : RoleRequest) {e : Files.ReadFault}
    (h : w.files.readText path = .error e) :
    ((build w (.webIdentity role path)).startedAt .empty).1 = .error (.ofTokenFile path e) ∧
      ((build w (.webIdentity role path)).startedAt .empty).2.events = [] := by
  have no_token : w.token path = .error (.ofTokenFile path e) := by rw [World.token, h]
  rw [startedAt_build_empty, plan, no_token]
  exact ⟨rfl, rfl⟩

/-- If the file with the token can be read, a session is seen, and only its text is sent, without
the white space around it. -/
theorem build_webIdentity_of_ok (role : RoleRequest) {s : List Char}
    (h : w.files.readText path = .ok s) :
    .session 0 .none ∈ ((build w (.webIdentity role path)).startedAt .empty).2.events ∧
      ∀ c, .call c ∈ ((build w (.webIdentity role path)).startedAt .empty).2.events →
        c = .assumeRoleWithWebIdentity role.arn role.sessionName (String.ofList (Text.strip s))
          role.maxSeconds := by
  have token : w.token path = .ok (String.ofList (Text.strip s)) := by rw [World.token, h]
  rw [startedAt_build_empty, plan, token]
  obtain ⟨url, arguments, shown⟩ := exists_shows_roleSteps (w := w) role true
    (.assumeRoleWithWebIdentity role.arn role.sessionName (String.ofList (Text.strip s))
      role.maxSeconds) 0 0
  refine ⟨List.mem_cons_self, fun c called ↦ ?_⟩
  have seen := ((shows_done (.session 0 .none)).append shown).isPrefix.subset called
  simpa using seen

/-- **A token is guarded unless its file cannot be read, or is blank.** A blank file yields the
empty token, and nothing looks at it before it is sent. -/
theorem tokenGuarded_iff :
    TokenGuarded w role path ↔ ¬w.files.IsUnreadable path ∧ ¬w.files.IsBlank path := by
  constructor
  · refine fun guarded ↦ ⟨fun unreadable ↦ ?_, fun blank ↦ ?_⟩
    · obtain ⟨e, he, other⟩ := unreadable.exists_fault
      obtain ⟨p, hp⟩ := (guarded.refused (Files.FileTree.token?_of_error he)).1
      rw [(build_webIdentity_of_error role he).1] at hp
      cases e with
      | embeddedNull | undecodable => simp [Fault.ofTokenFile] at hp
      | notOpened f => exact other f rfl
    · -- The session that a token is sent on is opened for a blank one as well.
      have unseen := (guarded.refused blank.token?_eq_none).2
      obtain ⟨s, read, -⟩ := blank
      have seen := (build_webIdentity_of_ok role read).1
      simp [unseen] at seen
  · rintro ⟨readable, given⟩
    cases h : w.files.readText path with
    | error e =>
      obtain ⟨failed, unseen⟩ := build_webIdentity_of_error role h
      obtain ⟨f, rfl⟩ := Files.FileTree.exists_notOpened readable h
      exact ⟨fun c called ↦ by simp [unseen] at called, fun _ ↦ ⟨⟨_, failed⟩, unseen⟩⟩
    | ok s =>
      have token := Files.FileTree.token?_of_ok h given
      refine ⟨fun c called ↦ ?_, fun none ↦ by simp [token] at none⟩
      have sent := (build_webIdentity_of_ok role h).2 c called
      exact ⟨_, token, Files.FileTree.isTrimmed_of_token? token, sent⟩

/-- **Files with secrets are guarded, and a file that is not is known**: it cannot be read, or it is
the file of a token and blank. -/
theorem guarded_iff (w : World) (role : RoleRequest) (path : String) :
    (KeyFileGuarded w.files path ↔ ¬w.files.IsUnreadable path) ∧
      (TokenGuarded w role path ↔ ¬w.files.IsUnreadable path ∧ ¬w.files.IsBlank path) :=
  ⟨keyFileGuarded_iff, tokenGuarded_iff⟩

/-- A file of one byte that begins no text in UTF-8. -/
def unreadableFile : Files.FileTree :=
  Files.FileTree.empty.put [['c']] (.file [0xFF])

/-- A file of a space and a line end. -/
def blankFile : Files.FileTree :=
  Files.FileTree.empty.put [['c']] (.file [0x20, 0x0A])

/-- A byte that begins no text shows in a key file as something else than a provider at fault, and a
blank file yields a token that is sent. -/
theorem not_guarded_bad :
    ¬KeyFileGuarded unreadableFile "c" ∧
      ¬TokenGuarded ⟨blankFile, none, none, []⟩ { arn := "arn", sessionName := "name" } "c" := by
  rw [keyFileGuarded_iff, tokenGuarded_iff, not_not]
  constructor
  · exact .inr ⟨[0xFF], rfl, Text.Utf8.exists_decode_eq_error_iff.1 ⟨_, rfl⟩⟩
  · exact fun guarded ↦ guarded.2 ⟨[' ', '\n'], rfl, rfl⟩

end Session

end AwsCredentials
