import AwsCredentials.Endpoint.Authority
import AwsCredentials.Text.Blank
import AwsCredentials.Text.WholeNumber

/-!
# Endpoints as URLs

An endpoint is given as the name of a host or as a URL. `url` makes it a URL without trailing
slashes; a text that holds no `://` gets the default scheme. The endpoint has to name a host.

What is looked at to find the host is not the text itself but the text without leading control
characters and blanks and without tabs and line ends (`sanitised`); what is returned is the text.
-/

namespace AwsCredentials.Endpoint

/-- The scheme of an endpoint that names none, that is, of the bare name of a host. -/
def defaultScheme : String := "https"

/-- Why an endpoint is not accepted. Either fault is found before any request is made. -/
inductive Fault
  /-- Something is wrong with the authority. -/
  | authority (e : AuthorityFault)
  /-- The endpoint names no host. -/
  | noHost (endpoint : String)
deriving DecidableEq

namespace Fault

/-- The wording of a fault. The endpoint is quoted as it was given, also where a scheme was put
before it. -/
def message : Fault → String
  | authority e => e.message
  | noHost endpoint => "STS endpoint must name a host: " ++ Text.quote endpoint

end Fault

/-- A text holds the mark between a scheme and an authority, `://`, anywhere and not only behind a
scheme. -/
def hasSchemeMark : List Char → Bool
  | [] => false
  | c :: r => [':', '/', '/'].isPrefixOf (c :: r) || hasSchemeMark r

/-- The endpoint with a scheme: the text itself if it holds the mark, or else with the default
scheme before it. -/
def candidate (s : List Char) : List Char :=
  if hasSchemeMark s then s else defaultScheme.toList ++ ':' :: '/' :: '/' :: s

/-- A control character or a space. Such characters are passed over at the beginning of a text
only. -/
def isControlOrSpace (c : Char) : Bool :=
  c.toNat ≤ 0x20

/-- A character that counts for nothing in a URL, wherever it stands: a tab or one of the two ASCII
line ends. -/
def isRemoved (c : Char) : Bool :=
  c = '\t' || c = '\r' || c = '\n'

/-- The text that is searched for a scheme and an authority. It is a copy for this purpose only, and
never part of an answer. -/
def sanitised (s : List Char) : List Char :=
  (s.dropWhile isControlOrSpace).filter (!isRemoved ·)

/-- A character of a scheme: an ASCII letter or digit, or one of three marks. -/
def isSchemeChar (c : Char) : Bool :=
  c.isAlphanum || c = '+' || c = '-' || c = '.'

/-- A scheme: an ASCII letter and more characters of a scheme. So a digit or a mark cannot begin
one. -/
def isScheme (s : List Char) : Bool :=
  s.head?.any Char.isAlpha && s.all isSchemeChar

/-- The scheme of a sanitised text, without a colon, and what follows the colon. -/
def splitScheme (s : List Char) : Option (List Char) × List Char :=
  match Text.after? ':' s with
  | none => (none, s)
  | some r => if isScheme (Text.before ':' s) then (some (Text.before ':' s), r) else (none, s)

/-- A character that ends an authority: where the path, the query or the fragment of a URL
begins. -/
def endsAuthority (c : Char) : Bool :=
  c = '/' || c = '?' || c = '#'

/-- The authority at the head of what follows a scheme; none counts as empty. -/
def authorityOf : List Char → List Char
  | '/' :: '/' :: r => r.takeWhile (!endsAuthority ·)
  | _ => []

/-- The scheme and the authority of a text, both read off its sanitised copy. -/
def dissect (s : List Char) : Option (List Char) × List Char :=
  let cut := splitScheme (sanitised s)
  (cut.1, authorityOf cut.2)

/-- What keeps a text with a scheme from being a URL that names a host. -/
def fault? (endpoint : String) (s : List Char) : Option Fault :=
  let parts := dissect s
  match authorityFault parts.2 with
  | some e => some (.authority e)
  | none => if parts.1.isNone || hostOf parts.2 = [] then some (.noHost endpoint) else none

/-- The URL of an endpoint, or what is wrong with it. Slashes at the end are removed from the text
itself, not from the copy that was searched. -/
def url (endpoint : String) : Except Fault String :=
  let s := candidate endpoint.toList
  match fault? endpoint s with
  | some e => .error e
  | none => .ok (String.ofList (Text.dropTrailing (· = '/') s))

/-- The URL of a proxy. The scheme is that of the connection to the proxy; what passes through it
may still be encrypted. -/
def proxyUrl (host : String) (port : Int) : String :=
  "http://" ++ host ++ ":" ++ Text.decimal port

end AwsCredentials.Endpoint
