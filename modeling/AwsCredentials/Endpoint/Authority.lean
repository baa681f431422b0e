import AwsCredentials.Endpoint.Address
import AwsCredentials.Text.Quoted

/-!
# Authorities

The authority of a URL is what stands between the two slashes after the scheme and the next slash,
question mark or number sign. Its host is what follows the last at sign, without the port; a host
between brackets has to be an address of version 6 or of a version to come.

Characters whose compatibility form (NFKC) holds a character that delimits parts of a URL are not
accepted in an authority, because a reader that normalises the URL would see another host. Since no
delimiter is made by composing other characters, it is enough to look at each character alone.
-/

namespace AwsCredentials.Endpoint

open Text (before after? afterLast)

/-- Why an authority is not accepted. The brackets and the host between them are looked at before
the other characters. -/
inductive AuthorityFault
  /-- A bracket without its partner, or something beside the brackets. -/
  | brackets
  /-- A host between brackets that begins like an address of a version to come and is none. -/
  | futureVersion
  /-- A host between brackets that is no address. -/
  | notAnAddress (host : List Char)
  /-- An address of version 4 between brackets. -/
  | version4
  /-- A character whose compatibility form holds a delimiter. -/
  | compatibility (authority : List Char)
deriving DecidableEq

namespace AuthorityFault

/-- The wording of a fault. A host is quoted, since it may hold any character, while an authority is
put in as it is. -/
def message : AuthorityFault → String
  | brackets => "Invalid IPv6 URL"
  | futureVersion => "IPvFuture address is invalid"
  | notAnAddress host =>
    Text.quote (String.ofList host) ++ " does not appear to be an IPv4 or IPv6 address"
  | version4 => "An IPv4 address cannot be in brackets"
  | compatibility authority =>
    "netloc '" ++ String.ofList authority
      ++ "' contains invalid characters under NFKC normalization"

end AuthorityFault

/-- The characters outside ASCII whose compatibility form holds one of the delimiters slash,
question mark, number sign, at sign and colon. -/
def delimiterCompatible : List Char :=
  ['\u2047', '\u2048', '\u2049', '\u2100', '\u2101', '\u2105', '\u2106', '\u2A74', '\uFE13',
    '\uFE16', '\uFE55', '\uFE56', '\uFE5F', '\uFE6B', '\uFF03', '\uFF0F', '\uFF1A', '\uFF1F',
    '\uFF20']

/-- The host of an authority: what follows the last at sign, between brackets or up to the port. -/
def hostOf (authority : List Char) : List Char :=
  let s := afterLast '@' authority
  match after? '[' s with
  | some r => before ']' r
  | none => before ':' s

/-- What is wrong with a host for which brackets were given. Only one that begins with a `v` is
taken for an address of a version to come. -/
def bracketedHostFault (host : List Char) : Option AuthorityFault :=
  if host.head? = some 'v' then
    if isFutureVersion host then none else some .futureVersion
  else if isVersion4 host then some .version4
  else if isVersion6 host then none
  else some (.notAnAddress host)

/-- Something stands before the opening bracket, or after the closing one where only a port may. -/
def isCrowded (s : List Char) : Bool :=
  match after? '[' s with
  | none => false
  | some r =>
    before '[' s ≠ [] ||
      match after? ']' r with
      | none => false
      | some [] => false
      | some (c :: _) => c ≠ ':'

/-- What is wrong with the brackets of an authority, if anything. Without brackets any host will do,
so nothing is asked of it here. -/
def bracketFault (authority : List Char) : Option AuthorityFault :=
  if authority.contains '[' != authority.contains ']' then some .brackets
  else if !authority.contains '[' then none
  else if isCrowded (afterLast '@' authority) then some .brackets
  else bracketedHostFault (hostOf authority)

/-- What is wrong with an authority: first its brackets are looked at, and then each of its
characters. -/
def authorityFault (authority : List Char) : Option AuthorityFault :=
  match bracketFault authority with
  | some e => some e
  | none =>
    if authority.any delimiterCompatible.contains then some (.compatibility authority) else none

end AwsCredentials.Endpoint
