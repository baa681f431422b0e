/-!
# The fields of a configuration

A configuration is made of fifteen optional texts, one for each `Field`. A field has a *name*, by
which a parameter set and the environment know it, and a *key*, by which configuration files and
messages know it. Names are written with underscores and keys with hyphens; the two fields that hold
the path of a file say so in their key only.

Both `Field.name` and `Field.key` are injective (`eq_of_name_eq`, `eq_of_key_eq`), and no name is a
key.
-/

namespace AwsCredentials

/-- A field of a configuration. The order of the constructors is that in which fields are declared,
and in which lists of them are kept. -/
inductive Field
  /-- Flag: use the credentials that the surroundings offer. -/
  | useDefault
  /-- Flag: sign nothing. -/
  | useAnonymous
  /-- The public half of a key pair. -/
  | accessKey
  /-- The secret half of a key pair. -/
  | secretKey
  /-- The path of a file that holds a key pair. -/
  | credentialsFile
  /-- The name of a profile. -/
  | profileName
  /-- The role to assume. -/
  | roleArn
  /-- The name of the session that the role is assumed for. -/
  | roleSessionName
  /-- The external id that the role asks for. -/
  | externalId
  /-- The endpoint of the token service. -/
  | stsEndpoint
  /-- The region of the token service. -/
  | stsRegion
  /-- How long the role is assumed for, in seconds. -/
  | maxSeconds
  /-- The host of the proxy to the token service. -/
  | proxyHost
  /-- The port of the proxy to the token service. -/
  | proxyPort
  /-- The path of a file that holds a web identity token. -/
  | tokenFile
deriving DecidableEq

namespace Field

/-- The fields in the order in which they are declared, checked and reported. -/
def all : List Field :=
  [useDefault, useAnonymous, accessKey, secretKey, credentialsFile, profileName, roleArn,
    roleSessionName, externalId, stsEndpoint, stsRegion, maxSeconds, proxyHost, proxyPort,
    tokenFile]

/-- Every field is listed, so that what is done for the fields of the list is done for all of
them. -/
theorem mem_all (f : Field) : f ∈ all := by
  cases f <;> decide

/-! ### Names and keys -/

/-- The name of a field, by which parameter sets, mappings and the environment know it. -/
def name : Field → String
  | useDefault => "use_default_credentials"
  | useAnonymous => "use_anonymous_credentials"
  | accessKey => "access_key"
  | secretKey => "secret_key"
  | credentialsFile => "credentials_file"
  | profileName => "profile_name"
  | roleArn => "assume_role_arn"
  | roleSessionName => "assume_role_session_name"
  | externalId => "assume_role_external_id"
  | stsEndpoint => "assume_role_sts_endpoint"
  | stsRegion => "assume_role_sts_region"
  | maxSeconds => "assume_role_max_session_seconds"
  | proxyHost => "assume_role_proxy_host"
  | proxyPort => "assume_role_proxy_port"
  | tokenFile => "web_identity_token_file"

/-- The key of a field, by which configuration files and messages know it. -/
def key : Field → String
  | useDefault => "use-default-credentials"
  | useAnonymous => "use-anonymous-credentials"
  | accessKey => "access-key"
  | secretKey => "secret-key"
  | credentialsFile => "credentials-file-path"
  | profileName => "profile-name"
  | roleArn => "assume-role-arn"
  | roleSessionName => "assume-role-session-name"
  | externalId => "assume-role-external-id"
  | stsEndpoint => "assume-role-sts-endpoint"
  | stsRegion => "assume-role-sts-region"
  | maxSeconds => "assume-role-max-session-seconds"
  | proxyHost => "assume-role-proxy-host"
  | proxyPort => "assume-role-proxy-port"
  | tokenFile => "web-identity-token-file-path"

/-- The field of a name, which has to be written exactly. -/
def ofName? (s : String) : Option Field :=
  all.find? (·.name = s)

/-- The field of a key, which has to be written exactly. -/
def ofKey? (s : String) : Option Field :=
  all.find? (·.key = s)

/-- A name leads back to its field, so a look-up by name misses no field and mistakes none. -/
@[simp]
theorem ofName?_name (f : Field) : ofName? f.name = some f := by
  cases f <;> decide

/-- A key leads back to its field, so a look-up by key misses no field and mistakes none. -/
@[simp]
theorem ofKey?_key (f : Field) : ofKey? f.key = some f := by
  cases f <;> decide

/-- No two fields have one name: a field can be told from what its name leads back to. -/
theorem eq_of_name_eq {f g : Field} (h : f.name = g.name) : f = g :=
  Option.some.inj (by rw [← ofName?_name f, h, ofName?_name])

/-- No two fields have one key: a field can be told from what its key leads back to. -/
theorem eq_of_key_eq {f g : Field} (h : f.key = g.key) : f = g :=
  Option.some.inj (by rw [← ofKey?_key f, h, ofKey?_key])

/-- No name is a key, so names are left alone where keys are replaced by names. -/
@[simp]
theorem ofKey?_name (f : Field) : ofKey? f.name = none := by
  cases f <;> decide

/-! ### Groups of fields -/

/-- The fields that are read as flags. Each of them indicates a base of its own when it is true. -/
def flags : List Field :=
  [useDefault, useAnonymous]

/-- The fields that are read as whole numbers. Both belong to the request for a role. -/
def wholeNumbers : List Field :=
  [maxSeconds, proxyPort]

/-- The fields that are given together or not at all, in the order in which a half that is missing
is reported. -/
def pairs : List (Field × Field) :=
  [(accessKey, secretKey), (roleArn, roleSessionName), (proxyHost, proxyPort)]

/-- The fields of the proxy, which mean something only when a role is assumed. -/
def proxy : List Field :=
  [proxyHost, proxyPort]

/-- The fields, other than those of the proxy, that mean something only when a role is assumed. -/
def roleDependents : List Field :=
  [externalId, stsEndpoint, stsRegion, maxSeconds, tokenFile]

end Field

end AwsCredentials
