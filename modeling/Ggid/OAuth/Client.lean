import Ggid.Lib.Run
import Ggid.OAuth.TokenFamily

/-!
# OAuth service — client registration

`CreateClient`, `UpdateClientMetadata` and `RotateClientSecret` over the PostgreSQL
client repository. The service changes a struct; the repository writes some of its
fields into columns. Next to the table a `Registry` keeps what was last written for
every client, as the service understands it.

`UPDATE oauth_clients` has no assignment for the grant types, the response types,
the authentication method and the secret hash.

* `client_reads_back`    — every client reads back as it was last written, in every
  run that leaves those columns alone;
* `old_secret_survives`  — a rotation hands out a secret that does not work, and the
  old one still does.
-/

namespace Ggid.OAuth

open Ggid.Go Ggid.Policy Ggid.Lib

-- ---------------------------------------------------------------------------
-- `pgClientRepo`
-- ---------------------------------------------------------------------------

/-- A row of `oauth_clients`. -/
structure ClientRow where
  id                      : UUID
  tenantID                : UUID
  clientID                : String
  clientSecretHash        : String
  name                    : String
  type                    : ClientType
  grantTypes              : List String
  responseTypes           : List String
  redirectURIs            : List String
  scopes                  : List String
  tokenEndpointAuthMethod : String
  metadata                : GoMap
  enabled                 : Bool
  createdAt               : Time
  updatedAt               : Time
  authMethods             : List String

/-- What a `VARCHAR(n)` column stores: a longer text is refused, unless it is longer
by spaces only, which are cut off. -/
def varchar (n : Nat) (s : String) : Option String :=
  if s.length ≤ n then some s
  else if (s.toList.drop n).all (· = ' ') then some (String.ofList (s.toList.take n))
  else none

namespace ClientRepo

/-- The description is kept in the metadata. -/
def descriptionOf (metadata : GoMap) : String :=
  match metadata.lookup "description" with
  | some (.string desc) => desc
  | _ => ""

/-- `scanClient`; `RequirePKCE` has no column. -/
def ofRow (r : ClientRow) : OAuthClient where
  id := r.id
  tenantID := r.tenantID
  clientID := r.clientID
  clientSecretHash := r.clientSecretHash
  name := r.name
  description := descriptionOf r.metadata
  type := r.type
  grantTypes := r.grantTypes
  responseTypes := r.responseTypes
  redirectURIs := r.redirectURIs
  scopes := r.scopes
  tokenEndpointAuthMethod := r.tokenEndpointAuthMethod
  metadata := r.metadata
  requirePKCE := false
  authMethods := r.authMethods
  enabled := r.enabled
  createdAt := r.createdAt
  updatedAt := r.updatedAt

/-- The row `CreateClient` inserts, unless a column refuses its value. Client ids are
generated and have no spaces; nil authentication methods become `{password}`. -/
def toRow (now : Time) (client : OAuthClient) : Option ClientRow :=
  match varchar 100 client.name, varchar 50 client.tokenEndpointAuthMethod with
  | some name, some authMethod =>
    if 64 < client.clientID.length ∨ !(client.isConfidential || client.isPublic) then none
    else some ⟨client.id, client.tenantID, client.clientID, client.clientSecretHash, name,
      client.type, client.grantTypes, client.responseTypes, client.redirectURIs, client.scopes,
      authMethod, client.metadata, client.enabled, now, now,
      if client.authMethods = [] then ["password"] else client.authMethods⟩
  | _, _ => none

/-- `errors.AlreadyExists`. -/
def alreadyExists (resource id : String) : GGIDError :=
  .new .alreadyExists (resource ++ " already exists: " ++ id)

/-- `CreateClient`. -/
def createClient (clients : Table ClientRow.id) (fails : Bool) (now : Time)
    (client : OAuthClient) : Except GGIDError (Table ClientRow.id) :=
  if fails then .error (internal "create client" (.driver "statement failed"))
  else match toRow now client with
    | none => .error (internal "create client" (.driver "constraint violation"))
    | some r =>
      if clients.rows.any fun q => q.clientID = client.clientID then
        .error (alreadyExists "client" client.clientID)
      else match clients.insert? r with
        | none => .error (alreadyExists "client" client.clientID)
        | some clients => .ok clients

def selects (tenantID : UUID) (clientID : String) (r : ClientRow) : Bool :=
  r.clientID = clientID && r.tenantID = tenantID

/-- `GetClientByID`. -/
def getClientByID (clients : Table ClientRow.id) (fails : Bool) (tenantID : UUID)
    (clientID : String) : Except GGIDError OAuthClient :=
  if fails then .error (internal "get client" (.driver "statement failed"))
  else match clients.rows.find? (selects tenantID clientID) with
    | none => .error (.notFound "client" clientID)
    | some r => .ok (ofRow r)

/-- The assignments of `UpdateClient`. -/
def assign (now : Time) (name : String) (client : OAuthClient) (r : ClientRow) : ClientRow :=
  { r with
    name := name, redirectURIs := client.redirectURIs, scopes := client.scopes,
    metadata := client.metadata, enabled := client.enabled, updatedAt := now }

theorem assign_id (now : Time) (name : String) (client : OAuthClient) (r : ClientRow) :
    (assign now name client r).id = r.id := rfl

/-- `UpdateClient`; a nil scope slice is `NULL`, which the column refuses. -/
def updateClient (clients : Table ClientRow.id) (fails : Bool) (now : Time) (tenantID : UUID)
    (clientID : String) (client : OAuthClient) (scopesIsNil : Bool) :
    Except GGIDError (OAuthClient × Table ClientRow.id) :=
  if fails then .error (internal "update client" (.driver "statement failed"))
  else match clients.rows.find? (selects tenantID clientID) with
    | none => .error (.notFound "client" clientID)
    | some r =>
      if scopesIsNil then .error (internal "update client" (.driver "not null violation"))
      else match varchar 100 client.name with
        | none => .error (internal "update client" (.driver "value too long"))
        | some name => .ok (ofRow (assign now name client r),
            clients.update (selects tenantID clientID) (assign now name client)
              (assign_id now name client))

end ClientRepo

-- ---------------------------------------------------------------------------
-- The service
-- ---------------------------------------------------------------------------

structure CreateClientInput where
  tenantID                : UUID
  name                    : String
  description             : String
  type                    : ClientType
  grantTypes              : List String
  responseTypes           : List String
  redirectURIs            : List String
  scopes                  : List String
  tokenEndpointAuthMethod : String
  metadata                : GoMap

/-- Nil fields are not updated. -/
structure ClientMetadataUpdate where
  name                    : Option String
  redirectURIs            : Option (List String)
  grantTypes              : Option (List String)
  responseTypes           : Option (List String)
  scopes                  : Option (List String)
  tokenEndpointAuthMethod : Option String
  enabled                 : Option Bool
  metadata                : Option GoMap

/-- What the outside contributes to a call. -/
structure ClientEnv where
  now         : Time
  readFails   : Bool
  writeFails  : Bool
  hashFails   : Bool
  /-- `uuid.New()`. -/
  newID       : UUID
  /-- `generateClientID()`. -/
  newClientID : String
  /-- `generateClientSecret()`. -/
  newSecret   : String
  /-- The salt `HashPassword` draws. -/
  salt        : String

section Service

-- `hashPassword` is `pkgcrypto.HashPassword`, given the salt it draws
variable (hashPassword : String → String → String) (crypto : Crypto) (std : Stdlib)
  (env : ClientEnv) (clients : Table ClientRow.id)

/-- The client of an input, before its secret is set. A nil or empty list of grant or
response types, or of scopes that are left, is replaced by the default. Map entries in
front shadow those behind. -/
def newClient (input : CreateClientInput) : OAuthClient where
  id := env.newID
  tenantID := input.tenantID
  clientID := env.newClientID
  clientSecretHash := ""
  name := input.name
  description := input.description
  type := input.type
  grantTypes :=
    if input.grantTypes = [] then ["authorization_code", "refresh_token"] else input.grantTypes
  responseTypes := if input.responseTypes = [] then ["code"] else input.responseTypes
  redirectURIs := input.redirectURIs
  scopes :=
    if filterSafeScopes std input.scopes = [] then ["openid", "profile", "email"]
    else filterSafeScopes std input.scopes
  tokenEndpointAuthMethod :=
    if input.tokenEndpointAuthMethod = "" then "client_secret_basic"
    else input.tokenEndpointAuthMethod
  metadata :=
    if input.description = "" then input.metadata
    else ("description", .string input.description) :: input.metadata
  requirePKCE := false
  authMethods := []
  enabled := true
  createdAt := Time.zero
  updatedAt := Time.zero

/-- A confidential client gets the hash of a new secret. -/
def withSecret (client : OAuthClient) : OAuthClient :=
  if client.isConfidential then
    { client with clientSecretHash := hashPassword env.newSecret env.salt }
  else client

/-- `CreateClient`: the client and its secret, which is empty for a public client. -/
def createClient (input : CreateClientInput) :
    Except GGIDError (OAuthClient × String × Table ClientRow.id) :=
  if (newClient std env input).isConfidential && env.hashFails then
    .error (internal "hash client secret" (.driver "random source"))
  else match ClientRepo.createClient clients env.writeFails env.now
      (withSecret hashPassword env (newClient std env input)) with
    | .error err => .error err
    | .ok clients => .ok (withSecret hashPassword env (newClient std env input),
        if (newClient std env input).isConfidential then env.newSecret else "", clients)

/-- The updates that are not nil. -/
def applyUpdates (client : OAuthClient) (updates : ClientMetadataUpdate) : OAuthClient :=
  { client with
    name := updates.name.getD client.name
    redirectURIs := updates.redirectURIs.getD client.redirectURIs
    grantTypes := updates.grantTypes.getD client.grantTypes
    responseTypes := updates.responseTypes.getD client.responseTypes
    scopes := (updates.scopes.map (filterSafeScopes std)).getD client.scopes
    tokenEndpointAuthMethod :=
      updates.tokenEndpointAuthMethod.getD client.tokenEndpointAuthMethod
    enabled := updates.enabled.getD client.enabled
    metadata := updates.metadata.getD [] ++ client.metadata }

/-- `filterSafeScopes` leaves a nil slice. -/
def scopesIsNil (updates : ClientMetadataUpdate) : Bool :=
  updates.scopes.any fun scopes => filterSafeScopes std scopes = []

/-- `UpdateClientMetadata`. -/
def updateClientMetadata (tenantID : UUID) (clientID : String) (updates : ClientMetadataUpdate) :
    Except GGIDError (OAuthClient × Table ClientRow.id) :=
  match ClientRepo.getClientByID clients env.readFails tenantID clientID with
  | .error _ => .error (.new .notFound "client not found")
  | .ok client => ClientRepo.updateClient clients env.writeFails env.now tenantID clientID
      (applyUpdates std client updates) (scopesIsNil std updates)

/-- `RotateClientSecret`. -/
def rotateClientSecret (tenantID : UUID) (clientID oldSecret : String) :
    Except GGIDError (String × Table ClientRow.id) :=
  match ClientRepo.getClientByID clients env.readFails tenantID clientID with
  | .error _ => .error (unauthenticated "client not found")
  | .ok client =>
    if client.isConfidential && !crypto.verifyPassword oldSecret client.clientSecretHash then
      .error (unauthenticated "invalid client credentials — old secret does not match")
    else if env.hashFails then
      .error (internal "hash client secret" (.driver "random source"))
    else
      let client := { client with clientSecretHash := hashPassword env.newSecret env.salt }
      match ClientRepo.updateClient clients env.writeFails env.now tenantID clientID client
          false with
      | .error err => .error err
      | .ok (_, clients) => .ok (env.newSecret, clients)

end Service

-- ---------------------------------------------------------------------------
-- What was written
-- ---------------------------------------------------------------------------

/-- The last value of every updatable field, and the secrets, newest first. -/
structure Written where
  name                    : String
  redirectURIs            : List String
  grantTypes              : List String
  responseTypes           : List String
  scopes                  : List String
  tokenEndpointAuthMethod : String
  enabled                 : Bool
  metadata                : String → Option Any
  secrets                 : List String

def Written.ofClient (client : OAuthClient) (secret : String) : Written where
  name := client.name
  redirectURIs := client.redirectURIs
  grantTypes := client.grantTypes
  responseTypes := client.responseTypes
  scopes := client.scopes
  tokenEndpointAuthMethod := client.tokenEndpointAuthMethod
  enabled := client.enabled
  metadata := fun k => client.metadata.lookup k
  secrets := if client.isConfidential then [secret] else []

def Written.update (std : Stdlib) (w : Written) (updates : ClientMetadataUpdate) : Written :=
  { w with
    name := updates.name.getD w.name
    redirectURIs := updates.redirectURIs.getD w.redirectURIs
    grantTypes := updates.grantTypes.getD w.grantTypes
    responseTypes := updates.responseTypes.getD w.responseTypes
    scopes := (updates.scopes.map (filterSafeScopes std)).getD w.scopes
    tokenEndpointAuthMethod := updates.tokenEndpointAuthMethod.getD w.tokenEndpointAuthMethod
    enabled := updates.enabled.getD w.enabled
    metadata := fun k => ((updates.metadata.getD []).lookup k).or (w.metadata k) }

/-- The client that is read back has the values that were written; the newest secret
verifies against its hash and no earlier one does. -/
structure Returns (crypto : Crypto) (c : OAuthClient) (w : Written) : Prop where
  name                    : c.name = w.name
  redirectURIs            : c.redirectURIs = w.redirectURIs
  grantTypes              : c.grantTypes = w.grantTypes
  responseTypes           : c.responseTypes = w.responseTypes
  scopes                  : c.scopes = w.scopes
  tokenEndpointAuthMethod : c.tokenEndpointAuthMethod = w.tokenEndpointAuthMethod
  enabled                 : c.enabled = w.enabled
  metadata                : ∀ k, c.metadata.lookup k = w.metadata k
  newest                  : ∀ s, w.secrets.head? = some s →
                              crypto.verifyPassword s c.clientSecretHash = true
  earlier                 : ∀ s ∈ w.secrets.tail,
                              crypto.verifyPassword s c.clientSecretHash = false

/-- The table, and what was last written for every client. -/
structure Registry where
  clients : Table ClientRow.id
  written : UUID × String → Option Written

inductive ClientOp where
  | create (env : ClientEnv) (input : CreateClientInput)
  | update (env : ClientEnv) (tenantID : UUID) (clientID : String)
      (updates : ClientMetadataUpdate)
  | rotate (env : ClientEnv) (tenantID : UUID) (clientID oldSecret : String)

section Registry

variable (hashPassword : String → String → String) (crypto : Crypto) (std : Stdlib)

/-- A call; a call that fails writes nothing. -/
def clientStep (reg : Registry) : ClientOp → Registry
  | .create env input =>
    match createClient hashPassword std env reg.clients input with
    | .error _ => reg
    | .ok (client, secret, clients) => ⟨clients, Function.update reg.written
        (client.tenantID, client.clientID) (some (Written.ofClient client secret))⟩
  | .update env tenantID clientID updates =>
    match updateClientMetadata std env reg.clients tenantID clientID updates with
    | .error _ => reg
    | .ok (_, clients) => ⟨clients, Function.update reg.written (tenantID, clientID)
        ((reg.written (tenantID, clientID)).map fun w => w.update std updates)⟩
  | .rotate env tenantID clientID oldSecret =>
    match rotateClientSecret hashPassword crypto env reg.clients tenantID clientID oldSecret with
    | .error _ => reg
    | .ok (secret, clients) => ⟨clients, Function.update reg.written (tenantID, clientID)
        ((reg.written (tenantID, clientID)).map fun w => { w with secrets := secret :: w.secrets })⟩

/-- The column stores the text as it is, or refuses it. -/
def NotCut (n : Nat) (s : String) : Prop := ∀ v, varchar n s = some v → v = s

/-- The update is refused before or by the statement. -/
def UpdateRefused (env : ClientEnv) (updates : ClientMetadataUpdate) : Prop :=
  env.readFails = true ∨ env.writeFails = true ∨ scopesIsNil std updates = true ∨
    ∃ name, updates.name = some name ∧ varchar 100 name = none

/-- The call writes columns that `UPDATE oauth_clients` assigns, or nothing. A rotation
is refused: the client is not found, the old secret does not match, or hashing or the
statement fails. -/
def KeepsColumns (reg : Registry) : ClientOp → Prop
  | .create _ input => NotCut 100 input.name ∧ NotCut 50 input.tokenEndpointAuthMethod
  | .update env tenantID clientID updates => UpdateRefused std env updates ∨
    ((∀ name, updates.name = some name → NotCut 100 name) ∧
      ∀ r ∈ reg.clients, ClientRepo.selects tenantID clientID r = true →
        updates.grantTypes.getD r.grantTypes = r.grantTypes ∧
        updates.responseTypes.getD r.responseTypes = r.responseTypes ∧
        updates.tokenEndpointAuthMethod.getD r.tokenEndpointAuthMethod =
          r.tokenEndpointAuthMethod)
  | .rotate env tenantID clientID oldSecret =>
    env.readFails = true ∨ env.hashFails = true ∨ env.writeFails = true ∨
    ∀ r ∈ reg.clients, ClientRepo.selects tenantID clientID r = true →
      r.type = .confidential ∧ crypto.verifyPassword oldSecret r.clientSecretHash = false

end Registry

-- ---------------------------------------------------------------------------
-- What the statements do
-- ---------------------------------------------------------------------------

theorem varchar_length {n : Nat} {s v : String} (h : varchar n s = some v) : v.length ≤ n := by
  unfold varchar at h
  split at h
  · rename_i hshort
    rw [← Option.some.inj h]
    exact hshort
  · split at h
    · rw [← Option.some.inj h, String.length_ofList, List.length_take]
      omega
    · exact absurd h (by simp)

theorem varchar_of_short {n : Nat} {s : String} (h : s.length ≤ n) : varchar n s = some s :=
  if_pos h

namespace ClientRepo

variable {clients clients' : Table ClientRow.id} {fails : Bool} {now : Time} {tenantID : UUID}
  {clientID : String} {client : OAuthClient}

theorem selects_iff {r : ClientRow} :
    selects tenantID clientID r = true ↔ r.clientID = clientID ∧ r.tenantID = tenantID := by
  simp [selects]

theorem createClient_ok (h : createClient clients fails now client = .ok clients') :
    ∃ r, toRow now client = some r ∧ (∀ q ∈ clients, q.clientID ≠ client.clientID) ∧
      ∀ q, q ∈ clients' ↔ q ∈ clients ∨ q = r := by
  unfold createClient at h
  split at h
  · exact absurd h (by simp)
  split at h
  · exact absurd h (by simp)
  rename_i r hrow
  split at h
  · exact absurd h (by simp)
  rename_i hany
  split at h
  · exact absurd h (by simp)
  rename_i clients'' hinsert
  obtain rfl := Except.ok.inj h
  refine ⟨r, hrow, fun q hq heq => hany ?_, (Table.insert?_eq_some hinsert).2⟩
  rw [List.any_eq_true]
  exact ⟨q, hq, by simpa using heq⟩

theorem getClientByID_ok {c : OAuthClient}
    (h : getClientByID clients fails tenantID clientID = .ok c) :
    fails = false ∧ ∃ r ∈ clients, selects tenantID clientID r = true ∧ c = ofRow r := by
  unfold getClientByID at h
  split at h
  · exact absurd h (by simp)
  rename_i hfails
  split at h
  · exact absurd h (by simp)
  · rename_i r hfind
    exact ⟨by simpa using hfails, r, List.mem_of_find?_eq_some hfind, List.find?_some hfind,
      (Except.ok.inj h).symm⟩

theorem updateClient_ok {isNil : Bool} {c : OAuthClient}
    (h : updateClient clients fails now tenantID clientID client isNil = .ok (c, clients')) :
    fails = false ∧ isNil = false ∧ ∃ name, varchar 100 client.name = some name ∧
      clients' = clients.update (selects tenantID clientID) (assign now name client)
        (assign_id now name client) := by
  unfold updateClient at h
  split at h
  · exact absurd h (by simp)
  rename_i hfails
  split at h
  · exact absurd h (by simp)
  split at h
  · exact absurd h (by simp)
  rename_i hnil
  split at h
  · exact absurd h (by simp)
  · rename_i name hname
    simp only [Except.ok.injEq, Prod.mk.injEq] at h
    exact ⟨by simpa using hfails, by simpa using hnil, name, hname, h.2.symm⟩

end ClientRepo

-- ---------------------------------------------------------------------------
-- The invariant
-- ---------------------------------------------------------------------------

/-- Client ids are unique, names fit, and every client that was written is stored as
it was written. -/
structure RegistrySound (crypto : Crypto) (reg : Registry) : Prop where
  unique  : ∀ r ∈ reg.clients, ∀ r' ∈ reg.clients, r.clientID = r'.clientID → r = r'
  short   : ∀ r ∈ reg.clients, r.name.length ≤ 100
  written : ∀ tenantID clientID w, reg.written (tenantID, clientID) = some w →
    ∃ r ∈ reg.clients, ClientRepo.selects tenantID clientID r = true ∧
      Returns crypto (ClientRepo.ofRow r) w

section Invariant

variable {hashPassword : String → String → String} {crypto : Crypto} {std : Stdlib}
  {reg : Registry} {env : ClientEnv}

/-- The row of a client as it was written. -/
theorem toRow_returns (hverify : ∀ s salt, crypto.verifyPassword s (hashPassword s salt) = true)
    {now : Time} {client : OAuthClient} {r : ClientRow} {secret salt : String}
    (hrow : ClientRepo.toRow now client = some r) (hname : NotCut 100 client.name)
    (hmethod : NotCut 50 client.tokenEndpointAuthMethod)
    (hsecret : client.isConfidential = true → client.clientSecretHash = hashPassword secret salt) :
    ClientRepo.selects client.tenantID client.clientID r = true ∧ r.name.length ≤ 100 ∧
      r.clientID = client.clientID ∧
      Returns crypto (ClientRepo.ofRow r) (Written.ofClient client secret) := by
  unfold ClientRepo.toRow at hrow
  split at hrow
  · rename_i name authMethod hvname hvmethod
    split at hrow
    · exact absurd hrow (by simp)
    · obtain rfl := Option.some.inj hrow
      refine ⟨ClientRepo.selects_iff.mpr ⟨rfl, rfl⟩, varchar_length hvname, rfl,
        ⟨hname name hvname, rfl, rfl, rfl, rfl, hmethod authMethod hvmethod, rfl, fun _ => rfl,
          fun s hs => ?_, fun s hs => ?_⟩⟩
      · show crypto.verifyPassword s client.clientSecretHash = true
        simp only [Written.ofClient] at hs
        split at hs
        · rename_i hconf
          obtain rfl := Option.some.inj hs
          rw [hsecret hconf]
          exact hverify _ salt
        · exact absurd hs (by simp)
      · simp only [Written.ofClient] at hs
        split at hs <;> exact absurd hs (by simp)
  · exact absurd hrow (by simp)

variable (hashPassword env) in
/-- Setting the secret changes nothing else. -/
theorem withSecret_spec (client : OAuthClient) :
    (withSecret hashPassword env client).isConfidential = client.isConfidential ∧
      (withSecret hashPassword env client).name = client.name ∧
      (withSecret hashPassword env client).tokenEndpointAuthMethod =
        client.tokenEndpointAuthMethod ∧
      (client.isConfidential = true → (withSecret hashPassword env client).clientSecretHash =
        hashPassword env.newSecret env.salt) := by
  unfold withSecret
  split
  · exact ⟨rfl, rfl, rfl, fun _ => rfl⟩
  · rename_i hpublic
    exact ⟨rfl, rfl, rfl, fun h => absurd h hpublic⟩

theorem create_sound (hverify : ∀ s salt, crypto.verifyPassword s (hashPassword s salt) = true)
    (hreg : RegistrySound crypto reg) {input : CreateClientInput}
    (hok : KeepsColumns crypto std reg (.create env input)) :
    RegistrySound crypto (clientStep hashPassword crypto std reg (.create env input)) := by
  simp only [clientStep]
  split
  · exact hreg
  rename_i client secret clients hcreate
  unfold createClient at hcreate
  split at hcreate
  · exact absurd hcreate (by simp)
  split at hcreate
  · exact absurd hcreate (by simp)
  rename_i clients' hrepo
  simp only [Except.ok.injEq, Prod.mk.injEq] at hcreate
  obtain ⟨hclient, hsecret, rfl⟩ := hcreate
  obtain ⟨hconf, hname, hmethod, hhash⟩ :=
    withSecret_spec hashPassword env (newClient std env input)
  rw [hclient] at hrepo hconf hname hmethod hhash
  obtain ⟨r, hrow, hfresh, hmem⟩ := ClientRepo.createClient_ok hrepo
  have hmethodCut : NotCut 50 client.tokenEndpointAuthMethod := by
    rw [hmethod]
    show NotCut 50 (if input.tokenEndpointAuthMethod = "" then "client_secret_basic"
      else input.tokenEndpointAuthMethod)
    split
    · intro v hv
      rw [varchar_of_short (by decide)] at hv
      exact (Option.some.inj hv).symm
    · exact hok.2
  have hsecretHash : client.isConfidential = true →
      client.clientSecretHash = hashPassword secret env.salt := by
    intro h
    rw [hconf] at h
    rw [hhash h, ← hsecret, if_pos h]
  obtain ⟨hselects, hshort, hid, hreturns⟩ :=
    toRow_returns hverify hrow (by rw [hname]; exact hok.1) hmethodCut hsecretHash
  refine ⟨fun q hq q' hq' heq => ?_, fun q hq => ?_, fun t id w hw => ?_⟩
  · rcases (hmem q).mp hq with hq | rfl <;> rcases (hmem q').mp hq' with hq' | rfl
    · exact hreg.unique q hq q' hq' heq
    · exact absurd (heq.trans hid) (hfresh q hq)
    · exact absurd (heq.symm.trans hid) (hfresh q' hq')
    · rfl
  · rcases (hmem q).mp hq with hq | rfl
    · exact hreg.short q hq
    · exact hshort
  · replace hw : Function.update reg.written (client.tenantID, client.clientID)
        (some (Written.ofClient client secret)) (t, id) = some w := hw
    by_cases hkey : (t, id) = (client.tenantID, client.clientID)
    · obtain ⟨rfl, rfl⟩ := Prod.mk.inj hkey
      rw [Function.update_self] at hw
      rw [← Option.some.inj hw]
      exact ⟨r, (hmem r).mpr (Or.inr rfl), hselects, hreturns⟩
    · rw [Function.update_of_ne hkey] at hw
      obtain ⟨q, hq, hsel, hret⟩ := hreg.written t id w hw
      exact ⟨q, (hmem q).mpr (Or.inl hq), hsel, hret⟩

/-- The name an update stores. -/
theorem updated_name {updates : ClientMetadataUpdate} {r : ClientRow} {name : String}
    (hname : varchar 100 (updates.name.getD r.name) = some name) (hshort : r.name.length ≤ 100)
    (hcut : ∀ name, updates.name = some name → NotCut 100 name) :
    name = updates.name.getD r.name := by
  cases hupdate : updates.name with
  | none =>
    rw [hupdate, Option.getD_none, varchar_of_short hshort] at hname
    exact (Option.some.inj hname).symm
  | some n =>
    rw [hupdate, Option.getD_some] at hname
    exact hcut n hupdate name hname

/-- The row after an update that leaves the other columns alone. -/
theorem assign_returns {r : ClientRow} {w : Written} {updates : ClientMetadataUpdate} {now : Time}
    {name : String} (hret : Returns crypto (ClientRepo.ofRow r) w)
    (hname : name = updates.name.getD r.name)
    (hgrants : updates.grantTypes.getD r.grantTypes = r.grantTypes)
    (hresponses : updates.responseTypes.getD r.responseTypes = r.responseTypes)
    (hmethod : updates.tokenEndpointAuthMethod.getD r.tokenEndpointAuthMethod =
      r.tokenEndpointAuthMethod) :
    Returns crypto (ClientRepo.ofRow (ClientRepo.assign now name
      (applyUpdates std (ClientRepo.ofRow r) updates) r)) (w.update std updates) := by
  have hrname : r.name = w.name := hret.name
  have hrgrants : r.grantTypes = w.grantTypes := hret.grantTypes
  have hrresponses : r.responseTypes = w.responseTypes := hret.responseTypes
  have hrmethod : r.tokenEndpointAuthMethod = w.tokenEndpointAuthMethod :=
    hret.tokenEndpointAuthMethod
  have hruris : r.redirectURIs = w.redirectURIs := hret.redirectURIs
  have hrscopes : r.scopes = w.scopes := hret.scopes
  have hrenabled : r.enabled = w.enabled := hret.enabled
  refine ⟨?_, ?_, ?_, ?_, ?_, ?_, ?_, fun k => ?_, hret.newest, hret.earlier⟩
  · show name = updates.name.getD w.name
    rw [hname, hrname]
  · show updates.redirectURIs.getD r.redirectURIs = updates.redirectURIs.getD w.redirectURIs
    rw [hruris]
  · show r.grantTypes = updates.grantTypes.getD w.grantTypes
    rw [← hrgrants, hgrants]
  · show r.responseTypes = updates.responseTypes.getD w.responseTypes
    rw [← hrresponses, hresponses]
  · show (updates.scopes.map (filterSafeScopes std)).getD r.scopes =
      (updates.scopes.map (filterSafeScopes std)).getD w.scopes
    rw [hrscopes]
  · show r.tokenEndpointAuthMethod =
      updates.tokenEndpointAuthMethod.getD w.tokenEndpointAuthMethod
    rw [← hrmethod, hmethod]
  · show updates.enabled.getD r.enabled = updates.enabled.getD w.enabled
    rw [hrenabled]
  · show (updates.metadata.getD [] ++ r.metadata).lookup k =
      ((updates.metadata.getD []).lookup k).or (w.metadata k)
    rw [List.lookup_append, ← hret.metadata k]
    rfl

/-- At most one row is selected. -/
theorem RegistrySound.selected_unique (hreg : RegistrySound crypto reg) {t : UUID} {id : String}
    {q r : ClientRow} (hq : q ∈ reg.clients) (hqsel : ClientRepo.selects t id q = true)
    (hr : r ∈ reg.clients) (hsel : ClientRepo.selects t id r = true) : q = r :=
  hreg.unique q hq r hr
    ((ClientRepo.selects_iff.mp hqsel).1.trans (ClientRepo.selects_iff.mp hsel).1.symm)

/-- The rows after an update: the selected row is replaced, the others stay. -/
theorem RegistrySound.mem_updated (hreg : RegistrySound crypto reg) {t : UUID} {id : String}
    {r : ClientRow} (hr : r ∈ reg.clients) (hsel : ClientRepo.selects t id r = true) (now : Time)
    (name : String) (client : OAuthClient) (q : ClientRow) :
    q ∈ reg.clients.update (ClientRepo.selects t id) (ClientRepo.assign now name client)
        (ClientRepo.assign_id now name client) ↔
      q = ClientRepo.assign now name client r ∨
        (q ∈ reg.clients ∧ ClientRepo.selects t id q = false) := by
  rw [Table.mem_update]
  constructor
  · rintro (⟨a, ha, hasel, rfl⟩ | hq)
    · rw [hreg.selected_unique ha hasel hr hsel]
      exact Or.inl rfl
    · exact Or.inr hq
  · rintro (rfl | hq)
    · exact Or.inl ⟨r, hr, hsel, rfl⟩
    · exact Or.inr hq

/-- An update that goes through was not refused, so it keeps to the assigned columns. -/
theorem columns_of_update {t : UUID} {id : String} {updates : ClientMetadataUpdate}
    (hok : KeepsColumns crypto std reg (.update env t id updates)) {r : ClientRow} {name : String}
    (hread : env.readFails = false) (hwrite : env.writeFails = false)
    (hnil : scopesIsNil std updates = false)
    (hvarchar : varchar 100 (updates.name.getD r.name) = some name) :
    (∀ name, updates.name = some name → NotCut 100 name) ∧
      ∀ r ∈ reg.clients, ClientRepo.selects t id r = true →
        updates.grantTypes.getD r.grantTypes = r.grantTypes ∧
        updates.responseTypes.getD r.responseTypes = r.responseTypes ∧
        updates.tokenEndpointAuthMethod.getD r.tokenEndpointAuthMethod =
          r.tokenEndpointAuthMethod := by
  rcases hok with (h | h | h | ⟨n, hn, hnone⟩) | hcolumns
  · exact absurd (hread.symm.trans h) (by simp)
  · exact absurd (hwrite.symm.trans h) (by simp)
  · exact absurd (hnil.symm.trans h) (by simp)
  · rw [hn, Option.getD_some, hnone] at hvarchar
    exact absurd hvarchar (by simp)
  · exact hcolumns

theorem update_sound (hreg : RegistrySound crypto reg) {t : UUID} {id : String}
    {updates : ClientMetadataUpdate}
    (hok : KeepsColumns crypto std reg (.update env t id updates)) :
    RegistrySound crypto (clientStep hashPassword crypto std reg (.update env t id updates)) := by
  simp only [clientStep]
  split
  · exact hreg
  rename_i c clients hupdate
  unfold updateClientMetadata at hupdate
  split at hupdate
  · exact absurd hupdate (by simp)
  rename_i client hget
  obtain ⟨hread, r, hr, hsel, rfl⟩ := ClientRepo.getClientByID_ok hget
  obtain ⟨hwrite, hnil, name, hvarchar, rfl⟩ := ClientRepo.updateClient_ok hupdate
  obtain ⟨hcut, hcols⟩ := columns_of_update hok hread hwrite hnil hvarchar
  obtain ⟨hgrants, hresponses, hmethod⟩ := hcols r hr hsel
  have hname := updated_name hvarchar (hreg.short r hr) hcut
  have hmem := hreg.mem_updated hr hsel env.now name
    (applyUpdates std (ClientRepo.ofRow r) updates)
  refine ⟨fun q hq q' hq' heq => ?_, fun q hq => ?_, fun t' id' w hw => ?_⟩
  · -- the updated row is the only one with its client id
    have hclash : ∀ q ∈ reg.clients, ClientRepo.selects t id q = false →
        q.clientID ≠ r.clientID := by
      intro q hq hqsel heq
      rw [hreg.unique q hq r hr heq, hsel] at hqsel
      exact absurd hqsel (by simp)
    rcases (hmem q).mp hq with rfl | ⟨hq, hqsel⟩ <;>
      rcases (hmem q').mp hq' with rfl | ⟨hq', hqsel'⟩
    · rfl
    · exact absurd heq.symm (hclash q' hq' hqsel')
    · exact absurd heq (hclash q hq hqsel)
    · exact hreg.unique q hq q' hq' heq
  · rcases (hmem q).mp hq with rfl | ⟨hq, -⟩
    · exact varchar_length hvarchar
    · exact hreg.short q hq
  · replace hw : Function.update reg.written (t, id)
        ((reg.written (t, id)).map fun w => w.update std updates) (t', id') = some w := hw
    by_cases hkey : (t', id') = (t, id)
    · obtain ⟨rfl, rfl⟩ := Prod.mk.inj hkey
      rw [Function.update_self] at hw
      obtain ⟨w₀, hw₀, rfl⟩ := Option.map_eq_some_iff.mp hw
      obtain ⟨q, hq, hqsel, hret⟩ := hreg.written t' id' w₀ hw₀
      rw [hreg.selected_unique hq hqsel hr hsel] at hret
      exact ⟨_, (hmem _).mpr (Or.inl rfl), hsel,
        assign_returns hret hname hgrants hresponses hmethod⟩
    · rw [Function.update_of_ne hkey] at hw
      obtain ⟨q, hq, hqsel, hret⟩ := hreg.written t' id' w hw
      refine ⟨q, (hmem q).mpr (Or.inr ⟨hq, ?_⟩), hqsel, hret⟩
      by_contra hqsel'
      obtain ⟨hid, ht⟩ := ClientRepo.selects_iff.mp hqsel
      obtain ⟨hid', ht'⟩ := ClientRepo.selects_iff.mp (by simpa using hqsel')
      exact hkey (Prod.ext (ht.symm.trans ht') (hid.symm.trans hid'))

/-- A rotation that is refused leaves everything as it is. -/
theorem rotate_refused {t : UUID} {id oldSecret : String}
    (hok : KeepsColumns crypto std reg (.rotate env t id oldSecret)) :
    clientStep hashPassword crypto std reg (.rotate env t id oldSecret) = reg := by
  simp only [clientStep]
  split
  · rfl
  rename_i secret clients hrotate
  unfold rotateClientSecret at hrotate
  split at hrotate
  · exact absurd hrotate (by simp)
  rename_i client hget
  obtain ⟨hread, r, hr, hsel, rfl⟩ := ClientRepo.getClientByID_ok hget
  split at hrotate
  · exact absurd hrotate (by simp)
  rename_i hsecret
  split at hrotate
  · exact absurd hrotate (by simp)
  rename_i hhash
  simp only at hrotate
  split at hrotate
  · exact absurd hrotate (by simp)
  rename_i hupdate
  obtain ⟨hwrite, -, -⟩ := ClientRepo.updateClient_ok hupdate
  rcases hok with h | h | h | h
  · exact absurd (hread.symm.trans h) (by simp)
  · exact absurd h hhash
  · exact absurd (hwrite.symm.trans h) (by simp)
  · obtain ⟨htype, hverify⟩ := h r hr hsel
    refine absurd ?_ hsecret
    have hconf : (ClientRepo.ofRow r).isConfidential = true := by
      simp [OAuthClient.isConfidential, ClientRepo.ofRow, htype]
    rw [hconf, show (ClientRepo.ofRow r).clientSecretHash = r.clientSecretHash from rfl, hverify]
    rfl

/-- What is written is what is read. -/
theorem RegistrySound.reads (hreg : RegistrySound crypto reg) {t : UUID} {id : String} {w : Written}
    (hw : reg.written (t, id) = some w) :
    ∃ c, ClientRepo.getClientByID reg.clients false t id = .ok c ∧ Returns crypto c w := by
  obtain ⟨r, hr, hsel, hret⟩ := hreg.written t id w hw
  obtain ⟨q, hq⟩ : ∃ q, reg.clients.rows.find? (ClientRepo.selects t id) = some q := by
    rw [← Option.isSome_iff_exists, List.find?_isSome]
    exact ⟨r, hr, hsel⟩
  have hqr : q = r :=
    hreg.selected_unique (List.mem_of_find?_eq_some hq) (List.find?_some hq) hr hsel
  refine ⟨ClientRepo.ofRow r, ?_, hret⟩
  simp only [ClientRepo.getClientByID, hq, hqr]
  rfl

end Invariant

/-- **Clients read back.** In every run of registrations, updates and rotations that
keeps to the assigned columns, every client reads back with the last values that were
written, and its secret verifies. -/
theorem client_reads_back (hashPassword : String → String → String) (crypto : Crypto)
    (std : Stdlib) (hverify : ∀ s salt, crypto.verifyPassword s (hashPassword s salt) = true)
    (ops : List ClientOp)
    (hok : StepsOk (clientStep hashPassword crypto std) (KeepsColumns crypto std)
      ⟨.empty, fun _ => none⟩ ops) :
    ∀ reg ∈ states (clientStep hashPassword crypto std) ⟨.empty, fun _ => none⟩ ops,
      ∀ tenantID clientID w, reg.written (tenantID, clientID) = some w →
        ∃ c, ClientRepo.getClientByID reg.clients false tenantID clientID = .ok c ∧
          Returns crypto c w := by
  have hinit : RegistrySound crypto ⟨.empty, fun _ => none⟩ :=
    ⟨fun r hr => absurd hr (Table.not_mem_empty r), fun r hr => absurd hr (Table.not_mem_empty r),
      fun _ _ _ h => absurd h (by simp)⟩
  have hstep : ∀ reg op, RegistrySound crypto reg → KeepsColumns crypto std reg op →
      RegistrySound crypto (clientStep hashPassword crypto std reg op) := by
    intro reg op hreg hop
    cases op with
    | create env input => exact create_sound hverify hreg hop
    | update env t id updates => exact update_sound hreg hop
    | rotate env t id oldSecret =>
      rw [rotate_refused hop]
      exact hreg
  intro reg hmem t id w hw
  exact (invariant_states hstep hinit hok reg hmem).reads hw

-- ---------------------------------------------------------------------------
-- A rotated secret
-- ---------------------------------------------------------------------------

namespace Sample

/-- The encoded form `HashPassword` returns, with the password in the place of its
Argon2id hash. -/
def hashPassword (password salt : String) : String :=
  "argon2id$3$65536$4$" ++ salt ++ "." ++ password

/-- Verification of such an encoding. -/
def secretCrypto : Crypto :=
  { crypto with
    verifyPassword := fun password encoded =>
      Strings.hasSuffix encoded.toList ("." ++ password).toList }

theorem verify_hashPassword (s salt : String) :
    secretCrypto.verifyPassword s (hashPassword s salt) = true := by
  have hsplit : hashPassword s salt = "argon2id$3$65536$4$" ++ salt ++ ("." ++ s) := by
    unfold hashPassword
    exact String.append_assoc
  simp only [secretCrypto, Strings.hasSuffix]
  rw [List.isSuffixOf_iff_suffix, hsplit]
  refine ⟨("argon2id$3$65536$4$" ++ salt).toList, ?_⟩
  exact String.toList_append.symm

def clientEnv (newSecret : String) : ClientEnv :=
  ⟨1, false, false, false, 5#128, "gcid_m2m", newSecret, "c2FsdA"⟩

def clientInput : CreateClientInput :=
  ⟨tenant, "m2m", "", .confidential, ["client_credentials"], [], [], ["audit:read"], "", []⟩

/-- A confidential client is registered, and its secret rotated. -/
def secretRotation : List ClientOp :=
  [.create (clientEnv "gcs_one") clientInput, .rotate (clientEnv "gcs_two") tenant "gcid_m2m" "gcs_one"]

/-- A client is registered, and its name changed. -/
def renamed : List ClientOp :=
  [.create (clientEnv "gcs_one") clientInput,
    .update (clientEnv "") tenant "gcid_m2m" ⟨some "worker", none, none, none, none, none, none, none⟩]

end Sample

/-- The rotation returned `gcs_two`: it does not verify, and `gcs_one` still does. -/
theorem old_secret_survives :
    ∃ reg ∈ states (clientStep Sample.hashPassword Sample.secretCrypto Sample.stdlib)
        ⟨.empty, fun _ => none⟩ Sample.secretRotation,
      ∃ w, reg.written (Sample.tenant, "gcid_m2m") = some w ∧ w.secrets = ["gcs_two", "gcs_one"] ∧
        ∃ c, ClientRepo.getClientByID reg.clients false Sample.tenant "gcid_m2m" = .ok c ∧
          Sample.secretCrypto.verifyPassword "gcs_two" c.clientSecretHash = false ∧
          Sample.secretCrypto.verifyPassword "gcs_one" c.clientSecretHash = true := by
  refine ⟨_, run_mem_states _ _, _, rfl, rfl, _, rfl, by decide, by decide⟩

theorem client_reads_back_sample :
    ∃ c, ClientRepo.getClientByID (run (clientStep Sample.hashPassword Sample.secretCrypto
          Sample.stdlib) ⟨.empty, fun _ => none⟩ Sample.renamed).clients false Sample.tenant
        "gcid_m2m" = .ok c ∧ c.name = "worker" ∧
      Sample.secretCrypto.verifyPassword "gcs_one" c.clientSecretHash = true := by
  have hshort : ∀ {n : Nat} {s : String}, s.length ≤ n → NotCut n s := by
    intro n s hs v hv
    rw [varchar_of_short hs] at hv
    exact (Option.some.inj hv).symm
  have hok : StepsOk (clientStep Sample.hashPassword Sample.secretCrypto Sample.stdlib)
      (KeepsColumns Sample.secretCrypto Sample.stdlib) ⟨.empty, fun _ => none⟩ Sample.renamed := by
    refine ⟨⟨hshort (by decide), hshort (by decide)⟩, Or.inr ⟨?_, fun r _ _ => ⟨rfl, rfl, rfl⟩⟩,
      trivial⟩
    intro name hname
    rw [← Option.some.inj hname]
    exact hshort (by decide)
  obtain ⟨c, hread, hreturns⟩ := client_reads_back Sample.hashPassword Sample.secretCrypto
    Sample.stdlib Sample.verify_hashPassword Sample.renamed hok _ (run_mem_states _ _)
    Sample.tenant "gcid_m2m" _ rfl
  exact ⟨c, hread, hreturns.name, hreturns.newest "gcs_one" rfl⟩

end Ggid.OAuth
