import Ggid.OAuth.TokenRotation

/-!
# OAuth service — scopes along a chain of rotations

A rotation asks for scopes, the recorded scope of the presented token bounds what
it may get, and what it got is recorded on the successor and bounds the next
rotation. Scopes are compared as sets of words.

Two things get past the bound. A recorded scope without words does not bound
anything, and a rotation that omits the scope records exactly that. And the user's
role keys are added to the access token whatever the grant was.

* `scopes_never_grow`      — along every chain in which neither adds a word, each
  access token is within the grant and within every earlier access token;
* `scope_grows_after_omission` — a rotation without a scope, then one with a scope
  that was never granted.
-/

namespace Ggid.OAuth

open Ggid.Go Ggid.Policy Ggid.Lib

-- ---------------------------------------------------------------------------
-- The words of a scope
-- ---------------------------------------------------------------------------

/-- A scope word as it is written into an access token. -/
def canonical (s : String) : String := if s = "admin" then "tenant:admin" else s

theorem flatMap_eq_map {α β : Type} {f : α → List β} {g : α → β} {l : List α}
    (h : ∀ a ∈ l, f a = [g a]) : l.flatMap f = l.map g := by
  induction l with
  | nil => rfl
  | cons a l ih =>
    rw [List.flatMap_cons, h a List.mem_cons_self, ih fun b hb => h b (List.mem_cons_of_mem a hb)]
    rfl

theorem fields_canonical {s w : String} (hw : w ∈ Strings.fields s) :
    Strings.fields (canonical w) = [canonical w] := by
  unfold canonical
  split
  · decide
  · exact Strings.fields_word hw

theorem fields_normalizeAdminScope (s : String) :
    Strings.fields (normalizeAdminScope s) = (Strings.fields s).map canonical := by
  show Strings.fields (Strings.join " " ((Strings.fields s).map canonical)) = _
  rw [Strings.fields_join, List.flatMap_map]
  exact flatMap_eq_map fun w hw => fields_canonical hw

theorem fields_mergeOAuthScopes (s : String) :
    Strings.fields (mergeOAuthScopes s) = Strings.fields s := by
  show Strings.fields (Strings.join " " (Strings.fields s)) = _
  rw [Strings.fields_join, flatMap_eq_map (fun w hw => Strings.fields_word hw)]
  exact List.map_id _

theorem fields_accessTokenScope (safeScopes roleKeys : List String) :
    Strings.fields (accessTokenScope safeScopes roleKeys) =
      safeScopes.flatMap Strings.fields ++ roleKeys.flatMap Strings.fields := by
  unfold accessTokenScope joinScopes
  rw [Strings.fields_trimSpace, Strings.fields_append_space, Strings.fields_join,
    Strings.fields_join]

/-- A recorded scope with words bounds what a rotation gets. -/
theorem narrowScopes_words (std : Stdlib) {requested : List String} {scope : String}
    (hscope : Strings.fields scope ≠ []) :
    (narrowScopes std requested (Strings.fields scope)).flatMap Strings.fields ⊆
      Strings.fields scope := by
  intro w hw
  obtain ⟨sc, hsc, hw⟩ := List.mem_flatMap.mp hw
  rw [narrowScopes, if_neg hscope] at hsc
  have hrecorded : sc ∈ Strings.fields scope := by
    simpa using (List.mem_filter.mp hsc).2
  rw [Strings.fields_word hrecorded, List.mem_singleton] at hw
  rw [hw]
  exact hrecorded

-- ---------------------------------------------------------------------------
-- Chains
-- ---------------------------------------------------------------------------

def GrantEvent.tenantID : GrantEvent → UUID
  | .granted tenantID _ _ _ => tenantID
  | .rotated tenantID _ _ _ => tenantID

def GrantEvent.accessScope : GrantEvent → String
  | .granted _ _ _ accessScope => accessScope
  | .rotated _ _ _ accessScope => accessScope

def GrantEvent.inFamily (tenantID : UUID) (familyID : String) (e : GrantEvent) : Bool :=
  e.tenantID = tenantID && e.familyID = familyID

theorem GrantEvent.inFamily_iff {e : GrantEvent} {tenantID : UUID} {familyID : String} :
    e.inFamily tenantID familyID = true ↔ e.tenantID = tenantID ∧ e.familyID = familyID := by
  simp [GrantEvent.inFamily]

/-- The scopes of the access tokens issued along a chain, in order. -/
def Ledger.accessScopes (l : Ledger) (tenantID : UUID) (familyID : String) : List String :=
  (l.log.filter (GrantEvent.inFamily tenantID familyID)).map GrantEvent.accessScope

/-- Every word, as an access token spells it, is a word of every access token the
chain has issued so far. -/
def Ledger.Issued (l : Ledger) (tenantID : UUID) (familyID : String) (words : List String) :
    Prop :=
  ∀ s ∈ l.accessScopes tenantID familyID, words.map canonical ⊆ Strings.fields s

/-- The family was started by the exchange of a code. -/
def Ledger.Granted (l : Ledger) (tenantID : UUID) (familyID : String) : Prop :=
  ∃ scope accessScope, .granted tenantID familyID scope accessScope ∈ l.log

/-- Nothing gets past the recorded scope. A code that grants the legacy scope
`admin` grants `tenant:admin` too. At a rotation of a granted family the role keys
add no word, and neither does the request if the recorded scope has no words. -/
def ScopeBounded (crypto : Crypto) (std : Stdlib) (l : Ledger) : GrantOp → Prop
  | .exchange _ _ req => ∀ c ∈ l.store.codes, c.codeHash = crypto.hashCode req.code →
      "admin" ∈ c.scope.flatMap Strings.fields → "tenant:admin" ∈ c.scope.flatMap Strings.fields
  | .refresh envs _ req => ∀ r ∈ l.store.tokens,
      r.holds req.tenantID (crypto.hashTokenSHA256 req.refreshToken) = true →
      ∀ familyID, r.familyID = some familyID → l.Granted r.tenantID familyID →
        (∀ i, l.Issued r.tenantID familyID ((envs i).roleKeys.flatMap Strings.fields)) ∧
        (Strings.fields r.scope = [] → l.Issued r.tenantID familyID
          ((filterSafeScopes std req.scope).flatMap Strings.fields))

/-- Along the chains of granted families scopes do not grow, and the recorded scope
of a live token stays within what the chain has issued. -/
structure ScopeSound (l : Ledger) : Prop where
  chain : ∀ tenantID familyID, l.Granted tenantID familyID →
    (l.accessScopes tenantID familyID).Pairwise fun s s' => Strings.fields s' ⊆ Strings.fields s
  grant : ∀ tenantID familyID scope accessScope,
    .granted tenantID familyID scope accessScope ∈ l.log →
    ∀ s ∈ l.accessScopes tenantID familyID, Strings.fields s ⊆ Strings.fields scope
  row   : ∀ r ∈ l.store.tokens, r.live = true → ∀ familyID, r.familyID = some familyID →
    l.Granted r.tenantID familyID → l.Issued r.tenantID familyID (Strings.fields r.scope)
  auth  : ∀ tenantID familyID, l.Granted tenantID familyID →
    ∀ a ∈ l.store.authTokens, a.tokenID.string ≠ familyID

section Chain

variable {l : Ledger} {st : Store} {e : GrantEvent} {tenantID : UUID} {familyID : String}

theorem accessScopes_concat : (Ledger.mk st (l.log ++ [e])).accessScopes tenantID familyID =
    l.accessScopes tenantID familyID ++
      if e.inFamily tenantID familyID then [e.accessScope] else [] := by
  unfold Ledger.accessScopes
  rw [List.filter_append, List.map_append]
  congr 1
  by_cases h : e.inFamily tenantID familyID = true
  · rw [List.filter_singleton, h]
    rfl
  · rw [List.filter_singleton, if_neg h]
    simp [h]

/-- What is issued along a chain was issued before, or by the last event. -/
theorem mem_accessScopes_concat {s : String} :
    s ∈ (Ledger.mk st (l.log ++ [e])).accessScopes tenantID familyID ↔
      s ∈ l.accessScopes tenantID familyID ∨
        e.inFamily tenantID familyID = true ∧ s = e.accessScope := by
  rw [accessScopes_concat, List.mem_append]
  by_cases h : e.inFamily tenantID familyID = true
  · rw [if_pos h, List.mem_singleton, and_iff_right h]
  · rw [if_neg h]
    simp [h]

theorem accessScopes_concat_of_other (h : e.inFamily tenantID familyID = false) :
    (Ledger.mk st (l.log ++ [e])).accessScopes tenantID familyID =
      l.accessScopes tenantID familyID := by
  rw [accessScopes_concat, h, if_neg (by simp), List.append_nil]

/-- A family nothing was logged for has no chain yet. -/
theorem accessScopes_eq_nil (h : ∀ e ∈ l.log, e.familyID ≠ familyID) :
    l.accessScopes tenantID familyID = [] := by
  unfold Ledger.accessScopes
  rw [List.map_eq_nil_iff, List.filter_eq_nil_iff]
  intro e he hin
  exact h e he (GrantEvent.inFamily_iff.mp hin).2

theorem mem_accessScopes (he : e ∈ l.log) (hin : e.inFamily tenantID familyID = true) :
    e.accessScope ∈ l.accessScopes tenantID familyID :=
  List.mem_map_of_mem (List.mem_filter.mpr ⟨he, hin⟩)

theorem Ledger.Issued.mono {words words' : List String} (h : l.Issued tenantID familyID words)
    (hsub : words' ⊆ words) : l.Issued tenantID familyID words' :=
  fun s hs => List.Subset.trans (List.map_subset canonical hsub) (h s hs)

/-- Nothing was handed out and nothing added. -/
theorem ScopeSound.progress (hl : ScopeSound l) (h : Progress l.store st) :
    ScopeSound ⟨st, l.log⟩ := by
  refine ⟨hl.chain, hl.grant, fun r hr hlive => ?_, fun t f hgranted b hb => ?_⟩
  · obtain ⟨q, hq, -, heq⟩ := h.ages.back r hr
    obtain rfl : r = q := heq hlive
    exact hl.row r hq hlive
  · obtain ⟨a, ha, hkey, -⟩ := h.authBack b hb
    rw [hkey.tokenID]
    exact hl.auth t f hgranted a ha

end Chain

-- ---------------------------------------------------------------------------
-- Exchanges
-- ---------------------------------------------------------------------------

section Exchange

variable {crypto : Crypto} {std : Stdlib} {l : Ledger} {env : ExchangeEnv}
  {found : Option OAuthClient} {req : TokenExchangeRequest}

/-- The first access token of a chain spells the granted words. -/
theorem fields_exchangeAccessToken (client : OAuthClient) (code : AuthorizationCode) :
    Strings.fields (exchangeAccessToken env client req code).scope =
      (Strings.fields (joinScopes code.scope)).map canonical := by
  simp only [exchangeAccessToken, issueAccessTokenWithAMR]
  rw [fields_normalizeAdminScope, fields_mergeOAuthScopes]

theorem canonical_subset {words : List String} (h : "admin" ∈ words → "tenant:admin" ∈ words) :
    words.map canonical ⊆ words := by
  intro w hw
  obtain ⟨v, hv, rfl⟩ := List.mem_map.mp hw
  unfold canonical
  split
  · rename_i heq
    rw [heq] at hv
    exact h hv
  · exact hv

/-- The chain of a code that was just exchanged. -/
theorem granted_scopeSound (hl : ScopeSound l) {newID : UUID} {newToken : String}
    (hfresh : Unused crypto l newID newToken) {t : UUID} {scope access : String} {st : Store}
    (hauth : st.authTokens = l.store.authTokens)
    (hrows : ∀ r ∈ st.tokens, r ∈ l.store.tokens ∨
      (r.tenantID = t ∧ r.familyID = some newID.string ∧
        Strings.fields r.scope = Strings.fields scope))
    (haccess : Strings.fields access = (Strings.fields scope).map canonical)
    (hadmin : "admin" ∈ Strings.fields scope → "tenant:admin" ∈ Strings.fields scope) :
    ScopeSound ⟨st, l.log ++ [.granted t newID.string scope access]⟩ := by
  have hnil : ∀ t', l.accessScopes t' newID.string = [] := fun _ =>
    accessScopes_eq_nil hfresh.logged
  have hother : ∀ {t' f}, f ≠ newID.string →
      (GrantEvent.granted t newID.string scope access).inFamily t' f = false := by
    intro t' f hf
    simp [GrantEvent.inFamily, GrantEvent.familyID, Ne.symm hf]
  -- the new event starts the only chain of its family
  have hnew : ∀ t', ∀ s ∈ (Ledger.mk st (l.log ++ [.granted t newID.string scope access])).accessScopes
      t' newID.string, s = access := by
    intro t' s hs
    rcases mem_accessScopes_concat.mp hs with hs | ⟨-, rfl⟩
    · rw [hnil] at hs
      exact absurd hs List.not_mem_nil
    · rfl
  have hold : ∀ {t' f scope' access'},
      GrantEvent.granted t' f scope' access' ∈ l.log ++ [.granted t newID.string scope access] →
      f ≠ newID.string → GrantEvent.granted t' f scope' access' ∈ l.log := by
    intro t' f scope' access' hmem hf
    rcases List.mem_append.mp hmem with hmem | hmem
    · exact hmem
    · have heq := List.mem_singleton.mp hmem
      rw [GrantEvent.granted.injEq] at heq
      exact absurd heq.2.1 hf
  refine ⟨fun t' f hgranted => ?_, fun t' f scope' access' hmem s hs => ?_,
    fun r hr hlive f hf hgranted => ?_, fun t' f hgranted a ha => ?_⟩
  · obtain ⟨scope', access', hmem⟩ := hgranted
    by_cases hf : f = newID.string
    · subst hf
      rw [accessScopes_concat, hnil, List.nil_append]
      split
      · exact List.pairwise_singleton _ _
      · exact List.Pairwise.nil
    · rw [accessScopes_concat_of_other (hother hf)]
      exact hl.chain t' f ⟨scope', access', hold hmem hf⟩
  · by_cases hf : f = newID.string
    · subst hf
      rcases List.mem_append.mp hmem with hmem | hmem
      · exact absurd rfl (hfresh.logged _ hmem)
      · have heq := List.mem_singleton.mp hmem
        rw [GrantEvent.granted.injEq] at heq
        rw [hnew t' s hs, heq.2.2.1, haccess]
        exact canonical_subset hadmin
    · rw [accessScopes_concat_of_other (hother hf)] at hs
      exact hl.grant t' f scope' access' (hold hmem hf) s hs
  · intro s hs
    rcases hrows r hr with hr | ⟨-, hfamily, hscope⟩
    · have hne : f ≠ newID.string := by
        rintro rfl
        exact hfresh.family r hr hf
      obtain ⟨scope', access', hmem⟩ := hgranted
      rw [accessScopes_concat_of_other (hother hne)] at hs
      exact hl.row r hr hlive f hf ⟨scope', access', hold hmem hne⟩ s hs
    · obtain rfl : f = newID.string := Option.some.inj (hf.symm.trans hfamily)
      rw [hnew _ s hs, hscope, haccess]
      exact List.Subset.refl _
  · have ha : a ∈ l.store.authTokens := hauth ▸ ha
    by_cases hf : f = newID.string
    · rw [hf]
      exact hfresh.authID a ha
    · obtain ⟨scope', access', hmem⟩ := hgranted
      exact hl.auth t' f ⟨scope', access', hold hmem hf⟩ a ha

theorem exchange_scopeSound (hl : ScopeSound l)
    (hfresh : Unused crypto l env.newID env.newToken)
    (hbounded : ScopeBounded crypto std l (.exchange env found req)) :
    ScopeSound (grantStep crypto std l (.exchange env found req)) := by
  obtain ⟨hauth, hout⟩ := exchange_cases crypto env found req l.store
  rcases hout with ⟨err, herr, htokens⟩ | ⟨client, c, refresh, hc, hhash, hresp, htokens⟩
  · have hstep : grantStep crypto std l (.exchange env found req) =
        ⟨(exchangeAuthorizationCode crypto env found req l.store).1, l.log⟩ := by
      show Ledger.mk _ (l.log ++ exchangeEvents env _) = _
      rw [herr, exchangeEvents, List.append_nil]
    have hages : Ages l.store.tokens
        (exchangeAuthorizationCode crypto env found req l.store).1.tokens := by
      rw [htokens]
      exact .refl _
    rw [hstep]
    exact hl.progress (.of_tokens hages hauth)
  · have hstep : grantStep crypto std l (.exchange env found req) =
        ⟨(exchangeAuthorizationCode crypto env found req l.store).1, l.log ++
          [.granted c.tenantID env.newID.string (joinScopes c.scope)
            (exchangeAccessToken env client req (CodeRepo.ofRow c)).scope]⟩ := by
      show Ledger.mk _ (l.log ++ exchangeEvents env _) = _
      rw [hresp]
      rfl
    have hwords : Strings.fields (joinScopes c.scope) = c.scope.flatMap Strings.fields :=
      Strings.fields_join c.scope
    rw [hstep]
    refine granted_scopeSound hl hfresh hauth (fun r hr => ?_) (fields_exchangeAccessToken client _)
      ?_
    · rcases htokens with htokens | hinsert
      · exact Or.inl (htokens ▸ hr)
      · rcases ((Table.insert?_eq_some hinsert).2 r).mp hr with hr | rfl
        · exact Or.inl hr
        · have hfamily : (rootRecord crypto env client (CodeRepo.ofRow c)).familyID ≠ "" :=
            UUID.string_ne_empty env.newID
          exact Or.inr ⟨rfl, TokenRepo.toRow_familyID hfamily, rfl⟩
    · rw [hwords]
      exact hbounded c hc hhash

end Exchange

-- ---------------------------------------------------------------------------
-- Rotations
-- ---------------------------------------------------------------------------

section Refresh

variable {crypto : Crypto} {std : Stdlib} {l : Ledger} {envs : Nat → Env}
  {found : Option OAuthClient} {req : RefreshTokenRequest} {client : OAuthClient}
  {record : RefreshTokenRecord}

theorem fields_refreshResponse (std : Stdlib) (env : Env) (call : RefreshCall)
    (record : RefreshTokenRecord) :
    Strings.fields (refreshResponse std env call record).accessToken.scope =
      ((narrowScopes std call.req.scope record.scope).flatMap Strings.fields ++
        env.roleKeys.flatMap Strings.fields).map canonical := by
  simp only [refreshResponse, issueAccessToken, issueAccessTokenWithAMR]
  rw [fields_normalizeAdminScope, fields_accessTokenScope]

/-- What a rotation of a granted family gets was issued before. -/
theorem rotation_issued (htables : TokensSound l.store) (hl : ScopeSound l)
    (hbounded : ScopeBounded crypto std l (.refresh envs found req))
    (horigin : FromRow crypto ⟨client, req⟩ l.store record ∨
      FromAuth crypto ⟨client, req⟩ l.store record)
    (hgranted : l.Granted req.tenantID (rotationFamily record)) (i : Nat) :
    l.Issued req.tenantID (rotationFamily record)
      ((narrowScopes std req.scope record.scope).flatMap Strings.fields ++
        (envs i).roleKeys.flatMap Strings.fields) := by
  rcases horigin with ⟨r, hr, hholds, hlive, rfl⟩ | ⟨a, ha, -, -, hid, hfamily, -⟩
  · have htenant : r.tenantID = req.tenantID := (TokenRow.holds_iff.mp hholds).1
    have hfamily := (rotationFamily_ofRow htables hr).1
    rw [← htenant] at hgranted ⊢
    obtain ⟨hroles, hempty⟩ := hbounded r hr hholds _ hfamily hgranted
    have hsafe : l.Issued r.tenantID (rotationFamily (TokenRepo.ofRow r))
        ((narrowScopes std req.scope (Strings.fields r.scope)).flatMap Strings.fields) := by
      by_cases hscope : Strings.fields r.scope = []
      · rw [narrowScopes, if_pos hscope]
        exact hempty hscope
      · exact (hl.row r hr hlive _ hfamily hgranted).mono (narrowScopes_words std hscope)
    intro s hs
    rw [List.map_append]
    exact List.append_subset.mpr ⟨hsafe s hs, hroles i s hs⟩
  · -- the family of an auth-service token was not granted by a code
    rw [rotationFamily_of_auth hfamily, hid] at hgranted
    exact absurd rfl (hl.auth _ _ hgranted a ha)

/-- A chain grows by an access token within all its earlier ones. -/
theorem extended_scopeSound (hl : ScopeSound l) {t : UUID} {f tokenHash access : String}
    {st : Store}
    (haccess : l.Granted t f → ∀ s ∈ l.accessScopes t f, Strings.fields access ⊆ Strings.fields s)
    (hrows : ∀ r ∈ st.tokens, r.live = true →
      (r ∈ l.store.tokens ∧ r.inFamily t f = false) ∨
        (r.tenantID = t ∧ r.familyID = some f ∧
          (Strings.fields r.scope).map canonical ⊆ Strings.fields access))
    (hauth : ∀ b ∈ st.authTokens, ∃ a ∈ l.store.authTokens, b.tokenID = a.tokenID) :
    ScopeSound ⟨st, l.log ++ [.rotated t tokenHash f access]⟩ := by
  have hold : ∀ {t' f' scope access'},
      GrantEvent.granted t' f' scope access' ∈ l.log ++ [.rotated t tokenHash f access] →
      GrantEvent.granted t' f' scope access' ∈ l.log := by
    intro t' f' scope access' hmem
    rcases List.mem_append.mp hmem with hmem | hmem
    · exact hmem
    · exact absurd (List.mem_singleton.mp hmem) (by simp)
  have hgranted : ∀ {t' f'},
      (Ledger.mk st (l.log ++ [.rotated t tokenHash f access])).Granted t' f' → l.Granted t' f' :=
    fun ⟨scope, access', hmem⟩ => ⟨scope, access', hold hmem⟩
  have hin : ∀ {t' f'}, (GrantEvent.rotated t tokenHash f access).inFamily t' f' = true →
      t = t' ∧ f = f' := fun h => GrantEvent.inFamily_iff.mp h
  have hscopes : ∀ {t' f' s},
      s ∈ (Ledger.mk st (l.log ++ [.rotated t tokenHash f access])).accessScopes t' f' →
      s ∈ l.accessScopes t' f' ∨ (t = t' ∧ f = f' ∧ s = access) := by
    intro t' f' s hs
    rcases mem_accessScopes_concat.mp hs with hs | ⟨hfamily, hs⟩
    · exact Or.inl hs
    · exact Or.inr ⟨(hin hfamily).1, (hin hfamily).2, hs⟩
  refine ⟨fun t' f' h => ?_, fun t' f' scope access' hmem s hs => ?_,
    fun r hr hlive f' hf' h s hs => ?_, fun t' f' h b hb => ?_⟩
  · have h := hgranted h
    rw [accessScopes_concat]
    split
    · rename_i hfamily
      obtain ⟨rfl, rfl⟩ := hin hfamily
      rw [List.pairwise_append]
      refine ⟨hl.chain t f h, List.pairwise_singleton _ _, fun s hs s' hs' => ?_⟩
      rw [List.mem_singleton.mp hs']
      exact haccess h s hs
    · rw [List.append_nil]
      exact hl.chain t' f' h
  · have hgrant := hold hmem
    rcases hscopes hs with hs | ⟨rfl, rfl, rfl⟩
    · exact hl.grant t' f' scope access' hgrant s hs
    · -- within the first access token of the chain, so within the grant
      have hfirst : access' ∈ l.accessScopes t f :=
        mem_accessScopes hgrant (GrantEvent.inFamily_iff.mpr ⟨rfl, rfl⟩)
      exact List.Subset.trans (haccess ⟨scope, access', hgrant⟩ access' hfirst)
        (hl.grant t f scope access' hgrant access' hfirst)
  · have hbefore := hgranted h
    rcases hrows r hr hlive with ⟨hr, hother⟩ | ⟨htenant, hfamily, hwords⟩
    · rcases hscopes hs with hs | ⟨ht, hf, -⟩
      · exact hl.row r hr hlive f' hf' hbefore s hs
      · rw [TokenRow.inFamily_iff.mpr ⟨ht.symm, hf'.trans (congrArg some hf.symm)⟩] at hother
        exact absurd hother (by simp)
    · obtain rfl : f' = f := Option.some.inj (hf'.symm.trans hfamily)
      rcases hscopes hs with hs | ⟨-, -, rfl⟩
      · rw [htenant] at hbefore hs
        exact List.Subset.trans hwords (haccess hbefore s hs)
      · exact hwords
  · obtain ⟨a, ha, hid⟩ := hauth b hb
    rw [hid]
    exact hl.auth t' f' (hgranted h) a ha

theorem rotated_scopeSound (htables : TokensSound l.store) (hl : ScopeSound l)
    (hbounded : ScopeBounded crypto std l (.refresh envs found req)) {st : Store}
    {successor : RefreshTokenRecord} {resp : TokenResponse} (tokenHash : String)
    (hok : PhaseOK crypto std ⟨client, req⟩ envs l.store st (.rotated record successor resp)) :
    ScopeSound ⟨st, l.log ++ [.rotated successor.tenantID tokenHash successor.familyID
      resp.accessToken.scope]⟩ := by
  obtain ⟨i, st₁, tokens, hprogress, hstorable, horigin, rfl, rfl, hinsert, rfl⟩ := hok
  have haccess := fields_refreshResponse std (envs i) ⟨client, req⟩ record
  refine extended_scopeSound hl (fun hgranted s hs => ?_) (fun r hr hlive => ?_) (fun b hb => ?_)
  · rw [haccess]
    exact rotation_issued htables hl hbounded horigin hgranted i s hs
  · rcases ((Table.insert?_eq_some hinsert).2 r).mp hr with hr | rfl
    · obtain ⟨q, hq, -, heq⟩ := hprogress.ages.back r hr
      obtain rfl : r = q := heq hlive
      refine Or.inl ⟨hq, ?_⟩
      -- the rotated token's family has no live row left
      by_contra hin
      have hin : r.inFamily req.tenantID (rotationFamily record) = true := eq_true_of_ne_false hin
      rw [hstorable.dead r hr hin] at hlive
      exact absurd hlive (by simp)
    · refine Or.inr ⟨rfl, TokenRepo.toRow_familyID hstorable.family, ?_⟩
      rw [haccess]
      have hscope : Strings.fields (TokenRepo.toRow (successorOf crypto std (envs i) ⟨client, req⟩
          record)).scope = (narrowScopes std req.scope record.scope).flatMap Strings.fields :=
        Strings.fields_join _
      rw [hscope]
      exact List.map_subset canonical (List.subset_append_left _ _)
  · obtain ⟨a, ha, hkey, -⟩ := hprogress.authBack b hb
    exact ⟨a, ha, hkey.tokenID⟩

theorem refresh_scopeSound (htables : TokensSound l.store) (hl : ScopeSound l)
    (hbounded : ScopeBounded crypto std l (.refresh envs found req)) :
    ScopeSound (grantStep crypto std l (.refresh envs found req)) := by
  rcases refresh_cases htables envs found req with
    ⟨hprogress, hevents⟩ | ⟨client, record, successor, resp, hout, hok⟩
  · have hstep : grantStep crypto std l (.refresh envs found req) =
        ⟨(refreshToken crypto std envs found req l.store).1, l.log⟩ := by
      show Ledger.mk _ (l.log ++ refreshEvents crypto req _) = _
      rw [hevents, List.append_nil]
    rw [hstep]
    exact hl.progress hprogress
  · have hstep : grantStep crypto std l (.refresh envs found req) =
        ⟨(refreshToken crypto std envs found req l.store).1, l.log ++
          [.rotated successor.tenantID (crypto.hashTokenSHA256 req.refreshToken)
            successor.familyID resp.accessToken.scope]⟩ := by
      show Ledger.mk _ (l.log ++ refreshEvents crypto req _) = _
      rw [hout]
      rfl
    rw [hstep]
    exact rotated_scopeSound htables hl hbounded _ hok

end Refresh

/-- **Scopes never grow.** In every run that starts without refresh tokens, in which
a code with the legacy scope `admin` grants `tenant:admin` and neither role keys nor
a request against an empty recorded scope add a word: along the chain of every code
each access token is within the grant and within every earlier access token. -/
theorem scopes_never_grow (crypto : Crypto) (std : Stdlib) (st : Store) (ops : List GrantOp)
    (htokens : st.tokens = .empty)
    (hids : ∀ a ∈ st.authTokens, ∀ b ∈ st.authTokens,
      a.tokenID.string = b.tokenID.string → a.hash = b.hash)
    (hok : StepsOk (grantStep crypto std)
      (fun l op => FreshDraws crypto l op ∧ ScopeBounded crypto std l op) ⟨st, []⟩ ops) :
    ∀ l ∈ states (grantStep crypto std) ⟨st, []⟩ ops,
      ∀ tenantID familyID scope accessScope,
        .granted tenantID familyID scope accessScope ∈ l.log →
        (∀ s ∈ l.accessScopes tenantID familyID, Strings.fields s ⊆ Strings.fields scope) ∧
        (l.accessScopes tenantID familyID).Pairwise fun s s' =>
          Strings.fields s' ⊆ Strings.fields s := by
  have hinit : LedgerSound ⟨st, []⟩ ∧ ScopeSound ⟨st, []⟩ := by
    have hlog : ∀ e, e ∉ (Ledger.mk st []).log := by simp
    refine ⟨ledgerSound_start htokens hids, ⟨fun _ _ ⟨_, _, h⟩ => absurd h (hlog _),
      fun _ _ _ _ h => absurd h (hlog _), fun _ _ _ _ _ ⟨_, _, h⟩ => absurd h (hlog _),
      fun _ _ ⟨_, _, h⟩ => absurd h (hlog _)⟩⟩
  have hstep : ∀ l op, LedgerSound l ∧ ScopeSound l →
      FreshDraws crypto l op ∧ ScopeBounded crypto std l op →
      LedgerSound (grantStep crypto std l op) ∧ ScopeSound (grantStep crypto std l op) := by
    rintro l op ⟨hsound, hscope⟩ ⟨hfresh, hbounded⟩
    refine ⟨grantStep_sound hsound hfresh, ?_⟩
    cases op with
    | exchange env found req => exact exchange_scopeSound hscope hfresh hbounded
    | refresh envs found req => exact refresh_scopeSound hsound.tables hscope hbounded
  intro l hmem tenantID familyID scope accessScope hgranted
  obtain ⟨-, hl⟩ := invariant_states hstep hinit hok l hmem
  exact ⟨hl.grant _ _ _ _ hgranted, hl.chain _ _ ⟨_, _, hgranted⟩⟩

-- ---------------------------------------------------------------------------
-- An omitted scope
-- ---------------------------------------------------------------------------

namespace Sample

/-- The chain of `codeRow`. -/
def family : String := UUID.string 10#128

/-- The client presents a token and asks for scopes. -/
def scopeOp (token : String) (scope : List String) (newID : UUID) (newToken : String) : GrantOp :=
  .refresh (fun _ => env newID newToken) (some client) { request token with scope := scope }

/-- A rotation that omits the scope, then one that asks for a scope. -/
def omission : List GrantOp :=
  [exchangeOp, scopeOp "rt-0" [] 11#128 "rt-1", scopeOp "rt-1" ["reports:write"] 12#128 "rt-2"]

theorem omission_fresh :
    StepsOk (grantStep crypto stdlib) (FreshDraws crypto) ⟨codeStore, []⟩ omission := by
  have hexchange : Unused crypto ⟨codeStore, []⟩ 10#128 "rt-0" := by decide
  have hfirst : Unused crypto (run (grantStep crypto stdlib) ⟨codeStore, []⟩ [exchangeOp]) 11#128
      "rt-1" := by decide
  have hsecond : Unused crypto (run (grantStep crypto stdlib) ⟨codeStore, []⟩
      [exchangeOp, scopeOp "rt-0" [] 11#128 "rt-1"]) 12#128 "rt-2" := by decide
  exact ⟨hexchange, fun _ => hfirst, fun _ => hsecond, trivial⟩

theorem rotation_bounded :
    StepsOk (grantStep crypto stdlib)
      (fun l op => FreshDraws crypto l op ∧ ScopeBounded crypto stdlib l op) ⟨codeStore, []⟩
      rotation := by
  obtain ⟨hexchange, hrefresh, -⟩ := rotation_fresh
  refine ⟨⟨hexchange, fun c hc _ hadmin => ?_⟩, ⟨hrefresh, fun r hr _ f _ _ => ⟨?_, ?_⟩⟩, trivial⟩
  · rw [Table.mem_def] at hc
    rw [List.mem_singleton.mp hc] at hadmin
    exact absurd hadmin (by decide)
  · intro i s _
    exact List.nil_subset _
  · have hscope : ∀ r ∈ (grantStep crypto stdlib ⟨codeStore, []⟩ exchangeOp).store.tokens.rows,
        Strings.fields r.scope ≠ [] := by decide
    exact fun hempty => absurd hempty (hscope r hr)

end Sample

/-- The grant is `openid offline_access`; the user has no roles. The first rotation
omits the scope, the second one gets `reports:write`. -/
theorem scope_grows_after_omission :
    StepsOk (grantStep Sample.crypto Sample.stdlib) (FreshDraws Sample.crypto)
        ⟨Sample.codeStore, []⟩ Sample.omission ∧
      ∃ l ∈ states (grantStep Sample.crypto Sample.stdlib) ⟨Sample.codeStore, []⟩ Sample.omission,
        .granted Sample.tenant Sample.family "openid offline_access" "openid offline_access" ∈
          l.log ∧
        ∃ s ∈ l.accessScopes Sample.tenant Sample.family,
          ¬ Strings.fields s ⊆ Strings.fields "openid offline_access" := by
  have hscopes : (run (grantStep Sample.crypto Sample.stdlib) ⟨Sample.codeStore, []⟩
      Sample.omission).accessScopes Sample.tenant Sample.family =
        ["openid offline_access", "", "reports:write"] := by decide +kernel
  refine ⟨Sample.omission_fresh, _, run_mem_states _ _, by decide +kernel, "reports:write", ?_, ?_⟩
  · rw [hscopes]
    decide
  · intro hsub
    have hword : "reports:write" ∈ Strings.fields "openid offline_access" :=
      hsub (by decide)
    exact absurd hword (by decide)

theorem scopes_never_grow_sample :
    (run (grantStep Sample.crypto Sample.stdlib) ⟨Sample.codeStore, []⟩
        Sample.rotation).accessScopes Sample.tenant Sample.family =
        ["openid offline_access", "openid"] ∧
      ∀ s ∈ (run (grantStep Sample.crypto Sample.stdlib) ⟨Sample.codeStore, []⟩
          Sample.rotation).accessScopes Sample.tenant Sample.family,
        Strings.fields s ⊆ Strings.fields "openid offline_access" := by
  have hids : ∀ a ∈ Sample.codeStore.authTokens, ∀ b ∈ Sample.codeStore.authTokens,
      a.tokenID.string = b.tokenID.string → a.hash = b.hash :=
    fun a ha => absurd ha (Table.not_mem_empty a)
  refine ⟨by decide +kernel, ?_⟩
  exact (scopes_never_grow Sample.crypto Sample.stdlib Sample.codeStore Sample.rotation rfl hids
    Sample.rotation_bounded _ (run_mem_states _ _) Sample.tenant Sample.family
    "openid offline_access" "openid offline_access" (by decide)).1

end Ggid.OAuth
