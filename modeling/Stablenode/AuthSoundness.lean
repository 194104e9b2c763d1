import Stablenode.Auth

/-! What a handler behind the authentication middleware may rely on. -/
namespace Stablenode.AuthSoundness
open Handler

inductive Account where
  | user (id : ℕ)
  | apiKey (key : APIKey)

def owns (db : AccountStore) (role : Role) (profile : Profile) : Account → Prop
  | .user id => profile ∈ db.profiles role ∧ profile.user = id
  | .apiKey key => key.profile role = some profile

section Requests

variable (x : AuthEnvironment) (db : AccountStore) (r : HTTPRequest)

inductive Authenticated : Account → Prop where
  | jwt {sub scope : String} {id : ℕ} : r.authMethod = .jwt →
      verifyToken x r = .ok (sub, scope) → x.parseUUID sub = (id, true) →
      Authenticated (.user id)
  | senderKey {key : APIKey} : r.authMethod = .apiKey →
      fetchAPIKey x db r.apiKey = .ok key → key.senderProfile ≠ none →
      Authenticated (.apiKey key)
  | hmac {request : SignedRequest} {key : APIKey} {decoded secret : List UInt8} :
      r.authMethod = .hmac → signedRequest x r = .ok request →
      fetchAPIKey x db request.publicKey = .ok key → x.decodeBase64 key.secret = .ok decoded →
      x.decryptPlain decoded = some (.ok secret) →
      x.verifyHMACSignature request.payload secret request.signature = true →
      Authenticated (.apiKey key)

def AuthenticationSound (role : Role) : Prop :=
  ∀ (handler : Handler Values) (v : Values),
    (2, v) ∈ serve [dynamicAuthMiddleware x db r, onlyMiddleware role, handler]
        (Values.initial r) →
      ∃ account profile, Authenticated x db r account ∧ v.profile role = some (some profile) ∧
        owns db role profile account

structure ProfilesReadable (role : Role) : Prop where
  jwt : ∀ sub scope, r.authMethod = .jwt → verifyToken x r = .ok (sub, scope) →
    scopeGrants scope role = true →
      ∃ id profile, x.parseUUID sub = (id, true) ∧ db.queryProfile role id = .ok profile
  senderKey : ∀ key, r.authMethod = .apiKey → fetchAPIKey x db r.apiKey = .ok key →
    key.profile role ≠ none → key.senderProfile ≠ none
  secret : ∀ request key, r.authMethod = .hmac → signedRequest x r = .ok request →
    fetchAPIKey x db request.publicKey = .ok key → key.profile role ≠ none →
      ∃ decoded, x.decodeBase64 key.secret = .ok decoded ∧
        ∀ e, x.decryptPlain decoded ≠ some (.error e)

end Requests

@[simp] lemma profile_setProfile_self (v : Values) (role : Role) (p : Option Profile) :
    (v.setProfile role p).profile role = some p := by
  cases role <;> rfl

lemma profile_setProfile_of_ne (v : Values) {role other : Role} (p : Option Profile)
    (h : role ≠ other) : (v.setProfile other p).profile role = v.profile role := by
  cases role <;> cases other <;> first | rfl | exact absurd rfl h

@[simp] lemma profile_respond (v : Values) (response : Response) (role : Role) :
    (v.respond response).profile role = v.profile role := by
  cases role <;> rfl

@[simp] lemma profile_initial (r : HTTPRequest) (role : Role) :
    (Values.initial r).profile role = none := by
  cases role <;> rfl

@[simp] lemma pass_rejectWith (response : Response) (v : Values) :
    (rejectWith response).pass v = none := rfl

@[simp] lemma pass_failure (failure : AuthFailure) (v : Values) :
    failure.handler.pass v = none := by
  cases failure <;> rfl

lemma pass_onlyMiddleware (role : Role) (v w : Values) :
    (onlyMiddleware role).pass v = some w ↔ v.profile role ≠ none ∧ v = w := by
  by_cases h : v.profile role = none <;> simp [onlyMiddleware, h]

lemma queryProfile_ok {db : AccountStore} {role : Role} {id : ℕ} {p : Profile}
    (h : db.queryProfile role id = .ok p) : p ∈ db.profiles role ∧ p.user = id := by
  rw [AccountStore.queryProfile] at h
  cases hdown : db.profilesDown role with
  | some text => simp [hdown] at h
  | none =>
    cases honly : only ((db.profiles role).filter fun p => p.user = id) with
    | error e => cases e <;> simp [hdown, honly] at h
    | ok q =>
      simp only [hdown, honly, Except.ok.injEq] at h
      have hmem : q ∈ (db.profiles role).filter fun p => p.user = id := by
        rw [only_eq_ok_iff.1 honly]
        exact List.mem_singleton_self q
      simpa [h] using hmem

variable {x : AuthEnvironment} {db : AccountStore} {r : HTTPRequest} {role : Role}

lemma profile_setScopeProfile (scope : String) (user : ℕ) (v : Values) :
    (setScopeProfile db scope user .provider
        (setScopeProfile db scope user .sender v)).profile role =
      if scopeGrants scope role then some (db.queryProfile role user).toOption
      else v.profile role := by
  cases role <;> by_cases hs : scopeGrants scope .sender <;>
    by_cases hp : scopeGrants scope .provider <;>
    simp [setScopeProfile, hs, hp, profile_setProfile_of_ne]

lemma profile_setKeyProfile (key : APIKey) (v : Values) :
    (setKeyProfile key .provider (setKeyProfile key .sender v)).profile role =
      match key.profile role with
      | none => v.profile role
      | some p => some (some p) := by
  cases role <;> cases hs : key.profile .sender <;> cases hp : key.profile .provider <;>
    simp [setKeyProfile, hs, hp, profile_setProfile_of_ne]

def Justified (x : AuthEnvironment) (db : AccountStore) (r : HTTPRequest) (role : Role)
    (v : Values) : Prop :=
  ∃ account profile, Authenticated x db r account ∧ v.profile role = some (some profile) ∧
    owns db role profile account

lemma authenticationSound_iff_pass :
    AuthenticationSound x db r role ↔
      ∀ v, (dynamicAuthMiddleware x db r).pass (Values.initial r) = some v →
        v.profile role ≠ none → Justified x db r role v := by
  simp only [AuthenticationSound, mem_serve_three, Option.bind_eq_some_iff, pass_onlyMiddleware]
  constructor
  · intro h v hpass hset
    exact h .ret v ⟨v, hpass, hset, rfl⟩
  · rintro h - v ⟨_, hpass, hset, rfl⟩
    exact h _ hpass hset

variable {key : APIKey} {w v : Values} {request : SignedRequest}

lemma pass_withKeyProfiles {k : Handler Values} :
    (withKeyProfiles key k).pass v = some w ↔
      ¬ (key.senderProfile = none ∧ key.providerProfile = none) ∧
        k.pass (setKeyProfile key .provider (setKeyProfile key .sender v)) = some w := by
  by_cases h : key.senderProfile = none ∧ key.providerProfile = none <;>
    simp [withKeyProfiles, h]

lemma not_both_none (h : key.profile role ≠ none) :
    ¬ (key.senderProfile = none ∧ key.providerProfile = none) := by
  rintro ⟨hs, hp⟩
  cases role
  · exact h hs
  · exact h hp

section Methods

private def tokenValues (x : AuthEnvironment) (db : AccountStore) (r : HTTPRequest)
    (sub scope : String) : Values :=
  setScopeProfile db scope (x.parseUUID sub).1 .provider
    (setScopeProfile db scope (x.parseUUID sub).1 .sender
      { Values.initial r with userID := some sub })

private lemma profile_tokenValues (sub scope : String) :
    (tokenValues x db r sub scope).profile role =
      if scopeGrants scope role then
        some (db.queryProfile role (x.parseUUID sub).1).toOption
      else none := by
  rw [tokenValues, profile_setScopeProfile]
  cases role <;> rfl

private lemma pass_jwtMiddleware :
    (jwtMiddleware x db r).pass (Values.initial r) = some w ↔
      ∃ sub scope, verifyToken x r = .ok (sub, scope) ∧ tokenValues x db r sub scope = w := by
  cases h : verifyToken x r with
  | error failure => simp [jwtMiddleware, h]
  | ok session =>
    obtain ⟨sub, scope⟩ := session
    simp [jwtMiddleware, h, tokenValues]

lemma authenticationSound_iff_of_jwt (hm : r.authMethod = .jwt) :
    AuthenticationSound x db r role ↔
      ∀ sub scope, verifyToken x r = .ok (sub, scope) → scopeGrants scope role = true →
        ∃ id profile, x.parseUUID sub = (id, true) ∧ db.queryProfile role id = .ok profile := by
  rw [authenticationSound_iff_pass]
  simp only [dynamicAuthMiddleware, hm, pass_andThen_next, pass_jwtMiddleware]
  constructor
  · intro h sub scope htoken hgrants
    have hprofile : (tokenValues x db r sub scope).profile role = _ := profile_tokenValues sub scope
    rw [if_pos hgrants] at hprofile
    obtain ⟨account, p, hauth, hp, -⟩ := h _ ⟨sub, scope, htoken, rfl⟩ (by simp [hprofile])
    rw [hprofile, Option.some.injEq] at hp
    cases hauth with
    | @jwt sub' scope' id _ htoken' hid =>
      obtain ⟨rfl, rfl⟩ : sub = sub' ∧ scope = scope' := by
        simpa [htoken] using htoken'
      refine ⟨id, p, hid, ?_⟩
      rw [hid] at hp
      cases hq : db.queryProfile role id with
      | error e => simp [hq, Except.toOption] at hp
      | ok q => simpa [hq, Except.toOption] using hp
    | senderKey hm' | hmac hm' => simp [hm] at hm'
  · rintro h _ ⟨sub, scope, htoken, rfl⟩ hset
    rw [profile_tokenValues] at hset
    have hgrants : scopeGrants scope role = true := by
      by_contra hno
      exact hset (if_neg hno)
    obtain ⟨id, p, hid, hp⟩ := h sub scope htoken hgrants
    refine ⟨.user id, p, .jwt hm htoken hid, ?_, queryProfile_ok hp⟩
    rw [profile_tokenValues, if_pos hgrants, hid, hp]
    rfl

lemma ne_of_authMethod_apiKey (hm : r.authMethod = .apiKey) : r.apiKey ≠ "" := by
  rw [HTTPRequest.authMethod] at hm
  split_ifs at hm with _ h
  exact h.2

lemma authenticationSound_iff_of_apiKey (hm : r.authMethod = .apiKey) :
    AuthenticationSound x db r role ↔
      ∀ key, fetchAPIKey x db r.apiKey = .ok key → key.profile role ≠ none →
        key.senderProfile ≠ none := by
  rw [authenticationSound_iff_pass]
  simp only [dynamicAuthMiddleware, hm, pass_andThen_next, apiKeyMiddleware,
    if_neg (ne_of_authMethod_apiKey hm)]
  cases hfetch : fetchAPIKey x db r.apiKey with
  | error failure => simp
  | ok key =>
    simp only [pass_withKeyProfiles, pass_next, Option.some.injEq, Except.ok.injEq,
      forall_eq']
    constructor
    · intro h hrole
      obtain ⟨account, p, hauth, -, -⟩ := h _ ⟨not_both_none hrole, rfl⟩ (by
        rw [profile_setKeyProfile]
        cases hkey : key.profile role with
        | none => exact absurd hkey hrole
        | some p => simp)
      cases hauth with
      | jwt hm' => simp [hm] at hm'
      | senderKey _ hkey hsender =>
        rw [hfetch, Except.ok.injEq] at hkey
        rwa [hkey]
      | hmac hm' => simp [hm] at hm'
    · rintro h v ⟨-, rfl⟩ hset
      rw [profile_setKeyProfile] at hset
      cases hkey : key.profile role with
      | none => simp [hkey] at hset
      | some p =>
        refine ⟨.apiKey key, p, .senderKey hm hfetch (h (by simp [hkey])), ?_, hkey⟩
        rw [profile_setKeyProfile, hkey]

lemma profile_verifySignature (h : (verifySignature x request key).pass v = some w) :
    w.profile role = v.profile role := by
  unfold verifySignature at h
  split at h
  · cases h
    exact profile_respond _ _ _
  split at h
  · cases h
  · cases h
    exact profile_respond _ _ _
  split_ifs at h
  · cases h
  split at h
  · cases h
  · cases h
    cases role <;> rfl

lemma verifySignature_passes {decoded : List UInt8}
    (hdecode : x.decodeBase64 key.secret = .ok decoded)
    (hdecrypt : ∀ e, x.decryptPlain decoded ≠ some (.error e))
    (h : (verifySignature x request key).pass v = some w) :
    ∃ secret, x.decryptPlain decoded = some (.ok secret) ∧
      x.verifyHMACSignature request.payload secret request.signature = true := by
  simp only [verifySignature, hdecode] at h
  match hplain : x.decryptPlain decoded with
  | none => simp [hplain] at h
  | some (.error e) => exact absurd hplain (hdecrypt e)
  | some (.ok secret) =>
    refine ⟨secret, rfl, ?_⟩
    by_contra hno
    simp [hplain, Bool.eq_false_iff.2 hno] at h

lemma verifySignature_unreadable (request : SignedRequest) (v : Values)
    (h : ¬ ∃ decoded, x.decodeBase64 key.secret = .ok decoded ∧
      ∀ e, x.decryptPlain decoded ≠ some (.error e)) :
    ∃ w, (verifySignature x request key).pass v = some w := by
  cases hdecode : x.decodeBase64 key.secret with
  | error e => exact ⟨_, by simp only [verifySignature, hdecode, pass_update, pass_ret]; rfl⟩
  | ok decoded =>
    have hplain : ∃ e, x.decryptPlain decoded = some (.error e) := by
      by_contra hno
      exact h ⟨decoded, hdecode, fun e he => hno ⟨e, he⟩⟩
    obtain ⟨e, he⟩ := hplain
    exact ⟨_, by simp only [verifySignature, hdecode, he, pass_update, pass_ret]; rfl⟩

private def signedValues (r : HTTPRequest) (key : APIKey) : Values :=
  setKeyProfile key .provider (setKeyProfile key .sender
    (if r.signsQuery then Values.initial r else { Values.initial r with body := .ok "" }))

private lemma profile_signedValues (key : APIKey) :
    (signedValues r key).profile role = (key.profile role).map some := by
  rw [signedValues, profile_setKeyProfile]
  cases key.profile role with
  | none => split_ifs <;> cases role <;> rfl
  | some p => rfl

private lemma pass_hmacVerificationMiddleware :
    (hmacVerificationMiddleware x db r).pass (Values.initial r) = some w ↔
      ∃ request key, signedRequest x r = .ok request ∧
        fetchAPIKey x db request.publicKey = .ok key ∧
        ¬ (key.senderProfile = none ∧ key.providerProfile = none) ∧
        (verifySignature x request key).pass (signedValues r key) = some w := by
  unfold hmacVerificationMiddleware
  cases hsigned : signedRequest x r with
  | error failure => simp
  | ok request =>
    cases hfetch : fetchAPIKey x db request.publicKey with
    | error failure => simp [hfetch]
    | ok key => simp [hfetch, pass_withKeyProfiles, signedValues]

lemma authenticationSound_iff_of_hmac (hm : r.authMethod = .hmac) :
    AuthenticationSound x db r role ↔
      ∀ request key, signedRequest x r = .ok request →
        fetchAPIKey x db request.publicKey = .ok key → key.profile role ≠ none →
          ∃ decoded, x.decodeBase64 key.secret = .ok decoded ∧
            ∀ e, x.decryptPlain decoded ≠ some (.error e) := by
  rw [authenticationSound_iff_pass]
  simp only [dynamicAuthMiddleware, hm, pass_andThen_next, pass_hmacVerificationMiddleware]
  constructor
  · intro h request key hsigned hfetch hrole
    by_contra hno
    obtain ⟨w, hw⟩ := verifySignature_unreadable request (signedValues r key) hno
    have hset : w.profile role ≠ none := by
      rw [profile_verifySignature hw, profile_signedValues]
      simpa using hrole
    obtain ⟨account, p, hauth, -⟩ :=
      h w ⟨request, key, hsigned, hfetch, not_both_none hrole, hw⟩ hset
    cases hauth with
    | jwt hm' | senderKey hm' => simp [hm] at hm'
    | hmac _ hsigned' hfetch' hdecode hplain _ =>
      rw [hsigned, Except.ok.injEq] at hsigned'
      rw [← hsigned', hfetch, Except.ok.injEq] at hfetch'
      exact hno ⟨_, hfetch' ▸ hdecode, fun e he => by simp [hplain] at he⟩
  · rintro h w ⟨request, key, hsigned, hfetch, -, hw⟩ hset
    have hprofile : w.profile role = _ := profile_verifySignature hw
    rw [profile_signedValues] at hprofile
    cases hkey : key.profile role with
    | none => simp [hprofile, hkey] at hset
    | some p =>
      obtain ⟨decoded, hdecode, hdecrypt⟩ := h request key hsigned hfetch (by simp [hkey])
      obtain ⟨secret, hplain, hverify⟩ := verifySignature_passes hdecode hdecrypt hw
      exact ⟨.apiKey key, p, .hmac hm hsigned hfetch hdecode hplain hverify,
        by rw [hprofile, hkey, Option.map_some], hkey⟩

end Methods

theorem authenticationSound_iff_profilesReadable (x : AuthEnvironment) (db : AccountStore)
    (r : HTTPRequest) (role : Role) :
    AuthenticationSound x db r role ↔ ProfilesReadable x db r role := by
  cases hm : r.authMethod with
  | jwt =>
    rw [authenticationSound_iff_of_jwt hm]
    constructor
    · intro h
      exact ⟨fun sub scope _ => h sub scope, by simp [hm], by simp [hm]⟩
    · intro h sub scope
      exact h.jwt sub scope hm
  | apiKey =>
    rw [authenticationSound_iff_of_apiKey hm]
    constructor
    · intro h
      exact ⟨by simp [hm], fun key _ => h key, by simp [hm]⟩
    · intro h key
      exact h.senderKey key hm
  | hmac =>
    rw [authenticationSound_iff_of_hmac hm]
    constructor
    · intro h
      exact ⟨by simp [hm], by simp [hm], fun request key _ => h request key⟩
    · intro h request key
      exact h.secret request key hm

def unreadableKey : APIKey := ⟨1, "*", some ⟨7, 1⟩, none⟩

def unreadableKeyEnvironment : AuthEnvironment where
  validateJWT _ := .error "token is malformed"
  parseUUID s := (1, s = "1")
  unmarshal _ := .error "unexpected end of JSON input"
  marshal _ := .ok "{}"
  parseFloat _ := some (.finite 100)
  toInt64 _ := 100
  decodeBase64 _ := .error "illegal base64 data at input byte 0"
  gcm := .ok fun _ text => .ok text
  generateHMACSignature _ _ := "c0ffee"
  now := 100
  hmacTimestampAge := 300

def unreadableKeyStore : AccountStore := ⟨.single unreadableKey, [⟨7, 1⟩], [], none, fun _ => none⟩

def forgedRequest : HTTPRequest :=
  ⟨"GET", "/v1/sender/orders", "HMAC 1:forged", "", "", [("timestamp", ["100"])], .ok ""⟩

theorem forged_signature_served :
    ¬ AuthenticationSound unreadableKeyEnvironment unreadableKeyStore forgedRequest .sender := by
  intro h
  have hm : forgedRequest.authMethod = .hmac := by decide
  obtain ⟨decoded, hdecode, -⟩ := (authenticationSound_iff_of_hmac hm).1 h
    ⟨"1", "forged", [("timestamp", .num (.finite 100))]⟩ unreadableKey rfl rfl (by decide)
  cases hdecode

section ReplayWindow

variable (x : AuthEnvironment) (db : AccountStore) (r : HTTPRequest)

def AcceptsAt (now : ℤ) : Prop :=
  ((hmacVerificationMiddleware { x with now := now } db r).pass (Values.initial r)).isSome = true

instance (now : ℤ) : Decidable (AcceptsAt x db r now) := inferInstanceAs (Decidable (_ = true))

def signedTimestamp : Option ℤ :=
  match readPayload x r with
  | .error _ => none
  | .ok payload =>
    match payload.lookup "timestamp" with
    | some (.str s) => (x.parseFloat s).map x.toInt64
    | some (.num t) => some (x.toInt64 t)
    | _ => none

variable {x db r} {now : ℤ}

lemma checkTimestamp_ok_iff {payload read : Payload} {t : Number} :
    checkTimestamp { x with now := now } payload t = .ok read ↔
      t ≠ .finite 0 ∧ now - x.toInt64 t ≤ x.hmacTimestampAge ∧ payload = read := by
  rw [checkTimestamp, ← not_lt]
  split_ifs with hzero hold <;> simp_all

lemma signedRequest_timely (h : signedRequest { x with now := now } r = .ok request) :
    ∃ ts, signedTimestamp x r = some ts ∧ now - ts ≤ x.hmacTimestampAge ∧
      ∀ later, later - ts ≤ x.hmacTimestampAge →
        signedRequest { x with now := later } r = .ok request := by
  have hpayload (n : ℤ) : readPayload { x with now := n } r = readPayload x r := rfl
  simp only [signedRequest, signedTimestamp, hpayload] at h ⊢
  cases hheader : parseHMACHeader r with
  | error e => simp [hheader, bind, Except.bind] at h
  | ok header =>
    cases hread : readPayload x r with
    | error e => simp [hheader, hread, bind, Except.bind] at h
    | ok payload =>
      simp only [hheader, hread, bind, Except.bind, readTimestamp] at h ⊢
      split at h
      · cases h
      · next read hts =>
        split at hts
        · next s hlookup =>
          split at hts
          · cases hts
          · next t ht =>
            obtain ⟨hzero, hage, rfl⟩ := checkTimestamp_ok_iff.1 hts
            refine ⟨x.toInt64 t, by simp [hlookup, ht], hage, fun later hlater => ?_⟩
            simp only [checkTimestamp_ok_iff.2 ⟨hzero, hlater, rfl⟩]
            exact h
        · next t hlookup =>
          obtain ⟨hzero, hage, rfl⟩ := checkTimestamp_ok_iff.1 hts
          refine ⟨x.toInt64 t, by simp [hlookup], hage, fun later hlater => ?_⟩
          simp only [checkTimestamp_ok_iff.2 ⟨hzero, hlater, rfl⟩]
          exact h
        · cases hts

lemma AcceptsAt.timely (h : AcceptsAt x db r now) :
    ∃ ts, signedTimestamp x r = some ts ∧ now - ts ≤ x.hmacTimestampAge ∧
      ∀ later, later - ts ≤ x.hmacTimestampAge → AcceptsAt x db r later := by
  cases hsigned : signedRequest { x with now := now } r with
  | error failure => simp [AcceptsAt, hmacVerificationMiddleware, hsigned] at h
  | ok request =>
    obtain ⟨ts, hts, hage, hlater⟩ := signedRequest_timely hsigned
    refine ⟨ts, hts, hage, fun later hle => ?_⟩
    rw [AcceptsAt, hmacVerificationMiddleware, hsigned] at h
    rw [AcceptsAt, hmacVerificationMiddleware, hlater later hle]
    exact h

theorem replay_bounded_iff {t₁ : ℤ} (h : AcceptsAt x db r t₁) :
    (∀ db' t₂, t₁ ≤ t₂ → AcceptsAt x db' r t₂ → t₂ - t₁ ≤ 2 * x.hmacTimestampAge) ↔
      ∀ ts, signedTimestamp x r = some ts → ts ≤ t₁ + x.hmacTimestampAge := by
  obtain ⟨ts, hts, hage, hlater⟩ := h.timely
  constructor
  · intro hbound ts' hts'
    obtain rfl := Option.some.inj (hts.symm.trans hts')
    have := hbound db (ts + x.hmacTimestampAge) (by omega) (hlater _ (by omega))
    omega
  · intro hahead db' t₂ _ hagain
    obtain ⟨ts', hts', hage', -⟩ := hagain.timely
    have := hahead ts' hts'
    omega

end ReplayWindow

def readableKeyEnvironment : AuthEnvironment :=
  { unreadableKeyEnvironment with
    parseFloat := fun _ => some (.finite 10000)
    toInt64 := fun _ => 10000
    decodeBase64 := fun _ => .ok (List.replicate 12 0) }

def signedSample : HTTPRequest :=
  { forgedRequest with authorization := "HMAC 1:c0ffee", query := [("timestamp", ["10000"])] }

theorem replay_bounded_same_clock :
    AcceptsAt readableKeyEnvironment unreadableKeyStore signedSample 10000 ∧
      ∀ db t₂, 10000 ≤ t₂ → AcceptsAt readableKeyEnvironment db signedSample t₂ →
        t₂ - 10000 ≤ 2 * 300 := by
  have h : AcceptsAt readableKeyEnvironment unreadableKeyStore signedSample 10000 := by decide
  refine ⟨h, (replay_bounded_iff h).2 fun ts hts => ?_⟩
  obtain rfl : 10000 = ts := Option.some.inj hts
  decide

theorem future_timestamp_replayed :
    AcceptsAt readableKeyEnvironment unreadableKeyStore signedSample 100 ∧
      AcceptsAt readableKeyEnvironment unreadableKeyStore signedSample 10300 ∧
      ¬ (10300 - 100 ≤ 2 * readableKeyEnvironment.hmacTimestampAge) := by
  decide

end Stablenode.AuthSoundness
