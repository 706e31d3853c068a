import ResearchEngine.RateLimit
import ResearchEngine.ServiceValues

/-! Which bearer tokens the auth dependencies accept: `jwt.decode` verifies a token with the
client id of the pool, under the algorithms RS256 and HS256. -/
namespace ResearchEngine
namespace BearerTokens

open RateLimit

/-- The settings of the auth dependencies. -/
structure AuthSettings extends GateSettings where
  cognitoClientId : Option String := none
  cognitoAudience : Option String := none

inductive Algorithm
  | rs256 | hs256
  | other (name : String)
  deriving DecidableEq, Repr

/-- What a token was signed with: a private RSA key or a text. -/
inductive SigningKey (K : Type)
  | rsa (key : K)
  | secret (text : String)

structure Token (K : Type) where
  alg : Algorithm
  signedWith : SigningKey K
  iss : Option String := none
  aud : List String := []
  exp : Option Time := none
  claims : TokenClaims

/-- The package that reads and checks tokens. -/
structure Jose (K : Type) where
  /-- The token that a bearer text spells. -/
  read : String → Option (Token K)
  /-- The text of the public half of a private key. -/
  publicKey : K → String
  /-- The text is a key for the algorithm: an RSA key in PEM, or a secret that is no such key. -/
  constructs : Algorithm → String → Bool
  /-- The token is for this issuer and this audience and has not expired. -/
  claimsMatch : Option String → Option String → Token K → Bool

section Decode

variable {K : Type} (jose : Jose K) (cfg : AuthSettings)

/-- The signature of a token verifies under `key` for the token's algorithm. -/
def verifies (key : String) (t : Token K) : Bool :=
  match t.alg, t.signedWith with
  | .rs256, .rsa k => jose.publicKey k = key
  | .hs256, .secret text => text = key
  | _, _ => false

/-- `jwt.decode`, whose `JWKError` for a text that is no key for the algorithm is no `JWTError`. -/
def jwtDecode (key : String) (algorithms : List Algorithm) (issuer audience : Option String)
    (text : String) : Decoded :=
  match jose.read text with
  | none => .invalid
  | some t =>
    if t.alg ∉ algorithms then .invalid
    else if !jose.constructs t.alg key then .escaped
    else if verifies jose key t ∧ jose.claimsMatch issuer audience t then .claims t.claims
    else .invalid

/-- `settings.COGNITO_CLIENT_ID or ""` -/
def verificationKey : String := cfg.cognitoClientId.getD ""

/-- The dependencies, with the call of `jwt.decode` that is in `get_actor_id`. -/
def withTokens (svc : GateServices) : GateServices :=
  { svc with
    decode := jwtDecode jose (verificationKey cfg) [.rs256, .hs256] cfg.cognitoIssuer
      cfg.cognitoAudience }

/-- The token was signed with the private key of the user pool. -/
def PoolSigned (pool : K) (t : Token K) : Prop := t.alg = .rs256 ∧ t.signedWith = .rsa pool

/-- The public configuration of a deployment. -/
def publicTexts : List String :=
  [cfg.cognitoClientId, cfg.cognitoIssuer, cfg.cognitoAudience, cfg.cognitoRegion,
    cfg.cognitoUserPoolId].filterMap id

/-- A token that anyone who knows the public configuration can sign. -/
def BuiltFromPublic (t : Token K) : Prop :=
  ∃ text, t.signedWith = .secret text ∧ text ∈ publicTexts cfg

section Ids

variable [PyText]

/-- The actor that the claims name. -/
def actorOf (claims : TokenClaims) : Option Uuid := (claims.sub.filter (· ≠ "")).bind uuidOf

/-- The tenant that the claims name. -/
def claimedTenant (claims : TokenClaims) : Option Uuid :=
  ((claims.customTenantId.filter ClaimValue.truth).or
    (claims.tenantId.filter ClaimValue.truth)).bind fun v => uuidOf v.text

/-- Only pool-issued tokens get in with this bearer text, whatever the headers say, and the
claims alone decide who the request is. -/
structure PoolOnly (svc : GateServices) (pool : K) (text : String) : Prop where
  actor : ∀ r : HttpRequest, r.credentials = some text → ∀ out,
    getActorId cfg.toGateSettings (withTokens jose cfg svc) r = .ok out →
      ∃ t, jose.read text = some t ∧ PoolSigned pool t
  tenant : ∀ r : HttpRequest, r.credentials = some text → ∀ ids,
    authenticate cfg.toGateSettings (withTokens jose cfg svc) r = .ok ids →
      ∃ t, jose.read text = some t ∧ PoolSigned pool t
  outsider : ∀ t, jose.read text = some t → BuiltFromPublic cfg t →
    ∀ r : HttpRequest, r.credentials = some text → ∀ ids,
      authenticate cfg.toGateSettings (withTokens jose cfg svc) r ≠ .ok ids
  identity : ∀ r : HttpRequest, r.credentials = some text → ∀ ids,
    authenticate cfg.toGateSettings (withTokens jose cfg svc) r = .ok ids →
      ∃ t, jose.read text = some t ∧ actorOf t.claims = some ids.1 ∧
        claimedTenant t.claims = some ids.2

/-- The text is a current token with an actor that was signed with the client id, as an HMAC
secret, or with another RSA key, whose public half the client id spells; and the client id is a key
for that. -/
structure Forged (pool : K) (text : String) (t : Token K) : Prop where
  read : jose.read text = some t
  signed : t.alg = .hs256 ∧ t.signedWith = .secret (verificationKey cfg) ∨
    t.alg = .rs256 ∧ ∃ k, k ≠ pool ∧ t.signedWith = .rsa k ∧ jose.publicKey k = verificationKey cfg
  usable : jose.constructs t.alg (verificationKey cfg) = true
  current : jose.claimsMatch cfg.cognitoIssuer cfg.cognitoAudience t = true
  actor : (actorOf t.claims).isSome = true

end Ids

end Decode

section Accepted

variable {K : Type} {jose : Jose K} {cfg : AuthSettings} {svc : GateServices}

theorem verifies_iff {key : String} {t : Token K} : verifies jose key t = true ↔
    t.alg = .rs256 ∧ (∃ k, t.signedWith = .rsa k ∧ jose.publicKey k = key) ∨
      t.alg = .hs256 ∧ t.signedWith = .secret key := by
  obtain ⟨alg, signedWith, iss, aud, exp, claims⟩ := t
  cases alg <;> cases signedWith <;> simp [verifies]

/-- Everything that was checked about an accepted token. -/
theorem jwtDecode_eq_claims_iff {key : String} {issuer audience : Option String} {text : String}
    {claims : TokenClaims} :
    jwtDecode jose key [.rs256, .hs256] issuer audience text = .claims claims ↔
      ∃ t, jose.read text = some t ∧ t.claims = claims ∧ jose.constructs t.alg key = true ∧
        jose.claimsMatch issuer audience t = true ∧
        (t.alg = .rs256 ∧ (∃ k, t.signedWith = .rsa k ∧ jose.publicKey k = key) ∨
          t.alg = .hs256 ∧ t.signedWith = .secret key) := by
  unfold jwtDecode
  cases hread : jose.read text with
  | none => simp
  | some t =>
    constructor
    · intro h
      simp only at h
      split at h
      · cases h
      · split at h
        · cases h
        · rename_i hkey
          split at h
          · rename_i hok
            exact ⟨t, rfl, Decoded.claims.inj h, by simpa using hkey, hok.2, verifies_iff.mp hok.1⟩
          · cases h
    · rintro ⟨t', ht, rfl, hkey, hcurrent, hsigned⟩
      obtain rfl := Option.some.inj ht
      have halg : t.alg ∈ [Algorithm.rs256, .hs256] := by
        rcases hsigned with ⟨h, -⟩ | ⟨h, -⟩ <;> simp [h]
      simp [halg, hkey, hcurrent, verifies_iff.mpr hsigned]

variable [PyText]

theorem getActorId_ok_iff (hjwt : jwtAuthEnabled cfg.toGateSettings = true) {gate : GateServices}
    {r : HttpRequest} {out : Uuid × Option TokenClaims} :
    getActorId cfg.toGateSettings gate r = .ok out ↔
      ∃ text claims, r.credentials = some text ∧ gate.decode text = .claims claims ∧
        actorOf claims = some out.1 ∧ out.2 = some claims := by
  constructor
  · intro h
    unfold getActorId at h
    rw [if_pos hjwt] at h
    split at h
    · cases h
    · rename_i text hcred
      split at h
      · cases h
      · cases h
      · rename_i claims hdecode
        split at h
        · cases h
        · rename_i sub hsub
          split at h
          · rename_i actor huuid
            obtain rfl := Except.ok.inj h
            exact ⟨text, claims, hcred, hdecode, Option.bind_eq_some_iff.mpr ⟨sub, hsub, huuid⟩, rfl⟩
          · cases h
  · rintro ⟨text, claims, hcred, hdecode, hactor, hpayload⟩
    obtain ⟨sub, hsub, huuid⟩ := Option.bind_eq_some_iff.mp hactor
    obtain ⟨actor, payload⟩ := out
    obtain rfl : payload = some claims := hpayload
    simp only [getActorId, if_pos hjwt, hcred, hdecode, hsub, huuid]

theorem getTenantId_ok_iff (hjwt : jwtAuthEnabled cfg.toGateSettings = true) {claims : TokenClaims}
    {r : HttpRequest} {tenant : Uuid} :
    getTenantId cfg.toGateSettings (some claims) r = .ok tenant ↔
      claimedTenant claims = some tenant := by
  unfold getTenantId claimedTenant
  rw [if_pos hjwt]
  cases htenant : (claims.customTenantId.filter ClaimValue.truth).or
      (claims.tenantId.filter ClaimValue.truth) with
  | none => simp [htenant]
  | some v => cases huuid : uuidOf v.text <;> simp [htenant, huuid]

/-- A request is let in as exactly the actor and the tenant that its token's claims name. -/
theorem authenticate_ok (hjwt : jwtAuthEnabled cfg.toGateSettings = true) {gate : GateServices}
    {r : HttpRequest} {ids : Uuid × Uuid}
    (h : authenticate cfg.toGateSettings gate r = .ok ids) :
    ∃ text claims, r.credentials = some text ∧ gate.decode text = .claims claims ∧
      actorOf claims = some ids.1 ∧ claimedTenant claims = some ids.2 ∧
      getActorId cfg.toGateSettings gate r = .ok (ids.1, some claims) := by
  obtain ⟨⟨actor, payload⟩, hactor, h⟩ := bind_eq_ok.mp h
  obtain ⟨tenant, htenant, h⟩ := bind_eq_ok.mp h
  obtain rfl := Except.ok.inj h
  obtain ⟨text, claims, hcred, hdecode, hid, hpayload⟩ := (getActorId_ok_iff hjwt).mp hactor
  obtain rfl : payload = some claims := hpayload
  exact ⟨text, claims, hcred, hdecode, hid, (getTenantId_ok_iff hjwt).mp htenant, hactor⟩

theorem Forged.not_poolSigned {pool : K} {text : String} {t : Token K}
    (h : Forged jose cfg pool text t) : ¬ PoolSigned pool t := by
  rintro ⟨halg, hkey⟩
  rcases h.signed with ⟨halg', -⟩ | ⟨-, k, hne, hk, -⟩
  · rw [halg] at halg'
    cases halg'
  · rw [hkey] at hk
    exact hne (SigningKey.rsa.inj hk).symm

/-- A forged token is decoded like any other. -/
theorem Forged.decoded {pool : K} {text : String} {t : Token K} (h : Forged jose cfg pool text t) :
    (withTokens jose cfg svc).decode text = .claims t.claims := by
  refine jwtDecode_eq_claims_iff.mpr ⟨t, h.read, rfl, h.usable, h.current, ?_⟩
  rcases h.signed with hs | ⟨halg, k, -, hk, hkey⟩
  · exact Or.inr hs
  · exact Or.inl ⟨halg, k, hk, hkey⟩

/-- Whatever is decoded and names an actor was signed with the pool's key, or it is forged. -/
theorem decoded_cases (pool : K) {text : String} {claims : TokenClaims}
    (hdecode : (withTokens jose cfg svc).decode text = .claims claims)
    (hactor : (actorOf claims).isSome = true) :
    ∃ t, jose.read text = some t ∧ t.claims = claims ∧
      (PoolSigned pool t ∨ Forged jose cfg pool text t) := by
  obtain ⟨t, hread, rfl, husable, hcurrent, hsigned⟩ := jwtDecode_eq_claims_iff.mp hdecode
  refine ⟨t, hread, rfl,
    or_iff_not_imp_left.mpr fun hnot => ⟨hread, ?_, husable, hcurrent, hactor⟩⟩
  rcases hsigned with ⟨halg, k, hk, hkey⟩ | hs
  · refine Or.inr ⟨halg, k, ?_, hk, hkey⟩
    rintro rfl
    exact hnot ⟨halg, hk⟩
  · exact Or.inl hs

/-- In JWT mode a bearer text lets in pool-issued tokens only, exactly when it is not a current
token signed with the client id. -/
theorem pool_only_iff (jose : Jose K) (cfg : AuthSettings) (svc : GateServices) (pool : K)
    (text : String) (hjwt : jwtAuthEnabled cfg.toGateSettings = true) :
    PoolOnly jose cfg svc pool text ↔ ∀ t, ¬ Forged jose cfg pool text t := by
  constructor
  · intro h t hforged
    obtain ⟨actor, hactor⟩ := Option.isSome_iff_exists.mp hforged.actor
    obtain ⟨t', hread', hsigned⟩ := h.actor { credentials := some text } rfl (actor, some t.claims)
      ((getActorId_ok_iff hjwt).mpr ⟨text, t.claims, rfl, hforged.decoded, hactor, rfl⟩)
    obtain rfl := Option.some.inj (hforged.read.symm.trans hread')
    exact hforged.not_poolSigned hsigned
  · intro hforged
    have hactor : ∀ r : HttpRequest, r.credentials = some text → ∀ out,
        getActorId cfg.toGateSettings (withTokens jose cfg svc) r = .ok out →
          ∃ t, jose.read text = some t ∧ out.2 = some t.claims ∧ PoolSigned pool t := by
      intro r hr out hout
      obtain ⟨text', claims, hcred, hdecode, hid, hpayload⟩ := (getActorId_ok_iff hjwt).mp hout
      obtain rfl := Option.some.inj (hr.symm.trans hcred)
      obtain ⟨t, hread, rfl, hsigned⟩ := decoded_cases pool hdecode (by rw [hid]; rfl)
      exact ⟨t, hread, hpayload, hsigned.resolve_right (hforged t)⟩
    have htenant : ∀ r : HttpRequest, r.credentials = some text → ∀ ids,
        authenticate cfg.toGateSettings (withTokens jose cfg svc) r = .ok ids →
          ∃ t, jose.read text = some t ∧ PoolSigned pool t ∧ actorOf t.claims = some ids.1 ∧
            claimedTenant t.claims = some ids.2 := by
      intro r hr ids hids
      obtain ⟨-, claims, -, -, hid, hclaimed, hout⟩ := authenticate_ok hjwt hids
      obtain ⟨t, hread, hclaims, hsigned⟩ := hactor r hr _ hout
      obtain rfl : claims = t.claims := Option.some.inj hclaims
      exact ⟨t, hread, hsigned, hid, hclaimed⟩
    refine ⟨fun r hr out hout => ?_, fun r hr ids hids => ?_, fun t hread hbuilt r hr ids hids => ?_,
      fun r hr ids hids => ?_⟩
    · obtain ⟨t, hread, -, hsigned⟩ := hactor r hr out hout
      exact ⟨t, hread, hsigned⟩
    · obtain ⟨t, hread, hsigned, -⟩ := htenant r hr ids hids
      exact ⟨t, hread, hsigned⟩
    · obtain ⟨t', hread', ⟨-, hkey⟩, -⟩ := htenant r hr ids hids
      obtain rfl := Option.some.inj (hread.symm.trans hread')
      obtain ⟨secret, hsecret, -⟩ := hbuilt
      rw [hkey] at hsecret
      cases hsecret
    · obtain ⟨t, hread, -, hids⟩ := htenant r hr ids hids
      exact ⟨t, hread, hids⟩

omit [PyText] in
/-- A token of the pool gets in only if the client id spells the pool's public key. -/
theorem pool_token_refused {pool : K} {text : String} {t : Token K}
    (hread : jose.read text = some t) (hpool : PoolSigned pool t)
    (hkey : jose.publicKey pool ≠ verificationKey cfg) :
    ∀ claims, (withTokens jose cfg svc).decode text ≠ .claims claims := by
  intro claims hdecode
  obtain ⟨t', hread', -, -, -, hsigned⟩ := jwtDecode_eq_claims_iff.mp hdecode
  obtain rfl := Option.some.inj (hread.symm.trans hread')
  rcases hsigned with ⟨-, k, hk, hpub⟩ | ⟨halg, -⟩
  · rw [hpool.2] at hk
    obtain rfl := SigningKey.rsa.inj hk
    exact hkey hpub
  · rw [hpool.1] at halg
    cases halg

end Accepted

section Concrete

open scoped PyText.Ascii

def productionSettings : AuthSettings :=
  { cognitoUserPoolId := some "us-east-1_pool", cognitoRegion := some "us-east-1"
    cognitoIssuer := some "https://idp/us-east-1_pool", cognitoClientId := some "client-1"
    cognitoAudience := some "client-1" }

/-- Claims that anyone can write down. -/
def someoneElse : TokenClaims :=
  { sub := some "00000000000000000000000000000001"
    customTenantId := some ⟨true, "0000000000000000000000000000000a"⟩ }

def tokenFor (alg : Algorithm) (signedWith : SigningKey Unit) : Token Unit :=
  { alg := alg, signedWith := signedWith, iss := some "https://idp/us-east-1_pool"
    aud := ["client-1"], exp := some 100, claims := someoneElse }

/-- One token of the pool, and one that is signed with the client id. -/
def sampleJose : Jose Unit where
  read text :=
    if text = "issued" then some (tokenFor .rs256 (.rsa ()))
    else if text = "homemade" then some (tokenFor .hs256 (.secret "client-1"))
    else none
  publicKey _ := "-----BEGIN PUBLIC KEY-----"
  constructs alg key := alg = .rs256 ↔ key = "-----BEGIN PUBLIC KEY-----"
  claimsMatch issuer audience t :=
    t.iss = issuer ∧ (∀ a, audience = some a → a ∈ t.aud) ∧ ∀ e, t.exp = some e → 50 ≤ e

theorem issued_token_pool_only :
    PoolOnly sampleJose productionSettings sampleServices () "issued" :=
  (pool_only_iff sampleJose productionSettings sampleServices () "issued" (by decide)).mpr <| by
    rintro t ⟨hread, ⟨halg, -⟩ | ⟨-, k, hne, -⟩, -, -⟩
    · obtain rfl := Option.some.inj hread
      cases halg
    · exact hne rfl

/-- The client id signs anyone in as anyone, and the pool's own token is refused. -/
theorem client_id_signs_in :
    (authenticate productionSettings.toGateSettings
        (withTokens sampleJose productionSettings sampleServices)
        { credentials := some "homemade" }).toOption = some (1, 10) ∧
      (authenticate productionSettings.toGateSettings
        (withTokens sampleJose productionSettings sampleServices)
        { credentials := some "issued" }).toOption = none ∧
      ¬ ∀ (jose : Jose Unit) (cfg : AuthSettings) (svc : GateServices) (pool : Unit) (text : String),
        jwtAuthEnabled cfg.toGateSettings = true → PoolOnly jose cfg svc pool text := by
  have hhome : (authenticate productionSettings.toGateSettings
      (withTokens sampleJose productionSettings sampleServices)
      { credentials := some "homemade" }).toOption = some (1, 10) := by decide +kernel
  refine ⟨hhome, by decide +kernel, fun hall => ?_⟩
  cases hids : authenticate productionSettings.toGateSettings
      (withTokens sampleJose productionSettings sampleServices)
      { credentials := some "homemade" } with
  | error e =>
    rw [hids] at hhome
    cases hhome
  | ok ids =>
    exact (hall sampleJose productionSettings sampleServices () "homemade" (by decide)).outsider
      (tokenFor .hs256 (.secret "client-1")) rfl ⟨"client-1", rfl, by decide⟩ _ rfl ids hids

end Concrete

end BearerTokens
end ResearchEngine
