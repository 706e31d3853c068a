import Mathlib.Algebra.Group.Int.Defs
import ResearchEngine.JobStore
import ResearchEngine.MovingWindow
import ResearchEngine.PyText

/-! The rate limit of `POST /research/jobs` and the tenant of a request: the limiter goes by the
raw header or the client address, the tenant by the parsed header or the token. -/
namespace ResearchEngine
namespace RateLimit

open PyText MovingWindow

section UuidText

variable [PyText]

/-- The decimal digits before a code point in its block; blocks of digits start with a zero. -/
def decimalRun : ℕ → ℕ
  | 0 => 0
  | n + 1 => if isDecimal (Char.ofNat n) then decimalRun n + 1 else 0

def hexValue (c : Char) : Option ℕ :=
  if isDecimal c then some (decimalRun c.toNat % 10)
  else if 'a' ≤ c ∧ c ≤ 'f' then some (c.toNat - 'a'.toNat + 10)
  else if 'A' ≤ c ∧ c ≤ 'F' then some (c.toNat - 'A'.toNat + 10)
  else none

/-- Hexadecimal digits, with single underscores between them. -/
def hexDigits (acc : ℕ) : List Char → Option ℕ
  | [] => some acc
  | '_' :: c :: cs => (hexValue c).bind fun v => hexDigits (16 * acc + v) cs
  | c :: cs => (hexValue c).bind fun v => hexDigits (16 * acc + v) cs

/-- White space around a number, of which `int` does not skip the ASCII separators. -/
def isIntSpace (c : Char) : Bool := isSpace c ∧ ¬ (28 ≤ c.toNat ∧ c.toNat ≤ 31)

/-- `int(text, 16)`. -/
def int16 (text : String) : Option ℤ :=
  let trimmed := ((text.toList.dropWhile isIntSpace).reverse.dropWhile isIntSpace).reverse
  let (negative, cs) := match trimmed with
    | '-' :: cs => (true, cs)
    | '+' :: cs => (false, cs)
    | cs => (false, cs)
  let cs := match cs with
    | '0' :: x :: '_' :: cs => if x = 'x' ∨ x = 'X' then cs else '0' :: x :: '_' :: cs
    | '0' :: x :: cs => if x = 'x' ∨ x = 'X' then cs else '0' :: x :: cs
    | cs => cs
  match cs with
  | [] => none
  | c :: cs =>
    (hexValue c).bind fun v => (hexDigits v cs).map fun n => if negative then -(n : ℤ) else n

/-- `text.replace(word, "")`; `skip` characters of the last match are still to be dropped. -/
def dropWord (word : List Char) : ℕ → List Char → List Char
  | _, [] => []
  | skip + 1, _ :: cs => dropWord word skip cs
  | 0, c :: cs =>
    if word.isPrefixOf (c :: cs) then dropWord word (word.length - 1) cs
    else c :: dropWord word 0 cs

/-- `uuid.UUID(text)`. -/
def uuidOf (text : String) : Option Uuid :=
  let hex := dropWord "uuid:".toList 0 (dropWord "urn:".toList 0 text.toList)
  let brace : Char → Bool := fun c => c = '{' ∨ c = '}'
  let hex := ((hex.dropWhile brace).reverse.dropWhile brace).reverse
  let hex := hex.filter (· ≠ '-')
  if hex.length ≠ 32 then none
  else
    match int16 (String.ofList hex) with
    | some n => if 0 ≤ n ∧ n < 2 ^ 128 then some n.toNat else none
    | none => none

end UuidText

/-- The settings that the limiter and the auth dependencies read. -/
structure GateSettings where
  cognitoUserPoolId : Option String := none
  cognitoRegion : Option String := none
  cognitoIssuer : Option String := none
  rateLimitResearch : String := "20/minute"
  runEnv : String := "local"

/-- What the gate looks at in a request. -/
structure HttpRequest where
  tenantHeader : Option String := none
  actorHeader : Option String := none
  /-- The bearer token, if there is one. -/
  credentials : Option String := none
  /-- `request.client.host`. -/
  client : Option String := none
  deriving DecidableEq, Repr

/-- A value in a token: its truth and its `str`. -/
structure ClaimValue where
  truth : Bool
  text : String

structure TokenClaims where
  sub : Option String := none
  customTenantId : Option ClaimValue := none
  tenantId : Option ClaimValue := none

/-- How `jwt.decode` ends: with the claims, with a `JWTError`, or with an error that is none. -/
inductive Decoded
  | claims (payload : TokenClaims)
  | invalid
  | escaped

/-- A parsed rate: so many hits in so many seconds. -/
structure RateLimitItem where
  amount : ℕ
  expiry : ℕ

inductive GateError
  | http (status : ℕ) (detail : String)
  /-- An exception that no handler of the gate expects. -/
  | raised
  deriving DecidableEq, Repr

/-- The packages the gate relies on. -/
structure GateServices where
  /-- `jwt.decode` as `get_actor_id` calls it. -/
  decode : String → Decoded
  /-- `limits.parse`. -/
  parse : String → Option RateLimitItem
  /-- `MovingWindowRateLimiter.hit`. -/
  hit : RateLimitItem → Limiter String

section Gate

variable [PyText] (cfg : GateSettings) (svc : GateServices)

/-- `_jwt_auth_enabled` -/
def jwtAuthEnabled : Bool :=
  truthy cfg.cognitoUserPoolId && truthy cfg.cognitoRegion && truthy cfg.cognitoIssuer

/-- A header that has to be there and to spell a UUID. -/
def headerUuid (name : String) (header : Option String) : Except GateError Uuid :=
  match header.filter (· ≠ "") with
  | none => .error (.http 401 ("Missing " ++ name))
  | some text =>
    match uuidOf text with
    | some id => .ok id
    | none => .error (.http 401 ("Invalid " ++ name))

/-- `get_actor_id`: the actor, and the token's claims for `request.state`. -/
def getActorId (r : HttpRequest) : Except GateError (Uuid × Option TokenClaims) :=
  if jwtAuthEnabled cfg then
    match r.credentials with
    | none => .error (.http 401 "Missing Authorization Bearer token")
    | some token =>
      match svc.decode token with
      | .invalid => .error (.http 401 "Invalid or expired token")
      | .escaped => .error .raised
      | .claims payload =>
        match payload.sub.filter (· ≠ "") with
        | none => .error (.http 401 "Token missing 'sub' claim")
        | some sub =>
          match uuidOf sub with
          | some actor => .ok (actor, some payload)
          | none => .error (.http 401 "Invalid 'sub' in token")
  else (headerUuid "X-Actor-Id" r.actorHeader).map fun actor => (actor, none)

/-- `get_tenant_id`, with what `get_actor_id` has put into `request.state`. -/
def getTenantId (payload : Option TokenClaims) (r : HttpRequest) : Except GateError Uuid :=
  if jwtAuthEnabled cfg then
    match payload with
    | none => .error (.http 401 "Token not validated")
    | some payload =>
      match (payload.customTenantId.filter ClaimValue.truth).or
          (payload.tenantId.filter ClaimValue.truth) with
      | none => .error (.http 401 "Token missing tenant claim")
      | some tenant =>
        match uuidOf tenant.text with
        | some id => .ok id
        | none => .error (.http 401 "Invalid tenant id in token")
  else headerUuid "X-Tenant-Id" r.tenantHeader

/-- The actor and the tenant of a request. -/
def authenticate (r : HttpRequest) : Except GateError (Uuid × Uuid) := do
  let (actor, payload) ← getActorId cfg svc r
  let tenant ← getTenantId cfg payload r
  return (actor, tenant)

/-- The tenant that a request authenticates as. -/
def tenantOf (r : HttpRequest) : Option Uuid := (authenticate cfg svc r).toOption.map Prod.snd

/-- `_identity` -/
def identity (r : HttpRequest) : String :=
  (r.tenantHeader.filter (· ≠ "")).getD (r.client.getD "anon")

/-- The limiter's key for a request. -/
def identifier (r : HttpRequest) : String := "research:" ++ identity r

/-- The limit is neither switched off nor in the test environment. -/
def GateSettings.enforced : Bool := cfg.rateLimitResearch ≠ "" ∧ cfg.runEnv ≠ "test"

/-- `rate_limit`, with the limiter's history before and after. -/
def rateLimit (past : List (Hit String)) (now : ℕ) (r : HttpRequest) :
    Except GateError Unit × List (Hit String) :=
  if cfg.enforced then
    match svc.parse cfg.rateLimitResearch with
    | none => (.error .raised, past)
    | some item =>
      let admitted := svc.hit item past (identifier r) now
      (if admitted then .ok () else .error (.http 429 "Rate limit exceeded"),
        ⟨identifier r, now, admitted⟩ :: past)
  else (.ok (), past)

/-- The dependencies of `create_research_job`: the limiter goes first. -/
def gate (past : List (Hit String)) (now : ℕ) (r : HttpRequest) :
    Except GateError (Uuid × Uuid) × List (Hit String) :=
  let (limited, past) := rateLimit cfg svc past now r
  (limited.bind fun _ => authenticate cfg svc r, past)

/-- Requests in the order they come in, each with what the gate makes of it. -/
def gates : List (Hit String) → List (ℕ × HttpRequest) →
    List (ℕ × HttpRequest × Except GateError (Uuid × Uuid))
  | _, [] => []
  | past, (now, r) :: reqs =>
    let out := gate cfg svc past now r
    (now, r, out.1) :: gates out.2 reqs

/-- The gate let the request through as one of the tenant's. -/
def passedAs (t : Uuid) (out : Except GateError (Uuid × Uuid)) : Bool :=
  out.toOption.any fun ids => ids.2 = t

/-- For requests of a kind, no window lets more through for one tenant than the rate allows, and
what a tenant is answered does not depend on the requests of other tenants. -/
structure BindsPerTenant (item : RateLimitItem) (kind : Set HttpRequest) : Prop where
  limit : ∀ reqs, (∀ q ∈ reqs, q.2 ∈ kind) → ∀ t first,
    ((gates cfg svc [] reqs).countP fun s =>
      passedAs t s.2.2 ∧ first ≤ s.1 ∧ s.1 ≤ first + item.expiry) ≤ item.amount
  alone : ∀ reqs, (∀ q ∈ reqs, q.2 ∈ kind) → ∀ t,
    (gates cfg svc [] reqs).filter (fun s => tenantOf cfg svc s.2.1 = some t) =
      (gates cfg svc [] (withoutOthers (tenantOf cfg svc) t reqs)).filter fun s =>
        tenantOf cfg svc s.2.1 = some t

end Gate

section Partition

variable [PyText] {cfg : GateSettings} {svc : GateServices} {item : RateLimitItem}

/-- What the gate makes of a request that the limiter has answered. -/
def answered (cfg : GateSettings) (svc : GateServices) (s : ℕ × HttpRequest × Bool) :
    ℕ × HttpRequest × Except GateError (Uuid × Uuid) :=
  (s.1, s.2.1,
    if s.2.2 then authenticate cfg svc s.2.1 else .error (.http 429 "Rate limit exceeded"))

/-- The gate is the limiter, hit by the identity of the request. -/
theorem gates_eq (hon : cfg.enforced = true) (hparse : svc.parse cfg.rateLimitResearch = some item)
    (past : List (Hit String)) (reqs : List (ℕ × HttpRequest)) :
    gates cfg svc past reqs = (serve (svc.hit item) identifier past reqs).map (answered cfg svc) := by
  induction reqs generalizing past with
  | nil => rfl
  | cons q reqs ih =>
    obtain ⟨now, r⟩ := q
    simp only [gates, serve, gate, rateLimit, hon, hparse, if_true, ih, List.map_cons, answered]
    cases svc.hit item past (identifier r) now <;> rfl

theorem tenantOf_eq_some {r : HttpRequest} {t : Uuid} (h : tenantOf cfg svc r = some t) :
    ∃ actor, authenticate cfg svc r = .ok (actor, t) := by
  unfold tenantOf at h
  cases hauth : authenticate cfg svc r with
  | error e =>
    rw [hauth] at h
    cases h
  | ok ids =>
    rw [hauth] at h
    obtain rfl := Option.some.inj h
    exact ⟨ids.1, rfl⟩

/-- A request passes as a tenant's if it is one of the tenant's and the limiter admits it. -/
theorem passedAs_answered (t : Uuid) (s : ℕ × HttpRequest × Bool) :
    passedAs t (answered cfg svc s).2.2 = true ↔ tenantOf cfg svc s.2.1 = some t ∧ s.2.2 = true := by
  obtain ⟨now, r, b⟩ := s
  unfold answered passedAs tenantOf
  cases b with
  | false => exact iff_of_false (by simp [Except.toOption]) (by simp)
  | true => cases authenticate cfg svc r <;> simp [Except.toOption]

/-- The answer of the limiter to a tenant's request can be read off what the gate makes of it. -/
theorem answered_injective {t : Uuid} {as bs : List (ℕ × HttpRequest × Bool)}
    (ha : ∀ s ∈ as, tenantOf cfg svc s.2.1 = some t) (hb : ∀ s ∈ bs, tenantOf cfg svc s.2.1 = some t)
    (h : as.map (answered cfg svc) = bs.map (answered cfg svc)) : as = bs := by
  have back : ∀ ss : List (ℕ × HttpRequest × Bool), (∀ s ∈ ss, tenantOf cfg svc s.2.1 = some t) →
      (ss.map (answered cfg svc)).map (fun s => (s.1, s.2.1, passedAs t s.2.2)) = ss := by
    intro ss hss
    rw [List.map_map]
    refine (List.map_congr_left fun s hs => ?_).trans (List.map_id ss)
    have hpass : passedAs t (answered cfg svc s).2.2 = s.2.2 := by
      rw [Bool.eq_iff_iff, passedAs_answered]
      exact and_iff_right (hss s hs)
    simp only [Function.comp_apply, hpass]
    rfl
  rw [← back as ha, h, back bs hb]

/-- The limit binds the tenants as the limiter binds the owners of its keys. -/
theorem bindsPerTenant_iff (hon : cfg.enforced = true)
    (hparse : svc.parse cfg.rateLimitResearch = some item) (kind : Set HttpRequest) :
    BindsPerTenant cfg svc item kind ↔
      Binds (svc.hit item) identifier (tenantOf cfg svc) item.amount item.expiry kind := by
  have hlimit : ∀ reqs t first, ((gates cfg svc [] reqs).countP fun s =>
      passedAs t s.2.2 ∧ first ≤ s.1 ∧ s.1 ≤ first + item.expiry) =
        admittedOf (tenantOf cfg svc) t first (first + item.expiry)
          (serve (svc.hit item) identifier [] reqs) := by
    intro reqs t first
    rw [gates_eq hon hparse, List.countP_map, admittedOf]
    refine List.countP_congr fun s _ => ?_
    simp only [Function.comp_apply, decide_eq_true_eq, passedAs_answered, and_assoc]
    rfl
  have halone : ∀ reqs t, ((gates cfg svc [] reqs).filter fun s => tenantOf cfg svc s.2.1 = some t) =
      (answersOf (tenantOf cfg svc) t (serve (svc.hit item) identifier [] reqs)).map
        (answered cfg svc) := by
    intro reqs t
    rw [gates_eq hon hparse, List.filter_map]
    rfl
  constructor
  · intro h
    refine ⟨fun reqs hreqs t first => ?_, fun reqs hreqs t => ?_⟩
    · rw [← hlimit]
      exact h.limit reqs hreqs t first
    · have hsame := h.alone reqs hreqs t
      rw [halone, halone] at hsame
      refine answered_injective (t := t) (fun s hs => ?_) (fun s hs => ?_) hsame
      · exact of_decide_eq_true (List.mem_filter.mp hs).2
      · exact of_decide_eq_true (List.mem_filter.mp hs).2
  · intro h
    refine ⟨fun reqs hreqs t first => ?_, fun reqs hreqs t => ?_⟩
    · rw [hlimit]
      exact h.limit reqs hreqs t first
    · rw [halone, halone, h.alone reqs hreqs t]

omit [PyText] in
theorem identifier_inj {r r' : HttpRequest} : identifier r = identifier r' ↔
    identity r = identity r' := by
  unfold identifier
  constructor
  · intro h
    have hlist := congrArg String.toList h
    rw [String.toList_append, String.toList_append] at hlist
    exact String.toList_injective (List.append_cancel_left hlist)
  · intro h
    rw [h]

/-- With the limit enforced, it binds every tenant on its own exactly when it admits nothing at
all, or two authenticated requests have the same header text or address just when they have the
same tenant. -/
theorem rate_limit_per_tenant_iff (cfg : GateSettings) (svc : GateServices) (item : RateLimitItem)
    (hon : cfg.enforced = true) (hparse : svc.parse cfg.rateLimitResearch = some item)
    (hhit : Admits (svc.hit item) item.amount item.expiry) (kind : Set HttpRequest) :
    BindsPerTenant cfg svc item kind ↔ item.amount = 0 ∨ ∀ r ∈ kind, ∀ r' ∈ kind, ∀ t t',
      tenantOf cfg svc r = some t → tenantOf cfg svc r' = some t' →
        (identity r = identity r' ↔ t = t') := by
  rw [bindsPerTenant_iff hon hparse, hhit.binds_iff]
  simp only [identifier_inj]

end Partition

section Concrete

open scoped PyText.Ascii

/-- Twenty hits a minute, and no token that decodes. -/
def sampleServices : GateServices where
  decode _ := .invalid
  parse _ := some ⟨20, 60⟩
  hit item := movingWindow item.amount item.expiry

def tenantRequest (header : String) : HttpRequest :=
  { tenantHeader := some header, actorHeader := some "00000000000000000000000000000001" }

theorem two_tenants_bound : BindsPerTenant {} sampleServices ⟨20, 60⟩
    {r | r ∈ [tenantRequest "0000000000000000000000000000000a",
      tenantRequest "0000000000000000000000000000000b"]} := by
  refine (rate_limit_per_tenant_iff {} sampleServices ⟨20, 60⟩ (by decide) rfl
    (admits_movingWindow 20 60) _).mpr (Or.inr ?_)
  have hpairs : ∀ r ∈ [tenantRequest "0000000000000000000000000000000a",
      tenantRequest "0000000000000000000000000000000b"],
      ∀ r' ∈ [tenantRequest "0000000000000000000000000000000a",
        tenantRequest "0000000000000000000000000000000b"],
      (identity r = identity r' ↔ tenantOf {} sampleServices r = tenantOf {} sampleServices r') := by
    decide +kernel
  intro r hr r' hr' t t' ht ht'
  rw [hpairs r hr r' hr', ht, ht', Option.some.injEq]

/-- One tenant spells its UUID in two ways. -/
def twoSpellings : List (ℕ × HttpRequest) :=
  List.replicate 20 (0, tenantRequest "0000000000000000000000000000000a") ++
    [(0, tenantRequest "0000000000000000000000000000000A")]

theorem two_spellings_exceed_limit :
    ((gates {} sampleServices [] twoSpellings).countP fun s => passedAs 10 s.2.2) = 21 ∧
      ¬ ∀ (cfg : GateSettings) (svc : GateServices) (item : RateLimitItem),
        cfg.enforced = true → svc.parse cfg.rateLimitResearch = some item →
        Admits (svc.hit item) item.amount item.expiry →
        BindsPerTenant cfg svc item Set.univ := by
  have hcount : ((gates {} sampleServices [] twoSpellings).countP fun s =>
      passedAs 10 s.2.2 ∧ 0 ≤ s.1 ∧ s.1 ≤ 0 + 60) = 21 := by decide +kernel
  refine ⟨by decide +kernel, fun hall => ?_⟩
  have hbound := (hall {} sampleServices ⟨20, 60⟩ (by decide) rfl
    (admits_movingWindow 20 60)).limit twoSpellings (fun _ _ => trivial) 10 0
  rw [hcount] at hbound
  exact absurd hbound (by decide)

end Concrete

end RateLimit
end ResearchEngine
