import SanTanHeights.Foundation.Calendar
import SanTanHeights.Foundation.Hmac
import SanTanHeights.Shared.Textual

/-!
# Service authentication

`ServiceIdentityRegistry`, the signature of an assertion and
`ServiceAuthenticationBoundary`.  An assertion is accepted when its signature
is the keyed hash of its own payload, so what was signed is what is accepted.
Exceptions are given by their messages.
-/

namespace SanTanHeights.Security

open Foundation Foundation.Calendar Foundation.Outcome Shared

/-! ## Identities -/

inductive ServiceStatus where
  | active
  | disabled
  deriving DecidableEq, Repr

structure ServiceIdentity where
  serviceId : String
  status : ServiceStatus
  trustTier : String
  databaseRole : String
  allowedAuthMethods : List String
  capabilities : List String
  deriving DecidableEq

/-- `ServiceIdentityRegistry`, whose constructor rejects repeated services and
roles. -/
structure ServiceIdentityRegistry where
  services : List ServiceIdentity
  distinctServices : (services.map ServiceIdentity.serviceId).Nodup
  distinctRoles : (services.map ServiceIdentity.databaseRole).Nodup

namespace ServiceIdentityRegistry

/-- `get`. -/
def get (registry : ServiceIdentityRegistry) (serviceId : String) :
    Except String ServiceIdentity :=
  orRaise
    (registry.services.find? fun identity => identity.serviceId = serviceId)
    ("unknown service_id: " ++ serviceId)

/-- `require_active`. -/
def requireActive (registry : ServiceIdentityRegistry) (serviceId : String) :
    Except String ServiceIdentity := do
  let identity ← registry.get serviceId
  require (identity.status = .active) ("service disabled: " ++ serviceId)
  return identity

theorem requireActive_eq_ok {registry : ServiceIdentityRegistry} {serviceId : String}
    {identity : ServiceIdentity} :
    registry.requireActive serviceId = .ok identity ↔
      registry.get serviceId = .ok identity ∧ identity.status = .active := by
  unfold requireActive
  rw [bind_eq_ok]
  constructor
  · rintro ⟨found, known, checked⟩
    obtain ⟨active, same⟩ := require_bind_eq_ok.mp checked
    rw [← pure_eq_ok.mp same]
    exact ⟨known, active⟩
  · rintro ⟨known, active⟩
    exact ⟨identity, known, require_bind_eq_ok.mpr ⟨active, rfl⟩⟩

end ServiceIdentityRegistry

/-! ## Timestamps -/

/-- A `datetime`: what its own clock shows, in microseconds of the calendar,
and how far that is from UTC unless it is naive. -/
structure Datetime where
  shown : Instant
  utcOffset : Option Int
  deriving DecidableEq

/-- An instant of the calendar at a number of microseconds. -/
def instantAt (micros : Int) : Option Instant :=
  if within : micros.toNat < maxOrdinal * microsPerDay then
    if 0 ≤ micros then some ⟨micros.toNat, within⟩ else none
  else none

@[simp] theorem instantAt_micros (instant : Instant) :
    instantAt instant.micros = some instant := by
  simp [instantAt, instant.within]

/-- `_utc`. -/
def utc (datetime : Datetime) : Except String Instant := do
  let offset ← orRaise datetime.utcOffset "timestamps must be timezone-aware"
  orRaise (instantAt (datetime.shown.micros - offset)) "date value out of range"

/-- `dt.isoformat().replace('+00:00','Z')`, in UTC. -/
def timestamp (instant : Instant) : String :=
  Text.replace "+00:00" "Z" (isoformat instant.micros)

theorem timestamp_injective : Function.Injective timestamp := by
  intro left right same
  unfold timestamp at same
  rw [replace_isoformat, replace_isoformat, String.ofList_inj] at same
  exact isoLocal_injective (List.append_cancel_right same)

/-! ## Signatures -/

structure SignedServiceAssertion where
  serviceId : String
  credentialId : String
  authMethod : String
  audience : String
  issuedAt : Datetime
  expiresAt : Datetime
  nonce : String
  signature : String
  deriving DecidableEq

/-- What the signature of an assertion covers. -/
@[ext] structure AssertionClaims where
  serviceId : String
  credentialId : String
  authMethod : String
  audience : String
  issuedAt : Instant
  expiresAt : Instant
  nonce : String
  deriving DecidableEq

/-- What an assertion claims, its times in UTC. -/
def SignedServiceAssertion.claims (assertion : SignedServiceAssertion) :
    Except String AssertionClaims := do
  let issued ← utc assertion.issuedAt
  let expires ← utc assertion.expiresAt
  return {
    serviceId := assertion.serviceId
    credentialId := assertion.credentialId
    authMethod := assertion.authMethod
    audience := assertion.audience
    issuedAt := issued
    expiresAt := expires
    nonce := assertion.nonce }

def AssertionClaims.members (claims : AssertionClaims) : List (String × Json) :=
  [("service_id", .str claims.serviceId), ("credential_id", .str claims.credentialId),
    ("auth_method", .str claims.authMethod), ("audience", .str claims.audience),
    ("issued_at", .str (timestamp claims.issuedAt)),
    ("expires_at", .str (timestamp claims.expiresAt)), ("nonce", .str claims.nonce)]

/-- The dictionary of some claims. -/
def AssertionClaims.payload (claims : AssertionClaims) : Json :=
  .obj claims.members

/-- `canonical_json(assertion_payload(assertion))`. -/
def payloadText (assertion : SignedServiceAssertion) :
    Except String String := do
  let claims ← assertion.claims
  orRaise (canonicalJson claims.payload) "payload is not canonical JSON"

/-- The keyed hash of a text. -/
def hmacText (key : List Nat) (text : String) : List Nat :=
  Sha256.hmac key (Sha256.utf8 text.toList)

/-- The signature that stands for a keyed hash. -/
def signatureText (digest : List Nat) : String :=
  String.ofList (Decimal.rstrip '=' (Base64.urlsafe digest))

/-- `sign_hmac_sha256`. -/
def signHmacSha256 (assertion : SignedServiceAssertion) (key : List Nat) :
    Except String String := do
  let text ← payloadText assertion
  return signatureText (hmacText key text)

/-! ## The boundary -/

structure AuthenticatedServicePrincipal where
  serviceId : String
  databaseRole : String
  trustTier : String
  capabilities : List String
  credentialId : String
  authenticatedAt : Instant
  deriving DecidableEq

/-- `key_resolver`. -/
abbrev KeyResolver := String → String → Option (List Nat)

/-- `ServiceAuthenticationBoundary`, without its key resolver: what that
answers may change from call to call.  Durations are in microseconds. -/
structure ServiceAuthenticationBoundary where
  registry : ServiceIdentityRegistry
  expectedAudience : String
  maxTtl : Int
  clockSkew : Int

/-- A text of ASCII characters, which `hmac.compare_digest` requires. -/
def IsAscii (text : String) : Prop :=
  ∀ char ∈ text.toList, char.toNat < 128

instance (text : String) : Decidable (IsAscii text) :=
  inferInstanceAs (Decidable (∀ char ∈ text.toList, _))

/-- An instant in microseconds. -/
def Instant.time (instant : Instant) : Int :=
  instant.micros

/-- `ServiceAuthenticationBoundary.authenticate`, at the given time or at that
of the clock. -/
def ServiceAuthenticationBoundary.authenticate
    (boundary : ServiceAuthenticationBoundary) (keyResolver : KeyResolver)
    (assertion : SignedServiceAssertion) (now : Datetime) :
    Except String AuthenticatedServicePrincipal := do
  let identity ← boundary.registry.requireActive assertion.serviceId
  require (assertion.authMethod ∈ identity.allowedAuthMethods)
    "authentication method not allowed"
  require (assertion.authMethod = "HMAC_SHA256_ASSERTION")
    "unsupported authentication method"
  require (assertion.audience = boundary.expectedAudience) "invalid audience"
  let issued ← utc assertion.issuedAt
  let expires ← utc assertion.expiresAt
  let current ← utc now
  require (issued.micros < expires.micros ∧
      Instant.time expires - Instant.time issued ≤ boundary.maxTtl)
    "invalid assertion lifetime"
  require (Instant.time issued - Instant.time current ≤ boundary.clockSkew)
    "assertion issued in future"
  require (Instant.time current - Instant.time expires ≤ boundary.clockSkew)
    "assertion expired"
  require (16 ≤ assertion.nonce.length) "nonce too short"
  let key ← orRaise
    ((keyResolver assertion.serviceId assertion.credentialId).filter fun key => key ≠ [])
    "unknown credential"
  let expected ← signHmacSha256 assertion key
  require (IsAscii assertion.signature)
    "comparing strings with non-ASCII characters is not supported"
  require (expected = assertion.signature) "invalid signature"
  return {
    serviceId := identity.serviceId
    databaseRole := identity.databaseRole
    trustTier := identity.trustTier
    capabilities := identity.capabilities
    credentialId := assertion.credentialId
    authenticatedAt := current }

/-! ## What a signature binds -/

/-- The keys of every payload. -/
theorem AssertionClaims.map_fst_members (claims : AssertionClaims) :
    claims.members.map Prod.fst =
      ["service_id", "credential_id", "auth_method", "audience", "issued_at",
        "expires_at", "nonce"] := rfl

theorem AssertionClaims.payload_textual (claims : AssertionClaims) :
    Textual claims.payload := by
  unfold payload
  rw [textual_obj, IsTagged, map_fst_members]
  refine ⟨by decide, by decide, ?_⟩
  simp [members]

/-- The canonical text of a payload tells the claims. -/
theorem AssertionClaims.eq_of_canonicalJson {claims other : AssertionClaims}
    (same : canonicalJson claims.payload = canonicalJson other.payload) :
    claims = other := by
  have equal := claims.payload_textual.same_of_canonicalJson_eq other.payload_textual same
  have distinct : (claims.members.map Prod.fst).Nodup := by
    rw [map_fst_members]
    decide
  have sameKeys : claims.members.map Prod.fst =
      other.members.map Prod.fst := by
    rw [map_fst_members, map_fst_members]
  have parts := forall₂_of_same_obj equal sameKeys distinct
  unfold members at parts
  simp only [List.forall₂_cons, same_str] at parts
  obtain ⟨service, credential, method, audience, issued, expires, nonce, -⟩ := parts
  exact AssertionClaims.ext service credential method audience
    (timestamp_injective issued) (timestamp_injective expires) nonce

theorem payloadText_eq_ok {assertion : SignedServiceAssertion} {text : String} :
    payloadText assertion = .ok text ↔ ∃ claims, assertion.claims = .ok claims ∧
        canonicalJson claims.payload = some text := by
  simp only [payloadText, bind_eq_ok, orRaise_eq_ok]

theorem signHmacSha256_eq_ok {assertion : SignedServiceAssertion} {key : List Nat}
    {signature : String} :
    signHmacSha256 assertion key = .ok signature ↔
      ∃ text, payloadText assertion = .ok text ∧ signatureText (hmacText key text) = signature := by
  simp only [signHmacSha256, bind_eq_ok, pure_eq_ok]

/-- The signature of a keyed hash tells it. -/
theorem signatureText_hmacText_inj {key : List Nat} {left right : String}
    (same : signatureText (hmacText key left) = signatureText (hmacText key right)) :
    hmacText key left = hmacText key right := by
  have small : ∀ text, ∀ byte ∈ hmacText key text, byte < 256 :=
    fun text byte present => Sha256.lt_of_mem_hmac present
  unfold signatureText at same
  rw [String.ofList_inj, Base64.rstrip_urlsafe (small left),
    Base64.rstrip_urlsafe (small right)] at same
  exact Base64.unpadded_inj (small left) (small right) same

theorem isAscii_signatureText (key : List Nat) (text : String) :
    IsAscii (signatureText (hmacText key text)) := by
  have small : ∀ byte ∈ hmacText key text, byte < 256 :=
    fun byte present => Sha256.lt_of_mem_hmac present
  unfold IsAscii signatureText
  rw [String.toList_ofList, Base64.rstrip_urlsafe small]
  exact fun char present => (Base64.plain_of_mem_unpadded small present).1

/-- The texts that some assertions sign. -/
def payloadTexts (assertions : Set SignedServiceAssertion) : Set String :=
  { text | ∃ assertion ∈ assertions, payloadText assertion = .ok text }

/-- A signature that two assertions share was made for the same claims. -/
theorem claims_eq_of_signature
    {signed presented : SignedServiceAssertion} {key : List Nat} {signature : String}
    (injective : Set.InjOn (hmacText key) (payloadTexts {signed, presented}))
    (produced : signHmacSha256 signed key = .ok signature)
    (expected : signHmacSha256 presented key = .ok signature) :
    presented.claims = signed.claims := by
  obtain ⟨text, written, digest⟩ := signHmacSha256_eq_ok.mp produced
  obtain ⟨other, otherWritten, otherDigest⟩ := signHmacSha256_eq_ok.mp expected
  have sameDigest := signatureText_hmacText_inj (digest.trans otherDigest.symm)
  have same := injective ⟨signed, .inl rfl, written⟩ ⟨presented, .inr rfl, otherWritten⟩ sameDigest
  obtain ⟨claims, claimed, canonical⟩ := payloadText_eq_ok.mp written
  obtain ⟨others, otherClaimed, otherCanonical⟩ := payloadText_eq_ok.mp otherWritten
  rw [claimed, otherClaimed, AssertionClaims.eq_of_canonicalJson
    (canonical.trans ((congrArg some same).trans otherCanonical.symm))]

theorem claims_eq_ok {assertion : SignedServiceAssertion} {claims : AssertionClaims} :
    assertion.claims = .ok claims ↔ claims.serviceId = assertion.serviceId ∧
        claims.credentialId = assertion.credentialId ∧
        claims.authMethod = assertion.authMethod ∧
        claims.audience = assertion.audience ∧
        utc assertion.issuedAt = .ok claims.issuedAt ∧
        utc assertion.expiresAt = .ok claims.expiresAt ∧
        claims.nonce = assertion.nonce := by
  cases claims
  simp only [SignedServiceAssertion.claims, bind_eq_ok, pure_eq_ok, AssertionClaims.mk.injEq]
  constructor
  · rintro ⟨issued, issuedAt, expires, expiresAt, service, credential, method,
      audience, rfl, rfl, nonce⟩
    exact ⟨service.symm, credential.symm, method.symm, audience.symm,
      issuedAt, expiresAt, nonce.symm⟩
  · rintro ⟨service, credential, method, audience, issuedAt, expiresAt, nonce⟩
    exact ⟨_, issuedAt, _, expiresAt, service.symm, credential.symm,
      method.symm, audience.symm, rfl, rfl, nonce.symm⟩

/-! ## Acceptance -/

/-- The instant is within the lifetime of the claims, up to the skew. -/
def InWindow (boundary : ServiceAuthenticationBoundary) (claims : AssertionClaims)
    (current : Instant) : Prop :=
  Instant.time claims.issuedAt - boundary.clockSkew ≤ Instant.time current ∧
    Instant.time current ≤ Instant.time claims.expiresAt + boundary.clockSkew

/-- What is checked of an assertion, whenever it is presented. -/
structure Sound (boundary : ServiceAuthenticationBoundary)
    (assertion : SignedServiceAssertion) (identity : ServiceIdentity)
    (claims : AssertionClaims) (key : List Nat) : Prop where
  claimed : assertion.claims = .ok claims
  known : boundary.registry.get assertion.serviceId = .ok identity
  active : identity.status = .active
  allowed : assertion.authMethod ∈ identity.allowedAuthMethods
  method : assertion.authMethod = "HMAC_SHA256_ASSERTION"
  audience : assertion.audience = boundary.expectedAudience
  ordered : claims.issuedAt.micros < claims.expiresAt.micros
  lifetime : Instant.time claims.expiresAt - Instant.time claims.issuedAt ≤ boundary.maxTtl
  nonce : 16 ≤ assertion.nonce.length
  keyed : key ≠ []
  ascii : IsAscii assertion.signature
  signed : signHmacSha256 assertion key = .ok assertion.signature

variable {boundary : ServiceAuthenticationBoundary}

/-- An assertion is accepted when it is sound under the key that the resolver
gives for it, within its window. -/
theorem authenticate_eq_ok {keyResolver : KeyResolver} {assertion : SignedServiceAssertion}
    {now : Datetime} {principal : AuthenticatedServicePrincipal} :
    boundary.authenticate keyResolver assertion now = .ok principal ↔
      ∃ identity claims key current,
        Sound boundary assertion identity claims key ∧
        keyResolver assertion.serviceId assertion.credentialId = some key ∧
        utc now = .ok current ∧ InWindow boundary claims current ∧
        principal =
          ⟨identity.serviceId, identity.databaseRole, identity.trustTier,
            identity.capabilities, assertion.credentialId, current⟩ := by
  unfold ServiceAuthenticationBoundary.authenticate
  constructor
  · intro ran
    obtain ⟨identity, active, ran⟩ := bind_eq_ok.mp ran
    simp only [require_bind_eq_ok] at ran
    obtain ⟨allowed, method, audience, ran⟩ := ran
    obtain ⟨issued, issuedAt, ran⟩ := bind_eq_ok.mp ran
    obtain ⟨expires, expiresAt, ran⟩ := bind_eq_ok.mp ran
    obtain ⟨current, currentAt, ran⟩ := bind_eq_ok.mp ran
    simp only [require_bind_eq_ok] at ran
    obtain ⟨⟨ordered, lifetime⟩, early, late, nonce, ran⟩ := ran
    obtain ⟨key, resolved, ran⟩ := bind_eq_ok.mp ran
    obtain ⟨expected, signed, ran⟩ := bind_eq_ok.mp ran
    simp only [require_bind_eq_ok, pure_eq_ok] at ran
    obtain ⟨ascii, rfl, rfl⟩ := ran
    obtain ⟨known, isActive⟩ := ServiceIdentityRegistry.requireActive_eq_ok.mp active
    obtain ⟨found, keyed⟩ := Option.filter_eq_some_iff.mp (orRaise_eq_ok.mp resolved)
    refine ⟨identity, ⟨assertion.serviceId, assertion.credentialId,
      assertion.authMethod, assertion.audience, issued, expires,
      assertion.nonce⟩, key, current, ?_, found, currentAt, ?_, rfl⟩
    · exact
        { claimed := claims_eq_ok.mpr
            ⟨rfl, rfl, rfl, rfl, issuedAt, expiresAt, rfl⟩
          known := known
          active := isActive
          allowed := allowed
          method := method
          audience := audience
          ordered := ordered
          lifetime := lifetime
          nonce := nonce
          keyed := by simpa using keyed
          ascii := ascii
          signed := signed }
    · unfold InWindow
      dsimp only
      omega
  · rintro ⟨identity, claims, key, current, sound, found, currentAt, window, rfl⟩
    obtain ⟨-, -, -, -, issuedAt, expiresAt, -⟩ := claims_eq_ok.mp sound.claimed
    have resolved : (keyResolver assertion.serviceId
        assertion.credentialId).filter (fun key => key ≠ []) = some key := by
      rw [found]
      exact Option.filter_eq_some_iff.mpr ⟨rfl, by simpa using sound.keyed⟩
    unfold InWindow at window
    refine bind_eq_ok.mpr ⟨identity, ?_, ?_⟩
    · exact ServiceIdentityRegistry.requireActive_eq_ok.mpr ⟨sound.known, sound.active⟩
    rw [issuedAt, expiresAt, currentAt, resolved]
    simp only [require_bind_eq_ok]
    refine ⟨sound.allowed, sound.method, sound.audience, ?_⟩
    refine require_bind_eq_ok.mpr ⟨⟨sound.ordered, sound.lifetime⟩, ?_⟩
    refine require_bind_eq_ok.mpr ⟨by omega, ?_⟩
    refine require_bind_eq_ok.mpr ⟨by omega, ?_⟩
    refine require_bind_eq_ok.mpr ⟨sound.nonce, ?_⟩
    refine bind_eq_ok.mpr ⟨key, rfl, ?_⟩
    refine bind_eq_ok.mpr ⟨assertion.signature, sound.signed, ?_⟩
    refine require_bind_eq_ok.mpr ⟨sound.ascii, ?_⟩
    exact require_bind_eq_ok.mpr ⟨rfl, rfl⟩

/-- A window is not wider than the longest lifetime and twice the skew. -/
theorem InWindow.span_le {claims : AssertionClaims} {current other : Instant}
    (lifetime : Instant.time claims.expiresAt - Instant.time claims.issuedAt ≤ boundary.maxTtl)
    (window : InWindow boundary claims current) (otherWindow : InWindow boundary claims other) :
    Instant.time other - Instant.time current ≤ boundary.maxTtl + 2 * boundary.clockSkew := by
  unfold InWindow at window otherWindow
  omega

/-- Two times show the same instant. -/
def SameInstant (left right : Datetime) : Prop :=
  ∃ instant, utc left = .ok instant ∧ utc right = .ok instant

/-- An accepted assertion that carries the signature of another one agrees
with it on all that is signed, its service is active, and all times at which
it is accepted lie in one window. -/
theorem accepted_is_signed_and_live
    {boundary : ServiceAuthenticationBoundary} {keyResolver : KeyResolver}
    {signed presented : SignedServiceAssertion} {key : List Nat}
    {now : Datetime} {principal : AuthenticatedServicePrincipal}
    (injective : Set.InjOn (hmacText key) (payloadTexts {signed, presented}))
    (produced : signHmacSha256 signed key = .ok presented.signature)
    (resolved : keyResolver presented.serviceId presented.credentialId =
      some key)
    (accepted : boundary.authenticate keyResolver presented now =
      .ok principal) :
    (presented.serviceId = signed.serviceId ∧
      presented.credentialId = signed.credentialId ∧
      presented.authMethod = signed.authMethod ∧
      presented.audience = signed.audience ∧
      presented.nonce = signed.nonce ∧
      SameInstant presented.issuedAt signed.issuedAt ∧
      SameInstant presented.expiresAt signed.expiresAt) ∧
    (∃ identity, boundary.registry.get presented.serviceId = .ok identity ∧
      identity.status = .active) ∧
    (∃ claims current, signed.claims = .ok claims ∧ utc now = .ok current ∧
      InWindow boundary claims current) ∧
    ∀ (otherResolver : KeyResolver) (later : Datetime)
      (other : AuthenticatedServicePrincipal),
      boundary.authenticate otherResolver presented later = .ok other →
      Instant.time other.authenticatedAt -
          Instant.time principal.authenticatedAt ≤
        boundary.maxTtl + 2 * boundary.clockSkew := by
  obtain ⟨identity, claims, found, current, sound, foundKey, currentAt, window,
    rfl⟩ := authenticate_eq_ok.mp accepted
  obtain rfl : found = key := Option.some.inj (foundKey.symm.trans resolved)
  have same := claims_eq_of_signature injective produced sound.signed
  have claimed := sound.claimed
  rw [same] at claimed
  obtain ⟨service, credential, method, audience, issuedAt, expiresAt, nonce⟩ :=
    claims_eq_ok.mp claimed
  obtain ⟨ownService, ownCredential, ownMethod, ownAudience, ownIssuedAt,
    ownExpiresAt, ownNonce⟩ := claims_eq_ok.mp sound.claimed
  refine ⟨⟨ownService.symm.trans service, ownCredential.symm.trans credential,
    ownMethod.symm.trans method, ownAudience.symm.trans audience,
    ownNonce.symm.trans nonce, ⟨_, ownIssuedAt, issuedAt⟩,
    ⟨_, ownExpiresAt, expiresAt⟩⟩, ⟨identity, sound.known, sound.active⟩,
    ⟨claims, current, claimed, currentAt, window⟩, ?_⟩
  intro otherResolver later other again
  obtain ⟨otherIdentity, others, otherKey, otherCurrent, otherSound, -, -,
    otherWindow, rfl⟩ := authenticate_eq_ok.mp again
  have sameClaims := sound.claimed.symm.trans otherSound.claimed
  cases sameClaims
  exact window.span_le sound.lifetime otherWindow

/-! ## Runs -/

/-- A call, with what the key resolver answers in it. -/
structure AuthenticationCall where
  keyResolver : KeyResolver
  assertion : SignedServiceAssertion
  now : Datetime

/-- The key that is resolved in a call. -/
def AuthenticationCall.key (call : AuthenticationCall) : Option (List Nat) :=
  call.keyResolver call.assertion.serviceId call.assertion.credentialId

/-- The answers to the calls of a run.  The boundary has no state. -/
def ServiceAuthenticationBoundary.run (boundary : ServiceAuthenticationBoundary)
    (calls : List AuthenticationCall) :
    List (Except String AuthenticatedServicePrincipal) :=
  calls.map fun call =>
    boundary.authenticate call.keyResolver call.assertion call.now

/-- A call of a run is answered with a principal. -/
def Accepted (boundary : ServiceAuthenticationBoundary)
    (calls : List AuthenticationCall) (index : Nat) : Prop :=
  ∃ principal, (boundary.run calls)[index]? = some (.ok principal)

theorem accepted_iff {calls : List AuthenticationCall} {index : Nat} {call : AuthenticationCall}
    (found : calls[index]? = some call) :
    Accepted boundary calls index ↔
      ∃ principal, boundary.authenticate call.keyResolver call.assertion
        call.now = .ok principal := by
  simp [Accepted, ServiceAuthenticationBoundary.run, found]

/-- Nothing is remembered of an acceptance: in any run an assertion that one
call accepts is accepted by another under the same key exactly when that one
comes within the window of the assertion, so that the two are not further apart
than the window is wide. -/
theorem accepted_again_iff {boundary : ServiceAuthenticationBoundary}
    {calls : List AuthenticationCall} {first second : Nat}
    {call again : AuthenticationCall} (found : calls[first]? = some call)
    (foundAgain : calls[second]? = some again)
    (sameAssertion : again.assertion = call.assertion) (sameKey : again.key = call.key)
    (accepted : Accepted boundary calls first) :
    ∃ claims current, call.assertion.claims = .ok claims ∧
      utc call.now = .ok current ∧ InWindow boundary claims current ∧
      (Accepted boundary calls second ↔ ∃ later, utc again.now = .ok later ∧
          InWindow boundary claims later) ∧
      ∀ later, utc again.now = .ok later → Accepted boundary calls second →
        |Instant.time later - Instant.time current| ≤
          boundary.maxTtl + 2 * boundary.clockSkew := by
  obtain ⟨principal, ran⟩ := (accepted_iff found).mp accepted
  obtain ⟨identity, claims, key, current, sound, resolved, currentAt, window,
    -⟩ := authenticate_eq_ok.mp ran
  have reuse : Accepted boundary calls second ↔
      ∃ later, utc again.now = .ok later ∧
        InWindow boundary claims later := by
    rw [accepted_iff foundAgain]
    constructor
    · rintro ⟨other, ranAgain⟩
      obtain ⟨otherIdentity, others, otherKey, later, otherSound, -, laterAt,
        otherWindow, -⟩ := authenticate_eq_ok.mp ranAgain
      have same := otherSound.claimed
      rw [sameAssertion, sound.claimed] at same
      cases same
      exact ⟨later, laterAt, otherWindow⟩
    · rintro ⟨later, laterAt, otherWindow⟩
      have resolvedAgain : again.key = some key := sameKey.trans resolved
      refine ⟨_, authenticate_eq_ok.mpr ⟨identity, claims, key, later, ?_,
        resolvedAgain, laterAt, otherWindow, rfl⟩⟩
      rw [sameAssertion]
      exact sound
  refine ⟨claims, current, sound.claimed, currentAt, window, reuse, ?_⟩
  intro later laterAt acceptedAgain
  obtain ⟨other, otherAt, otherWindow⟩ := reuse.mp acceptedAgain
  cases laterAt.symm.trans otherAt
  have forwards := window.span_le sound.lifetime otherWindow
  have backwards := otherWindow.span_le sound.lifetime window
  exact abs_le.mpr ⟨by omega, by omega⟩

/-! ## Sample calls -/

/-- Some seconds into the calendar, on a clock some hours ahead of UTC. -/
def sampleDatetime (hours seconds : Fin 200) : Datetime where
  shown := ⟨(hours * 3600 + seconds) * 1000000, by
    unfold maxOrdinal microsPerDay
    omega⟩
  utcOffset := some (hours * 3600000000)

/-- An assertion for two minutes, written down on a clock some hours ahead of
UTC. -/
def sampleAssertion (hours : Fin 200) (signature : String) : SignedServiceAssertion where
  serviceId := "PUBLICATION_SERVICE"
  credentialId := "cred-1"
  authMethod := "HMAC_SHA256_ASSERTION"
  audience := "sth-internal"
  issuedAt := sampleDatetime hours 0
  expiresAt := sampleDatetime hours 120
  nonce := "1234567890abcdef"
  signature := signature

def sampleClaims : AssertionClaims where
  serviceId := "PUBLICATION_SERVICE"
  credentialId := "cred-1"
  authMethod := "HMAC_SHA256_ASSERTION"
  audience := "sth-internal"
  issuedAt := (sampleDatetime 0 0).shown
  expiresAt := (sampleDatetime 0 120).shown
  nonce := "1234567890abcdef"

def sampleIdentity : ServiceIdentity where
  serviceId := "PUBLICATION_SERVICE"
  status := .active
  trustTier := "INTERNAL"
  databaseRole := "sth_publication_service"
  allowedAuthMethods := ["HMAC_SHA256_ASSERTION"]
  capabilities := ["publication.write"]

def sampleBoundary : ServiceAuthenticationBoundary where
  registry := ⟨[sampleIdentity], by decide, by decide⟩
  expectedAudience := "sth-internal"
  maxTtl := 300000000
  clockSkew := 30000000

def sampleKey : List Nat :=
  [116, 101, 115, 116]

def sampleResolver : KeyResolver := fun _ credentialId =>
  if credentialId = "cred-1" then some sampleKey else none

theorem utc_sampleDatetime (hours seconds : Fin 200) :
    utc (sampleDatetime hours seconds) = .ok (sampleDatetime 0 seconds).shown := by
  have difference :
      ((sampleDatetime hours seconds).shown.micros : Int) - hours * 3600000000 =
        (sampleDatetime 0 seconds).shown.micros := by
    simp only [sampleDatetime, Fin.val_zero]
    omega
  refine bind_eq_ok.mpr ⟨hours * 3600000000, rfl, ?_⟩
  rw [difference, instantAt_micros]
  rfl

theorem sampleAssertion_claims (hours : Fin 200) (signature : String) :
    (sampleAssertion hours signature).claims = .ok sampleClaims :=
  claims_eq_ok.mpr ⟨rfl, rfl, rfl, rfl, utc_sampleDatetime hours 0,
    utc_sampleDatetime hours 120, rfl⟩

/-- The sample assertion can be signed, and the signed one is sound whichever
clock it was written down on. -/
theorem exists_sampleSignature :
    ∃ signature, signHmacSha256 (sampleAssertion 0 "") sampleKey =
        .ok signature ∧
      ∀ hours, Sound sampleBoundary (sampleAssertion hours signature)
        sampleIdentity sampleClaims sampleKey := by
  obtain ⟨text, written⟩ := sampleClaims.payload_textual.exists_canonicalJson
  let signature := signatureText (hmacText sampleKey text)
  have signs : ∀ assertion : SignedServiceAssertion,
      assertion.claims = .ok sampleClaims →
      signHmacSha256 assertion sampleKey = .ok signature := by
    intro assertion claimed
    have signedText := payloadText_eq_ok.mpr ⟨sampleClaims, claimed, written⟩
    exact signHmacSha256_eq_ok.mpr ⟨text, signedText, rfl⟩
  refine ⟨signature, signs _ (sampleAssertion_claims 0 ""), fun hours => ?_⟩
  have claimed := sampleAssertion_claims hours signature
  have long : 16 ≤ "1234567890abcdef".length := by decide
  exact ⟨claimed, rfl, rfl, List.mem_singleton_self _, rfl, rfl, by decide,
    by decide, long, by decide, isAscii_signatureText sampleKey text,
    signs _ claimed⟩

/-- It is accepted on every clock within its first minute. -/
theorem sampleAssertion_accepted {signature : String} {hours : Fin 200}
    (sound : Sound sampleBoundary (sampleAssertion hours signature)
      sampleIdentity sampleClaims sampleKey)
    (clock seconds : Fin 200) (early : seconds ≤ 60) :
    ∃ principal, sampleBoundary.authenticate sampleResolver
        (sampleAssertion hours signature) (sampleDatetime clock seconds) = .ok principal := by
  refine ⟨_, authenticate_eq_ok.mpr ⟨sampleIdentity, sampleClaims, sampleKey,
    _, sound, rfl, utc_sampleDatetime clock seconds, ?_, rfl⟩⟩
  have bound : (seconds : Nat) ≤ 60 := early
  simp only [InWindow, Instant.time, sampleClaims, sampleBoundary, sampleDatetime]
  omega

theorem accepted_is_signed_and_live_sample :
    ∃ signature principal,
      sampleBoundary.authenticate sampleResolver (sampleAssertion 2 signature)
          (sampleDatetime 1 60) = .ok principal ∧
      SameInstant (sampleAssertion 2 signature).issuedAt
        (sampleAssertion 0 "").issuedAt := by
  obtain ⟨signature, produced, sound⟩ := exists_sampleSignature
  obtain ⟨principal, accepted⟩ :=
    sampleAssertion_accepted (sound 2) 1 60 (Std.le_refl _)
  have sameTexts : Set.Subsingleton
      (payloadTexts {sampleAssertion 0 "", sampleAssertion 2 signature}) := by
    have same : ∀ hours signature, payloadText (sampleAssertion hours
        signature) = payloadText (sampleAssertion 0 "") := by
      intro hours signature
      rw [payloadText, payloadText, sampleAssertion_claims,
        sampleAssertion_claims]
    rintro text ⟨assertion, rfl | rfl, written⟩ other
      ⟨otherAssertion, rfl | rfl, otherWritten⟩ <;>
    · rw [same] at written otherWritten
      exact Except.ok.inj (written.symm.trans otherWritten)
  obtain ⟨⟨-, -, -, -, -, sameIssued, -⟩, -⟩ :=
    accepted_is_signed_and_live (sameTexts.injOn _) produced rfl accepted
  exact ⟨signature, principal, accepted, sameIssued⟩

/-- The sample assertion presented after some seconds. -/
def samplePresented (signature : String) (seconds : Fin 200) : AuthenticationCall :=
  ⟨sampleResolver, sampleAssertion 0 signature, sampleDatetime 0 seconds⟩

/-- The sample assertion presented at once and after a minute. -/
def sampleReplay (signature : String) : List AuthenticationCall :=
  [samplePresented signature 0, samplePresented signature 60]

theorem sampleReplay_get (signature : String) :
    (sampleReplay signature)[0]? = some (samplePresented signature 0) ∧
      (sampleReplay signature)[1]? = some (samplePresented signature 60) :=
  ⟨rfl, rfl⟩

theorem sampleReplay_accepted :
    ∃ signature, Accepted sampleBoundary (sampleReplay signature) 0 ∧
      Accepted sampleBoundary (sampleReplay signature) 1 := by
  obtain ⟨signature, -, sound⟩ := exists_sampleSignature
  obtain ⟨found, foundAgain⟩ := sampleReplay_get signature
  refine ⟨signature, ?_, ?_⟩
  · exact (accepted_iff found).mpr (sampleAssertion_accepted (sound 0) 0 0 (by decide))
  · exact (accepted_iff foundAgain).mpr (sampleAssertion_accepted (sound 0) 0 60 (by decide))

theorem accepted_again_iff_sample :
    ∃ signature claims current,
      (sampleAssertion 0 signature).claims = .ok claims ∧
      utc (sampleDatetime 0 0) = .ok current ∧
      InWindow sampleBoundary claims current ∧
      (Accepted sampleBoundary (sampleReplay signature) 1 ↔
        ∃ later, utc (sampleDatetime 0 60) = .ok later ∧
          InWindow sampleBoundary claims later) := by
  obtain ⟨signature, accepted, -⟩ := sampleReplay_accepted
  obtain ⟨found, foundAgain⟩ := sampleReplay_get signature
  obtain ⟨claims, current, claimed, currentAt, window, reuse, -⟩ :=
    accepted_again_iff found foundAgain rfl rfl accepted
  exact ⟨signature, claims, current, claimed, currentAt, window, reuse⟩

/-- An assertion is accepted twice. -/
theorem assertion_accepted_twice :
    ∃ (boundary : ServiceAuthenticationBoundary)
      (calls : List AuthenticationCall) (call again : AuthenticationCall)
      (first second : Nat),
      first < second ∧ calls[first]? = some call ∧
      calls[second]? = some again ∧
      again.assertion.serviceId = call.assertion.serviceId ∧
      again.assertion.credentialId = call.assertion.credentialId ∧
      again.assertion.nonce = call.assertion.nonce ∧
      Accepted boundary calls first ∧ Accepted boundary calls second := by
  obtain ⟨signature, accepted, acceptedAgain⟩ := sampleReplay_accepted
  obtain ⟨found, foundAgain⟩ := sampleReplay_get signature
  exact ⟨sampleBoundary, sampleReplay signature, _, _, 0, 1, by decide, found,
    foundAgain, rfl, rfl, rfl, accepted, acceptedAgain⟩

end SanTanHeights.Security
