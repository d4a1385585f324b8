import Attestation.Engine
import Attestation.Proofs.Jwt.Verification

/-!
Verification of tokens from end to end: the claims that are judged are the ones that were signed,
and they are handed out unchanged.
-/
namespace Attestation

open Checks

namespace Azure

theorem judge_eq_ok {regions : List String} {expectedKey : Option String} {claims : Json}
    {c : EnclaveClaims} {event : LogEvent} :
    judge regions expectedKey claims = .ok (c, event) ↔
      ∃ payload, Payload.ofJson? claims = some payload ∧
        ∃ id, Policy.enclaveId payload expectedKey regions = .ok id ∧
        c = { enclaveId := id, platform := .azure, rawClaims := claims, workload := none } ∧
        event = .azureVerified id payload.runtime.location := by
  unfold judge
  cases Payload.ofJson? claims with
  | none => simp
  | some payload =>
    simp only [bind_eq_ok, mapError_eq_ok, pure_eq_ok, Prod.mk.injEq, Option.some.injEq,
      exists_eq_left']

/-- The enclave that an authentic token of the service describes, if the policy accepts it. -/
structure Admits (endpoint : String) (regions : List String) (source : KeySource)
    (cache : KeyCache) (evidence : Bytes) (publicKey : Option String) (now : Instant)
    (c : EnclaveClaims) : Prop where
  authentic : Jwt.Authentic cache source
    ⟨PlatformConfig.issuer endpoint ++ "/certs", ⟨PlatformConfig.issuer endpoint, none⟩⟩ evidence
    now c.rawClaims
  judged : ∃ payload, Payload.ofJson? c.rawClaims = some payload ∧
    Policy.enclaveId payload publicKey regions = .ok c.enclaveId
  platform : c.platform = .azure
  workload : c.workload = none

theorem verify_result {endpoint : String} {regions : List String} {source : KeySource}
    {cache : KeyCache} {evidence : Bytes} {publicKey : Option String} {now : Instant}
    {order : Jwt.SearchOrder} {c : EnclaveClaims} :
    ((Engine.azure endpoint regions).verify source cache evidence publicKey now order).result =
        .ok c ↔
      Admits endpoint regions source cache evidence publicKey now c ∧
        Jwt.Readable c.rawClaims := by
  simp only [Engine.verify, Engine.conclude, Jwt.Lookup.andThen, map_eq_ok, bind_eq_ok,
    Jwt.verify_eq_ok, Prod.exists, judge_eq_ok]
  constructor
  · intro h
    obtain ⟨_, event, ⟨claims, ⟨hauthentic, hreadable⟩, payload, hpayload, id, hid, rfl, _⟩, rfl⟩
      := h
    exact ⟨⟨hauthentic, ⟨payload, hpayload, hid⟩, rfl, rfl⟩, hreadable⟩
  · intro h
    obtain ⟨⟨hauthentic, ⟨payload, hpayload, hid⟩, hplatform, hworkload⟩, hreadable⟩ := h
    refine ⟨c, _, ⟨c.rawClaims, ⟨hauthentic, hreadable⟩, payload, hpayload, c.enclaveId, hid, ?_,
      rfl⟩, rfl⟩
    rw [← hplatform, ← hworkload]

end Azure

namespace ConfidentialSpace

theorem judge_eq_ok {rules : EnvironmentPolicy} {claims : Json} {c : EnclaveClaims}
    {event : LogEvent} :
    judge rules claims = .ok (c, event) ↔
      ∃ payload, Payload.ofJson? claims = some payload ∧
        ∃ approval, Policy.approve payload rules = .ok approval ∧
        c = { enclaveId := approval.enclaveId, platform := .gcp, rawClaims := claims,
              workload := some approval.scope } ∧
        event = .gcpVerified approval payload.imageReference payload.isDebug := by
  unfold judge
  cases Payload.ofJson? claims with
  | none => simp
  | some payload =>
    simp only [bind_eq_ok, mapError_eq_ok, pure_eq_ok, Prod.mk.injEq, Option.some.injEq,
      exists_eq_left']

/-- The workload that an authentic token of the platform describes, if the policy accepts it. -/
structure Admits (rules : EnvironmentPolicy) (source : KeySource) (cache : KeyCache)
    (evidence : Bytes) (now : Instant) (c : EnclaveClaims) : Prop where
  authentic : Jwt.Authentic cache source
    ⟨"https://www.googleapis.com/service_accounts/v1/metadata/jwk/" ++
        "signer@confidentialspace-sign.iam.gserviceaccount.com",
      ⟨"https://confidentialcomputing.googleapis.com", some "https://sts.googleapis.com"⟩⟩ evidence
    now c.rawClaims
  judged : ∃ payload approval, Payload.ofJson? c.rawClaims = some payload ∧
    Policy.approve payload rules = .ok approval ∧ c.enclaveId = approval.enclaveId ∧
    c.workload = some approval.scope
  platform : c.platform = .gcp

theorem verify_result {rules : EnvironmentPolicy} {source : KeySource} {cache : KeyCache}
    {evidence : Bytes} {publicKey : Option String} {now : Instant} {order : Jwt.SearchOrder}
    {c : EnclaveClaims} :
    ((Engine.gcp rules).verify source cache evidence publicKey now order).result = .ok c ↔
      Admits rules source cache evidence now c ∧ Jwt.Readable c.rawClaims := by
  simp only [Engine.verify, Engine.conclude, Jwt.Lookup.andThen, map_eq_ok, bind_eq_ok,
    Jwt.verify_eq_ok, Prod.exists, judge_eq_ok]
  constructor
  · intro h
    obtain ⟨_, event, ⟨claims, ⟨hauthentic, hreadable⟩, payload, hpayload, approval, happroval,
      rfl, _⟩, rfl⟩ := h
    exact ⟨⟨hauthentic, ⟨payload, approval, hpayload, happroval, rfl, rfl⟩, rfl⟩, hreadable⟩
  · intro h
    obtain ⟨⟨hauthentic, ⟨payload, approval, hpayload, happroval, hid, hworkload⟩, hplatform⟩,
      hreadable⟩ := h
    refine ⟨c, _, ⟨c.rawClaims, ⟨hauthentic, hreadable⟩, payload, hpayload, approval, happroval,
      ?_, rfl⟩, rfl⟩
    rw [← hplatform, ← hworkload, ← hid]

end ConfidentialSpace

/-- Tokens of both platforms: in whatever order claims are looked for, what is handed out is what an
authentic token says and the policy of the platform accepts, and nothing else is asked of the token
but that its claims are readable. -/
theorem Engine.verify_token_iff :
    (∀ endpoint regions source cache evidence publicKey now order c,
      ((Engine.azure endpoint regions).verify source cache evidence publicKey now order).result =
          .ok c ↔
        Azure.Admits endpoint regions source cache evidence publicKey now c ∧
          Jwt.Readable c.rawClaims) ∧
    ∀ rules source cache evidence publicKey now order c,
      ((Engine.gcp rules).verify source cache evidence publicKey now order).result = .ok c ↔
        ConfidentialSpace.Admits rules source cache evidence now c ∧ Jwt.Readable c.rawClaims :=
  ⟨fun _ _ _ _ _ _ _ _ _ => Azure.verify_result,
    fun _ _ _ _ _ _ _ _ => ConfidentialSpace.verify_result⟩

namespace Azure

/-! Two authentic tokens that are refused: the subject of one is a list, the other expires later
than can be counted. The key in the cache is the base point of its curve, which belongs to the
private key one, and the nonce of the signatures is one. -/

def specimenCache : KeyCache :=
  (KeyCache.new 3600000000000 300000000000).store "https://i/certs"
    (Table.empty.insert "k"
      (.curvePoint (4 :: (Bytes.ofNat 32 Ecdsa.p256.baseX ++ Bytes.ofNat 32 Ecdsa.p256.baseY))))
    1700000000000000000

def noSource : KeySource := fun _ => .error "no connection"

def specimenToken (payload : List String) (scalar : Nat) : Bytes :=
  let part (bytes : Bytes) := Base64.encodeChars Base64.urlSafe bytes
  Utf8.encodeChars (part (Utf8.encode "\x7b\"alg\":\"ES256\",\"kid\":\"k\"\x7d") ++
    '.' :: (part (payload.flatMap Utf8.encode) ++
      '.' :: part (Bytes.ofNat 32 Ecdsa.p256.baseX ++ Bytes.ofNat 32 scalar)))

def specimenClaims : List String :=
  ["\x7b\"iss\":\"https://i\",", "\"x-ms-attestation-type\":", "\"sevsnpvm\",",
    "\"x-ms-compliance-status\":", "\"azure-compliant-uvm\",", "\"x-ms-sevsnpvm-is-debuggable\"",
    ":false,", "\"x-ms-sevsnpvm-hostdata\":", "\"d\",", "\"x-ms-runtime\":\x7b",
    "\"publicKey\":\"k\"\x7d,"]

def listedSubject : Bytes :=
  specimenToken (specimenClaims ++ ["\"exp\":1700003600,", "\"sub\":[]\x7d"])
    0xec1522e6c3795ae2736394af3fca4a3970e08d3d470107cbae1604388e7f3db1

def endlessExpiry : Bytes :=
  specimenToken (specimenClaims ++ ["\"exp\":1e20\x7d"])
    0x1ec6f1090a54541c4a2c08a91926020459ce7039dae629d8e9cfe562eb717b1e

/-- The enclave of a token for which everything passes that is asked of it before its claims have to
be readable. -/
def trial (evidence : Bytes) : Option EnclaveClaims := do
  let (token, name) ← (Jwt.readToken evidence).toOption
  let key ← (specimenCache.resolve noSource (PlatformConfig.issuer "https://i" ++ "/certs") name
    1700000000000000000).answer.toOption
  let _ ← (token.checkSignature key).toOption
  let t ← Json.Tree.parse? token.payload
  let claims ← t.valueWithin? Json.Tree.depthLimit
  let _ ← (Jwt.Lifetime.check claims 1700000000000000000).toOption
  let payload ← Payload.ofJson? claims
  let id ← (Policy.enclaveId payload (some "k") []).toOption
  if (∀ name ∈ Jwt.registered, t.AtMostOnce name) ∧
      claims.get? "iss" >>= Json.asString? = some (PlatformConfig.issuer "https://i") then
    return { enclaveId := id, platform := .azure, rawClaims := claims, workload := none }
  else none

theorem trial_admits {evidence : Bytes} {c : EnclaveClaims} (h : trial evidence = some c) :
    Admits "https://i" [] noSource specimenCache evidence (some "k") 1700000000000000000 c := by
  simp only [trial, Option.bind_eq_bind, Option.bind_eq_some_iff, toOption_eq_some] at h
  obtain ⟨⟨token, name⟩, hread, key, hkey, _, hsigned, t, ht, claims, hvalue, _, hlife, payload,
    hpayload, id, hid, h⟩ := h
  split at h
  · rename_i hrest
    obtain ⟨honce, v, hget, hv⟩ := hrest
    obtain rfl := Option.some.inj h
    have hsays : Jwt.Says claims "iss" (PlatformConfig.issuer "https://i") :=
      ⟨v, hget, .inl (Json.asString?_iff.1 hv)⟩
    exact ⟨Jwt.authentic_iff.2 ⟨token, name, key, t, hread, hkey, hsigned, ht, hvalue, honce,
      hsays, by simp, hlife⟩, ⟨payload, hpayload, hid⟩, rfl, rfl⟩
  · simp at h

def hasListedSubject (claims : Json) : Bool :=
  match claims.get? "sub" with
  | some (.array _) => true
  | _ => false

def hasEndlessExpiry (claims : Json) : Bool :=
  match claims.get? "exp" with
  | some (.number (.real x)) => 1 <<< 64 ≤ x.truncate
  | _ => false

theorem not_readable_of_listedSubject {claims : Json} (h : hasListedSubject claims = true) :
    ¬Jwt.Readable claims := by
  intro hreadable
  unfold hasListedSubject at h
  split at h
  · rename_i items hsub
    exact hreadable.subject _ hsub
  · simp at h

theorem not_readable_of_endlessExpiry {claims : Json} (h : hasEndlessExpiry claims = true) :
    ¬Jwt.Readable claims := by
  intro hreadable
  unfold hasEndlessExpiry at h
  split at h
  · rename_i x hexp
    exact absurd (hreadable.expiry x hexp) (Nat.not_lt.2 (of_decide_eq_true h))
  · simp at h

theorem not_iff_of_trial {evidence : Bytes} {broken : Json → Bool}
    (hbroken : ∀ claims, broken claims = true → ¬Jwt.Readable claims)
    (h : (trial evidence).any (fun c => broken c.rawClaims) = true) (order : Jwt.SearchOrder) :
    ¬∀ c, ((Engine.azure "https://i" []).verify noSource specimenCache evidence (some "k")
        1700000000000000000 order).result = .ok c ↔
      Admits "https://i" [] noSource specimenCache evidence (some "k") 1700000000000000000 c := by
  intro hiff
  cases htrial : trial evidence with
  | none => simp [htrial] at h
  | some c =>
    rw [htrial, Option.any_some] at h
    have hresult := (hiff c).2 (trial_admits htrial)
    exact hbroken _ h (verify_result.1 hresult).2

set_option maxRecDepth 100000 in
theorem verify_token_unreadable :
    (¬∀ c, ((Engine.azure "https://i" []).verify noSource specimenCache listedSubject (some "k")
        1700000000000000000 .standard).result = .ok c ↔
      Admits "https://i" [] noSource specimenCache listedSubject (some "k")
        1700000000000000000 c) ∧
    ¬∀ c, ((Engine.azure "https://i" []).verify noSource specimenCache endlessExpiry (some "k")
        1700000000000000000 .standard).result = .ok c ↔
      Admits "https://i" [] noSource specimenCache endlessExpiry (some "k")
        1700000000000000000 c := by
  have hsubject : (trial listedSubject).any (fun c => hasListedSubject c.rawClaims) = true := by
    decide +kernel
  have hexpiry : (trial endlessExpiry).any (fun c => hasEndlessExpiry c.rawClaims) = true := by
    decide +kernel
  exact ⟨not_iff_of_trial (fun _ => not_readable_of_listedSubject) hsubject .standard,
    not_iff_of_trial (fun _ => not_readable_of_endlessExpiry) hexpiry .standard⟩

end Azure

end Attestation
