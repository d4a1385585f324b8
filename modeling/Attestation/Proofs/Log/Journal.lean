import Attestation.Proofs.Engine.Refusals

/-!
Verification as it writes its log. A warning of a policy is written when its violation is made, at
the check that fails, and the line of a success when the policy has passed. What is written on the
way is what the outcome reports at the end: no check goes on after a violation, and what is tried
and given up makes none.
-/
namespace Attestation

/-- A result beside what was written to the log on the way to it. -/
structure Journal (α : Type) where
  result : Except VerificationError α
  written : List LogEvent

namespace Journal

variable {α β ε : Type}

def andThen (j : Journal α) (next : α → Journal β) : Journal β :=
  match j.result with
  | .error e => ⟨.error e, j.written⟩
  | .ok a => ⟨(next a).result, j.written ++ (next a).written⟩

instance : Monad Journal where
  pure a := ⟨.ok a, []⟩
  bind := andThen

/-- A step that writes nothing. -/
def silent (x : Except VerificationError α) : Journal α := ⟨x, []⟩

def write (events : List LogEvent) : Journal Unit := ⟨.ok (), events⟩

/-- The error of a violation; making it writes the warning. -/
def violation (v : Violation) : Journal VerificationError := do
  write [.rejected v]
  return .policyViolation v

def refuse (v : Violation) : Journal α := do
  let e ← violation v
  silent (.error e)

/-- The answer of a policy, with the warning of the violation that it stops at. -/
def ofPolicy (wrap : ε → Violation) (answer : Except ε α) : Journal α :=
  match answer with
  | .error v => refuse (wrap v)
  | .ok a => pure a

/-- A result with the line that reports it. -/
def ofReport (x : Except VerificationError (EnclaveClaims × LogEvent)) : Journal EnclaveClaims :=
  ⟨x.map (·.1), Engine.report x⟩

end Journal

open Checks Journal

/-! The policies, check by check. -/

namespace Nitro.Policy

def readRegister (d : Document) (index : Nat) : Journal Bytes :=
  match d.registers.get? index with
  | some value => pure value
  | none => refuse (.nitro (.missingRegister index))

def enforce (d : Document) (expectedKey : Option String) : Journal EnclaveId := do
  let boot ← readRegister d 0
  let kernel ← readRegister d 1
  let application ← readRegister d 2
  if boot.all (· == 0) then refuse (.nitro .debugMode)
  else if expectedKey.any (!holdsKey d ·) then refuse (.nitro .otherKey)
  else return EnclaveId.digestOf (boot ++ kernel ++ application)

end Nitro.Policy

namespace Azure.Policy

def enforceKind (p : Payload) : Journal Unit :=
  if !p.isSevSnp then refuse (.azure (.attestationType p.attestationType))
  else if !p.isCompliantUtility then refuse (.azure (.complianceStatus p.complianceStatus))
  else if p.debuggable then refuse (.azure .debuggable)
  else return ()

def enforceRegion (p : Payload) (regions : List String) : Journal Unit :=
  match regions.find? (isIn p.runtime.location) with
  | some region => refuse (.azure (.region p.runtime.location region))
  | none => return ()

def enforceKey (p : Payload) : Option String → Journal Unit
  | none => refuse (.azure .noKey)
  | some expected =>
    if p.runtime.publicKey = expected then return () else refuse (.azure .otherKey)

def enforce (p : Payload) (expectedKey : Option String) (regions : List String) :
    Journal EnclaveId := do
  enforceKind p
  enforceRegion p regions
  enforceKey p expectedKey
  if p.policyDigest = "" then refuse (.azure .noPolicyDigest) else return ⟨p.policyDigest⟩

end Azure.Policy

namespace ConfidentialSpace.Policy

def enforcePlatform (p : Payload) : Journal Unit :=
  if !p.isConfidentialSpace then refuse (.gcp (.software p.softwareName))
  else if !p.isDebug && !p.isStable then refuse (.gcp .notStable)
  else if !p.neverRestarts then refuse (.gcp (.restartPolicy p.restartPolicy))
  else if !p.commandOverrides.isEmpty then refuse (.gcp .commandOverridden)
  else return ()

/-- The environment is read here for the first time. One that is unknown is given up in silence, and
is refused when it is read again. -/
def enforceOverrides (p : Payload) (rules : EnvironmentPolicy) : Journal Unit :=
  if p.environmentOverrides.isEmpty then refuse (.gcp .noOverrides)
  else
    match rules.required.toList.find? (!p.environmentOverrides.contains ·) with
    | some missing => refuse (.gcp (.missingOverride missing))
    | none => do
      let environment ← silent (.ok (environment? p))
      match p.environmentOverrides.keys.find? (!isAllowed rules environment ·) with
      | some unexpected => refuse (.gcp (.unexpectedOverride unexpected))
      | none => return ()

/-- What is wrong with a value is found out in silence and then wrapped into a violation. -/
def enforceOverride {α : Type} (p : Payload) (name : String)
    (parse : String → Except ScopeError α) : Journal α :=
  match p.environmentOverrides.get? name with
  | none => refuse (.gcp (.missingOverride name))
  | some value =>
    match parse value with
    | .error cause => refuse (.gcp (.scope cause))
    | .ok a => return a

def enforce (p : Payload) (rules : EnvironmentPolicy) : Journal Approval := do
  enforcePlatform p
  enforceOverrides p rules
  let environment ← enforceOverride p environmentVariable Environment.parse
  let identityScope ← enforceOverride p identityScopeVariable IdentityScope.parse
  if p.imageDigest = "" then refuse (.gcp .noImageDigest)
  else return ⟨EnclaveId.digestOf (Utf8.encode (preimage p)), ⟨environment, identityScope⟩⟩

end ConfidentialSpace.Policy

/-! The whole of a verification. -/

def Nitro.attest (root : Certificate) (evidence : Bytes) (expectedKey : Option String)
    (now : Instant) : Journal EnclaveClaims := do
  let envelope ← silent (readEnvelope evidence)
  let chain ← silent (readChain envelope.document)
  let leaf ← silent (leafOf root now chain)
  silent (checkSignature envelope leaf)
  let id ← Policy.enforce envelope.document expectedKey
  write [.nitroVerified id]
  return { enclaveId := id, platform := .nitro, rawClaims := envelope.document.audit,
           workload := none }

/-- The claims of a token. The look-up of its key warns of keys that it skips and of a request in
vain, whatever becomes of the token. -/
def Jwt.attest (cache : KeyCache) (source : KeySource) (issuer : Issuer) (evidence : Bytes)
    (now : Instant) (order : SearchOrder) : Journal Json := do
  let (token, id) ← silent (readToken evidence)
  let looked := findKey cache source issuer.keysUrl id now
  write (looked.warnings.map .keys)
  let key ← silent looked.result
  silent (claimsOf token key issuer.expected now order)

def Azure.attest (regions : List String) (expectedKey : Option String) (claims : Json) :
    Journal EnclaveClaims :=
  match Payload.ofJson? claims with
  | none => silent (.error (.badFormat .azureClaims))
  | some payload => do
    let id ← Policy.enforce payload expectedKey regions
    write [.azureVerified id payload.runtime.location]
    return { enclaveId := id, platform := .azure, rawClaims := claims, workload := none }

def ConfidentialSpace.attest (rules : EnvironmentPolicy) (claims : Json) :
    Journal EnclaveClaims :=
  match Payload.ofJson? claims with
  | none => silent (.error (.badFormat .gcpClaims))
  | some payload => do
    let approval ← Policy.enforce payload rules
    write [.gcpVerified approval payload.imageReference payload.isDebug]
    return { enclaveId := approval.enclaveId, platform := .gcp, rawClaims := claims,
             workload := some approval.scope }

def Engine.attest (engine : Engine) (source : KeySource) (cache : KeyCache) (evidence : Bytes)
    (publicKey : Option String) (now : Instant) (order : Jwt.SearchOrder) :
    Journal EnclaveClaims :=
  match engine with
  | nitro root => Nitro.attest root evidence publicKey now
  | azure endpoint regions => do
    let claims ← Jwt.attest cache source (Azure.issuer endpoint) evidence now order
    Azure.attest regions publicKey claims
  | gcp rules => do
    let claims ← Jwt.attest cache source ConfidentialSpace.issuer evidence now order
    ConfidentialSpace.attest rules claims

/-! Writing at each check and reporting at the end come to the same. -/

namespace Journal

variable {α β ε : Type}

theorem andThen_assoc {γ : Type} (j : Journal α) (f : α → Journal β) (g : β → Journal γ) :
    j >>= f >>= g = j >>= fun a => f a >>= g := by
  obtain ⟨x, events⟩ := j
  cases x with
  | error e => rfl
  | ok a =>
    change andThen (andThen ⟨.ok a, events⟩ f) g = andThen ⟨.ok a, events⟩ fun a => andThen (f a) g
    cases hf : (f a).result <;> simp [andThen, hf]

theorem silent_ok_bind (a : α) (next : α → Journal β) : silent (.ok a) >>= next = next a := rfl

theorem write_bind (events : List LogEvent) (next : Unit → Journal β) :
    write events >>= next = ⟨(next ()).result, events ++ (next ()).written⟩ := rfl

/-- A policy that goes on to a further check writes what its checks write. -/
theorem ofPolicy_bind (wrap : ε → Violation) (x : Except ε α) (f : α → Except ε β) :
    ofPolicy wrap (x >>= f) = ofPolicy wrap x >>= fun a => ofPolicy wrap (f a) := by
  cases x <;> rfl

theorem ofPolicy_ite (wrap : ε → Violation) {c : Prop} [Decidable c] (x y : Except ε α) :
    ofPolicy wrap (if c then x else y) = if c then ofPolicy wrap x else ofPolicy wrap y :=
  apply_ite _ c x y

/-- A stage that refuses evidence without a violation. -/
def Quiet (x : Except VerificationError α) : Prop := ∀ e, x = .error e → e.kind ≠ .policyViolation

theorem report_of_kind {e : VerificationError} (h : e.kind ≠ .policyViolation) :
    Engine.report (.error e) = [] := by
  cases e with
  | policyViolation violation => exact absurd rfl h
  | _ => rfl

/-- A stage that writes nothing, and that has nothing to write if it refuses. -/
theorem silent_bind_eq {x : Except VerificationError α} {next : α → Journal EnclaveClaims}
    {rest : α → Except VerificationError (EnclaveClaims × LogEvent)} (hquiet : Quiet x)
    (hnext : ∀ a, next a = ofReport (rest a)) : silent x >>= next = ofReport (x >>= rest) := by
  cases x with
  | error e =>
    have hsilent : Engine.report (.error e) = [] := report_of_kind (hquiet e rfl)
    rw [error_bind, ofReport, hsilent]
    rfl
  | ok a => exact hnext a

/-- A policy has passed before its success is written. -/
theorem ofPolicy_report (wrap : ε → Violation) (answer : Except ε α)
    (claims : α → EnclaveClaims) (passed : α → LogEvent) :
    (do
      let a ← ofPolicy wrap answer
      write [passed a]
      return claims a) =
    ofReport (do
      let a ← answer.mapError fun v => .policyViolation (wrap v)
      return (claims a, passed a)) := by
  cases answer <;> rfl

end Journal

theorem Nitro.Policy.readRegister_eq (d : Document) (index : Nat) :
    readRegister d index = ofPolicy .nitro (register d index) := by
  unfold readRegister register
  cases d.registers.get? index <;> rfl

theorem Nitro.Policy.enforce_eq (d : Document) (expectedKey : Option String) :
    enforce d expectedKey = ofPolicy .nitro (enclaveId d expectedKey) := by
  simp only [enforce, enclaveId, readRegister_eq, ofPolicy_bind, ofPolicy_ite]
  rfl

theorem Azure.Policy.enforceKind_eq (p : Payload) :
    enforceKind p = ofPolicy .azure (checkKind p) := by
  simp only [enforceKind, checkKind, ofPolicy_ite]
  rfl

theorem Azure.Policy.enforceRegion_eq (p : Payload) (regions : List String) :
    enforceRegion p regions = ofPolicy .azure (checkRegion p regions) := by
  unfold enforceRegion checkRegion
  cases regions.find? (isIn p.runtime.location) <;> rfl

theorem Azure.Policy.enforceKey_eq (p : Payload) (expectedKey : Option String) :
    enforceKey p expectedKey = ofPolicy .azure (checkKey p expectedKey) := by
  cases expectedKey with
  | none => rfl
  | some expected =>
    simp only [enforceKey, checkKey, ofPolicy_ite]
    rfl

theorem Azure.Policy.enforce_eq (p : Payload) (expectedKey : Option String)
    (regions : List String) :
    enforce p expectedKey regions = ofPolicy .azure (enclaveId p expectedKey regions) := by
  simp only [enforce, enclaveId, enforceKind_eq, enforceRegion_eq, enforceKey_eq, ofPolicy_bind,
    ofPolicy_ite]
  rfl

theorem ConfidentialSpace.Policy.enforcePlatform_eq (p : Payload) :
    enforcePlatform p = ofPolicy .gcp (checkPlatform p) := by
  simp only [enforcePlatform, checkPlatform, ofPolicy_ite]
  rfl

theorem ConfidentialSpace.Policy.enforceOverrides_eq (p : Payload) (rules : EnvironmentPolicy) :
    enforceOverrides p rules = ofPolicy .gcp (checkOverrides p rules) := by
  simp only [enforceOverrides, checkOverrides, ofPolicy_ite, silent_ok_bind]
  congr 1
  cases rules.required.toList.find? (!p.environmentOverrides.contains ·) with
  | some missing => rfl
  | none =>
    dsimp only
    cases p.environmentOverrides.keys.find? (!isAllowed rules (environment? p) ·) <;> rfl

theorem ConfidentialSpace.Policy.enforceOverride_eq {α : Type} (p : Payload) (name : String)
    (parse : String → Except ScopeError α) :
    enforceOverride p name parse = ofPolicy .gcp (readOverride p name parse) := by
  unfold enforceOverride readOverride
  cases p.environmentOverrides.get? name with
  | none => rfl
  | some value =>
    dsimp only
    cases parse value <;> rfl

theorem ConfidentialSpace.Policy.enforce_eq (p : Payload) (rules : EnvironmentPolicy) :
    enforce p rules = ofPolicy .gcp (approve p rules) := by
  simp only [enforce, approve, enforcePlatform_eq, enforceOverrides_eq, enforceOverride_eq,
    ofPolicy_bind, ofPolicy_ite]
  rfl

theorem Nitro.quiet_readEnvelope (evidence : Bytes) : Quiet (readEnvelope evidence) := by
  intro e h
  simp [(readEnvelope_eq_error h).1]

theorem Nitro.quiet_readChain (d : Document) : Quiet (readChain d) := by
  intro e h
  simp [(readChain_eq_error h).1]

theorem Nitro.quiet_leafOf (root : Certificate) (now : Instant) (chain : List Certificate) :
    Quiet (leafOf root now chain) := by
  intro e h
  simp [(leafOf_eq_error h).1]

theorem Nitro.quiet_checkSignature (envelope : Envelope) (leaf : Certificate) :
    Quiet (checkSignature envelope leaf) := by
  intro e h
  simp [checkSignature_eq_error h]

theorem Nitro.attest_eq (root : Certificate) (evidence : Bytes) (expectedKey : Option String)
    (now : Instant) : attest root evidence expectedKey now = ofReport
      ((verify root evidence expectedKey now).map fun c => (c, .nitroVerified c.enclaveId)) := by
  simp only [verify, map_bind]
  refine silent_bind_eq (quiet_readEnvelope evidence) fun envelope => ?_
  refine silent_bind_eq (quiet_readChain envelope.document) fun chain => ?_
  refine silent_bind_eq (quiet_leafOf root now chain) fun leaf => ?_
  refine silent_bind_eq (quiet_checkSignature envelope leaf) fun _ => ?_
  rw [Policy.enforce_eq]
  cases hid : Policy.enclaveId envelope.document expectedKey with
  | error v => simp [judge, hid]; rfl
  | ok id => simp [judge, hid]; rfl

theorem Azure.attest_eq (regions : List String) (expectedKey : Option String) (claims : Json) :
    attest regions expectedKey claims = ofReport (judge regions expectedKey claims) := by
  unfold attest judge
  cases Payload.ofJson? claims with
  | none => rfl
  | some payload =>
    dsimp only
    rw [Policy.enforce_eq]
    exact ofPolicy_report _ _ _ _

theorem ConfidentialSpace.attest_eq (rules : EnvironmentPolicy) (claims : Json) :
    attest rules claims = ofReport (judge rules claims) := by
  unfold attest judge
  cases Payload.ofJson? claims with
  | none => rfl
  | some payload =>
    dsimp only
    rw [Policy.enforce_eq]
    exact ofPolicy_report _ _ _ _

namespace Jwt

variable {cache : KeyCache} {source : KeySource} {issuer : Issuer} {now : Instant}
  {order : SearchOrder}

theorem quiet_readToken (evidence : Bytes) : Quiet (readToken evidence) := by
  intro e h
  obtain ⟨cause, _, rfl⟩ := (mapError_eq_error _).1 h
  simp [VerificationError.kind]

theorem quiet_findKey (url id : String) : Quiet (findKey cache source url id now).result := by
  intro e h
  obtain ⟨cause, _, rfl⟩ := (mapError_eq_error _).1 h
  simp [VerificationError.kind]

theorem quiet_claimsOf (token : Evidence) (key : VerificationKey) (expected : Expectations) :
    Quiet (claimsOf token key expected now order) := by
  intro e h hkind
  rcases claimsOf_eq_error h with ⟨hsignature, _⟩ | ⟨_, hclaim⟩
  · rw [hkind] at hsignature
    cases hsignature
  · rw [hkind] at hclaim
    exact hclaim

/-- A token is verified and then judged; what is written is what the outcome reports. -/
theorem attest_bind (evidence : Bytes) {next : Json → Journal EnclaveClaims}
    {judge : Json → Except VerificationError (EnclaveClaims × LogEvent)}
    (hnext : ∀ claims, next claims = ofReport (judge claims)) :
    attest cache source issuer evidence now order >>= next =
      ⟨(Engine.conclude ((verify cache source issuer evidence now order).andThen judge)).result,
        (Engine.conclude ((verify cache source issuer evidence now order).andThen judge)).log⟩ := by
  unfold attest
  rw [andThen_assoc]
  cases hread : readToken evidence with
  | error e =>
    have hsilent : Engine.report (.error e) = [] :=
      report_of_kind (quiet_readToken evidence e hread)
    rw [verify_of_unread hread]
    simp only [Engine.conclude, Lookup.andThen, error_bind, hsilent]
    rfl
  | ok found =>
    obtain ⟨token, id⟩ := found
    rw [verify_of_read hread, silent_ok_bind]
    have hrest : (do
        let key ← silent (findKey cache source issuer.keysUrl id now).result
        silent (claimsOf token key issuer.expected now order) >>= next) = ofReport (do
          let key ← (findKey cache source issuer.keysUrl id now).result
          claimsOf token key issuer.expected now order >>= judge) :=
      silent_bind_eq (quiet_findKey _ _) fun key => silent_bind_eq (quiet_claimsOf _ _ _) hnext
    simp only [andThen_assoc, hrest]
    simp only [write_bind, ofReport, Engine.conclude, Lookup.andThen, bind_assoc]

end Jwt

/-- What is written at the checks, one after another, is what the outcome of a verification
reports. -/
theorem Engine.attest_eq (engine : Engine) (source : KeySource) (cache : KeyCache)
    (evidence : Bytes) (publicKey : Option String) (now : Instant) (order : Jwt.SearchOrder) :
    engine.attest source cache evidence publicKey now order =
      ⟨(engine.verify source cache evidence publicKey now order).result,
        (engine.verify source cache evidence publicKey now order).log⟩ := by
  cases engine with
  | nitro root => exact Nitro.attest_eq root evidence publicKey now
  | azure endpoint regions => exact Jwt.attest_bind evidence (Azure.attest_eq regions publicKey)
  | gcp rules => exact Jwt.attest_bind evidence (ConfidentialSpace.attest_eq rules)

end Attestation
