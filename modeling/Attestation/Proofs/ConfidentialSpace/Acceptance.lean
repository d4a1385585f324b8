import Attestation.ConfidentialSpace.Verification
import Attestation.Proofs.Checks
import Attestation.Proofs.Tables
import Attestation.Proofs.Text.Case

/-!
Which workloads are accepted. The environment that a workload names decides which variables it may
set, so that the rules on names and on values are put together in one condition. It refers to the
names of all variables, but to the values of two of them only.
-/
namespace Attestation.ConfidentialSpace

open Checks

/-! Names of environments and scopes. -/

theorem lowerAscii_eq_iff {text name : String} (h : lowerAscii name = name) :
    lowerAscii text = name ↔ Text.CaseVariants text.toList name.toList := by
  have hname : name.toList.map Text.lowerAscii = name.toList := by
    rw [← String.toList_ofList (l := name.toList.map Text.lowerAscii)]
    exact congrArg String.toList h
  rw [← Text.map_lowerAscii_eq_iff hname, ← String.toList_inj, lowerAscii, String.toList_ofList]

/-- A text is read as what bears its name, if every name is in lower case and is read as its own. -/
theorem find?_lowerAscii_iff {α : Type} {all : List α} {name : α → String}
    (hlower : ∀ x, lowerAscii (name x) = name x)
    (hread : ∀ x, all.find? (name · == name x) = some x) {text : String} {x : α} :
    all.find? (name · == lowerAscii text) = some x ↔
      Text.CaseVariants text.toList (name x).toList := by
  rw [← lowerAscii_eq_iff (hlower x)]
  constructor
  · intro h
    have hname := List.find?_some h
    exact (eq_of_beq hname).symm
  · intro h
    rw [h, hread x]

theorem Environment.parse_eq_ok {text : String} {e : Environment} :
    parse text = .ok e ↔ Text.CaseVariants text.toList e.name.toList := by
  have hlower : ∀ e : Environment, lowerAscii e.name = e.name := by
    intro e
    cases e <;> decide +kernel
  have hread : ∀ e : Environment, ofName? e.name = some e := by
    intro e
    cases e <;> decide +kernel
  rw [← find?_lowerAscii_iff hlower hread, ← ofName?, parse]
  cases ofName? (lowerAscii text) <;> simp

theorem IdentityScope.parse_eq_ok {text : String} {s : IdentityScope} :
    parse text = .ok s ↔ Text.CaseVariants text.toList s.name.toList := by
  have hlower : ∀ s : IdentityScope, lowerAscii s.name = s.name := by
    intro s
    cases s <;> decide +kernel
  have hread : ∀ s : IdentityScope, ofName? s.name = some s := by
    intro s
    cases s <;> decide +kernel
  rw [← find?_lowerAscii_iff hlower hread, ← ofName?, parse]
  cases ofName? (lowerAscii text) <;> simp

/-! The checks. -/

variable {p : Payload} {rules : EnvironmentPolicy}

theorem checkPlatform_eq_ok {u : Unit} : Policy.checkPlatform p = .ok u ↔
    p.softwareName = "CONFIDENTIAL_SPACE" ∧
      (p.debugStatus ≠ "disabled-since-boot" ∨ "STABLE" ∈ p.supportedAttributes) ∧
      p.restartPolicy = "Never" ∧ p.commandOverrides = [] := by
  have hstable : ¬(!p.isDebug && !p.isStable) = true ↔
      p.debugStatus ≠ "disabled-since-boot" ∨ "STABLE" ∈ p.supportedAttributes := by
    simp [Payload.isDebug, Payload.isStable, imp_iff_not_or]
  simp only [Policy.checkPlatform, ite_error_eq_ok, hstable]
  simp [Payload.isConfidentialSpace, Payload.neverRestarts]

theorem readOverride_eq_ok {α : Type} {name : String} {parse : String → Except ScopeError α}
    {x : α} :
    Policy.readOverride p name parse = .ok x ↔
      ∃ value, p.environmentOverrides.get? name = some value ∧ parse value = .ok x := by
  unfold Policy.readOverride
  cases p.environmentOverrides.get? name with
  | none => simp
  | some value => simp [mapError_eq_ok]

theorem environment?_eq_some {e : Environment} :
    Policy.environment? p = some e ↔
      Policy.readOverride p environmentVariable Environment.parse = .ok e := by
  rw [readOverride_eq_ok]
  simp only [Policy.environment?, Option.bind_eq_bind, Option.bind_eq_some_iff, toOption_eq_some]

theorem isAllowed_iff {e : Environment} {name : String} :
    Policy.isAllowed rules (some e) name = true ↔
      name ∈ rules.required.toList ∨ name ∈ (rules.optional e).toList := by
  simp [Policy.isAllowed, Table.contains_eq_true, NameSet.toList]

theorem find?_not_eq_none {names : List String} {test : String → Bool} :
    names.find? (!test ·) = none ↔ ∀ name ∈ names, test name = true := by
  simp

theorem checkOverrides_eq_ok {u : Unit} : Policy.checkOverrides p rules = .ok u ↔
    p.environmentOverrides.isEmpty = false ∧
      (∀ name ∈ rules.required.toList, p.environmentOverrides.contains name = true) ∧
      ∀ name ∈ p.environmentOverrides.keys,
        Policy.isAllowed rules (Policy.environment? p) name = true := by
  rw [← find?_not_eq_none, ← find?_not_eq_none, Policy.checkOverrides, ite_error_eq_ok,
    Bool.not_eq_true]
  split
  · simp_all
  · split <;> simp_all

theorem isEmpty_of_get? {t : Table String String} {key value : String}
    (h : t.get? key = some value) : t.isEmpty = false := by
  have hmem := Table.get?_eq_some.1 h
  cases hentries : t.entries with
  | nil => simp [hentries] at hmem
  | cons => simp [Table.isEmpty, hentries]

/-! The policy. -/

/-- A variable has the name as its value, in upper or lower case. -/
def Payload.Sets (p : Payload) (key name : String) : Prop :=
  ∃ value, p.environmentOverrides.get? key = some value ∧
    Text.CaseVariants value.toList name.toList

/-- A workload as it must be, for the environment and the identity scope that it names. -/
structure Intended (p : Payload) (rules : EnvironmentPolicy) (scope : Scope) : Prop where
  software : p.softwareName = "CONFIDENTIAL_SPACE"
  image : p.debugStatus ≠ "disabled-since-boot" ∨ "STABLE" ∈ p.supportedAttributes
  restarts : p.restartPolicy = "Never"
  command : p.commandOverrides = []
  environment : p.Sets "DEPLOYMENT_ENVIRONMENT" scope.environment.name
  identityScope : p.Sets "IDENTITY_SCOPE" scope.identityScope.name
  required : ∀ key ∈ rules.required.toList, key ∈ p.environmentOverrides.keys
  allowed : ∀ key ∈ p.environmentOverrides.keys,
    key ∈ rules.required.toList ∨ key ∈ (rules.optional scope.environment).toList
  digest : p.imageDigest ≠ ""

/-- The text that the identifier of a workload is made from. -/
def identified (p : Payload) : String :=
  "1," ++ (if p.debugStatus = "disabled-since-boot" then "false" else "true") ++ "," ++
    p.imageDigest

theorem preimage_eq (p : Payload) : Policy.preimage p = identified p := by
  have hversion : toString Policy.version ++ "," = "1," := by decide +kernel
  rw [Policy.preimage, identified, hversion]
  by_cases h : p.debugStatus = "disabled-since-boot"
  · simp [Payload.isDebug, h]
  · simp [Payload.isDebug, h]

theorem approve_eq_ok {a : Approval} : Policy.approve p rules = .ok a ↔
    Intended p rules a.scope ∧ a.enclaveId = EnclaveId.digestOf (Utf8.encode (identified p)) := by
  simp only [Policy.approve, bind_eq_ok, checkPlatform_eq_ok, checkOverrides_eq_ok,
    ite_error_eq_ok, pure_eq_ok, preimage_eq]
  constructor
  · rintro ⟨_, ⟨hsoftware, himage, hrestarts, hcommand⟩, _, ⟨_, hrequired, hallowed⟩, e, he, s, hs,
      hdigest, rfl⟩
    rw [environment?_eq_some.2 he] at hallowed
    obtain ⟨value, hvalue, hparse⟩ := readOverride_eq_ok.1 he
    obtain ⟨value', hvalue', hparse'⟩ := readOverride_eq_ok.1 hs
    exact ⟨⟨hsoftware, himage, hrestarts, hcommand,
      ⟨value, hvalue, Environment.parse_eq_ok.1 hparse⟩,
      ⟨value', hvalue', IdentityScope.parse_eq_ok.1 hparse'⟩,
      fun key hkey => Table.contains_eq_true.1 (hrequired key hkey),
      fun key hkey => isAllowed_iff.1 (hallowed key hkey), hdigest⟩, rfl⟩
  · rintro ⟨h, hid⟩
    obtain ⟨value, hvalue, hname⟩ := h.environment
    obtain ⟨value', hvalue', hname'⟩ := h.identityScope
    have he : Policy.readOverride p environmentVariable Environment.parse =
        .ok a.scope.environment :=
      readOverride_eq_ok.2 ⟨value, hvalue, Environment.parse_eq_ok.2 hname⟩
    refine ⟨(), ⟨h.software, h.image, h.restarts, h.command⟩, (), ⟨isEmpty_of_get? hvalue,
      fun key hkey => Table.contains_eq_true.2 (h.required key hkey), ?_⟩, _, he, _,
      readOverride_eq_ok.2 ⟨value', hvalue', IdentityScope.parse_eq_ok.2 hname'⟩, h.digest, ?_⟩
    · rw [environment?_eq_some.2 he]
      exact fun key hkey => isAllowed_iff.2 (h.allowed key hkey)
    · rw [← hid]

/-! What the values of variables have to do with it. -/

/-- The same variables are set, and the two that are read have the same values. -/
structure SameVariables (t t' : Table String String) : Prop where
  keys : t.keys = t'.keys
  environment : t.get? "DEPLOYMENT_ENVIRONMENT" = t'.get? "DEPLOYMENT_ENVIRONMENT"
  identityScope : t.get? "IDENTITY_SCOPE" = t'.get? "IDENTITY_SCOPE"

theorem SameVariables.contains {t t' : Table String String} (h : SameVariables t t')
    (key : String) : t.contains key = t'.contains key := by
  rw [Bool.eq_iff_iff, Table.contains_eq_true, Table.contains_eq_true, h.keys]

theorem SameVariables.isEmpty {t t' : Table String String} (h : SameVariables t t') :
    t.isEmpty = t'.isEmpty := by
  have hkeys (t : Table String String) : t.isEmpty = t.keys.isEmpty := by
    simp [Table.isEmpty, Table.keys]
  rw [hkeys, hkeys, h.keys]

theorem readOverride_congr {α : Type} {t : Table String String} (name : String)
    (parse : String → Except ScopeError α)
    (h : p.environmentOverrides.get? name = t.get? name) :
    Policy.readOverride { p with environmentOverrides := t } name parse =
      Policy.readOverride p name parse := by
  rw [Policy.readOverride, Policy.readOverride, h]

theorem checkOverrides_congr {t : Table String String}
    (h : SameVariables p.environmentOverrides t) :
    Policy.checkOverrides { p with environmentOverrides := t } rules =
      Policy.checkOverrides p rules := by
  have henvironment : Policy.environment? { p with environmentOverrides := t } =
      Policy.environment? p := by
    have hvalue : p.environmentOverrides.get? environmentVariable = t.get? environmentVariable :=
      h.environment
    rw [Policy.environment?, Policy.environment?, hvalue]
  simp only [Policy.checkOverrides, henvironment, ← h.contains, ← h.keys, ← h.isEmpty]

theorem approve_congr {t : Table String String} (h : SameVariables p.environmentOverrides t) :
    Policy.approve { p with environmentOverrides := t } rules = Policy.approve p rules := by
  have hplatform : Policy.checkPlatform { p with environmentOverrides := t } =
      Policy.checkPlatform p := rfl
  have hpreimage : Policy.preimage { p with environmentOverrides := t } = Policy.preimage p := rfl
  rw [Policy.approve, Policy.approve, hplatform, checkOverrides_congr h,
    readOverride_congr environmentVariable _ h.environment,
    readOverride_congr identityScopeVariable _ h.identityScope, hpreimage]

/-- What the policy makes of a workload. -/
structure Decided (p : Payload) (rules : EnvironmentPolicy) : Prop where
  accepted : ∀ a, Policy.approve p rules = .ok a ↔ Intended p rules a.scope ∧
    a.enclaveId = ⟨Base64.encode Base64.standard (Sha2.sha256 (Utf8.encode (identified p)))⟩
  /-- All other workloads violate the policy, and this is what is reported of their claims. -/
  refused : (∀ scope, ¬Intended p rules scope) → ∃ violation,
    Policy.approve p rules = .error violation ∧ ∀ claims, Payload.ofJson? claims = some p →
      judge rules claims = .error (.policyViolation (.gcp violation))
  otherValues : ∀ t, SameVariables p.environmentOverrides t →
    Policy.approve { p with environmentOverrides := t } rules = Policy.approve p rules
  /-- Both variables that are read must be on a list of the policy. -/
  unlisted : ∀ key ∈ ["DEPLOYMENT_ENVIRONMENT", "IDENTITY_SCOPE"],
    key ∉ rules.required.toList → (∀ e, key ∉ (rules.optional e).toList) →
      ∃ violation, Policy.approve p rules = .error violation

theorem mem_keys_of_sets {key name : String} (h : p.Sets key name) :
    key ∈ p.environmentOverrides.keys := by
  obtain ⟨value, hvalue, _⟩ := h
  exact Table.contains_eq_true.1 (by rw [Table.contains, hvalue, Option.isSome_some])

theorem error_of_not_intended (h : ∀ scope, ¬Intended p rules scope) :
    ∃ violation, Policy.approve p rules = .error violation := by
  cases happrove : Policy.approve p rules with
  | error violation => exact ⟨violation, rfl⟩
  | ok a => exact absurd (approve_eq_ok.1 happrove).1 (h a.scope)

theorem judge_of_error {claims : Json} {violation : Violation}
    (hpayload : Payload.ofJson? claims = some p)
    (h : Policy.approve p rules = .error violation) :
    judge rules claims = .error (.policyViolation (.gcp violation)) := by
  rw [judge, hpayload]
  simp only [h]
  rfl

theorem approve_decided (p : Payload) (rules : EnvironmentPolicy) : Decided p rules := by
  refine ⟨fun a => approve_eq_ok, ?_, fun t h => approve_congr h, ?_⟩
  · intro h
    obtain ⟨violation, hviolation⟩ := error_of_not_intended h
    exact ⟨violation, hviolation, fun claims hpayload => judge_of_error hpayload hviolation⟩
  · intro key hkey hrequired hoptional
    refine error_of_not_intended fun scope h => ?_
    have hset : key ∈ p.environmentOverrides.keys := by
      simp only [List.mem_cons, List.not_mem_nil, or_false] at hkey
      rcases hkey with rfl | rfl
      · exact mem_keys_of_sets h.environment
      · exact mem_keys_of_sets h.identityScope
    rcases h.allowed key hset with hmem | hmem
    · exact hrequired hmem
    · exact hoptional scope.environment hmem

end Attestation.ConfidentialSpace
