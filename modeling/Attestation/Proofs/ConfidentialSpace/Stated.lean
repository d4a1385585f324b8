import Attestation.Proofs.ConfidentialSpace.Identifier
import Attestation.Proofs.Json.Fields

/-!
What claims state themselves when they get an identifier of production. The claims are nested, each
part may be left out or be null, and each record may be an object or a list. All that is left out
has a default, and none of these defaults is of production: a workload that does not say that it is
locked counts as one in debug mode.
-/
namespace Attestation.ConfidentialSpace

open Json

/-! What the claims state under a name, at their four places. -/

def Payload.stated? (claims : Json) (name : String) : Option Json :=
  claims.field? Payload.fields name

def Parts.stated? (claims : Json) (name : String) : Option Json :=
  Payload.stated? claims "submods" >>= (·.field? Parts.fields name)

def Container.stated? (claims : Json) (name : String) : Option Json :=
  Parts.stated? claims "container" >>= (·.field? Container.fields name)

def statedAttributes? (claims : Json) : Option Json :=
  Parts.stated? claims "confidential_space" >>=
    (·.field? [⟨"support_attributes", .defaulted⟩] "support_attributes")

/-- One of the members has the name as its value, in upper or lower case. -/
def States (members : List (String × Json)) (key name : String) : Prop :=
  ∃ value, (key, Json.string value) ∈ members ∧
    Text.CaseVariants value.toList name.toList

/-- What claims state to get an identifier of production. -/
structure Stated (claims : Json) (scope : Scope) (digest : String) : Prop where
  debugStatus : Payload.stated? claims "dbgstat" = some (.string "disabled-since-boot")
  softwareName : Payload.stated? claims "swname" = some (.string "CONFIDENTIAL_SPACE")
  attributes : ∃ names, statedAttributes? claims = some (.strings names) ∧ "STABLE" ∈ names
  restartPolicy : Container.stated? claims "restart_policy" = some (.string "Never")
  imageDigest : Container.stated? claims "image_digest" = some (.string digest)
  imageDigestFilled : digest ≠ ""
  overrides : ∃ members, Container.stated? claims "env_override" = some (.object members) ∧
    States members "DEPLOYMENT_ENVIRONMENT" scope.environment.name ∧
    States members "IDENTITY_SCOPE" scope.identityScope.name
  command : ∀ v, Container.stated? claims "cmd_override" = some v → v = .null ∨ v = .array []

/-! Reading. -/

/-- The members of a container, each read from what is stated of it or in its default. -/
structure Container.Reads (stated : String → Option Json) (c : Container) : Prop where
  imageDigest : Tree.orDefault? "" Tree.asString? ((stated "image_digest").map Tree.ofJson) =
    some c.imageDigest
  restartPolicy : Tree.orDefault? "" Tree.asString? ((stated "restart_policy").map Tree.ofJson) =
    some c.restartPolicy
  command : Tree.orAbsent? Tree.asStrings? ((stated "cmd_override").map Tree.ofJson) =
    some c.commandOverrides
  overrides : Tree.orAbsent? stringTable? ((stated "env_override").map Tree.ofJson) =
    some c.environmentOverrides

theorem Container.reads_empty : Container.Reads (fun _ => none) .empty := ⟨rfl, rfl, rfl, rfl⟩

theorem Container.reads_of_ofTree? {v : Json} {c : Container}
    (h : Container.ofTree? (Tree.ofJson v) = some c) : Container.Reads (v.field? fields) c := by
  simp only [ofTree?, Option.bind_eq_bind, Option.bind_eq_some_iff] at h
  obtain ⟨values, hvalues, h⟩ := h
  obtain rfl : values = [(v.field? fields "image_reference").map Tree.ofJson,
      (v.field? fields "image_digest").map Tree.ofJson,
      (v.field? fields "restart_policy").map Tree.ofJson,
      (v.field? fields "cmd_override").map Tree.ofJson,
      (v.field? fields "env_override").map Tree.ofJson] := record?_ofJson (by decide) hvalues
  simp only [Option.bind_eq_some_iff, Option.pure_def, Option.some.injEq] at h
  obtain ⟨_, _, digest, hdigest, restart, hrestart, command, hcommand, overrides, hoverrides,
    rfl⟩ := h
  exact ⟨hdigest, hrestart, hcommand, hoverrides⟩

theorem only?_ofJson {α : Type} {name : String} {read? : Tree → Option α} {v : Json}
    {x : Option α} (h : Parts.only? name read? (Tree.ofJson v) = some x) :
    Tree.orAbsent? read? ((v.field? [⟨name, .defaulted⟩] name).map Tree.ofJson) = some x := by
  simp only [Parts.only?, Option.bind_eq_bind, Option.bind_eq_some_iff] at h
  obtain ⟨values, hvalues, h⟩ := h
  obtain rfl : values = [(v.field? [⟨name, .defaulted⟩] name).map Tree.ofJson] :=
    record?_ofJson (by simp) hvalues
  exact h

/-- A record with one field that is left out or null states nothing in its field. -/
theorem only?_orAbsent {α : Type} {name : String} {read? : Tree → Option α} {found : Option Json}
    {x : Option (Option α)}
    (h : Tree.orAbsent? (Parts.only? name read?) (found.map Tree.ofJson) = some x) :
    Tree.orAbsent? read? ((found >>= (·.field? [⟨name, .defaulted⟩] name)).map Tree.ofJson) =
      some x.join := by
  rcases orAbsent?_eq_some.1 h with ⟨rfl | rfl, rfl⟩ | ⟨v, y, rfl, _, hread, rfl⟩
  · rfl
  · rfl
  · exact only?_ofJson hread

/-- The claims of the parts, each read from what is stated of it or in its default. -/
structure Parts.Reads (stated : String → Option Json) (parts : Parts) : Prop where
  attributes : Tree.orAbsent? Tree.asStrings? ((stated "confidential_space" >>=
    (·.field? [⟨"support_attributes", .defaulted⟩] "support_attributes")).map Tree.ofJson) =
      some parts.supportedAttributes
  container : Container.Reads (fun name => stated "container" >>= (·.field? Container.fields name))
    parts.container

theorem Parts.reads_empty : Parts.Reads (fun _ => none) .empty := ⟨rfl, Container.reads_empty⟩

theorem Parts.reads_of_ofTree? {v : Json} {parts : Parts}
    (h : Parts.ofTree? (Tree.ofJson v) = some parts) : Parts.Reads (v.field? fields) parts := by
  simp only [ofTree?, Option.bind_eq_bind, Option.bind_eq_some_iff] at h
  obtain ⟨values, hvalues, h⟩ := h
  obtain rfl : values = [(v.field? fields "confidential_space").map Tree.ofJson,
      (v.field? fields "container").map Tree.ofJson,
      (v.field? fields "gce").map Tree.ofJson] := record?_ofJson (by decide) hvalues
  simp only [Option.bind_eq_some_iff, Option.pure_def, Option.some.injEq] at h
  obtain ⟨attributes, hattributes, container, hcontainer, _, _, rfl⟩ := h
  refine ⟨only?_orAbsent hattributes, ?_⟩
  rcases orAbsent?_eq_some.1 hcontainer with ⟨hnone | hnull, rfl⟩ | ⟨w, c, hw, _, hread, rfl⟩
  · rw [hnone]
    exact Container.reads_empty
  · rw [hnull]
    exact Container.reads_empty
  · rw [hw]
    exact Container.reads_of_ofTree? hread

/-- The claims that are judged, each read from what is stated or in its default. -/
structure Payload.Reads (claims : Json) (p : Payload) : Prop where
  debugStatus : Tree.orDefault? "" Tree.asString? ((stated? claims "dbgstat").map Tree.ofJson) =
    some p.debugStatus
  softwareName : Tree.orDefault? "" Tree.asString? ((stated? claims "swname").map Tree.ofJson) =
    some p.softwareName
  parts : ∃ parts, Parts.Reads (Parts.stated? claims) parts ∧
    p.supportedAttributes = parts.supportedAttributes.getD [] ∧
    p.imageDigest = parts.container.imageDigest ∧
    p.restartPolicy = parts.container.restartPolicy ∧
    p.commandOverrides = parts.container.commandOverrides.getD [] ∧
    p.environmentOverrides = parts.container.environmentOverrides.getD .empty

theorem Payload.reads_of_ofJson? {claims : Json} {p : Payload}
    (h : Payload.ofJson? claims = some p) : Payload.Reads claims p := by
  simp only [ofJson?, ofTree?, Option.bind_eq_bind, Option.bind_eq_some_iff] at h
  obtain ⟨values, hvalues, h⟩ := h
  obtain rfl : values = [(stated? claims "dbgstat").map Tree.ofJson,
      (stated? claims "swname").map Tree.ofJson, (stated? claims "swversion").map Tree.ofJson,
      (stated? claims "submods").map Tree.ofJson] := record?_ofJson (by decide) hvalues
  simp only [Option.bind_eq_some_iff, Option.pure_def, Option.some.injEq] at h
  obtain ⟨_, _, parts, hparts, status, hstatus, name, hname, rfl⟩ := h
  refine ⟨hstatus, hname, parts, ?_, rfl, rfl, rfl, rfl, rfl⟩
  rcases orDefault?_eq_some.1 hparts with ⟨hnone, rfl⟩ | ⟨v, hv, hread⟩
  · have hsilent : Parts.stated? claims = fun _ => none := by
      funext name
      simp [Parts.stated?, hnone]
    rw [hsilent]
    exact Parts.reads_empty
  · have hstated : Parts.stated? claims = v.field? Parts.fields := by
      funext name
      simp [Parts.stated?, hv]
    rw [hstated]
    exact Parts.reads_of_ofTree? hread

/-! Variables. -/

theorem mapM_ofMembers {members : List (String × Json)} {entries : List (String × String)} :
    ((Tree.ofMembers members).mapM fun (name, value) => do return (← name, ← value.asString?)) =
        some entries ↔ members = entries.map fun e => (e.1, .string e.2) := by
  induction members generalizing entries with
  | nil => cases entries <;> simp [Tree.ofMembers]
  | cons m members ih =>
    cases entries with
    | nil => simp [Tree.ofMembers, Option.bind_eq_some_iff]
    | cons e entries =>
      obtain ⟨name, v⟩ := m
      obtain ⟨key, text⟩ := e
      simp only [Tree.ofMembers, List.mapM_cons, Option.bind_eq_bind, Option.bind_eq_some_iff,
        Option.pure_def, Option.some.injEq, asString?_ofJson, List.map_cons, List.cons.injEq,
        Prod.mk.injEq]
      constructor
      · rintro ⟨_, ⟨_, rfl, _, rfl, rfl⟩, rest, hrest, ⟨rfl, rfl⟩, rfl⟩
        exact ⟨⟨rfl, rfl⟩, ih.1 hrest⟩
      · rintro ⟨⟨rfl, rfl⟩, hrest⟩
        exact ⟨_, ⟨name, rfl, text, rfl, rfl⟩, entries, ih.2 hrest, rfl, rfl⟩

theorem stringTable?_ofJson {v : Json} {table : Table String String} :
    stringTable? (Tree.ofJson v) = some table ↔ ∃ entries,
      v = .object (entries.map fun e => (e.1, .string e.2)) ∧ table = Table.ofList entries := by
  cases v with
  | object members =>
    simp only [Tree.ofJson, stringTable?, Option.bind_eq_bind, Option.bind_eq_some_iff,
      Option.pure_def, Option.some.injEq, Json.object.injEq]
    constructor
    · rintro ⟨entries, hread, rfl⟩
      exact ⟨entries, mapM_ofMembers.1 hread, rfl⟩
    · rintro ⟨entries, rfl, rfl⟩
      exact ⟨entries, mapM_ofMembers.2 rfl, rfl⟩
  | _ => simp [Tree.ofJson, stringTable?]

/-- If any variable is set, the claims have the variables in an object, each as it is set. -/
theorem variables_stated {found : Option Json} {table : Option (Table String String)}
    {key value : String} (h : Tree.orAbsent? stringTable? (found.map Tree.ofJson) = some table)
    (hset : (table.getD .empty).get? key = some value) :
    ∃ members, found = some (.object members) ∧ ∀ key value,
      (table.getD .empty).get? key = some value → (key, .string value) ∈ members := by
  rcases orAbsent?_eq_some.1 h with ⟨_, rfl⟩ | ⟨v, t, rfl, _, hread, rfl⟩
  · cases hset
  · obtain ⟨entries, rfl, rfl⟩ := stringTable?_ofJson.1 hread
    refine ⟨_, rfl, fun key value hget => ?_⟩
    obtain ⟨before, after, hentries, _⟩ := Table.get?_ofList_last.1 hget
    have hmem : (key, value) ∈ entries := by simp [hentries]
    exact List.mem_map_of_mem hmem

/-! Identifiers of production. -/

/-- The text that the identifier of a workload in production is made from. -/
def production (digest : String) : String := "1,false," ++ digest

theorem identified_of_debug {p : Payload} (h : p.debugStatus ≠ "disabled-since-boot") :
    identified p = "1,true," ++ p.imageDigest := by
  have hflag : "1," ++ "true" ++ "," = "1,true," := by decide +kernel
  rw [identified, if_neg h, hflag]

theorem identified_of_locked {p : Payload} (h : p.debugStatus = "disabled-since-boot") :
    identified p = production p.imageDigest := by
  have hflag : "1," ++ "false" ++ "," = "1,false," := by decide +kernel
  rw [identified, if_pos h, hflag, production]

theorem identified_eq_production {p : Payload} {digest : String} :
    identified p = production digest ↔
      p.debugStatus = "disabled-since-boot" ∧ p.imageDigest = digest := by
  by_cases h : p.debugStatus = "disabled-since-boot"
  · rw [identified_of_locked h, production, production, String.append_right_inj]
    exact (and_iff_right h).symm
  · rw [identified_of_debug h]
    refine iff_of_false (fun heq => ?_) (fun hlocked => h hlocked.1)
    have hletter := congrArg (fun text : String => text.toList[2]?) heq
    simp [production] at hletter

/-- What the policy asks of a locked workload is stated in its claims. -/
theorem stated_of_intended {claims : Json} {p : Payload} {rules : EnvironmentPolicy}
    {scope : Scope} (hreads : Payload.Reads claims p) (hp : Intended p rules scope)
    (hlocked : p.debugStatus = "disabled-since-boot") : Stated claims scope p.imageDigest := by
  obtain ⟨parts, hparts, hattributes, hdigest, hrestart, hcommand, hoverrides⟩ := hreads.parts
  have hcontainer : Container.Reads (Container.stated? claims) parts.container := hparts.container
  have hstable : "STABLE" ∈ p.supportedAttributes := hp.image.resolve_left (absurd hlocked)
  obtain ⟨environment, henvironment, hename⟩ := hp.environment
  obtain ⟨identityScope, hidentity, hiname⟩ := hp.identityScope
  rw [hoverrides] at henvironment hidentity
  obtain ⟨members, hmembers, hmem⟩ := variables_stated hcontainer.overrides henvironment
  exact {
    debugStatus := hlocked ▸ text_stated hreads.debugStatus (by simp [hlocked])
    softwareName := hp.software ▸ text_stated hreads.softwareName (by simp [hp.software])
    attributes := names_stated hparts.attributes (hattributes ▸ hstable)
    restartPolicy := by
      have hnever : parts.container.restartPolicy = "Never" := hrestart ▸ hp.restarts
      exact hnever ▸ text_stated hcontainer.restartPolicy (by simp [hnever])
    imageDigest := hdigest ▸ text_stated hcontainer.imageDigest (hdigest ▸ hp.digest)
    imageDigestFilled := hp.digest
    overrides := ⟨members, hmembers, ⟨environment, hmem _ _ henvironment, hename⟩,
      ⟨identityScope, hmem _ _ hidentity, hiname⟩⟩
    command := by
      intro v hv
      have hread := hcontainer.command
      rw [hv] at hread
      exact null_or_empty_of_names hread (hcommand ▸ hp.command) }

theorem identified_eq_production_iff_stated {claims : Json} {p : Payload}
    {rules : EnvironmentPolicy} {scope : Scope} {digest : String}
    (hreads : Payload.Reads claims p) (hp : Intended p rules scope) :
    identified p = production digest ↔ Stated claims scope digest := by
  rw [identified_eq_production]
  constructor
  · rintro ⟨hlocked, rfl⟩
    exact stated_of_intended hreads hp hlocked
  · intro h
    obtain ⟨parts, hparts, _, hdigest, _⟩ := hreads.parts
    have hcontainer : Container.Reads (Container.stated? claims) parts.container := hparts.container
    have hstatus := hreads.debugStatus
    rw [h.debugStatus] at hstatus
    have hread := hcontainer.imageDigest
    rw [h.imageDigest] at hread
    rw [hdigest]
    exact ⟨(Option.some.inj hstatus).symm, (Option.some.inj hread).symm⟩

theorem enclaveId_eq_production_iff {claims : Json} {p : Payload} {rules : EnvironmentPolicy}
    {a : Approval} {digest : String} (hreads : Payload.Reads claims p)
    (happrove : Policy.approve p rules = .ok a)
    (hseparates : Sha2.Separates (Utf8.encode (identified p)) (Utf8.encode (production digest))) :
    a.enclaveId = EnclaveId.digestOf (Utf8.encode (production digest)) ↔
      Stated claims a.scope digest := by
  obtain ⟨hp, hid⟩ := approve_eq_ok.1 happrove
  rw [hid, EnclaveId.digestOf_eq_iff hseparates, Utf8.encode_inj]
  exact identified_eq_production_iff_stated hreads hp

/-- What the identifier of a workload says of the claims that it was given for. -/
structure Deserved (claims : Json) (p : Payload) (a : Approval) : Prop where
  ofProduction : ∀ digest,
    Sha2.Separates (Utf8.encode (identified p)) (Utf8.encode (production digest)) →
      (a.enclaveId = EnclaveId.digestOf (Utf8.encode (production digest)) ↔
        Stated claims a.scope digest)
  /-- Claims that do not say that the machine is locked get an identifier for debug mode. -/
  ofDebug : Payload.stated? claims "dbgstat" ≠ some (.string "disabled-since-boot") →
    a.enclaveId = EnclaveId.digestOf (Utf8.encode ("1,true," ++ p.imageDigest)) ∧ ∀ digest,
      Sha2.Separates (Utf8.encode ("1,true," ++ p.imageDigest)) (Utf8.encode (production digest)) →
        a.enclaveId ≠ EnclaveId.digestOf (Utf8.encode (production digest))

theorem approve_deserved {claims : Json} {p : Payload} {rules : EnvironmentPolicy} {a : Approval}
    (hpayload : Payload.ofJson? claims = some p) (happrove : Policy.approve p rules = .ok a) :
    Deserved claims p a := by
  have hreads := Payload.reads_of_ofJson? hpayload
  refine ⟨fun digest => enclaveId_eq_production_iff hreads happrove, fun hunstated => ?_⟩
  obtain ⟨hp, hid⟩ := approve_eq_ok.1 happrove
  have hdebug : p.debugStatus ≠ "disabled-since-boot" := by
    intro hlocked
    exact hunstated (stated_of_intended hreads hp hlocked).debugStatus
  rw [← identified_of_debug hdebug]
  refine ⟨hid, fun digest hseparates hproduction => hunstated ?_⟩
  exact ((enclaveId_eq_production_iff hreads happrove hseparates).1 hproduction).debugStatus

/-- Claims of production. Some of their records are lists, which end before the last fields, and
some are objects. -/
def positionalClaims : Json :=
  .array [
    .string "disabled-since-boot", .string "CONFIDENTIAL_SPACE", .null,
    .ofMembers [
      ("confidential_space", .array [.strings ["STABLE"]]),
      ("container", .array [
        .string "", .string "sha256:0", .string "Never", .null,
        .ofMembers [
          ("API_TOKEN_SECRET_NAME", .string "k"),
          ("DEPLOYMENT_ENVIRONMENT", .string "Prod"),
          ("IDENTITY_SCOPE", .string "uid2")]])]]

theorem approve_deserved_positional :
    let p := specimenWorkload "disabled-since-boot" "sha256:0"
      [("API_TOKEN_SECRET_NAME", "k"), ("DEPLOYMENT_ENVIRONMENT", "Prod"),
        ("IDENTITY_SCOPE", "uid2")]
    Payload.ofJson? positionalClaims = some p ∧ ∃ a, Policy.approve p .standard = .ok a ∧
      Deserved positionalClaims p a ∧
      a.enclaveId = EnclaveId.digestOf (Utf8.encode (production "sha256:0")) ∧
      Stated positionalClaims a.scope "sha256:0" := by
  intro p
  have hpayload : Payload.ofJson? positionalClaims = some p := by decide +kernel
  have hok : (Policy.approve p .standard).isOk = true := by decide +kernel
  obtain ⟨a, happrove⟩ := Checks.isOk_iff.1 hok
  have htext : identified p = production "sha256:0" := identified_of_locked rfl
  have hseparates :
      Sha2.Separates (Utf8.encode (identified p)) (Utf8.encode (production "sha256:0")) :=
    fun _ => congrArg Utf8.encode htext
  have hid : a.enclaveId = EnclaveId.digestOf (Utf8.encode (production "sha256:0")) := by
    rw [← htext]
    exact (approve_eq_ok.1 happrove).2
  have hdeserved := approve_deserved hpayload happrove
  exact ⟨hpayload, a, happrove, hdeserved, hid,
    (hdeserved.ofProduction "sha256:0" hseparates).1 hid⟩

end Attestation.ConfidentialSpace
