import Attestation.Configuration
import Attestation.Proofs.Json.Objects

/-!
Settings and payloads as structured values. What is written is read back as it was, so a value that
is read, in whatever form it was given, is read again from what is then written.
-/
namespace Attestation

open Json

/-- What is written reads back, and what has been read reads back from what is then written. -/
structure ReadsBack {α : Type} (write : α → Json) (read? : Json → Option α) : Prop where
  written : ∀ x, read? (write x) = some x
  reread : ∀ v x, read? v = some x → read? (write x) = some x

theorem ReadsBack.of_written {α : Type} {write : α → Json} {read? : Json → Option α}
    (h : ∀ x, read? (write x) = some x) : ReadsBack write read? :=
  ⟨h, fun _ x _ => h x⟩

namespace KeyCacheConfig

theorem seconds?_ofJson (n : UInt64) : seconds? (Tree.ofJson (.nat n.toNat)) = some n := by
  simp [Json.nat, Tree.ofJson, seconds?]

theorem ofJson?_toJson (c : KeyCacheConfig) : ofJson? c.toJson = some c := by
  have hrecord : (Tree.ofJson c.toJson).record? fields = some
      [some (Tree.ofJson (.nat c.ttl.toNat)), some (Tree.ofJson (.nat c.minRefetch.toNat))] := by
    rw [toJson, record?_ofMembers (by simp [fields])]
    simp [fields, List.lookup_cons]
  simp [ofJson?, ofTree?, hrecord, Tree.orDefault?, seconds?_ofJson]

end KeyCacheConfig

namespace Azure

theorem Runtime.ofTree?_toJson (r : Runtime) : ofTree? (Tree.ofJson r.toJson) = some r := by
  obtain ⟨location, publicKey, url⟩ := r
  have hrecord : (Tree.ofJson (toJson ⟨location, publicKey, url⟩)).record? fields = some
      [some (Tree.ofJson (.string location)), some (Tree.ofJson (.string publicKey)),
        url.map fun u => Tree.ofJson (.string u)] := by
    rw [toJson, record?_ofMembers (by simp [fields])]
    cases url <;> simp [fields, List.lookup_cons]
  cases url <;> simp [ofTree?, hrecord, Tree.orDefault?, Tree.orAbsent?, Tree.ofJson,
    Tree.asString?]

theorem Payload.ofJson?_toJson (p : Payload) : ofJson? p.toJson = some p := by
  have hrecord : (Tree.ofJson p.toJson).record? fields = some
      [some (Tree.ofJson (.string p.attestationType)),
        some (Tree.ofJson (.string p.complianceStatus)),
        some (Tree.ofJson (.bool p.debuggable)), some (Tree.ofJson (.string p.policyDigest)),
        some (Tree.ofJson p.runtime.toJson)] := by
    rw [toJson, record?_ofMembers (by simp [fields])]
    simp [fields, List.lookup_cons]
  simp [ofJson?, ofTree?, hrecord, Tree.orDefault?, Tree.ofJson, Tree.asString?, Tree.asBool?,
    Runtime.ofTree?_toJson]

end Azure

namespace ConfidentialSpace.EnvironmentPolicy

theorem nameSet?_strings (s : NameSet) : nameSet? (Tree.ofJson (.strings s.toList)) = some s := by
  rw [nameSet?, asStrings?_ofJson.2 rfl, Option.map_some, Table.ofList_toList]

theorem ofMembers_optional (prod integ : Option NameSet) :
    Json.ofMembers (optionalMember .prod prod ++ optionalMember .integ integ) =
      .object (optionalMember .integ integ ++ optionalMember .prod prod) := by
  have hlt : Environment.integ.name < Environment.prod.name := by decide
  cases prod <;> cases integ <;>
    simp only [optionalMember, Option.toList_none, Option.toList_some, List.map_cons, List.map_nil,
      List.cons_append, List.nil_append, Json.ofMembers, List.foldl_cons, List.foldl_nil,
      insertEntry, if_pos hlt]

/-- Each environment has a name of its own, so the order in which their lists are written is of no
account. -/
theorem ofParts?_optional (required : NameSet) (prod integ : Option NameSet) :
    ofParts? required (some (Tree.ofJson (.ofMembers
      (optionalMember .prod prod ++ optionalMember .integ integ)))) =
        some ⟨required, prod, integ⟩ := by
  rw [ofMembers_optional]
  cases prod <;> cases integ <;>
    simp [optionalMember, Environment.name, Environment.ofName?, Tree.ofJson, Tree.ofMembers,
      ofParts?, withRequired, withOptional?, nameSet?_strings]

theorem ofTree?_toJson (p : EnvironmentPolicy) : ofTree? (Tree.ofJson p.toJson) = some p := by
  obtain ⟨required, prod, integ⟩ := p
  have hrecord : (Tree.ofJson (toJson ⟨required, prod, integ⟩)).record?
      [⟨"required", .required⟩, ⟨"optional", .defaulted⟩] = some
        [some (Tree.ofJson (.strings required.toList)), some (Tree.ofJson (.ofMembers
          (optionalMember .prod prod ++ optionalMember .integ integ)))] := by
    rw [toJson, record?_ofMembers (by simp [List.lookup_cons])]
    simp [List.lookup_cons]
  simp [ofTree?, hrecord, nameSet?_strings, ofParts?_optional]

theorem readable_toJson (p : EnvironmentPolicy) (depth : Nat) :
    Readable (depth + 6) p.toJson := by
  have hoptional : ∀ (e : Environment) (names : Option NameSet), ∀ m ∈ optionalMember e names,
      Readable (depth + 4) m.2 := by
    intro e names m hm
    obtain ⟨n, _, rfl⟩ := List.mem_map.1 hm
    exact readable_strings n.toList
  refine readable_ofMembers (List.forall_mem_cons.2 ⟨readable_strings _,
    List.forall_mem_singleton.2 (readable_ofMembers fun m hm => ?_)⟩)
  rcases List.mem_append.1 hm with hm | hm
  · exact hoptional _ _ m hm
  · exact hoptional _ _ m hm

end ConfidentialSpace.EnvironmentPolicy

namespace PlatformConfig

theorem readable_toJson (c : PlatformConfig) : Readable Tree.depthLimit c.toJson := by
  cases c with
  | nitro root =>
    exact readable_ofMembers (List.forall_mem_cons.2 ⟨readable_string _,
      List.forall_mem_singleton.2 (readable_string _)⟩)
  | azure endpoint regions =>
    exact readable_ofMembers (List.forall_mem_cons.2 ⟨readable_string _,
      List.forall_mem_cons.2 ⟨readable_string _,
        List.forall_mem_singleton.2 (readable_strings _)⟩⟩)
  | gcp policy =>
    exact readable_ofMembers (List.forall_mem_cons.2 ⟨readable_string _,
      List.forall_mem_singleton.2 (policy.readable_toJson _)⟩)

/-- The name of a platform is read where it is written, beside the settings. -/
theorem tagged?_ofMembers {members : List (String × Json)} {v : Json}
    (h : members.reverse.lookup tag = some v) :
    tagged? (Tree.ofJson (.ofMembers members)) =
      some (Tree.ofJson v, Tree.ofJson (.ofMembers members)) := by
  rw [ofMembers_eq, Tree.ofJson, tagged?, member?_table, Table.get?_ofList_eq, h]
  rfl

theorem tagged?_toJson (c : PlatformConfig) :
    tagged? (Tree.ofJson c.toJson) =
      some (Tree.ofJson (.string c.platform.name), Tree.ofJson c.toJson) := by
  cases c with
  | nitro root => exact tagged?_ofMembers (by simp [tag, List.lookup_cons])
  | azure endpoint regions => exact tagged?_ofMembers (by simp [tag, List.lookup_cons])
  | gcp policy => exact tagged?_ofMembers (by simp [tag, List.lookup_cons])

theorem ofName?_name (p : Platform) : Platform.ofName? p.name = some p := by
  cases p <;> rfl

theorem ofFields?_toJson (c : PlatformConfig) :
    ofFields? (Tree.ofJson c.toJson) c.platform = some c := by
  cases c with
  | nitro root =>
    have hrecord : (Tree.ofJson (nitro root).toJson).record?
        [⟨"root_certificate_pem", .defaulted⟩] = some [some (Tree.ofJson (.string root))] := by
      rw [toJson, record?_ofMembers (by simp)]
      simp [List.lookup_cons]
    simp [ofFields?, platform, nitroOf?, hrecord, Tree.orDefault?, Tree.ofJson, Tree.asString?]
  | azure endpoint regions =>
    have hrecord : (Tree.ofJson (azure endpoint regions).toJson).record?
        [⟨"maa_endpoint", .required⟩, ⟨"disallowed_regions", .defaulted⟩] = some
          [some (Tree.ofJson (.string endpoint)), some (Tree.ofJson (.strings regions))] := by
      rw [toJson, record?_ofMembers (by simp [List.lookup_cons])]
      simp [List.lookup_cons]
    have hregions := asStrings?_ofJson (v := .strings regions) |>.2 rfl
    simp [ofFields?, platform, azureOf?, hrecord, Tree.orDefault?, hregions, asString?_ofJson.2]
  | gcp policy =>
    have hrecord : (Tree.ofJson (gcp policy).toJson).record? [⟨"policy", .defaulted⟩] =
        some [some (Tree.ofJson policy.toJson)] := by
      rw [toJson, record?_ofMembers (by simp)]
      simp [List.lookup_cons]
    simp [ofFields?, platform, gcpOf?, hrecord, Tree.orDefault?, policy.ofTree?_toJson]

theorem ofJson?_toJson (c : PlatformConfig) : ofJson? c.toJson = some c := by
  have hname : (Tree.ofJson (.string c.platform.name)).asString? = some c.platform.name := rfl
  have hreadable : ¬(Tree.valueWithin? Tree.depthLimit (Tree.ofJson c.toJson)).isNone = true := by
    rw [Bool.not_eq_true, Option.isNone_eq_false_iff]
    exact c.readable_toJson
  rw [ofJson?, ofTree?, if_neg hreadable]
  simp only [tagged?_toJson, hname, ofName?_name, ofFields?_toJson, Option.bind_eq_bind,
    Option.bind_some]

end PlatformConfig

/-- Settings of a platform, settings of the key cache and the payload of a token are read back from
what is written of them. -/
theorem serialised_read_back :
    ReadsBack PlatformConfig.toJson PlatformConfig.ofJson? ∧
      ReadsBack KeyCacheConfig.toJson KeyCacheConfig.ofJson? ∧
      ReadsBack Azure.Payload.toJson Azure.Payload.ofJson? :=
  ⟨.of_written PlatformConfig.ofJson?_toJson, .of_written KeyCacheConfig.ofJson?_toJson,
    .of_written Azure.Payload.ofJson?_toJson⟩

/-! A list of the values of the fields, and fields that are left out. -/

example : KeyCacheConfig.ofJson? (.array [.nat 5]) = some ⟨5, 300⟩ := by decide

example : PlatformConfig.ofJson? (.array [.string "azure", .string "https://i"]) =
    some (.azure "https://i" ["china", "europe"]) := by decide +kernel

end Attestation
