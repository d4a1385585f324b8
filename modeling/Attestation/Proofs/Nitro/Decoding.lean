import Attestation.Nitro.Verification
import Attestation.Proofs.Nitro.Identifier
import Attestation.Proofs.Tables
import Mathlib.Order.Interval.Set.Defs

/-!
Which payloads are attestation documents. The decoder fills a table with the fields and another with
the registers, takes the fields it knows from the first, and then looks at the constraints. What it
accepts is said here field by field, about the item at the front of the payload.
-/
namespace Attestation.Nitro

open Checks Cbor

namespace Document

/-! What a document is. -/

/-- A register of this index may have this value. -/
def Fits (index : Nat) (value : Bytes) : Prop :=
  index ≤ 31 ∧ (value.length = 32 ∨ value.length = 48 ∨ value.length = 64)

/-- The entries of a map are registers with these values. -/
structure Registers (pairs : List (Item × Item)) (registers : Table Nat Bytes) : Prop where
  count : pairs.length ∈ Set.Icc 1 32
  distinct : (pairs.map (·.1)).Nodup
  each : ∀ e ∈ pairs, ∃ index value, e = (.integer (index : Nat), .bytes value) ∧ Fits index value
  carried : ∀ index value,
    registers.get? index = some value ↔ (.integer (index : Nat), .bytes value) ∈ pairs

/-- What stands under a name that may be absent or null. -/
def Offers (entries : List (Item × Item)) (name : String) : Option Bytes → Prop
  | some content => (.text name, .bytes content) ∈ entries
  | none => (∀ value, (.text name, value) ∉ entries) ∨ (.text name, .null) ∈ entries

/-- The entries of a map are the fields of a document, with these values. -/
structure Specified (entries : List (Item × Item)) (d : Document) : Prop where
  named : ∀ e ∈ entries, ∃ name, e.1 = .text name
  distinct : (entries.map (·.1)).Nodup
  moduleId : (.text "module_id", .text d.moduleId) ∈ entries ∧ d.moduleId ≠ ""
  digest : (.text "digest", .text d.digest) ∈ entries ∧ d.digest = "SHA384"
  timestamp : (.text "timestamp", .integer d.timestamp) ∈ entries ∧ 1 ≤ d.timestamp ∧
    d.timestamp < 1 <<< 64
  registers : ∃ pairs, (.text "pcrs", .map pairs) ∈ entries ∧ Registers pairs d.registers
  certificate : (.text "certificate", .bytes d.certificate) ∈ entries ∧
    d.certificate.length ∈ Set.Icc 1 1024
  bundle : (.text "cabundle", .array (d.bundle.map .bytes)) ∈ entries ∧
    d.bundle.length ∈ Set.Icc 1 10 ∧ ∀ c ∈ d.bundle, c.length ∈ Set.Icc 1 1024
  publicKey : Offers entries "public_key" d.publicKey ∧
    ∀ key ∈ d.publicKey, key.length ∈ Set.Icc 1 1024
  userData : Offers entries "user_data" d.userData ∧ ∀ data ∈ d.userData, data.length ≤ 512
  nonce : Offers entries "nonce" d.nonce ∧ ∀ n ∈ d.nonce, n.length ≤ 512

/-! The two tables. -/

/-- The table of these fields. -/
def Tabulates (fields : Fields) (entries : List (Item × Item)) : Prop :=
  ∀ name value, fields.get? name = some value ↔ (.text name, value) ∈ entries

theorem addField_collects : Table.Collects addField Item.text id fun _ => True := by
  rintro fields ⟨key, value⟩ fields'
  constructor
  · intro h
    cases key with
    | text name =>
      obtain ⟨hnew, hfields⟩ := ite_error_eq_ok.1 h
      exact ⟨(name, value), rfl, trivial, Bool.eq_false_iff.2 hnew, (Except.ok.inj hfields).symm⟩
    | _ => simp [addField] at h
  · rintro ⟨⟨name, value⟩, heq, _, hnew, rfl⟩
    obtain ⟨rfl, rfl⟩ := Prod.mk.inj heq
    simp [addField, hnew]

theorem text_injective : Function.Injective Item.text := fun _ _ => Item.text.inj

theorem bytes_injective : Function.Injective Item.bytes := fun _ _ => Item.bytes.inj

theorem index_injective : Function.Injective fun index : Nat => Item.integer index :=
  fun _ _ h => Int.ofNat.inj (Item.integer.inj h)

theorem exists_field_iff {e : Item × Item} :
    (∃ field, e = Prod.map Item.text id field ∧ True) ↔ ∃ name, e.1 = .text name := by
  constructor
  · rintro ⟨field, rfl, _⟩
    exact ⟨field.1, rfl⟩
  · rintro ⟨name, hname⟩
    exact ⟨(name, e.2), Prod.ext hname rfl, trivial⟩

theorem fieldsOf_eq_ok {entries : List (Item × Item)} {fields : Fields} :
    fieldsOf entries = .ok fields ↔ (∀ e ∈ entries, ∃ name, e.1 = .text name) ∧
      (entries.map (·.1)).Nodup ∧ Tabulates fields entries := by
  simp only [fieldsOf, addField_collects.eq_ok_iff text_injective Function.injective_id,
    exists_field_iff, Tabulates, id_eq]

/-- Names that are texts and differ are enough for the fields to be read. -/
theorem exists_fieldsOf {entries : List (Item × Item)}
    (hnamed : ∀ e ∈ entries, ∃ name, e.1 = .text name) (hdistinct : (entries.map (·.1)).Nodup) :
    ∃ fields, fieldsOf entries = .ok fields :=
  addField_collects.exists_ok (fun e he => exists_field_iff.2 (hnamed e he)) hdistinct

theorem numberOf_eq_ok {name : String} {limit n : Nat} {item : Item} :
    numberOf name limit item = .ok n ↔ item = .integer n ∧ n < limit := by
  unfold numberOf
  split
  · rename_i i
    split
    · rename_i hrange
      obtain ⟨k, rfl⟩ := Int.eq_ofNat_of_zero_le hrange.1
      simp only [Except.ok.injEq, Item.integer.injEq]
      omega
    · rename_i hrange
      simp only [reduceCtorEq, Item.integer.injEq, false_iff]
      omega
  · simp_all

theorem bytesOf_eq_ok {name : String} {item : Item} {content : Bytes} :
    bytesOf name item = .ok content ↔ item = .bytes content := by
  cases item <;> simp [bytesOf]

theorem textOf_eq_ok {name s : String} {item : Item} :
    textOf name item = .ok s ↔ item = .text s := by
  cases item <;> simp [textOf]

theorem addRegister_collects : Table.Collects addRegister (fun index : Nat => Item.integer index)
    Item.bytes (· < 1 <<< 16) := by
  rintro registers ⟨key, value⟩ registers'
  simp only [addRegister, bind_eq_ok, numberOf_eq_ok, bytesOf_eq_ok, ite_error_eq_ok, pure_eq_ok,
    Bool.not_eq_true]
  constructor
  · rintro ⟨index, ⟨rfl, hindex⟩, value, rfl, hnew, rfl⟩
    exact ⟨(index, value), rfl, hindex, hnew, rfl⟩
  · rintro ⟨⟨index, value⟩, heq, hindex, hnew, rfl⟩
    obtain ⟨rfl, rfl⟩ := Prod.mk.inj heq
    exact ⟨index, ⟨rfl, hindex⟩, value, rfl, hnew, rfl⟩

theorem registersOf_eq_ok {item : Item} {registers : Table Nat Bytes} :
    registersOf item = .ok registers ↔
      ∃ pairs, item = .map pairs ∧ pairs.foldlM addRegister Table.empty = .ok registers := by
  cases item <;> simp [registersOf]

theorem mapM_bytesOf {name : String} {items : List Item} {contents : List Bytes} :
    items.mapM (bytesOf name) = .ok contents ↔ items = contents.map .bytes := by
  induction items generalizing contents with
  | nil => rw [List.mapM_nil, pure_eq_ok, List.nil_eq, List.map_eq_nil_iff]
  | cons item items ih =>
    simp only [List.mapM_cons, bind_eq_ok, bytesOf_eq_ok, pure_eq_ok, ih]
    constructor
    · rintro ⟨content, rfl, contents, rfl, rfl⟩
      rfl
    · intro h
      obtain ⟨content, contents, rfl, rfl, rfl⟩ := List.map_eq_cons_iff.1 h.symm
      exact ⟨content, rfl, contents, rfl, rfl⟩

theorem bundleOf_eq_ok {item : Item} {contents : List Bytes} :
    bundleOf item = .ok contents ↔ item = .array (contents.map .bytes) := by
  cases item <;> simp [bundleOf, mapM_bytesOf]

/-! The known fields. -/

theorem required_eq_ok {fields : Fields} {name : String} {value : Item} :
    required fields name = .ok value ↔ fields.get? name = some value := by
  unfold required
  cases fields.get? name <;> simp

/-- What the fields of a document are, before the constraints are looked at. -/
structure Carried (entries : List (Item × Item)) (d : Document) : Prop where
  moduleId : (.text "module_id", .text d.moduleId) ∈ entries
  digest : (.text "digest", .text d.digest) ∈ entries
  timestamp : (.text "timestamp", .integer d.timestamp) ∈ entries ∧ d.timestamp < 1 <<< 64
  registers : ∃ pairs, (.text "pcrs", .map pairs) ∈ entries ∧
    pairs.foldlM addRegister Table.empty = .ok d.registers
  certificate : (.text "certificate", .bytes d.certificate) ∈ entries
  bundle : (.text "cabundle", .array (d.bundle.map .bytes)) ∈ entries
  publicKey : Offers entries "public_key" d.publicKey
  userData : Offers entries "user_data" d.userData
  nonce : Offers entries "nonce" d.nonce

section
variable {fields : Fields} {entries : List (Item × Item)} (htable : Tabulates fields entries)
include htable

theorem Tabulates.get?_eq_none {name : String} :
    fields.get? name = none ↔ ∀ value, (.text name, value) ∉ entries := by
  simp only [Option.eq_none_iff_forall_ne_some, ne_eq, htable name]

theorem Tabulates.optionalBytes_eq_ok {name : String} {content? : Option Bytes} :
    optionalBytes fields name = .ok content? ↔ Offers entries name content? := by
  have hoffers : Offers entries name content? ↔
      (content? = none ∧ (fields.get? name = none ∨ fields.get? name = some .null)) ∨
        ∃ content, content? = some content ∧ fields.get? name = some (.bytes content) := by
    cases content? <;> simp [Offers, htable.get?_eq_none, htable name]
  rw [hoffers]
  unfold optionalBytes
  cases hvalue : fields.get? name with
  | none => simp [eq_comm]
  | some value => cases value <;> simp [bytesOf, Except.map, eq_comm]

theorem Tabulates.ofFields_eq_ok {d : Document} :
    ofFields fields = .ok d ↔ Carried entries d := by
  simp only [ofFields, bind_eq_ok, required_eq_ok, htable _ _, textOf_eq_ok, numberOf_eq_ok,
    bytesOf_eq_ok, registersOf_eq_ok, bundleOf_eq_ok, htable.optionalBytes_eq_ok, pure_eq_ok]
  constructor
  · rintro ⟨moduleId, ⟨_, hmoduleId, rfl⟩, digest, ⟨_, hdigest, rfl⟩, timestamp,
      ⟨_, htimestamp, rfl, hlimit⟩, registers, ⟨_, hpcrs, pairs, rfl, hregisters⟩, certificate,
      ⟨_, hcertificate, rfl⟩, bundle, ⟨_, hbundle, rfl⟩, publicKey, hpublicKey, userData,
      huserData, nonce, hnonce, rfl⟩
    exact ⟨hmoduleId, hdigest, ⟨htimestamp, hlimit⟩, ⟨pairs, hpcrs, hregisters⟩, hcertificate,
      hbundle, hpublicKey, huserData, hnonce⟩
  · rintro ⟨hmoduleId, hdigest, ⟨htimestamp, hlimit⟩, ⟨pairs, hpcrs, hregisters⟩, hcertificate,
      hbundle, hpublicKey, huserData, hnonce⟩
    exact ⟨_, ⟨_, hmoduleId, rfl⟩, _, ⟨_, hdigest, rfl⟩, _, ⟨_, htimestamp, rfl, hlimit⟩, _,
      ⟨_, hpcrs, pairs, rfl, hregisters⟩, _, ⟨_, hcertificate, rfl⟩, _, ⟨_, hbundle, rfl⟩, _,
      hpublicKey, _, huserData, _, hnonce, rfl⟩

end

/-! The constraints. -/

/-- What the values of a document must be like. -/
structure Sound (d : Document) : Prop where
  moduleId : d.moduleId ≠ ""
  digest : d.digest = "SHA384"
  timestamp : 1 ≤ d.timestamp
  count : d.registers.size ∈ Set.Icc 1 32
  register : ∀ e ∈ d.registers.entries, Fits e.1 e.2
  certificate : d.certificate.length ∈ Set.Icc 1 1024
  bundle : d.bundle.length ∈ Set.Icc 1 10 ∧ ∀ c ∈ d.bundle, c.length ∈ Set.Icc 1 1024
  publicKey : ∀ key ∈ d.publicKey, key.length ∈ Set.Icc 1 1024
  userData : ∀ data ∈ d.userData, data.length ≤ 512
  nonce : ∀ n ∈ d.nonce, n.length ≤ 512

theorem faultIf_eq_nil {broken : Bool} {fault : Error} :
    faultIf broken fault = [] ↔ broken = false := by
  cases broken <;> simp [faultIf]

theorem between_eq_true {low high n : Nat} : between low high n = true ↔ n ∈ Set.Icc low high := by
  simp [between]

theorem registerFaults_eq_nil {registers : Table Nat Bytes} :
    registerFaults registers = [] ↔ ∀ e ∈ registers.entries, Fits e.1 e.2 := by
  have hregister (e : Nat × Bytes) :
      (registerLimit ≤ e.1 || !registerWidths.contains e.2.length) = false ↔ Fits e.1 e.2 := by
    rw [Bool.or_eq_false_iff, decide_eq_false_iff_not]
    simp only [Fits, registerLimit, registerWidths, Bool.not_eq_false', List.contains_iff_mem,
      List.mem_cons, List.not_mem_nil, or_false]
    omega
  simp only [registerFaults, List.flatMap_eq_nil_iff, faultIf_eq_nil, hregister]

theorem any_option_eq_false {content? : Option Bytes} {broken : Bytes → Bool} :
    content?.any broken = false ↔ ∀ content ∈ content?, broken content = false := by
  cases content? <;> simp

theorem faults_eq_nil {d : Document} : d.faults = [] ↔ Sound d := by
  simp only [faults, List.append_eq_nil_iff, faultIf_eq_nil, registerFaults_eq_nil,
    any_option_eq_false, List.any_eq_false, Bool.not_eq_true, Bool.not_eq_false', between_eq_true,
    beq_eq_false_iff_ne, bne_eq_false_iff_eq, decide_eq_false_iff_not, not_lt]
  constructor
  · rintro ⟨⟨⟨⟨⟨⟨⟨⟨⟨⟨hmoduleId, hdigest⟩, htimestamp⟩, hcount⟩, hregister⟩, hcertificate⟩, hbundle⟩,
      hentries⟩, hpublicKey⟩, huserData⟩, hnonce⟩
    exact ⟨hmoduleId, hdigest, Nat.pos_of_ne_zero htimestamp, hcount, hregister, hcertificate,
      ⟨hbundle, hentries⟩, hpublicKey, huserData, hnonce⟩
  · intro h
    exact ⟨⟨⟨⟨⟨⟨⟨⟨⟨⟨h.moduleId, h.digest⟩, Nat.ne_of_gt h.timestamp⟩, h.count⟩, h.register⟩,
      h.certificate⟩, h.bundle.1⟩, h.bundle.2⟩, h.publicKey⟩, h.userData⟩, h.nonce⟩

/-! The decoder. -/

theorem registers_iff {pairs : List (Item × Item)} {registers : Table Nat Bytes} :
    Registers pairs registers ↔ pairs.foldlM addRegister Table.empty = .ok registers ∧
      registers.size ∈ Set.Icc 1 32 ∧ ∀ e ∈ registers.entries, Fits e.1 e.2 := by
  have hread : pairs.foldlM addRegister Table.empty = .ok registers ↔ _ :=
    addRegister_collects.eq_ok_iff index_injective bytes_injective
  constructor
  · rintro ⟨hcount, hdistinct, heach, hcarried⟩
    have hok : pairs.foldlM addRegister Table.empty = .ok registers := by
      refine hread.2 ⟨?_, hdistinct, hcarried⟩
      intro e he
      -- What fits is far below the limit at which an index cannot be read any more.
      obtain ⟨index, value, rfl, hindex, _⟩ := heach e he
      exact ⟨(index, value), rfl, Nat.lt_of_le_of_lt hindex (by decide)⟩
    refine ⟨hok, addRegister_collects.size_eq hok ▸ hcount, ?_⟩
    rintro ⟨index, value⟩ he
    obtain ⟨i, v, heq, hfits⟩ := heach _ ((hcarried index value).1 (Table.get?_eq_some.2 he))
    obtain ⟨hi, hv⟩ := Prod.mk.inj heq
    obtain rfl := index_injective hi
    obtain rfl := bytes_injective hv
    exact hfits
  · rintro ⟨hok, hcount, hfits⟩
    obtain ⟨heach, hdistinct, hcarried⟩ := hread.1 hok
    refine ⟨addRegister_collects.size_eq hok ▸ hcount, hdistinct, ?_, hcarried⟩
    intro e he
    obtain ⟨⟨index, value⟩, rfl, _⟩ := heach e he
    exact ⟨index, value, rfl, hfits _ (Table.get?_eq_some.1 ((hcarried index value).2 he))⟩

theorem specified_iff {entries : List (Item × Item)} {d : Document} :
    Specified entries d ↔ (∀ e ∈ entries, ∃ name, e.1 = .text name) ∧
      (entries.map (·.1)).Nodup ∧ Carried entries d ∧ Sound d := by
  constructor
  · intro h
    obtain ⟨pairs, hpcrs, hregisters⟩ := h.registers
    obtain ⟨hok, hcount, hregister⟩ := registers_iff.1 hregisters
    exact ⟨h.named, h.distinct,
      ⟨h.moduleId.1, h.digest.1, ⟨h.timestamp.1, h.timestamp.2.2⟩, ⟨pairs, hpcrs, hok⟩,
        h.certificate.1, h.bundle.1, h.publicKey.1, h.userData.1, h.nonce.1⟩,
      ⟨h.moduleId.2, h.digest.2, h.timestamp.2.1, hcount, hregister, h.certificate.2, h.bundle.2,
        h.publicKey.2, h.userData.2, h.nonce.2⟩⟩
  · rintro ⟨hnamed, hdistinct, hc, hs⟩
    obtain ⟨pairs, hpcrs, hok⟩ := hc.registers
    exact ⟨hnamed, hdistinct, ⟨hc.moduleId, hs.moduleId⟩, ⟨hc.digest, hs.digest⟩,
      ⟨hc.timestamp.1, hs.timestamp, hc.timestamp.2⟩,
      ⟨pairs, hpcrs, registers_iff.2 ⟨hok, hs.count, hs.register⟩⟩,
      ⟨hc.certificate, hs.certificate⟩, ⟨hc.bundle, hs.bundle⟩, ⟨hc.publicKey, hs.publicKey⟩,
      ⟨hc.userData, hs.userData⟩, ⟨hc.nonce, hs.nonce⟩⟩

theorem ofItem_eq_ok {item : Item} {d : Document} :
    ofItem item = .ok d ↔ ∃ entries, item = .map entries ∧ Specified entries d := by
  cases item with
  | map entries =>
    simp only [ofItem, bind_eq_ok, check_eq_ok, Item.map.injEq, exists_eq_left', specified_iff,
      ← faults_eq_nil]
    constructor
    · rintro ⟨fields, hfields, d, hd, hfaults, rfl⟩
      obtain ⟨hnamed, hdistinct, htable⟩ := fieldsOf_eq_ok.1 hfields
      exact ⟨hnamed, hdistinct, htable.ofFields_eq_ok.1 hd, hfaults⟩
    · -- The names alone decide whether there is a table to take the fields from.
      rintro ⟨hnamed, hdistinct, hcarried, hfaults⟩
      obtain ⟨fields, hfields⟩ := exists_fieldsOf hnamed hdistinct
      obtain ⟨_, _, htable⟩ := fieldsOf_eq_ok.1 hfields
      exact ⟨fields, hfields, d, htable.ofFields_eq_ok.2 hcarried, hfaults, rfl⟩
  | _ => simp [ofItem]

theorem ofBytes_eq_ok {payload : Bytes} {d : Document} :
    ofBytes payload = .ok d ↔
      ∃ entries, Item.ofBytes? payload = some (.map entries) ∧ Specified entries d := by
  unfold ofBytes
  cases Item.ofBytes? payload <;> simp [ofItem_eq_ok]

/-! What has no influence. -/

def fieldNames : List String :=
  ["module_id", "digest", "timestamp", "pcrs", "certificate", "cabundle", "public_key",
    "user_data", "nonce"]

/-- Entries that differ in their order, in the order of the registers among them, and in fields
that documents do not have. -/
inductive Alike : List (Item × Item) → List (Item × Item) → Prop where
  | order {entries entries'} : entries.Perm entries' → Alike entries entries'
  | registers {before after pairs pairs'} : pairs.Perm pairs' →
    Alike (before ++ (.text "pcrs", .map pairs) :: after)
      (before ++ (.text "pcrs", .map pairs') :: after)
  | additional {entries name value} : name ∉ fieldNames → (∀ e ∈ entries, e.1 ≠ .text name) →
    Alike entries ((.text name, value) :: entries)
  | symm {entries entries'} : Alike entries entries' → Alike entries' entries
  | trans {entries entries' entries''} : Alike entries entries' → Alike entries' entries'' →
    Alike entries entries''

/-- Every known field of the first entries stands in the second with the same value, registers
possibly in another order. -/
structure Keeps (entries entries' : List (Item × Item)) : Prop where
  plain : ∀ name ∈ fieldNames, name ≠ "pcrs" → ∀ value,
    (.text name, value) ∈ entries ↔ (.text name, value) ∈ entries'
  registers : ∀ pairs, (.text "pcrs", .map pairs) ∈ entries →
    ∃ pairs', pairs.Perm pairs' ∧ (.text "pcrs", .map pairs') ∈ entries'

theorem Registers.perm {pairs pairs' : List (Item × Item)} {registers : Table Nat Bytes}
    (h : Registers pairs registers) (hperm : pairs.Perm pairs') : Registers pairs' registers where
  count := hperm.length_eq ▸ h.count
  distinct := (hperm.map _).nodup_iff.1 h.distinct
  each e he := h.each e (hperm.mem_iff.2 he)
  carried index value := (h.carried index value).trans hperm.mem_iff

section
variable {entries entries' : List (Item × Item)} {d : Document}

theorem Offers.congr {name : String} {content? : Option Bytes}
    (h : ∀ value, (.text name, value) ∈ entries ↔ (.text name, value) ∈ entries') :
    Offers entries name content? ↔ Offers entries' name content? := by
  cases content? <;> simp only [Offers, h]

theorem Specified.transfer (h : Specified entries d) (hkeeps : Keeps entries entries')
    (hnamed : ∀ e ∈ entries', ∃ name, e.1 = .text name)
    (hdistinct : (entries'.map (·.1)).Nodup) : Specified entries' d := by
  have hplain {name : String} (hname : name ∈ fieldNames ∧ name ≠ "pcrs") :=
    hkeeps.plain name hname.1 hname.2
  obtain ⟨pairs, hpcrs, hregisters⟩ := h.registers
  obtain ⟨pairs', hperm, hpcrs'⟩ := hkeeps.registers pairs hpcrs
  exact
    { named := hnamed
      distinct := hdistinct
      moduleId := h.moduleId.imp_left (hplain (by decide) _).1
      digest := h.digest.imp_left (hplain (by decide) _).1
      timestamp := h.timestamp.imp_left (hplain (by decide) _).1
      registers := ⟨pairs', hpcrs', hregisters.perm hperm⟩
      certificate := h.certificate.imp_left (hplain (by decide) _).1
      bundle := h.bundle.imp_left (hplain (by decide) _).1
      publicKey := h.publicKey.imp_left (Offers.congr (hplain (by decide))).1
      userData := h.userData.imp_left (Offers.congr (hplain (by decide))).1
      nonce := h.nonce.imp_left (Offers.congr (hplain (by decide))).1 }

theorem Specified.perm (h : Specified entries d) (hperm : entries.Perm entries') :
    Specified entries' d :=
  h.transfer
    ⟨fun _ _ _ _ => hperm.mem_iff, fun pairs hpcrs => ⟨pairs, .refl _, hperm.mem_iff.1 hpcrs⟩⟩
    (fun e he => h.named e (hperm.mem_iff.2 he)) ((hperm.map _).nodup_iff.1 h.distinct)

theorem Specified.registers_perm {before after pairs pairs' : List (Item × Item)}
    (h : Specified (before ++ (.text "pcrs", .map pairs) :: after) d)
    (hperm : pairs.Perm pairs') :
    Specified (before ++ (.text "pcrs", .map pairs') :: after) d := by
  refine h.transfer ⟨?_, ?_⟩ ?_ ?_
  · intro name _ hname value
    simp [hname]
  · intro pairs'' hmem
    rcases List.mem_append.1 hmem with hmem | hmem
    · exact ⟨pairs'', .refl _, List.mem_append_left _ hmem⟩
    · rcases List.mem_cons.1 hmem with heq | hmem
      · obtain rfl : pairs'' = pairs := by simpa using heq
        exact ⟨pairs', hperm, by simp⟩
      · exact ⟨pairs'', .refl _, by simp [hmem]⟩
  · have hnamed := h.named
    simp only [List.forall_mem_append, List.forall_mem_cons] at hnamed ⊢
    exact hnamed
  · have hdistinct := h.distinct
    rw [List.map_append, List.map_cons] at hdistinct ⊢
    exact hdistinct

variable {name : String} {value : Item}

theorem Specified.cons_iff (hname : name ∉ fieldNames) (hnew : ∀ e ∈ entries, e.1 ≠ .text name) :
    Specified entries d ↔ Specified ((.text name, value) :: entries) d := by
  have hother {known : String} (hknown : known ∈ fieldNames) : known ≠ name :=
    fun heq => hname (heq ▸ hknown)
  constructor
  · intro h
    refine h.transfer ⟨?_, ?_⟩ (List.forall_mem_cons.2 ⟨⟨name, rfl⟩, h.named⟩)
      (List.nodup_cons.2 ⟨?_, h.distinct⟩)
    · intro known hknown _ value'
      simp [hother hknown]
    · exact fun pairs hpcrs => ⟨pairs, .refl _, List.mem_cons_of_mem _ hpcrs⟩
    · rw [List.mem_map]
      rintro ⟨e, he, heq⟩
      exact hnew e he heq
  · intro h
    refine h.transfer ⟨?_, ?_⟩ (List.forall_mem_cons.1 h.named).2 (List.nodup_cons.1 h.distinct).2
    · intro known hknown _ value'
      simp [hother hknown]
    · intro pairs hpcrs
      refine ⟨pairs, .refl _, ?_⟩
      have hpcrsName : "pcrs" ≠ name := hother (by decide)
      simpa [hpcrsName] using hpcrs

theorem Alike.specified_iff (h : Alike entries entries') :
    Specified entries d ↔ Specified entries' d := by
  induction h with
  | order hperm => exact ⟨fun h => h.perm hperm, fun h => h.perm hperm.symm⟩
  | registers hperm => exact ⟨fun h => h.registers_perm hperm, fun h => h.registers_perm hperm.symm⟩
  | additional hname hnew => exact Specified.cons_iff hname hnew
  | symm _ ih => exact ih.symm
  | trans _ _ ih ih' => exact ih.trans ih'

end

end Document

open Document

/-- What becomes of a payload. Payloads that are alike have the same outcome, though the message for
one that is refused may differ, since it tells the first fault that was met. -/
structure Decoded (payload : Bytes) : Prop where
  accepted : ∀ d, readDocument payload = .ok d ↔
    ∃ entries, Item.ofBytes? payload = some (.map entries) ∧ Specified entries d
  refused : (¬∃ entries d, Item.ofBytes? payload = some (.map entries) ∧ Specified entries d) →
    ∃ e, readDocument payload = .error e ∧ e.kind = .badFormat
  indifferent : ∀ payload' entries entries', Item.ofBytes? payload = some (.map entries) →
    Item.ofBytes? payload' = some (.map entries') → Alike entries entries' →
      (readDocument payload).mapError (·.kind) = (readDocument payload').mapError (·.kind)

theorem readDocument_eq_ok {payload : Bytes} {d : Document} :
    readDocument payload = .ok d ↔
      ∃ entries, Item.ofBytes? payload = some (.map entries) ∧ Specified entries d := by
  rw [readDocument, mapError_eq_ok, ofBytes_eq_ok]

theorem kind_of_readDocument {payload : Bytes} {e : VerificationError}
    (h : readDocument payload = .error e) : e.kind = .badFormat := by
  obtain ⟨_, _, rfl⟩ := (mapError_eq_error _).1 h
  rfl

theorem readDocument_decoded (payload : Bytes) : Decoded payload where
  accepted _ := readDocument_eq_ok
  refused hnone := by
    cases h : readDocument payload with
    | ok d =>
      obtain ⟨entries, hentries⟩ := readDocument_eq_ok.1 h
      exact absurd ⟨entries, d, hentries⟩ hnone
    | error e => exact ⟨e, rfl, kind_of_readDocument h⟩
  indifferent payload' entries entries' hitem hitem' halike := by
    have hsame (d : Document) : readDocument payload = .ok d ↔ readDocument payload' = .ok d := by
      simp only [readDocument_eq_ok, hitem, hitem', Option.some.injEq, Item.map.injEq,
        exists_eq_left', halike.specified_iff]
    cases h : readDocument payload with
    | ok d => rw [(hsame d).1 h]
    | error e =>
      cases h' : readDocument payload' with
      | ok d => exact absurd ((hsame d).2 h') (by simp [h])
      | error e' =>
        have hkind : e.kind = e'.kind := by rw [kind_of_readDocument h, kind_of_readDocument h']
        exact congrArg Except.error hkind

example :
    readDocument (plainPayload [ones 48, ones 32]) = .ok (plainDocument [ones 48, ones 32]) := by
  decide +kernel

end Attestation.Nitro
