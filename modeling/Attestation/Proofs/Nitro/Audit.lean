import Attestation.Nitro.Audit
import Attestation.Proofs.Base64.RoundTrip
import Attestation.Proofs.Calendar.Text
import Attestation.Proofs.Json.Objects
import Std.Data.String.ToNat

/-!
The claims of a document that are kept for audit. They tell all that they are made from: documents
that differ in it have different claims, but for times that have no text.
-/
namespace Attestation

/-! Bytes in hexadecimal. -/

namespace Hex

theorem digitValue?_digitChar : ∀ n < 16, digitValue? (digitChar n) = some n := by decide

theorem decodeChars_encodeByte (b : UInt8) (rest : List Char) :
    decodeChars (encodeByte b ++ rest) = (decodeChars rest).map (b :: ·) := by
  have hlt := b.toNat_lt
  have hhigh : digitValue? (digitChar (b.toNat / 16)) = some (b.toNat / 16) :=
    digitValue?_digitChar _ (by omega)
  have hlow : digitValue? (digitChar (b.toNat % 16)) = some (b.toNat % 16) :=
    digitValue?_digitChar _ (Nat.mod_lt _ (by decide))
  have hb : UInt8.ofNat (16 * (b.toNat / 16) + b.toNat % 16) = b :=
    Base64.ofNat_eq (Nat.div_add_mod _ 16)
  rw [encodeByte, List.cons_append, List.cons_append, List.nil_append, decodeChars, hhigh, hlow]
  simp only [Option.bind_eq_bind, Option.bind_some, hb]
  cases decodeChars rest <;> rfl

theorem decode?_encode (bytes : Bytes) : decode? (encode bytes) = some bytes := by
  rw [decode?, encode, String.toList_ofList]
  induction bytes with
  | nil => rfl
  | cons b bytes ih => rw [List.flatMap_cons, decodeChars_encodeByte, ih, Option.map_some]

theorem encode_injective : Function.Injective encode := by
  intro a b h
  have hdecode := congrArg decode? h
  rw [decode?_encode, decode?_encode] at hdecode
  exact Option.some.inj hdecode

end Hex

namespace Json

theorem orNull_string_inj {α : Type} {f : α → String} (hf : f.Injective) {x y : Option α} :
    orNull (x.map fun a => .string (f a)) = orNull (y.map fun a => .string (f a)) ↔ x = y := by
  cases x <;> cases y <;> simp [orNull, hf.eq_iff]

end Json

namespace Nitro.Document

theorem base64Json_inj {x y : Option Bytes} :
    Json.orNull (x.map base64Json) = Json.orNull (y.map base64Json) ↔ x = y :=
  Json.orNull_string_inj fun _ _ => (Base64.encode_inj Base64.standard_lawful).1

/-- A register under its index, as it stands among the claims. -/
def registerMember : Nat × Bytes → String × Json := fun (index, value) =>
  (toString index, .string (Hex.encode value))

theorem registerMember_injective : registerMember.Injective := by
  rintro ⟨i, v⟩ ⟨j, w⟩ h
  rw [registerMember, registerMember, Prod.mk.injEq, Json.string.injEq] at h
  exact Prod.ext (Nat.repr_injective h.1) (Hex.encode_injective h.2)

theorem distinct_registers (registers : Table Nat Bytes) :
    ((registers.entries.map registerMember).map (·.1)).Nodup := by
  have hnames : (registers.entries.map registerMember).map (·.1) =
      (registers.entries.map (·.1)).map Nat.repr := by
    rw [List.map_map, List.map_map]
    rfl
  rw [hnames]
  exact registers.keys_nodup.map fun _ _ => Nat.repr_injective

/-- The registers as they stand among the claims determine their table. -/
theorem registers_inj {a b : Table Nat Bytes} :
    Json.ofMembers (a.entries.map registerMember) = Json.ofMembers (b.entries.map registerMember) ↔
      a = b := by
  rw [Json.ofMembers_eq_iff_perm (distinct_registers a) (distinct_registers b),
    List.map_perm_map_iff registerMember_injective]
  exact ⟨Table.eq_of_perm, fun h => h ▸ .refl _⟩

theorem timestamp_inj {m n : Nat} :
    Json.orNull ((Calendar.timestamp? m).map .string) =
        Json.orNull ((Calendar.timestamp? n).map .string) ↔
      m = n ∨ Calendar.lastMillisecond < m ∧ Calendar.lastMillisecond < n := by
  rw [← Calendar.timestamp?_inj]
  exact Json.orNull_string_inj Function.injective_id

/-- The claims by name. -/
def auditMembers (d : Document) : List (String × Json) := [
  ("module_id", .string d.moduleId),
  ("digest", .string d.digest),
  ("timestamp", .orNull ((Calendar.timestamp? d.timestamp).map .string)),
  ("pcrs", .ofMembers (d.registers.entries.map registerMember)),
  ("public_key", .orNull (d.publicKey.map base64Json)),
  ("user_data", .orNull (d.userData.map base64Json)),
  ("nonce", .orNull (d.nonce.map base64Json))]

theorem audit_eq (d : Document) : d.audit = .ofMembers d.auditMembers := rfl

/-- What documents have in common whose claims are the same. -/
structure Agree (d e : Document) : Prop where
  moduleId : d.moduleId = e.moduleId
  digest : d.digest = e.digest
  registers : d.registers = e.registers
  publicKey : d.publicKey = e.publicKey
  userData : d.userData = e.userData
  nonce : d.nonce = e.nonce
  timestamp : d.timestamp = e.timestamp ∨
    Calendar.lastMillisecond < d.timestamp ∧ Calendar.lastMillisecond < e.timestamp

theorem audit_eq_iff (d e : Document) : d.audit = e.audit ↔ Agree d e := by
  have hnames : d.auditMembers.map (·.1) = e.auditMembers.map (·.1) := by
    simp [auditMembers]
  have hdistinct : (d.auditMembers.map (·.1)).Nodup := by simp [auditMembers]
  rw [audit_eq, audit_eq, Json.ofMembers_inj hnames hdistinct]
  simp only [auditMembers, List.cons.injEq, Prod.mk.injEq, true_and, and_true, Json.string.injEq,
    timestamp_inj, registers_inj, base64Json_inj]
  constructor
  · rintro ⟨hmoduleId, hdigest, htimestamp, hregisters, hpublicKey, huserData, hnonce⟩
    exact ⟨hmoduleId, hdigest, hregisters, hpublicKey, huserData, hnonce, htimestamp⟩
  · rintro ⟨hmoduleId, hdigest, hregisters, hpublicKey, huserData, hnonce, htimestamp⟩
    exact ⟨hmoduleId, hdigest, htimestamp, hregisters, hpublicKey, huserData, hnonce⟩

/-- The time among the claims. -/
theorem audit_timestamp (d : Document) : d.audit.get? "timestamp" =
    some (.orNull ((Calendar.timestamp? d.timestamp).map .string)) := by
  rw [audit_eq, Json.get?_ofMembers_last]
  rfl

/-- The claims for audit tell all of a document but its certificates, and its time to the
millisecond, up to the last one that has a text; a later time is null. -/
theorem audit_lossless (d e : Document) :
    (d.audit = e.audit ↔ Agree d e) ∧
      if d.timestamp ≤ Calendar.lastMillisecond then
        ∃ text, d.audit.get? "timestamp" = some (.string text) ∧
          Calendar.read? text = some (d.timestamp : ℚ)
      else d.audit.get? "timestamp" = some .null := by
  refine ⟨audit_eq_iff d e, ?_⟩
  rw [audit_timestamp]
  cases htext : Calendar.timestamp? d.timestamp with
  | none =>
    rw [if_neg (Nat.not_le.2 (Calendar.timestamp?_eq_none.1 htext))]
    rfl
  | some text =>
    have hle : d.timestamp ≤ Calendar.lastMillisecond := by
      by_contra hlt
      rw [Calendar.timestamp?_eq_none.2 (Nat.not_le.1 hlt)] at htext
      cases htext
    rw [if_pos hle]
    exact ⟨text, rfl, Calendar.read?_timestamp? htext⟩

end Nitro.Document

end Attestation
