import Attestation.Proofs.Base64.RoundTrip
import Attestation.Proofs.Jwt.Verification
import Attestation.Proofs.Text.Blank
import Attestation.Proofs.Text.Utf8

/-!
The segments of a token. A text is read as a token exactly if, without the blanks around it, it is
three byte strings in base64 with dots between them, of the right content. Read from its end, such a
token has the same segments as from its front: the header that names the key is the one whose
algorithm counts, and the signature covers what was read.
-/
namespace Attestation.Jwt

open Checks Base64

/-! Tokens from their ends. -/

/-- The text before the last of some character, and the text behind it. -/
def cutLast? (c : Char) : List Char → Option (List Char × List Char)
  | [] => none
  | x :: rest =>
    match cutLast? c rest with
    | some (before, behind) => some (x :: before, behind)
    | none => if x = c then some ([], rest) else none

/-- A token that is cut at its last two dots. The message is all before the signature. -/
structure Parts where
  message : List Char
  header : List Char
  payload : List Char
  signature : List Char
  deriving DecidableEq, Repr

namespace Parts

def ofToken? (token : List Char) : Option Parts := do
  let (message, signature) ← cutLast? '.' token
  let (header, payload) ← cutLast? '.' message
  return ⟨message, header, payload, signature⟩

/-- What is decoded from the parts of a token. -/
def evidence? (token : List Char) (parts : Parts) : Option Evidence := do
  let headerBytes ← decodeUnpadded? urlSafe parts.header
  let header ← Header.ofBytes? headerBytes
  let payload ← decodeUnpadded? urlSafe parts.payload
  let signature ← decodeUnpadded? urlSafe parts.signature
  return ⟨String.ofList token, header, payload, signature, Utf8.encodeChars parts.message⟩

end Parts

theorem cutLast?_eq_none {c : Char} {text : List Char} (h : c ∉ text) : cutLast? c text = none := by
  induction text with
  | nil => rfl
  | cons x rest ih =>
    rw [List.mem_cons, not_or] at h
    rw [cutLast?, ih h.2]
    exact if_neg (Ne.symm h.1)

theorem cutLast?_append {c : Char} {behind : List Char} (h : c ∉ behind) (before : List Char) :
    cutLast? c (before ++ c :: behind) = some (before, behind) := by
  induction before with
  | nil =>
    rw [List.nil_append, cutLast?, cutLast?_eq_none h]
    exact if_pos rfl
  | cons x before ih => rw [List.cons_append, cutLast?, ih]

theorem Parts.ofToken?_append {payload signature : List Char} (hpayload : '.' ∉ payload)
    (hsignature : '.' ∉ signature) (header : List Char) :
    ofToken? (header ++ '.' :: (payload ++ '.' :: signature)) =
      some ⟨header ++ '.' :: payload, header, payload, signature⟩ := by
  have htoken : header ++ '.' :: (payload ++ '.' :: signature) =
      (header ++ '.' :: payload) ++ '.' :: signature := by simp
  rw [htoken, ofToken?, cutLast?_append hsignature]
  simp only [Option.bind_eq_bind, Option.bind_some, cutLast?_append hpayload, Option.pure_def]

/-! Tokens from their fronts. -/

theorem dot_not_mem (bytes : Bytes) : '.' ∉ encodeChars urlSafe bytes :=
  not_mem_encodeChars urlSafe_lawful (by decide) bytes

/-- The text consists of three byte strings in base64, each as it is written without padding, with
dots between them: a header, an object of claims and a signature that is not empty. -/
structure WellFormed (text : List Char) (header : Bytes) (e : Evidence) : Prop where
  segments : text = encodeChars urlSafe header ++ '.' ::
    (encodeChars urlSafe e.payload ++ '.' :: encodeChars urlSafe e.signature)
  parsed : Header.ofBytes? header = some e.header
  claims : ∃ members, Json.parse? e.payload = some (.object members)
  signed : e.signature ≠ []
  covered : e.signedBytes =
    Utf8.encodeChars (encodeChars urlSafe header ++ '.' :: encodeChars urlSafe e.payload)
  token : e.token = String.ofList text

theorem isObject_iff {bytes : Bytes} :
    ((Json.parse? bytes).map Evidence.isObject).getD false = true ↔
      ∃ members, Json.parse? bytes = some (.object members) := by
  cases Json.parse? bytes with
  | none => simp
  | some value => cases value <;> simp [Evidence.isObject]

/-- When three segments are read, and what of them. -/
theorem ofSegments_iff {token header payload signature : List Char} {e : Evidence} :
    Evidence.ofSegments token header payload signature = .ok e ↔
      signature ≠ [] ∧ ∃ headerBytes, decodeUnpadded? urlSafe header = some headerBytes ∧
        decodeUnpadded? urlSafe payload = some e.payload ∧
        decodeUnpadded? urlSafe signature = some e.signature ∧
        (∃ members, Json.parse? e.payload = some (.object members)) ∧
        Header.ofBytes? headerBytes = some e.header ∧
        e.signedBytes = Utf8.encodeChars (header ++ '.' :: payload) ∧
        e.token = String.ofList token := by
  simp only [Evidence.ofSegments, ite_error_eq_ok, bind_eq_ok, segment_eq_ok, isObject_iff,
    ite_else_error_eq_ok]
  rw [List.isEmpty_iff]
  refine and_congr_right fun _ => exists_congr fun headerBytes => and_congr_right fun _ => ?_
  constructor
  · intro h
    obtain ⟨payloadBytes, hpayload, signatureBytes, hsignature, hclaims, h⟩ := h
    split at h
    · rename_i parsed hparsed
      rw [pure_eq_ok] at h
      subst h
      exact ⟨hpayload, hsignature, hclaims, hparsed, rfl, rfl⟩
    · cases h
  · intro h
    obtain ⟨hpayload, hsignature, hclaims, hparsed, hcovered, htoken⟩ := h
    refine ⟨e.payload, hpayload, e.signature, hsignature, hclaims, ?_⟩
    rw [hparsed, pure_eq_ok, ← hcovered, ← htoken]

theorem splitOn_segments {header payload signature : List Char} (hheader : '.' ∉ header)
    (hpayload : '.' ∉ payload) (hsignature : '.' ∉ signature) :
    (header ++ '.' :: (payload ++ '.' :: signature)).splitOn '.' =
      [header, payload, signature] := by
  rw [List.splitOn_append_cons_self, List.splitOn_append_cons_self,
    List.splitOn_eq_singleton hheader, List.splitOn_eq_singleton hpayload,
    List.splitOn_eq_singleton hsignature]
  rfl

theorem parse_eq_ok_iff {text : List Char} {e : Evidence} :
    Evidence.parse text = .ok e ↔ ∃ header, WellFormed (Text.trim text) header e := by
  constructor
  · intro h
    obtain ⟨header, payload, signature, htext⟩ := exists_segments h
    obtain ⟨hsigned, headerBytes, hheader, hpayload, hsignature, hclaims, hparsed, hcovered,
      htoken⟩ := ofSegments_iff.1 (parse_eq_ok htext h)
    rw [decodeUnpadded?_eq_some urlSafe_lawful] at hheader hpayload hsignature
    subst hheader hpayload hsignature
    exact ⟨headerBytes, htext, hparsed, hclaims, mt encodeChars_eq_nil.2 hsigned, hcovered, htoken⟩
  · intro h
    obtain ⟨header, hwell⟩ := h
    have hsplit := splitOn_segments (dot_not_mem header) (dot_not_mem e.payload)
      (dot_not_mem e.signature)
    rw [← hwell.segments] at hsplit
    simp only [Evidence.parse, hsplit]
    have hread (bytes : Bytes) := decodeUnpadded?_encodeChars urlSafe_lawful bytes
    exact ofSegments_iff.2 ⟨mt encodeChars_eq_nil.1 hwell.signed, header, hread header,
      hread e.payload, hread e.signature, hwell.claims, hwell.parsed, hwell.covered, hwell.token⟩

/-! Reading a token. -/

theorem parse_append {before after : List Char} (hbefore : Text.IsBlanks before)
    (hafter : Text.IsBlanks after) (text : List Char) :
    Evidence.parse (before ++ text ++ after) = Evidence.parse text := by
  simp only [Evidence.parse, Text.trim_append hbefore hafter]

theorem WellFormed.parse_token {text : List Char} {header : Bytes} {e : Evidence}
    (h : WellFormed (Text.trim text) header e) : Evidence.parse e.token.toList = .ok e := by
  have htoken : e.token.toList = Text.trim text := by rw [h.token, String.toList_ofList]
  refine parse_eq_ok_iff.2 ⟨header, ?_⟩
  rwa [htoken, Text.trim_trim]

/-- A token is read from its end as it is from its front. -/
theorem WellFormed.fromEnd {text : List Char} {header : Bytes} {e : Evidence}
    (h : WellFormed text header e) : ∃ parts, Parts.ofToken? text = some parts ∧
      text.splitOn '.' = [parts.header, parts.payload, parts.signature] ∧
      parts.evidence? text = some e := by
  have hsplit := splitOn_segments (dot_not_mem header) (dot_not_mem e.payload)
    (dot_not_mem e.signature)
  have hparts := Parts.ofToken?_append (dot_not_mem e.payload) (dot_not_mem e.signature)
    (encodeChars urlSafe header)
  rw [← h.segments] at hsplit hparts
  refine ⟨_, hparts, hsplit, ?_⟩
  have hread (bytes : Bytes) := decodeUnpadded?_encodeChars urlSafe_lawful bytes
  simp only [Parts.evidence?, hread, h.parsed, Option.bind_eq_bind, Option.bind_some,
    Option.pure_def, ← h.covered, ← h.token]

/-- The header of a token that a key accepts: it names the key, its algorithm is one of the key's,
and its bytes are under the signature. -/
structure SignedHeader (text : List Char) (key : VerificationKey) (id : String) (e : Evidence)
    (header : Bytes) : Prop where
  segments : (Text.trim text).splitOn '.' =
    [encodeChars urlSafe header, encodeChars urlSafe e.payload, encodeChars urlSafe e.signature]
  parsed : Header.ofBytes? header = some e.header
  keyId : e.header.keyId = some id
  algorithm : e.header.algorithm ∈ key.algorithms
  signed : key.verify
    (Utf8.encodeChars (encodeChars urlSafe header ++ '.' :: encodeChars urlSafe e.payload))
    e.signature e.header.algorithm = true

theorem WellFormed.signedHeader {text : List Char} {header : Bytes} {e : Evidence}
    {key : VerificationKey} {expected : Expectations} {order : SearchOrder} {claims : Json}
    {id : String} (h : WellFormed (Text.trim text) header e) (hid : e.header.keyId = some id)
    (haccepted : e.authenticate key expected order = .ok claims) :
    SignedHeader text key id e header := by
  obtain ⟨⟨halgorithm, hsigned⟩, _⟩ := authenticate_eq_ok.1 haccepted
  rw [h.covered] at hsigned
  have hsplit := splitOn_segments (dot_not_mem header) (dot_not_mem e.payload)
    (dot_not_mem e.signature)
  rw [← h.segments] at hsplit
  exact ⟨hsplit, h.parsed, hid, halgorithm, hsigned⟩

/-- What is read as a token, and what it is read as. -/
structure Read (text : List Char) : Prop where
  accepted : ∀ e, Evidence.parse text = .ok e ↔ ∃ header, WellFormed (Text.trim text) header e
  refused : (¬∃ header e, WellFormed (Text.trim text) header e) →
    ∃ cause, Evidence.parse text = .error cause ∧
      readToken (Utf8.encodeChars text) = .error (.badFormat (.token cause))
  token : ∀ e, Evidence.parse text = .ok e → e.token.toList = Text.trim text
  again : ∀ e, Evidence.parse text = .ok e → Evidence.parse e.token.toList = .ok e
  blanks : ∀ before after, Text.IsBlanks before → Text.IsBlanks after →
    Evidence.parse (before ++ text ++ after) = Evidence.parse text
  fromEnd : ∀ e, Evidence.parse text = .ok e →
    ∃ parts, Parts.ofToken? e.token.toList = some parts ∧
      e.token.toList.splitOn '.' = [parts.header, parts.payload, parts.signature] ∧
      parts.evidence? e.token.toList = some e
  header : ∀ e id key expected order claims, readToken (Utf8.encodeChars text) = .ok (e, id) →
    e.authenticate key expected order = .ok claims → ∃ header, SignedHeader text key id e header

theorem readToken_of_refused {text : List Char} {cause : Evidence.Error}
    (h : Evidence.parse text = .error cause) :
    readToken (Utf8.encodeChars text) = .error (.badFormat (.token cause)) := by
  simp only [readToken, Evidence.ofBytes, Utf8.decodeChars?_encodeChars, h]
  rfl

theorem parse_read (text : List Char) : Read text where
  accepted _ := parse_eq_ok_iff
  refused h := by
    cases hparse : Evidence.parse text with
    | error cause => exact ⟨cause, rfl, readToken_of_refused hparse⟩
    | ok e =>
      obtain ⟨header, hwell⟩ := parse_eq_ok_iff.1 hparse
      exact absurd ⟨header, e, hwell⟩ h
  token e h := by
    obtain ⟨header, hwell⟩ := parse_eq_ok_iff.1 h
    rw [hwell.token, String.toList_ofList]
  again e h := by
    obtain ⟨header, hwell⟩ := parse_eq_ok_iff.1 h
    exact hwell.parse_token
  blanks _ _ hbefore hafter := parse_append hbefore hafter text
  fromEnd e h := by
    obtain ⟨header, hwell⟩ := parse_eq_ok_iff.1 h
    rw [hwell.token, String.toList_ofList]
    exact hwell.fromEnd
  header e id key expected order claims hread haccepted := by
    obtain ⟨text', htext, hparse, hid⟩ := readToken_eq_ok.1 hread
    rw [Utf8.decodeChars?_encodeChars] at htext
    obtain rfl : text = text' := Option.some.inj htext
    obtain ⟨header, hwell⟩ := parse_eq_ok_iff.1 hparse
    exact ⟨header, hwell.signedHeader hid haccepted⟩

end Attestation.Jwt
