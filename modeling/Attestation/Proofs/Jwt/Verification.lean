import Attestation.Jwt.Verification
import Attestation.Proofs.Jwt.Identity

/-!
When the verification of a token hands out claims. The token is split and its parts are read several
times over; what is checked, signed and handed out is shown to be the same payload.
-/
namespace Attestation.Jwt

open Json Checks

/-! Reading. -/

theorem segment_eq_ok {name : Evidence.Segment} {text : List Char} {bytes : Bytes} :
    Evidence.segment name text = .ok bytes ↔
      Base64.decodeUnpadded? Base64.urlSafe text = some bytes := by
  unfold Evidence.segment
  cases Base64.decodeUnpadded? Base64.urlSafe text <;> simp

theorem ofSegments_eq_ok {text header payload signature : List Char} {token : Evidence}
    (h : Evidence.ofSegments text header payload signature = .ok token) :
    (∃ bytes, Base64.decodeUnpadded? Base64.urlSafe header = some bytes ∧
      Header.ofBytes? bytes = some token.header) ∧
      Base64.decodeUnpadded? Base64.urlSafe payload = some token.payload ∧
      Base64.decodeUnpadded? Base64.urlSafe signature = some token.signature ∧
      token.signedBytes = Utf8.encodeChars (header ++ '.' :: payload) ∧
      ∃ claims, Json.parse? token.payload = some claims ∧ Evidence.isObject claims = true := by
  unfold Evidence.ofSegments at h
  split at h
  · simp at h
  · simp only [bind_eq_ok, segment_eq_ok] at h
    obtain ⟨headerBytes, hheader, payloadBytes, hpayload, signatureBytes, hsignature, h⟩ := h
    split at h
    · rename_i hobject
      split at h
      · rename_i parsed hparsed
        rw [pure_eq_ok] at h
        subst h
        refine ⟨⟨headerBytes, hheader, hparsed⟩, hpayload, hsignature, rfl, ?_⟩
        cases hclaims : Json.parse? payloadBytes with
        | none => simp [hclaims] at hobject
        | some claims => exact ⟨claims, rfl, by simpa [hclaims] using hobject⟩
      · simp at h
    · simp at h

theorem eq_of_splitOn_dot {text part : List Char} (h : text.splitOn '.' = [part]) :
    text = part := by
  rw [← @List.intercalate_splitOn _ text _ _ '.', h]
  simp

/-- A text that splits into three parts at its dots is split in one way only. -/
theorem segments_unique {a b c header payload signature : List Char}
    (h : (header ++ '.' :: (payload ++ '.' :: signature)).splitOn '.' = [a, b, c]) :
    header = a ∧ payload = b ∧ signature = c := by
  rw [List.splitOn_append_cons_self, List.splitOn_append_cons_self] at h
  obtain ⟨x, xs, hx⟩ := List.exists_cons_of_ne_nil (List.splitOn_ne_nil '.' header)
  obtain ⟨y, ys, hy⟩ := List.exists_cons_of_ne_nil (List.splitOn_ne_nil '.' payload)
  obtain ⟨z, zs, hz⟩ := List.exists_cons_of_ne_nil (List.splitOn_ne_nil '.' signature)
  rw [hx, hy, hz] at h
  -- Three parts are left, so that none of the texts has a dot of its own.
  have hlength := congrArg List.length h
  simp only [List.length_append, List.length_cons, List.length_nil] at hlength
  obtain rfl := List.eq_nil_of_length_eq_zero (show xs.length = 0 by omega)
  obtain rfl := List.eq_nil_of_length_eq_zero (show ys.length = 0 by omega)
  obtain rfl := List.eq_nil_of_length_eq_zero (show zs.length = 0 by omega)
  obtain ⟨rfl, rfl, rfl⟩ : x = a ∧ y = b ∧ z = c := by simpa using h
  exact ⟨eq_of_splitOn_dot hx, eq_of_splitOn_dot hy, eq_of_splitOn_dot hz⟩

theorem parse_eq_ok {text header payload signature : List Char} {token : Evidence}
    (htext : Text.trim text = header ++ '.' :: (payload ++ '.' :: signature))
    (h : Evidence.parse text = .ok token) :
    Evidence.ofSegments (Text.trim text) header payload signature = .ok token := by
  unfold Evidence.parse at h
  dsimp only at h
  split at h
  · rename_i a b c hsplit
    rw [htext] at hsplit
    obtain ⟨rfl, rfl, rfl⟩ := segments_unique hsplit
    exact h
  · simp at h

theorem exists_segments {text : List Char} {token : Evidence}
    (h : Evidence.parse text = .ok token) :
    ∃ header payload signature,
      Text.trim text = header ++ '.' :: (payload ++ '.' :: signature) := by
  unfold Evidence.parse at h
  dsimp only at h
  split at h
  · rename_i a b c hsplit
    refine ⟨a, b, c, ?_⟩
    rw [← @List.intercalate_splitOn _ (Text.trim text) _ _ '.', hsplit]
    simp
  · simp at h

/-! Checking. -/

theorem checkSignature_eq_ok {token : Evidence} {key : VerificationKey} {u : Unit} :
    token.checkSignature key = .ok u ↔ token.header.algorithm ∈ key.algorithms ∧
      key.verify token.signedBytes token.signature token.header.algorithm = true := by
  simp only [Evidence.checkSignature, ite_error_eq_ok, ite_else_error_eq_ok]
  simp

theorem authenticate_eq_ok {token : Evidence} {key : VerificationKey} {expected : Expectations}
    {claims : Json} {order : SearchOrder} :
    token.authenticate key expected order = .ok claims ↔
      (token.header.algorithm ∈ key.algorithms ∧
        key.verify token.signedBytes token.signature token.header.algorithm = true) ∧
      ∃ t, Tree.parse? token.payload = some t ∧ t.valueWithin? Tree.depthLimit = some claims ∧
        ∃ i, Identity.ofTree? t = some i ∧ i.check expected order = .ok () := by
  simp only [Evidence.authenticate, bind_eq_ok, checkSignature_eq_ok, Evidence.claims?,
    Evidence.identity?, Json.parse?]
  cases Tree.parse? token.payload with
  | none => simp
  | some t =>
    simp only [Option.bind_eq_bind, Option.bind_some, Option.some.injEq, exists_eq_left']
    cases t.valueWithin? Tree.depthLimit with
    | none => simp
    | some value =>
      cases Identity.ofTree? t with
      | none => simp
      | some i =>
        simp only [bind_eq_ok, pure_eq_ok, Option.some.injEq, exists_eq_left']
        constructor
        · intro h
          obtain ⟨_, hsigned, _, hcheck, rfl⟩ := h
          exact ⟨hsigned, rfl, hcheck⟩
        · intro h
          obtain ⟨hsigned, rfl, hcheck⟩ := h
          exact ⟨(), hsigned, (), hcheck, rfl⟩

theorem claimsOf_eq_ok {token : Evidence} {key : VerificationKey} {expected : Expectations}
    {now : Instant} {claims : Json} {order : SearchOrder} :
    claimsOf token key expected now order = .ok claims ↔
      token.authenticate key expected order = .ok claims ∧ Lifetime.check claims now = .ok () := by
  simp only [claimsOf, bind_eq_ok, mapError_eq_ok, pure_eq_ok]
  constructor
  · intro h
    obtain ⟨found, hfound, _, hlife, rfl⟩ := h
    exact ⟨hfound, hlife⟩
  · intro h
    obtain ⟨hfound, hlife⟩ := h
    exact ⟨claims, hfound, (), hlife, rfl⟩

theorem readToken_eq_ok {evidence : Bytes} {token : Evidence} {id : String} :
    readToken evidence = .ok (token, id) ↔ ∃ text, Utf8.decodeChars? evidence = some text ∧
      Evidence.parse text = .ok token ∧ token.header.keyId = some id := by
  simp only [readToken, mapError_eq_ok, bind_eq_ok, pure_eq_ok, Prod.mk.injEq]
  constructor
  · intro h
    obtain ⟨found, hfound, name, hname, rfl, rfl⟩ := h
    unfold Evidence.ofBytes at hfound
    split at hfound
    · rename_i text htext
      refine ⟨text, htext, hfound, ?_⟩
      unfold Evidence.keyId at hname
      split at hname <;> simp_all
    · simp at hfound
  · intro h
    obtain ⟨text, htext, hparse, hid⟩ := h
    exact ⟨token, by simp [Evidence.ofBytes, htext, hparse], id, by simp [Evidence.keyId, hid],
      rfl, rfl⟩

theorem readToken_iff {evidence : Bytes} {token : Evidence} {id : String} :
    readToken evidence = .ok (token, id) ↔
      Evidence.ofBytes evidence = .ok token ∧ token.header.keyId = some id := by
  rw [readToken_eq_ok]
  unfold Evidence.ofBytes
  cases Utf8.decodeChars? evidence with
  | none => simp
  | some text => simp

theorem verify_result {cache : KeyCache} {source : KeySource} {issuer : Issuer}
    {evidence : Bytes} {now : Instant} {order : SearchOrder} {claims : Json} :
    (verify cache source issuer evidence now order).result = .ok claims ↔ ∃ token id key,
      readToken evidence = .ok (token, id) ∧
      (cache.resolve source issuer.keysUrl id now).answer = .ok key ∧
      claimsOf token key issuer.expected now order = .ok claims := by
  unfold verify
  cases hread : readToken evidence with
  | error e => simp
  | ok found =>
    obtain ⟨token, id⟩ := found
    simp only [Lookup.andThen, findKey, bind_eq_ok, mapError_eq_ok, Except.ok.injEq, Prod.mk.injEq]
    constructor
    · intro h
      obtain ⟨key, hkey, hclaims⟩ := h
      exact ⟨token, id, key, ⟨rfl, rfl⟩, hkey, hclaims⟩
    · intro h
      obtain ⟨_, _, key, ⟨rfl, rfl⟩, hkey, hclaims⟩ := h
      exact ⟨key, hkey, hclaims⟩

/-! The conditions, over the text of the token and the value of its payload. -/

/-- The text consists of three segments, and the key signed the first two as they are written. -/
structure SignedBy (key : VerificationKey) (token : Evidence)
    (text header payload signature : List Char) : Prop where
  segments : Text.trim text = header ++ '.' :: (payload ++ '.' :: signature)
  parsed : Evidence.parse text = .ok token
  algorithm : token.header.algorithm ∈ key.algorithms
  signed : ∃ octets, Base64.decodeUnpadded? Base64.urlSafe signature = some octets ∧
    key.verify (Utf8.encodeChars (header ++ '.' :: payload)) octets token.header.algorithm = true

/-- The payload has the value, repeats none of the registered claims, and says what is expected of
its issuer, its audience and its time. -/
structure Claimed (payload : List Char) (expected : Expectations) (now : Instant)
    (claims : Json) : Prop where
  value : ∃ bytes tree, Base64.decodeUnpadded? Base64.urlSafe payload = some bytes ∧
    Tree.parse? bytes = some tree ∧ Json.parse? bytes = some claims ∧
    ∀ name ∈ registered, tree.AtMostOnce name
  issuer : Says claims "iss" expected.issuer
  audience : ∀ audience, expected.audience = some audience → Says claims "aud" audience
  expiry : ∃ v, claims.get? "exp" = some v
  lifetime : Lifetime.check claims now = .ok ()

/-- The evidence is a token that says what is expected, signed by a key that its issuer publishes
under the name in its header. -/
def Authentic (cache : KeyCache) (source : KeySource) (issuer : Issuer) (evidence : Bytes)
    (now : Instant) (claims : Json) : Prop :=
  ∃ text header payload signature token id key,
    Utf8.decodeChars? evidence = some text ∧ SignedBy key token text header payload signature ∧
    token.header.keyId = some id ∧
    (cache.resolve source issuer.keysUrl id now).answer = .ok key ∧
    Claimed payload issuer.expected now claims

/-- The conditions over the text come down to the token as it is read. -/
theorem authentic_iff {cache : KeyCache} {source : KeySource} {issuer : Issuer}
    {evidence : Bytes} {now : Instant} {claims : Json} :
    Authentic cache source issuer evidence now claims ↔ ∃ token id key t,
      readToken evidence = .ok (token, id) ∧
      (cache.resolve source issuer.keysUrl id now).answer = .ok key ∧
      token.checkSignature key = .ok () ∧ Tree.parse? token.payload = some t ∧
      t.valueWithin? Tree.depthLimit = some claims ∧
      (∀ name ∈ registered, t.AtMostOnce name) ∧ Says claims "iss" issuer.expected.issuer ∧
      (∀ audience, issuer.expected.audience = some audience → Says claims "aud" audience) ∧
      Lifetime.check claims now = .ok () := by
  simp only [readToken_eq_ok, checkSignature_eq_ok]
  constructor
  · intro h
    obtain ⟨text, header, payload, signature, token, id, key, htext, ⟨hsegments, hparse,
      halgorithm, octets, hoctets, hsigned⟩, hid, hkey, ⟨⟨bytes, t, hdecoded, ht, hclaims, honce⟩,
      hiss, haud, _, hlife⟩⟩ := h
    -- The text divides in one way only, so these segments are the ones that were read.
    obtain ⟨_, hpayload, hsignature, hbytes, _⟩ := ofSegments_eq_ok (parse_eq_ok hsegments hparse)
    obtain rfl : bytes = token.payload := Option.some.inj (hdecoded.symm.trans hpayload)
    obtain rfl : octets = token.signature := Option.some.inj (hoctets.symm.trans hsignature)
    have hvalue : t.valueWithin? Tree.depthLimit = some claims := by
      simpa [Json.parse?, ht] using hclaims
    exact ⟨token, id, key, t, ⟨text, htext, hparse, hid⟩, hkey, ⟨halgorithm, hbytes ▸ hsigned⟩,
      ht, hvalue, honce, hiss, haud, hlife⟩
  · intro h
    obtain ⟨token, id, key, t, ⟨text, htext, hparse, hid⟩, hkey, ⟨halgorithm, hsigned⟩, ht, hvalue,
      honce, hiss, haud, hlife⟩ := h
    obtain ⟨header, payload, signature, hsegments⟩ := exists_segments hparse
    obtain ⟨_, hpayload, hsignature, hbytes, _⟩ := ofSegments_eq_ok (parse_eq_ok hsegments hparse)
    have hclaims : Json.parse? token.payload = some claims := by
      simp [Json.parse?, ht, hvalue]
    obtain ⟨⟨n, _, hexp, _⟩, _⟩ := times_of_lifetime hlife
    exact ⟨text, header, payload, signature, token, id, key, htext,
      ⟨hsegments, hparse, halgorithm, token.signature, hsignature, hbytes ▸ hsigned⟩, hid, hkey,
      ⟨⟨token.payload, t, hpayload, ht, hclaims, honce⟩, hiss, haud, ⟨_, hexp⟩, hlife⟩⟩

/-- The subject, if any, is neither a list nor an object, and the expiry time is not too great. -/
structure Readable (claims : Json) : Prop where
  subject : ∀ v, claims.get? "sub" = some v → Plain v
  expiry : ExpiryInRange claims

theorem isObject_of_readToken {evidence : Bytes} {token : Evidence} {id : String} {t : Tree}
    {claims : Json} (h : readToken evidence = .ok (token, id))
    (ht : Tree.parse? token.payload = some t)
    (hvalue : t.valueWithin? Tree.depthLimit = some claims) :
    Evidence.isObject claims = true := by
  obtain ⟨text, _, hparse, _⟩ := readToken_eq_ok.1 h
  obtain ⟨_, _, _, hsegments⟩ := exists_segments hparse
  obtain ⟨_, _, _, _, found, hfound, hobject⟩ := ofSegments_eq_ok (parse_eq_ok hsegments hparse)
  have hclaims : Json.parse? token.payload = some claims := by simp [Json.parse?, ht, hvalue]
  obtain rfl : claims = found := Option.some.inj (hclaims.symm.trans hfound)
  exact hobject

/-- Claims are handed out if and only if the token is authentic and these claims are readable. -/
theorem verify_eq_ok {cache : KeyCache} {source : KeySource} {issuer : Issuer}
    {evidence : Bytes} {now : Instant} {order : SearchOrder} {claims : Json} :
    (verify cache source issuer evidence now order).result = .ok claims ↔
      Authentic cache source issuer evidence now claims ∧ Readable claims := by
  rw [verify_result, authentic_iff]
  simp only [claimsOf_eq_ok, authenticate_eq_ok, checkSignature_eq_ok]
  constructor
  · intro h
    obtain ⟨token, id, key, hread, hkey, ⟨hsigned, t, ht, hvalue, hidentity⟩, hlife⟩ := h
    have hobject := isObject_of_readToken hread ht hvalue
    obtain ⟨honce, hiss, haud, hsub, hrange⟩ := (identity_iff hvalue hobject hlife).1 hidentity
    exact ⟨⟨token, id, key, t, hread, hkey, hsigned, ht, hvalue, honce, hiss, haud, hlife⟩,
      hsub, hrange⟩
  · intro h
    obtain ⟨⟨token, id, key, t, hread, hkey, hsigned, ht, hvalue, honce, hiss, haud, hlife⟩, hsub,
      hrange⟩ := h
    have hobject := isObject_of_readToken hread ht hvalue
    have hidentity : ∃ i, Identity.ofTree? t = some i ∧ i.check issuer.expected order = .ok () :=
      (identity_iff hvalue hobject hlife).2 ⟨honce, hiss, haud, hsub, hrange⟩
    exact ⟨token, id, key, hread, hkey, ⟨hsigned, t, ht, hvalue, hidentity⟩, hlife⟩

end Attestation.Jwt
