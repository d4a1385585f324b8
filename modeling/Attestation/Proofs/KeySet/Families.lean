import Attestation.Jwt.Authenticity
import Attestation.KeySet
import Attestation.Proofs.Checks
import Attestation.Proofs.Json.Fields

/-!
The families of published keys. A key is published inside a certificate, whose algorithm tells its
family, or by its parameters, whose type does. The family alone decides which algorithms the key may
be used with, and a token that names another one is refused before anything else is looked at.
-/
namespace Attestation

open Json Checks

namespace Certificate.KeyFamily

/-- The algorithm by which a certificate declares a key of the family. -/
def identifier : KeyFamily → ObjectId
  | rsa => .ofNumbers [1, 2, 840, 113549, 1, 1, 1]
  | ec => .ofNumbers [1, 2, 840, 10045, 2, 1]

/-- The type of parameters that make up a key of the family. -/
def type : KeyFamily → String
  | rsa => "RSA"
  | ec => "EC"

/-- The algorithms of tokens that a key of the family may have signed. -/
def algorithms : KeyFamily → List Jwt.Algorithm
  | rsa => [.rs256, .rs384, .rs512, .ps256, .ps384, .ps512]
  | ec => [.es256, .es384]

end Certificate.KeyFamily

namespace KeySet

open Certificate (KeyFamily)

/-- The value is a name, or an object that maps the name to null. -/
def IsVariant (v : Json) (name : String) : Prop :=
  v = .string name ∨ v = .object [(name, .null)]

/-- What a published key says of its family. Where there is a list of certificates the first of them
counts, and the type of the parameters does not. -/
inductive Declares (raw : Json) (family : KeyFamily) : Prop
  | byCertificate {leaf : String} {rest : List Json} {der : Bytes} {c : Certificate}
      (chain : raw.get? "x5c" = some (.array (.string leaf :: rest)))
      (encoded : Base64.decode? Base64.standard leaf.toList = some der)
      (certificate : Certificate.read der = .ok c)
      (algorithm : c.keyAlgorithm.id = family.identifier)
  | byType {v : Json} (bare : ∀ chain, raw.get? "x5c" ≠ some (.array chain))
      (parameters : raw.get? "kty" = some v) (type : IsVariant v family.type)

variable {raw v : Json} {id : String} {key : Jwt.VerificationKey}

/-! Certificates. -/

theorem identifier_of_keyFamily {c : Certificate} {family : KeyFamily}
    (h : c.keyFamily = .ok family) : c.keyAlgorithm.id = family.identifier := by
  unfold Certificate.keyFamily at h
  split at h
  · rename_i heq
    obtain rfl : KeyFamily.rsa = family := by simpa using h
    exact heq
  · split at h
    · rename_i heq
      obtain rfl : KeyFamily.ec = family := by simpa using h
      exact heq
    · simp at h

theorem family_of_keyOfCertificate {c : Certificate} (h : keyOfCertificate c = .ok key) :
    ∃ family : KeyFamily, c.keyAlgorithm.id = family.identifier ∧
      key.algorithms = family.algorithms := by
  simp only [keyOfCertificate, bind_eq_ok] at h
  obtain ⟨octets, _, family, hfamily, h⟩ := h
  refine ⟨family, identifier_of_keyFamily hfamily, ?_⟩
  cases family with
  | rsa =>
    obtain rfl := pure_eq_ok.1 h
    rfl
  | ec =>
    obtain rfl := pure_eq_ok.1 h
    rfl

theorem keyOfChain_eq_ok {chain : List Json} (h : keyOfChain id chain = .ok key) :
    ∃ leaf rest der c, chain = .string leaf :: rest ∧
      Base64.decode? Base64.standard leaf.toList = some der ∧ Certificate.read der = .ok c ∧
      keyOfCertificate c = .ok key := by
  unfold keyOfChain at h
  split at h
  · rename_i leaf rest
    split at h
    · simp at h
    · rename_i der hder
      split at h
      · simp at h
      · rename_i c hc
        exact ⟨leaf, rest, der, c, rfl, hder, hc, (mapError_eq_ok _).1 h⟩
  · simp at h

/-! Parameters. -/

theorem asVariant?_ofJson {name : String} (h : (Tree.ofJson v).asVariant? = some name) :
    IsVariant v name := by
  cases v with
  | string s => exact .inl (by simpa [Tree.ofJson, Tree.asVariant?] using h)
  | object members =>
    cases members with
    | nil => simp [Tree.ofJson, Tree.ofMembers, Tree.asVariant?] at h
    | cons m rest =>
      obtain ⟨label, value⟩ := m
      cases rest with
      | cons => simp [Tree.ofJson, Tree.ofMembers, Tree.asVariant?] at h
      | nil =>
        cases value with
        | null =>
          obtain rfl : label = name := by
            simpa [Tree.ofJson, Tree.ofMembers, Tree.asVariant?] using h
          exact .inr rfl
        | _ => simp [Tree.ofJson, Tree.ofMembers, Tree.asVariant?] at h
  | _ => simp [Tree.ofJson, Tree.asVariant?] at h

end KeySet

namespace Jwt.KeyParameters

/-- The type of key that has these parameters. -/
def type : KeyParameters → String
  | ellipticCurve _ _ _ => "EC"
  | rsa _ _ => "RSA"
  | octets _ => "oct"
  | octetPair _ _ => "OKP"

/-- The record has a type beside its other fields, and it is this one. -/
def StatesType (t : Tree) (type : String) : Prop :=
  ∃ names kind rest, ("kty" :: names).Nodup ∧
    t.record? (required ("kty" :: names)) = some (some kind :: rest) ∧ kind.asVariant? = some type

variable {t : Tree} {p : KeyParameters}

theorem names_required (names : List String) : (required names).map (·.name) = names := by
  simp [required, Function.comp_def]

theorem ofKind?_eq_some {kind : String} {u : Unit} :
    ofKind? kind t = some u ↔ t.asVariant? = some kind := by
  simp only [ofKind?, Option.bind_eq_bind, Option.bind_eq_some_iff]
  constructor
  · rintro ⟨name, hname, h⟩
    split at h
    · rename_i heq
      rw [hname, heq]
    · simp at h
  · intro h
    exact ⟨kind, h, if_pos rfl⟩

theorem ellipticCurve?_states (h : ellipticCurve? t = some p) : StatesType t p.type := by
  simp only [ellipticCurve?, Option.bind_eq_bind, Option.bind_eq_some_iff] at h
  obtain ⟨values, hvalues, h⟩ := h
  split at h
  · simp only [Option.bind_eq_some_iff, ofKind?_eq_some, Option.pure_def, Option.some.injEq] at h
    obtain ⟨_, hkind, curve, _, x, _, y, _, rfl⟩ := h
    exact ⟨_, _, _, by decide, hvalues, hkind⟩
  · simp at h

theorem rsa?_states (h : rsa? t = some p) : StatesType t p.type := by
  simp only [rsa?, Option.bind_eq_bind, Option.bind_eq_some_iff] at h
  obtain ⟨values, hvalues, h⟩ := h
  split at h
  · simp only [Option.bind_eq_some_iff, ofKind?_eq_some, Option.pure_def, Option.some.injEq] at h
    obtain ⟨_, hkind, modulus, _, exponent, _, rfl⟩ := h
    exact ⟨_, _, _, by decide, hvalues, hkind⟩
  · simp at h

theorem octets?_states (h : octets? t = some p) : StatesType t p.type := by
  simp only [octets?, Option.bind_eq_bind, Option.bind_eq_some_iff] at h
  obtain ⟨values, hvalues, h⟩ := h
  split at h
  · simp only [Option.bind_eq_some_iff, ofKind?_eq_some, Option.pure_def, Option.some.injEq] at h
    obtain ⟨_, hkind, value, _, rfl⟩ := h
    exact ⟨_, _, _, by decide, hvalues, hkind⟩
  · simp at h

theorem octetPair?_states (h : octetPair? t = some p) : StatesType t p.type := by
  simp only [octetPair?, Option.bind_eq_bind, Option.bind_eq_some_iff] at h
  obtain ⟨values, hvalues, h⟩ := h
  split at h
  · simp only [Option.bind_eq_some_iff, ofKind?_eq_some, Option.pure_def, Option.some.injEq] at h
    obtain ⟨_, hkind, curve, _, x, _, rfl⟩ := h
    exact ⟨_, _, _, by decide, hvalues, hkind⟩
  · simp at h

theorem ofTree?_states (h : ofTree? t = some p) : StatesType t p.type := by
  simp only [ofTree?, Option.orElse_eq_orElse, Option.orElse_eq_or,
    Option.or_eq_some_iff] at h
  rcases h with h | ⟨_, h | ⟨_, h | ⟨_, h⟩⟩⟩
  · exact ellipticCurve?_states h
  · exact rsa?_states h
  · exact octets?_states h
  · exact octetPair?_states h

theorem type_of_states {raw : Json} {name : String} (hobject : ∃ members, raw = .object members)
    (h : StatesType (Tree.ofJson raw) name) :
    ∃ v, raw.get? "kty" = some v ∧ KeySet.IsVariant v name := by
  obtain ⟨members, rfl⟩ := hobject
  obtain ⟨names, kind, rest, hnodup, hrecord, hkind⟩ := h
  have hfields : ((required ("kty" :: names)).map (·.name)).Nodup := by rwa [names_required]
  have hvalues := record?_ofJson hfields hrecord
  simp only [required, List.map_cons, List.cons.injEq] at hvalues
  obtain ⟨v, hv, rfl⟩ := Option.map_eq_some_iff.1 hvalues.1.symm
  exact ⟨v, hv, KeySet.asVariant?_ofJson hkind⟩

end Jwt.KeyParameters

namespace KeySet

open Certificate (KeyFamily)

variable {raw : Json} {id : String} {key : Jwt.VerificationKey}

theorem parameters_of_ofTree? {depth : Nat} {jwk : Jwt.Jwk}
    (h : Jwt.Jwk.ofTree? depth (Tree.ofJson raw) = some jwk) :
    (∃ members, raw = .object members) ∧
      Jwt.KeyParameters.ofTree? (Tree.ofJson raw) = some jwk.parameters := by
  cases raw with
  | object members =>
    refine ⟨⟨members, rfl⟩, ?_⟩
    rw [Tree.ofJson] at h ⊢
    simp only [Jwt.Jwk.ofTree?, Option.ite_none_right_eq_some] at h
    simp only [Jwt.Jwk.ofRecord?, Option.bind_eq_bind, Option.bind_eq_some_iff] at h
    obtain ⟨_, values, _, h⟩ := h
    split at h
    · simp only [Option.bind_eq_some_iff, Option.pure_def, Option.some.injEq] at h
      obtain ⟨_, _, _, _, _, _, _, _, _, _, _, _, _, _, _, _, parameters, hparameters, rfl⟩ := h
      exact hparameters
    · simp at h
  | _ => simp [Tree.ofJson, Jwt.Jwk.ofTree?] at h

theorem family_of_keyOfParameters {p : Jwt.KeyParameters}
    (h : keyOfParameters id p = .ok key) :
    ∃ family : KeyFamily, p.type = family.type ∧ key.algorithms = family.algorithms := by
  cases p with
  | rsa modulus exponent =>
    simp only [keyOfParameters, bind_eq_ok, pure_eq_ok] at h
    obtain ⟨_, _, _, _, rfl⟩ := h
    exact ⟨.rsa, rfl, rfl⟩
  | ellipticCurve curve x y =>
    simp only [keyOfParameters, bind_eq_ok, pure_eq_ok] at h
    obtain ⟨_, _, _, _, rfl⟩ := h
    exact ⟨.ec, rfl, rfl⟩
  | _ => simp [keyOfParameters] at h

theorem family_of_keyOfJwk (h : keyOfJwk id raw = .ok key) :
    ∃ family : KeyFamily, (∃ v, raw.get? "kty" = some v ∧ IsVariant v family.type) ∧
      key.algorithms = family.algorithms := by
  unfold keyOfJwk at h
  split at h
  · rename_i jwk hjwk
    obtain ⟨hobject, hparameters⟩ := parameters_of_ofTree? hjwk
    obtain ⟨family, htype, halgorithms⟩ := family_of_keyOfParameters h
    have hstates := Jwt.KeyParameters.ofTree?_states hparameters
    exact ⟨family, htype ▸ Jwt.KeyParameters.type_of_states hobject hstates, halgorithms⟩
  · simp at h

/-! Both together. -/

theorem readKey_eq_ok (h : readKey raw = .ok (id, key)) :
    raw.get? "kid" = some (.string id) ∧
      ((∃ chain, raw.get? "x5c" = some (.array chain) ∧ keyOfChain id chain = .ok key) ∨
        (∀ chain, raw.get? "x5c" ≠ some (.array chain)) ∧ keyOfJwk id raw = .ok key) := by
  unfold readKey at h
  split at h
  · rename_i name hname
    split at h
    · rename_i chain hchain
      obtain ⟨found, hfound, heq⟩ := map_eq_ok.1 h
      obtain ⟨rfl, rfl⟩ := Prod.mk.inj heq
      exact ⟨hname, .inl ⟨chain, hchain, hfound⟩⟩
    · rename_i hbare
      obtain ⟨found, hfound, heq⟩ := map_eq_ok.1 h
      obtain ⟨rfl, rfl⟩ := Prod.mk.inj heq
      exact ⟨hname, .inr ⟨hbare, hfound⟩⟩
  · simp at h

/-- A usable key says what its family is, and has the algorithms of that family. -/
theorem family_of_readKey (h : readKey raw = .ok (id, key)) :
    ∃ family, Declares raw family ∧ key.algorithms = family.algorithms := by
  obtain ⟨_, ⟨chain, hchain, hkey⟩ | ⟨hbare, hkey⟩⟩ := readKey_eq_ok h
  · obtain ⟨leaf, rest, der, c, rfl, hder, hc, hkey⟩ := keyOfChain_eq_ok hkey
    obtain ⟨family, hidentifier, halgorithms⟩ := family_of_keyOfCertificate hkey
    exact ⟨family, .byCertificate hchain hder hc hidentifier, halgorithms⟩
  · obtain ⟨family, ⟨v, hv, hvariant⟩, halgorithms⟩ := family_of_keyOfJwk hkey
    exact ⟨family, .byType hbare hv hvariant, halgorithms⟩

theorem authenticate_of_not_mem {token : Jwt.Evidence} (h : token.header.algorithm ∉ key.algorithms)
    (expected : Jwt.Expectations) (order : Jwt.SearchOrder) :
    token.authenticate key expected order = .error .invalidAlgorithm := by
  have hsigned : token.checkSignature key = .error .invalidAlgorithm := by
    rw [Jwt.Evidence.checkSignature, if_pos (by simpa using h)]
  rw [Jwt.Evidence.authenticate, hsigned, error_bind]

end KeySet

end Attestation
