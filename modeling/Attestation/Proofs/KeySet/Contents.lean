import Attestation.Proofs.KeySet.Families
import Attestation.Proofs.Tables

/-!
What a key set holds of the keys that a document lists. Under each name stands the last usable key
of that name. A key that cannot be used costs a warning and nothing else, wherever it stands and
whatever its name, so the order of the keys matters only among usable keys of one name.
-/
namespace Attestation.KeySet

open Checks

def Unusable (raw : Json) : Prop := ∃ defect, readKey raw = .error defect

/-- The last key of this name in the list that can be used. -/
def LastUsable (raws : List Json) (id : String) (key : Jwt.VerificationKey) : Prop :=
  ∃ before raw after, raws = before ++ raw :: after ∧ raw.get? "kid" = some (.string id) ∧
    readKey raw = .ok (id, key) ∧
    ∀ later ∈ after, later.get? "kid" = some (.string id) → Unusable later

/-- The second list is the first one with this many unusable keys put in, at whatever places. -/
inductive Padded : Nat → List Json → List Json → Prop
  | nil : Padded 0 [] []
  | keep {n : Nat} {raws more : List Json} (raw : Json) (rest : Padded n raws more) :
      Padded n (raw :: raws) (raw :: more)
  | put {n : Nat} {raws more : List Json} {raw : Json} (unusable : Unusable raw)
      (rest : Padded n raws more) : Padded (n + 1) raws (raw :: more)

/-- The usable keys of a list, each with its name. -/
def usableKeys (raws : List Json) : List (String × Jwt.VerificationKey) :=
  raws.filterMap fun raw => usable? (readKey raw)

variable {raws more : List Json} {id : String} {key : Jwt.VerificationKey} {n : Nat}

/-! Reading a list. -/

theorem usable?_eq_some {read : Except Defect (String × Jwt.VerificationKey)}
    {found : String × Jwt.VerificationKey} : usable? read = some found ↔ read = .ok found := by
  cases read <;> simp [usable?]

theorem ofKeys_keys (raws : List Json) : (ofKeys raws).keys = Table.ofList (usableKeys raws) := by
  simp only [ofKeys, usableKeys, List.filterMap_map, Function.comp_def]

theorem ofKeys_skipped (raws : List Json) :
    (ofKeys raws).skipped = raws.filterMap fun raw => defect? (readKey raw) := by
  simp only [ofKeys, List.filterMap_map, Function.comp_def]

theorem get?_ofKeys : (ofKeys raws).keys.get? id = some key ↔ LastUsable raws id key := by
  rw [ofKeys_keys, Table.get?_ofList_last]
  constructor
  · rintro ⟨_, found, heq, hfound⟩
    obtain ⟨before, rest, rfl, _, hrest⟩ := List.filterMap_eq_append_iff.1 heq
    obtain ⟨between, raw, after, rfl, _, hraw, hafter⟩ := List.filterMap_eq_cons_iff.1 hrest
    have hread := usable?_eq_some.1 hraw
    refine ⟨before ++ between, raw, after, by simp, (readKey_eq_ok hread).1, hread, ?_⟩
    intro later hlater hname
    cases hlast : readKey later with
    | error defect => exact ⟨defect, hlast⟩
    | ok other =>
      -- A usable key further down would have taken the place of this one.
      obtain ⟨name, value⟩ := other
      have hsame : name = id := by simpa [(readKey_eq_ok hlast).1] using hname
      have hmem : (name, value) ∈ found :=
        hafter ▸ List.mem_filterMap.2 ⟨later, hlater, usable?_eq_some.2 hlast⟩
      exact absurd hsame (hfound _ hmem)
  · rintro ⟨before, raw, after, rfl, _, hread, hlater⟩
    refine ⟨usableKeys before, usableKeys after, ?_, ?_⟩
    · simp [usableKeys, hread, usable?]
    · rintro ⟨name, value⟩ he rfl
      obtain ⟨later, hmem, hlast⟩ := List.mem_filterMap.1 he
      have hlast := usable?_eq_some.1 hlast
      obtain ⟨defect, hdefect⟩ := hlater later hmem (readKey_eq_ok hlast).1
      rw [hlast] at hdefect
      cases hdefect

/-! Unusable keys and the order of keys. -/

theorem Padded.usableKeys (h : Padded n raws more) : usableKeys more = usableKeys raws := by
  induction h with
  | nil => rfl
  | keep raw _ ih => simp only [KeySet.usableKeys, List.filterMap_cons] at ih ⊢; rw [ih]
  | put unusable _ ih =>
    obtain ⟨defect, hdefect⟩ := unusable
    simpa [KeySet.usableKeys, hdefect, usable?] using ih

theorem Padded.keys (h : Padded n raws more) : (ofKeys more).keys = (ofKeys raws).keys := by
  rw [ofKeys_keys, ofKeys_keys, h.usableKeys]

theorem Padded.skipped (h : Padded n raws more) :
    (ofKeys more).skipped.length = (ofKeys raws).skipped.length + n := by
  rw [ofKeys_skipped, ofKeys_skipped]
  induction h with
  | nil => rfl
  | keep raw _ ih =>
    rw [List.filterMap_cons, List.filterMap_cons]
    cases readKey raw with
    | ok found => exact ih
    | error defect =>
      simp only [defect?, List.length_cons] at ih ⊢
      omega
  | put unusable _ ih =>
    obtain ⟨defect, hdefect⟩ := unusable
    simp only [List.filterMap_cons, hdefect, defect?, List.length_cons] at ih ⊢
    omega

theorem keys_eq_of_perm (h : raws.Perm more) (hdistinct : ((usableKeys raws).map (·.1)).Nodup) :
    (ofKeys more).keys = (ofKeys raws).keys := by
  rw [ofKeys_keys, ofKeys_keys]
  exact (Table.ofList_eq_of_perm (h.filterMap _) hdistinct).symm

/-! Documents. -/

theorem ofDocument?_of_keysOf? {document : String} (h : keysOf? document = some raws) :
    ofDocument? document = some (ofKeys raws) := by
  rw [ofDocument?, h, Option.map_some]

/-- What a reading has to do with the keys that its document lists, and with the readings of other
documents. -/
structure Collected (raws : List Json) (reading : Reading) : Prop where
  last : ∀ id key, reading.keys.get? id = some key ↔ LastUsable raws id key
  padded : ∀ document more n, keysOf? document = some more → Padded n raws more →
    ∃ other, ofDocument? document = some other ∧ other.keys = reading.keys ∧
      other.skipped.length = reading.skipped.length + n
  thinned : ∀ document fewer n, keysOf? document = some fewer → Padded n fewer raws →
    ∃ other, ofDocument? document = some other ∧ other.keys = reading.keys ∧
      other.skipped.length + n = reading.skipped.length
  permuted : ∀ document shuffled, keysOf? document = some shuffled → raws.Perm shuffled →
    ((usableKeys raws).map (·.1)).Nodup →
      ∃ other, ofDocument? document = some other ∧ other.keys = reading.keys
  family : ∀ id key, reading.keys.get? id = some key → ∃ raw ∈ raws,
    readKey raw = .ok (id, key) ∧ ∃ family, Declares raw family ∧
      key.algorithms = family.algorithms ∧
      ∀ token : Jwt.Evidence, token.header.algorithm ∉ family.algorithms → ∀ expected order,
        token.authenticate key expected order = .error .invalidAlgorithm

theorem reading_collected {document : String} (h : keysOf? document = some raws) :
    ∃ reading, ofDocument? document = some reading ∧ Collected raws reading := by
  refine ⟨ofKeys raws, ofDocument?_of_keysOf? h, fun id key => get?_ofKeys, ?_, ?_, ?_, ?_⟩
  · intro document more n hmore hpadded
    exact ⟨_, ofDocument?_of_keysOf? hmore, hpadded.keys, hpadded.skipped⟩
  · intro document fewer n hfewer hpadded
    exact ⟨_, ofDocument?_of_keysOf? hfewer, hpadded.keys.symm, hpadded.skipped.symm⟩
  · intro document shuffled hshuffled hperm hdistinct
    exact ⟨_, ofDocument?_of_keysOf? hshuffled, keys_eq_of_perm hperm hdistinct⟩
  · intro id key hkey
    obtain ⟨before, raw, after, rfl, _, hread, _⟩ := get?_ofKeys.1 hkey
    obtain ⟨family, hdeclares, halgorithms⟩ := family_of_readKey hread
    refine ⟨raw, by simp, hread, family, hdeclares, halgorithms, ?_⟩
    intro token hforeign expected order
    exact authenticate_of_not_mem (halgorithms ▸ hforeign) expected order

/-- Two usable keys of one name, between them a key without a name, and behind them a secret of the
same name, which is not usable. -/
def specimenDocument : String :=
  "\x7b\"keys\":[\x7b\"kid\":\"k\",\"kty\":\"RSA\",\"n\":\"AQAB\",\"e\":\"AQAB\"\x7d," ++
    "\x7b\"kty\":\"RSA\",\"n\":\"AQAB\",\"e\":\"AQAB\"\x7d," ++
    "\x7b\"kid\":\"k\",\"kty\":\"EC\",\"crv\":\"P-256\",\"x\":\"AA\",\"y\":\"AQ\"\x7d," ++
    "\x7b\"kid\":\"k\",\"kty\":\"oct\",\"k\":\"AQAB\"\x7d]\x7d"

set_option maxRecDepth 100000 in
theorem reading_collected_specimen : ∃ raws reading, keysOf? specimenDocument = some raws ∧
    ofDocument? specimenDocument = some reading ∧ Collected raws reading ∧
      reading.keys.entries = [("k", .curvePoint [4, 0, 1])] ∧
      reading.skipped = [.noId, .unsupportedType "k"] := by
  have hfound : (keysOf? specimenDocument).map
      (fun raws => ((ofKeys raws).keys.entries, (ofKeys raws).skipped)) =
        some ([("k", .curvePoint [4, 0, 1])], [.noId, .unsupportedType "k"]) := by decide +kernel
  obtain ⟨raws, hraws, hfound⟩ := Option.map_eq_some_iff.1 hfound
  obtain ⟨hkeys, hskipped⟩ := Prod.mk.inj hfound
  obtain ⟨reading, hreading, hcollected⟩ := reading_collected hraws
  obtain rfl : ofKeys raws = reading :=
    Option.some.inj ((ofDocument?_of_keysOf? hraws).symm.trans hreading)
  exact ⟨raws, _, hraws, hreading, hcollected, hkeys, hskipped⟩

end Attestation.KeySet
