import Attestation.Proofs.Json.Fields
import Attestation.Proofs.Tables

/-!
Objects as they are written. The members of an object are a table, so its tree has each name once,
and the reader of a record finds under the names of its fields what was written there.
-/
namespace Attestation.Json

open Attestation.Json.Tree

theorem entries_insertAll (t : Table String Json) (members : List (String × Json)) :
    (t.insertAll members).entries =
      members.foldl (fun ms m => insertEntry m.1 m.2 ms) t.entries := by
  induction members generalizing t with
  | nil => rfl
  | cons m members ih => exact ih (t.insert m.1 m.2)

theorem ofMembers_eq (members : List (String × Json)) :
    Json.ofMembers members = .object (Table.ofList members).entries :=
  congrArg object (entries_insertAll Table.empty members).symm

/-- Of the members that are written under one name the last one stands. -/
theorem get?_ofMembers_last (members : List (String × Json)) (name : String) :
    (Json.ofMembers members).get? name = members.reverse.lookup name := by
  rw [ofMembers_eq, ← Table.get?_ofList_eq]
  rfl

theorem ofMembers_eq_iff_perm {ms ns : List (String × Json)} (hms : (ms.map (·.1)).Nodup)
    (hns : (ns.map (·.1)).Nodup) : Json.ofMembers ms = Json.ofMembers ns ↔ ms.Perm ns := by
  rw [ofMembers_eq, ofMembers_eq, object.injEq]
  constructor
  · intro h
    exact (Table.ofList_perm hms).symm.trans (h ▸ Table.ofList_perm hns)
  · intro h
    rw [Table.ofList_eq_of_perm h hms]

/-- Under the same names there are different values in different objects. -/
theorem ofMembers_inj {ms ns : List (String × Json)} (hnames : ms.map (·.1) = ns.map (·.1))
    (hdistinct : (ms.map (·.1)).Nodup) : Json.ofMembers ms = Json.ofMembers ns ↔ ms = ns := by
  have hdistinct' : (ns.map (·.1)).Nodup := hnames ▸ hdistinct
  rw [ofMembers_eq_iff_perm hdistinct hdistinct']
  refine ⟨fun hperm => ?_, fun h => h ▸ .refl _⟩
  refine List.ext_getElem hperm.length_eq fun i hi hi' => ?_
  have hname : ms[i].1 = ns[i].1 := by
    have hat := congrArg (·[i]?) hnames
    simpa [hi, hi'] using hat
  have hmem : ms[i] ∈ ns := hperm.mem_iff.1 (List.getElem_mem hi)
  exact List.inj_on_of_nodup_map hdistinct' hmem (List.getElem_mem hi') hname

theorem labels_ofMembers (members : List (String × Json)) :
    (Tree.ofMembers members).map (·.1) = (members.map (·.1)).map some := by
  induction members with
  | nil => rfl
  | cons m members ih =>
    obtain ⟨label, v⟩ := m
    simpa [Tree.ofMembers] using ih

/-- The tree of a table has no name twice. -/
theorem atMostOnce_table (t : Table String Json) (name : String) :
    Tree.AtMostOnce name (.object (Tree.ofMembers t.entries)) := by
  have hlabels : ((Tree.ofMembers t.entries).map (·.1)).Nodup := by
    rw [labels_ofMembers]
    exact t.keys_nodup.map fun _ _ => Option.some.inj
  have hcount := List.nodup_iff_count_le_one.1 hlabels (some name)
  rwa [List.count_eq_countP, List.countP_map, List.countP_eq_length_filter] at hcount

theorem member?_table (t : Table String Json) (name : String) :
    member? (Tree.ofMembers t.entries) name = some ((t.get? name).map Tree.ofJson) := by
  obtain ⟨found, hfound⟩ := member?_eq_some.2 (atMostOnce_table t name)
  rw [hfound, member?_ofMembers hfound]
  rfl

/-- A field is there that must be. -/
def Tree.Field.Supplied (t : Table String Json) (f : Field) : Prop :=
  f.presence = .required → t.contains f.name = true

theorem ofMember?_table {t : Table String Json} {f : Field} (h : f.Supplied t) :
    ofMember? (Tree.ofMembers t.entries) f = some ((t.get? f.name).map Tree.ofJson) := by
  simp only [ofMember?, member?_table, Option.bind_eq_bind, Option.bind_some]
  refine if_neg fun hmissing => ?_
  obtain ⟨hnone, hrequired⟩ := Bool.and_eq_true_iff.1 hmissing
  obtain ⟨v, hv⟩ := Option.isSome_iff_exists.1 (h (eq_of_beq hrequired))
  simp [hv] at hnone

/-- A record finds in an object what is written under the names of its fields. -/
theorem record?_table {t : Table String Json} {fields : List Field}
    (h : ∀ f ∈ fields, f.Supplied t) :
    (Tree.ofJson (.object t.entries)).record? fields =
      some (fields.map fun f => (t.get? f.name).map Tree.ofJson) := by
  rw [Tree.ofJson, record?_object (names_ofMembers t.entries)]
  induction fields with
  | nil => rfl
  | cons f fields ih =>
    rw [List.forall_mem_cons] at h
    rw [List.mapM_cons, ofMember?_table h.1, ih h.2]
    rfl

theorem record?_ofMembers {members : List (String × Json)} {fields : List Field}
    (h : ∀ f ∈ fields, f.presence = .required → (members.reverse.lookup f.name).isSome = true) :
    (Tree.ofJson (Json.ofMembers members)).record? fields =
      some (fields.map fun f => (members.reverse.lookup f.name).map Tree.ofJson) := by
  simp only [← Table.get?_ofList_eq] at h ⊢
  rw [ofMembers_eq, record?_table h]

/-! Values that are not nested too deeply have a meaning. -/

/-- The tree of a value has a meaning even if it is nested in others. -/
def Readable (depth : Nat) (v : Json) : Prop := (valueWithin? depth (Tree.ofJson v)).isSome = true

variable {depth : Nat}

theorem readable_string (s : String) : Readable depth (.string s) := rfl

theorem readable_array {items : List Json} (h : ∀ v ∈ items, Readable (depth + 1) v) :
    Readable (depth + 2) (.array items) := by
  have hitems : ∃ values, itemsWithin? (depth + 1) (Tree.ofItems items) = some values := by
    induction items with
    | nil => exact ⟨[], rfl⟩
    | cons v items ih =>
      rw [List.forall_mem_cons] at h
      obtain ⟨value, hvalue⟩ := Option.isSome_iff_exists.1 h.1
      obtain ⟨values, hvalues⟩ := ih h.2
      exact ⟨value :: values, itemsWithin?_cons.2 ⟨value, values, hvalue, hvalues, rfl⟩⟩
  obtain ⟨values, hvalues⟩ := hitems
  exact Option.isSome_iff_exists.2
    ⟨_, valueWithin?_array.2 ⟨by omega, values, hvalues, rfl⟩⟩

theorem readable_strings (names : List String) : Readable (depth + 2) (.strings names) := by
  refine readable_array fun v hv => ?_
  obtain ⟨name, _, rfl⟩ := List.mem_map.1 hv
  exact readable_string name

theorem readable_object {members : List (String × Json)}
    (h : ∀ m ∈ members, Readable (depth + 1) m.2) : Readable (depth + 2) (.object members) := by
  have hmembers : ∃ values, membersWithin? (depth + 1) (Tree.ofMembers members) = some values := by
    induction members with
    | nil => exact ⟨[], rfl⟩
    | cons m members ih =>
      obtain ⟨name, v⟩ := m
      rw [List.forall_mem_cons] at h
      obtain ⟨value, hvalue⟩ := Option.isSome_iff_exists.1 h.1
      obtain ⟨values, hvalues⟩ := ih h.2
      exact ⟨(name, value) :: values,
        membersWithin?_cons.2 ⟨name, value, values, rfl, hvalue, hvalues, rfl⟩⟩
  obtain ⟨values, hvalues⟩ := hmembers
  exact Option.isSome_iff_exists.2
    ⟨_, valueWithin?_object.2 ⟨by omega, values, hvalues, rfl⟩⟩

theorem mem_of_mem_ofList {members : List (String × Json)} {m : String × Json}
    (h : m ∈ (Table.ofList members).entries) : m ∈ members := by
  obtain ⟨before, after, rfl, _⟩ := Table.get?_ofList_last.1 (Table.get?_eq_some.2 h)
  simp

theorem readable_ofMembers {members : List (String × Json)}
    (h : ∀ m ∈ members, Readable (depth + 1) m.2) : Readable (depth + 2) (.ofMembers members) := by
  rw [ofMembers_eq]
  exact readable_object fun m hm => h m (mem_of_mem_ofList hm)

end Attestation.Json
