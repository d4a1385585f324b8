import Attestation.Proofs.Checks
import Attestation.Table
import Mathlib.Data.List.Nodup
import Mathlib.Data.Prod.Basic

/-!
Tables that are filled entry by entry, where a key may occur once only. Whatever the order of the
entries, the table is the same, and it holds them and nothing else.
-/
namespace Attestation.Table

open Checks

section
variable {κ α : Type} [LE κ] [LT κ] [Std.LawfulOrderLT κ]

theorem keys_nodup (t : Table κ α) : (t.entries.map (·.1)).Nodup := by
  rw [List.Nodup, List.pairwise_map]
  refine t.increasing.imp fun hlt heq => ?_
  exact Std.lt_irrefl (heq ▸ hlt)

variable [BEq κ] [LawfulBEq κ] {key : κ}

theorem lookup_eq_some_of_mem {value : α} {entries : List (κ × α)}
    (h : entries.Pairwise fun a b => a.1 < b.1) (hmem : (key, value) ∈ entries) :
    entries.lookup key = some value := by
  induction entries with
  | nil => simp at hmem
  | cons head rest ih =>
    obtain ⟨hhead, hrest⟩ := List.pairwise_cons.1 h
    rcases List.mem_cons.1 hmem with rfl | hmem
    · simp
    · have hne : (key == head.1) = false := by
        rw [beq_eq_false_iff_ne]
        intro hkey
        exact Std.lt_irrefl (hkey ▸ hhead _ hmem)
      rw [List.lookup_cons, hne]
      exact ih hrest hmem

theorem get?_eq_some {t : Table κ α} {value : α} :
    t.get? key = some value ↔ (key, value) ∈ t.entries := by
  constructor
  · intro h
    obtain ⟨_, _, hentries, _⟩ := List.lookup_eq_some_iff.1 h
    simp [hentries]
  · exact lookup_eq_some_of_mem t.increasing

theorem contains_eq_true {t : Table κ α} : t.contains key = true ↔ key ∈ t.keys := by
  simp only [contains, Option.isSome_iff_exists, get?_eq_some, keys, List.mem_map, Prod.exists,
    exists_eq_right, exists_and_right]

theorem contains_eq_false {t : Table κ α} :
    t.contains key = false ↔ ∀ value, (key, value) ∉ t.entries := by
  simp only [← get?_eq_some, contains, Option.isSome_eq_false_iff, Option.isNone_iff_eq_none,
    Option.eq_none_iff_forall_ne_some, ne_eq]

end

section
variable {κ α : Type} [LT κ] [BEq κ]

/-- Keys that differ, and that a table does not have yet. -/
structure New (t : Table κ α) (entries : List (κ × α)) : Prop where
  distinct : (entries.map (·.1)).Nodup
  absent : ∀ e ∈ entries, t.contains e.1 = false

theorem new_empty {entries : List (κ × α)} :
    (empty : Table κ α).New entries ↔ (entries.map (·.1)).Nodup :=
  ⟨New.distinct, fun h => ⟨h, fun _ _ => rfl⟩⟩

end

section
variable {κ α : Type} [LE κ] [LT κ] [Std.IsLinearOrder κ] [Std.LawfulOrderLT κ]

/-- The entries of a table determine it, in whatever order they are given. -/
theorem eq_of_perm {a b : Table κ α} (h : a.entries.Perm b.entries) : a = b := by
  refine ext_entries (List.Perm.eq_of_pairwise ?_ a.increasing b.increasing h)
  intro x y _ _ hlt hgt
  exact absurd (Std.lt_trans hlt hgt) Std.lt_irrefl

variable [DecidableLT κ]

theorem insertEntry_perm {key : κ} {entries : List (κ × α)}
    (h : ∀ value, (key, value) ∉ entries) (value : α) :
    (insertEntry key value entries).Perm ((key, value) :: entries) := by
  induction entries with
  | nil => exact .refl _
  | cons head rest ih =>
    obtain ⟨k, v⟩ := head
    have hrest := ih fun other hother => h other (List.mem_cons_of_mem _ hother)
    unfold insertEntry
    split
    · exact .refl _
    · split
      · exact (hrest.cons (k, v)).trans (.swap _ _ _)
      · rename_i h₁ h₂
        have hk : key = k := by
          rcases Std.lt_trichotomy key k with h | h | h
          · exact absurd h h₁
          · exact h
          · exact absurd h h₂
        exact absurd (hk ▸ List.mem_cons_self) (h v)

/-- Entries that go into a table one after another. -/
def insertAll (t : Table κ α) (entries : List (κ × α)) : Table κ α :=
  entries.foldl (fun t e => t.insert e.1 e.2) t

theorem insertAll_cons (t : Table κ α) (e : κ × α) (entries : List (κ × α)) :
    t.insertAll (e :: entries) = (t.insert e.1 e.2).insertAll entries := rfl

variable [BEq κ] [LawfulBEq κ]

theorem contains_insert (t : Table κ α) (key : κ) (value : α) (k : κ) :
    (t.insert key value).contains k = (k == key || t.contains k) := by
  rw [contains, get?_insert]
  cases k == key <;> simp [contains]

theorem insert_perm {t : Table κ α} {key : κ} (h : t.contains key = false) (value : α) :
    (t.insert key value).entries.Perm ((key, value) :: t.entries) :=
  insertEntry_perm (contains_eq_false.1 h) value

theorem new_cons {t : Table κ α} {e : κ × α} {entries : List (κ × α)} :
    t.New (e :: entries) ↔ t.contains e.1 = false ∧ (t.insert e.1 e.2).New entries := by
  have habsent : (∀ x ∈ entries, (t.insert e.1 e.2).contains x.1 = false) ↔
      e.1 ∉ entries.map (·.1) ∧ ∀ x ∈ entries, t.contains x.1 = false := by
    simp only [contains_insert, Bool.or_eq_false_iff, beq_eq_false_iff_ne, forall_and,
      List.mem_map, not_exists, not_and]
  constructor
  · rintro ⟨hdistinct, habs⟩
    rw [List.map_cons, List.nodup_cons] at hdistinct
    rw [List.forall_mem_cons] at habs
    exact ⟨habs.1, hdistinct.2, habsent.2 ⟨hdistinct.1, habs.2⟩⟩
  · rintro ⟨hnew, hdistinct, habs⟩
    obtain ⟨hkey, habs⟩ := habsent.1 habs
    exact ⟨List.nodup_cons.2 ⟨hkey, hdistinct⟩, List.forall_mem_cons.2 ⟨hnew, habs⟩⟩

theorem insertAll_perm {t : Table κ α} {entries : List (κ × α)} (h : t.New entries) :
    (t.insertAll entries).entries.Perm (entries ++ t.entries) := by
  induction entries generalizing t with
  | nil => exact .refl _
  | cons e entries ih =>
    obtain ⟨hnew, hrest⟩ := new_cons.1 h
    rw [insertAll_cons]
    calc ((t.insert e.1 e.2).insertAll entries).entries.Perm
          (entries ++ (t.insert e.1 e.2).entries) := ih hrest
      _ |>.Perm (entries ++ e :: t.entries) := (insert_perm hnew e.2).append_left entries
      _ |>.Perm (e :: entries ++ t.entries) := List.perm_middle

theorem ofList_perm {entries : List (κ × α)} (h : (entries.map (·.1)).Nodup) :
    (ofList entries).entries.Perm entries := by
  have hperm := insertAll_perm (new_empty.2 h)
  rw [show (empty : Table κ α).entries = [] from rfl, List.append_nil] at hperm
  exact hperm

theorem get?_ofList {entries : List (κ × α)} (h : (entries.map (·.1)).Nodup) {key : κ}
    {value : α} : (ofList entries).get? key = some value ↔ (key, value) ∈ entries := by
  rw [get?_eq_some, (ofList_perm h).mem_iff]

/-- Under each key stands the value that was put there last. -/
theorem get?_insertAll (t : Table κ α) (entries : List (κ × α)) (key : κ) :
    (t.insertAll entries).get? key = (entries.reverse.lookup key).or (t.get? key) := by
  induction entries generalizing t with
  | nil => rfl
  | cons e entries ih =>
    rw [insertAll_cons, ih, get?_insert, List.reverse_cons, List.lookup_append, List.lookup_cons,
      List.lookup_nil, Option.or_assoc]
    cases key == e.1 <;> rfl

theorem get?_ofList_eq (entries : List (κ × α)) (key : κ) :
    (ofList entries).get? key = entries.reverse.lookup key := by
  have hlast := get?_insertAll empty entries key
  rwa [get?_empty, Option.or_none] at hlast

theorem get?_ofList_last {entries : List (κ × α)} {key : κ} {value : α} :
    (ofList entries).get? key = some value ↔ ∃ before after,
      entries = before ++ (key, value) :: after ∧ ∀ e ∈ after, e.1 ≠ key := by
  rw [get?_ofList_eq, List.lookup_eq_some_iff]
  constructor
  · rintro ⟨later, earlier, heq, hlater⟩
    refine ⟨earlier.reverse, later.reverse, ?_, ?_⟩
    · rw [← List.reverse_reverse entries, heq]
      simp
    · intro e he
      exact (bne_iff_ne.1 (hlater e (List.mem_reverse.1 he))).symm
  · rintro ⟨before, after, rfl, hafter⟩
    refine ⟨after.reverse, before.reverse, by simp, ?_⟩
    intro e he
    exact bne_iff_ne.2 (hafter e (List.mem_reverse.1 he)).symm

/-- A table that answers every look-up with one of these entries is the table of them. -/
theorem eq_ofList {t : Table κ α} {entries : List (κ × α)} (h : (entries.map (·.1)).Nodup)
    (hget : ∀ key value, t.get? key = some value ↔ (key, value) ∈ entries) :
    t = ofList entries := by
  refine eq_of_perm ((List.perm_ext_iff_of_nodup ?_ ?_).2 ?_)
  · exact .of_map _ t.keys_nodup
  · exact (ofList_perm h).nodup_iff.2 (.of_map _ h)
  · rintro ⟨key, value⟩
    rw [← get?_eq_some, hget, (ofList_perm h).mem_iff]

theorem ofList_eq_of_perm {entries entries' : List (κ × α)} (h : entries.Perm entries')
    (hdistinct : (entries.map (·.1)).Nodup) : ofList entries = ofList entries' := by
  have hdistinct' : (entries'.map (·.1)).Nodup := (h.map _).nodup_iff.1 hdistinct
  exact eq_of_perm (((ofList_perm hdistinct).trans h).trans (ofList_perm hdistinct').symm)

/-- The entries of a table, taken out and put in again, give the table. -/
theorem ofList_entries (t : Table κ α) : ofList t.entries = t :=
  eq_of_perm (ofList_perm t.keys_nodup)

end

/-- The names of a set give the set. -/
theorem ofList_toList (s : NameSet) : NameSet.ofList s.toList = s := by
  have hentries : s.keys.map (·, ()) = s.entries := by
    rw [keys, List.map_map]
    exact List.map_id _
  rw [NameSet.ofList, NameSet.toList, hentries, ofList_entries]

/-! Reading entries into a table. -/

section
variable {κ α β γ : Type} {f : κ → β} {g : α → γ}

theorem map_prodMap_fst (entries : List (κ × α)) :
    (entries.map (Prod.map f g)).map (·.1) = (entries.map (·.1)).map f := by
  simp

theorem exists_map_prodMap {allowed : κ → Prop} {bs : List (β × γ)}
    (hall : ∀ b ∈ bs, ∃ e, b = Prod.map f g e ∧ allowed e.1) :
    ∃ entries : List (κ × α), bs = entries.map (Prod.map f g) ∧ ∀ e ∈ entries, allowed e.1 := by
  induction bs with
  | nil => exact ⟨[], rfl, by simp⟩
  | cons b bs ih =>
    obtain ⟨⟨e, rfl, hallowed⟩, hrest⟩ := List.forall_mem_cons.1 hall
    obtain ⟨entries, rfl, hentries⟩ := ih hrest
    exact ⟨e :: entries, rfl, List.forall_mem_cons.2 ⟨hallowed, hentries⟩⟩

end

variable {κ α β γ ε : Type} [LE κ] [LT κ] [DecidableLT κ] [Std.IsLinearOrder κ]
  [Std.LawfulOrderLT κ] [BEq κ] [LawfulBEq κ]

/-- A step that reads an entry whose key is allowed, the key written by `f` and the value by `g`,
and puts it into the table, unless there is one with this key already. -/
def Collects (add : Table κ α → β × γ → Except ε (Table κ α)) (f : κ → β) (g : α → γ)
    (allowed : κ → Prop) : Prop :=
  ∀ t b t', add t b = .ok t' ↔ ∃ e, b = Prod.map f g e ∧ allowed e.1 ∧ t.contains e.1 = false ∧
    t' = t.insert e.1 e.2

namespace Collects

variable {add : Table κ α → β × γ → Except ε (Table κ α)} {f : κ → β} {g : α → γ}
  {allowed : κ → Prop} {bs : List (β × γ)} {t t' : Table κ α}

theorem foldlM_eq_ok (h : Collects add f g allowed) :
    bs.foldlM add t = .ok t' ↔ ∃ entries, bs = entries.map (Prod.map f g) ∧
      (∀ e ∈ entries, allowed e.1) ∧ t.New entries ∧ t' = t.insertAll entries := by
  induction bs generalizing t with
  | nil =>
    rw [List.foldlM_nil, pure_eq_ok]
    constructor
    · rintro rfl
      exact ⟨[], rfl, by simp, ⟨by simp, by simp⟩, rfl⟩
    · rintro ⟨entries, hnil, _, _, rfl⟩
      obtain rfl := List.map_eq_nil_iff.1 hnil.symm
      rfl
  | cons b bs ih =>
    rw [List.foldlM_cons, bind_eq_ok]
    constructor
    · rintro ⟨t₁, hadd, hrest⟩
      obtain ⟨e, rfl, hallowed, hnew, rfl⟩ := (h t b t₁).1 hadd
      obtain ⟨entries, rfl, hall, hentries, rfl⟩ := ih.1 hrest
      exact ⟨e :: entries, rfl, List.forall_mem_cons.2 ⟨hallowed, hall⟩,
        new_cons.2 ⟨hnew, hentries⟩, rfl⟩
    · rintro ⟨entries, hmap, hall, hentries, rfl⟩
      obtain ⟨e, entries, rfl, rfl, rfl⟩ := List.map_eq_cons_iff.1 hmap.symm
      obtain ⟨hallowed, hall⟩ := List.forall_mem_cons.1 hall
      obtain ⟨hnew, hentries⟩ := new_cons.1 hentries
      exact ⟨_, (h _ _ _).2 ⟨e, rfl, hallowed, hnew, rfl⟩,
        ih.2 ⟨entries, rfl, hall, hentries, rfl⟩⟩

theorem ofEntries_eq_ok (h : Collects add f g allowed) :
    bs.foldlM add empty = .ok t ↔ ∃ entries, bs = entries.map (Prod.map f g) ∧
      (∀ e ∈ entries, allowed e.1) ∧ (entries.map (·.1)).Nodup ∧ t = ofList entries := by
  simp only [h.foldlM_eq_ok, new_empty]
  rfl

theorem size_eq (h : Collects add f g allowed) (hok : bs.foldlM add empty = .ok t) :
    t.size = bs.length := by
  obtain ⟨entries, rfl, _, hdistinct, rfl⟩ := h.ofEntries_eq_ok.1 hok
  rw [List.length_map]
  exact (ofList_perm hdistinct).length_eq

/-- Nothing is asked but that all entries can be read and that no key occurs twice. -/
theorem exists_ok (h : Collects add f g allowed)
    (hall : ∀ b ∈ bs, ∃ e, b = Prod.map f g e ∧ allowed e.1) (hdistinct : (bs.map (·.1)).Nodup) :
    ∃ t, bs.foldlM add empty = .ok t := by
  obtain ⟨entries, rfl, hentries⟩ := exists_map_prodMap hall
  rw [map_prodMap_fst] at hdistinct
  exact ⟨_, h.ofEntries_eq_ok.2 ⟨entries, rfl, hentries, .of_map _ hdistinct, rfl⟩⟩

/-- What is accepted, and what the table then holds, do not refer to the order of the entries. -/
theorem eq_ok_iff (h : Collects add f g allowed) (hf : f.Injective) (hg : g.Injective) :
    bs.foldlM add empty = .ok t ↔
      (∀ b ∈ bs, ∃ e, b = Prod.map f g e ∧ allowed e.1) ∧ (bs.map (·.1)).Nodup ∧
        ∀ key value, t.get? key = some value ↔ (f key, g value) ∈ bs := by
  have hmem (entries : List (κ × α)) (key : κ) (value : α) :
      (f key, g value) ∈ entries.map (Prod.map f g) ↔ (key, value) ∈ entries :=
    List.mem_map_of_injective (hf.prodMap hg) (a := (key, value))
  rw [h.ofEntries_eq_ok]
  constructor
  · rintro ⟨entries, rfl, hall, hdistinct, rfl⟩
    refine ⟨?_, ?_, ?_⟩
    · intro b hb
      obtain ⟨e, he, rfl⟩ := List.mem_map.1 hb
      exact ⟨e, rfl, hall e he⟩
    · rw [map_prodMap_fst]
      exact hdistinct.map hf
    · intro key value
      rw [get?_ofList hdistinct, hmem]
  · rintro ⟨hall, hdistinct, hget⟩
    obtain ⟨entries, rfl, hentries⟩ := exists_map_prodMap hall
    rw [map_prodMap_fst] at hdistinct
    have hdistinct := List.Nodup.of_map _ hdistinct
    exact ⟨entries, rfl, hentries, hdistinct,
      eq_ofList hdistinct fun key value => (hget key value).trans (hmem entries key value)⟩

end Collects

end Attestation.Table
