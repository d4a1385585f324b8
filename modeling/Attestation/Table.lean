/-!
Finite maps as lists of entries in strictly increasing order of key, so that two maps with the same
entries are equal and every traversal is in key order.
-/
namespace Attestation

/-- Puts a value under a key, in place of the value that was there. -/
def insertEntry {κ α : Type} [LT κ] [DecidableLT κ] (key : κ) (value : α) :
    List (κ × α) → List (κ × α)
  | [] => [(key, value)]
  | (k, v) :: rest =>
    if key < k then (key, value) :: (k, v) :: rest
    else if k < key then (k, v) :: insertEntry key value rest
    else (key, value) :: rest

theorem mem_insertEntry {κ α : Type} [LT κ] [DecidableLT κ] {key : κ} {value : α} {entries : List (κ × α)} {x : κ × α}
    (h : x ∈ insertEntry key value entries) : x = (key, value) ∨ x ∈ entries := by
  induction entries with
  | nil => simpa [insertEntry] using h
  | cons head rest ih =>
    obtain ⟨k, v⟩ := head
    unfold insertEntry at h
    split at h
    · simpa using h
    · split at h
      · rcases List.mem_cons.1 h with h | h
        · exact Or.inr (by simp [h])
        · rcases ih h with h | h
          · exact Or.inl h
          · exact Or.inr (by simp [h])
      · rcases List.mem_cons.1 h with h | h
        · exact Or.inl h
        · exact Or.inr (by simp [h])

theorem insertEntry_increasing {κ α : Type} [LE κ] [LT κ] [DecidableLT κ] [Std.IsLinearOrder κ]
    [Std.LawfulOrderLT κ] (key : κ) (value : α) (entries : List (κ × α))
    (h : entries.Pairwise (fun a b => a.1 < b.1)) :
    (insertEntry key value entries).Pairwise (fun a b => a.1 < b.1) := by
  induction entries with
  | nil => simp [insertEntry]
  | cons head rest ih =>
    obtain ⟨k, v⟩ := head
    rw [List.pairwise_cons] at h
    unfold insertEntry
    split
    · rename_i hlt
      refine List.pairwise_cons.2 ⟨?_, List.pairwise_cons.2 h⟩
      intro x hx
      rcases List.mem_cons.1 hx with hx | hx
      · simpa [hx] using hlt
      · exact Std.lt_trans hlt (h.1 x hx)
    · split
      · rename_i hlt
        refine List.pairwise_cons.2 ⟨?_, ih h.2⟩
        intro x hx
        rcases mem_insertEntry hx with hx | hx
        · simpa [hx] using hlt
        · exact h.1 x hx
      · rename_i h₁ h₂
        have hk : key = k := by
          rcases Std.lt_trichotomy key k with h | h | h
          · exact absurd h h₁
          · exact h
          · exact absurd h h₂
        subst hk
        exact List.pairwise_cons.2 ⟨h.1, h.2⟩

structure Table (κ α : Type) [LT κ] where
  entries : List (κ × α)
  increasing : entries.Pairwise (fun a b => a.1 < b.1)

namespace Table

section
variable {κ α : Type} [LT κ]

def empty : Table κ α := ⟨[], List.Pairwise.nil⟩

instance : Inhabited (Table κ α) := ⟨empty⟩

theorem ext_entries {a b : Table κ α} (h : a.entries = b.entries) : a = b := by
  cases a
  cases b
  simp_all

instance [DecidableEq κ] [DecidableEq α] : DecidableEq (Table κ α) := fun a b =>
  if h : a.entries = b.entries then isTrue (ext_entries h)
  else isFalse fun e => h (by rw [e])

def size (t : Table κ α) : Nat := t.entries.length

def isEmpty (t : Table κ α) : Bool := t.entries.isEmpty

def keys (t : Table κ α) : List κ := t.entries.map (·.1)

def get? [BEq κ] (t : Table κ α) (key : κ) : Option α := t.entries.lookup key

theorem get?_empty [BEq κ] (key : κ) : (empty : Table κ α).get? key = none := rfl

def contains [BEq κ] (t : Table κ α) (key : κ) : Bool := (t.get? key).isSome

end

variable {κ α : Type} [LE κ] [LT κ] [DecidableLT κ] [Std.IsLinearOrder κ] [Std.LawfulOrderLT κ]

def insert (t : Table κ α) (key : κ) (value : α) : Table κ α :=
  ⟨insertEntry key value t.entries, insertEntry_increasing key value t.entries t.increasing⟩

theorem lookup_insertEntry [BEq κ] [LawfulBEq κ] (key : κ) (value : α) (entries : List (κ × α))
    (k : κ) :
    (insertEntry key value entries).lookup k =
      if k == key then some value else entries.lookup k := by
  induction entries with
  | nil => cases h : k == key <;> simp [insertEntry, List.lookup_cons, h]
  | cons head rest ih =>
    obtain ⟨m, v⟩ := head
    unfold insertEntry
    split
    · cases h : k == key <;> simp [List.lookup_cons, h]
    · split
      · rename_i hlt
        rw [List.lookup_cons, ih, List.lookup_cons]
        cases h : k == key with
        | false => simp
        | true =>
          have hk : k = key := eq_of_beq h
          have hm : (k == m) = false := by
            rw [beq_eq_false_iff_ne]
            intro e
            rw [hk] at e
            exact Std.lt_irrefl (e ▸ hlt)
          simp [hm]
      · rename_i h₁ h₂
        have hk : key = m := by
          rcases Std.lt_trichotomy key m with h | h | h
          · exact absurd h h₁
          · exact h
          · exact absurd h h₂
        subst hk
        cases h : k == key <;> simp [List.lookup_cons, h]

/-- An insertion changes what stands under its key and nothing else. -/
theorem get?_insert [BEq κ] [LawfulBEq κ] (t : Table κ α) (key : κ) (value : α) (k : κ) :
    (t.insert key value).get? k = if k == key then some value else t.get? k :=
  lookup_insertEntry key value t.entries k

/-- The later of two values under one key stands. -/
def ofList (entries : List (κ × α)) : Table κ α :=
  entries.foldl (fun t e => t.insert e.1 e.2) empty

end Table

/-- Sets of names, kept in order. -/
abbrev NameSet := Table String Unit

namespace NameSet

def ofList (names : List String) : NameSet := Table.ofList (names.map (·, ()))

def toList (s : NameSet) : List String := s.keys

end NameSet

end Attestation
