import Attestation.Json.Record

/-!
Members of objects, in a tree and in its value. A tree keeps every member, a value the last one of
each name. For names that occur once the two agree.
-/
namespace Attestation.Json

open Attestation.Json.Tree

/-- The value is the text, or a list of texts that contains it. -/
def Names (v : Json) (text : String) : Prop :=
  v = .string text ∨ ∃ names, v = .strings names ∧ text ∈ names

/-- No member of an object, or at most one, bears the name. -/
def Tree.AtMostOnce (name : String) : Tree → Prop
  | .object members => (members.filter (·.1 == some name)).length ≤ 1
  | _ => True

instance (name : String) : (t : Tree) → Decidable (t.AtMostOnce name)
  | .object members => inferInstanceAs (Decidable ((members.filter (·.1 == some name)).length ≤ 1))
  | .null => isTrue trivial
  | .bool _ => isTrue trivial
  | .number _ => isTrue trivial
  | .string _ => isTrue trivial
  | .array _ => isTrue trivial

theorem member?_eq_some {members : List (Option String × Tree)} {name : String} :
    (∃ found, member? members name = some found) ↔ Tree.AtMostOnce name (.object members) := by
  simp only [member?, Tree.AtMostOnce]
  cases members.filter (·.1 == some name) with
  | nil => simp
  | cons m rest => cases rest <;> simp

theorem member?_cons_self {members : List (Option String × Tree)} {name : String} {t : Tree}
    {found : Option Tree} (h : member? ((some name, t) :: members) name = some found) :
    found = some t ∧ member? members name = some none := by
  unfold member? at h ⊢
  rw [List.filter_cons_of_pos (by simp)] at h
  cases hf : members.filter (·.1 == some name) with
  | nil =>
    rw [hf] at h
    exact ⟨by simpa using h.symm, rfl⟩
  | cons m rest =>
    rw [hf] at h
    simp at h

theorem member?_cons_of_ne {members : List (Option String × Tree)} {name other : String}
    {t : Tree} (h : other ≠ name) :
    member? ((some other, t) :: members) name = member? members name := by
  unfold member?
  rw [List.filter_cons_of_neg (by simpa using h)]

theorem valueWithin?_array {depth : Nat} {items : List Tree} {v : Json} :
    valueWithin? depth (.array items) = some v ↔ 1 < depth ∧
      ∃ values, itemsWithin? (depth - 1) items = some values ∧ .array values = v := by
  simp [valueWithin?]

theorem valueWithin?_object {depth : Nat} {members : List (Option String × Tree)} {v : Json} :
    valueWithin? depth (.object members) = some v ↔ 1 < depth ∧
      ∃ values, membersWithin? (depth - 1) members = some values ∧ Json.ofMembers values = v := by
  simp [valueWithin?]

/-- A tree beside its value, which has the same shape. -/
inductive Tree.Shape (depth : Nat) : Tree → Json → Prop
  | null : Shape depth .null .null
  | bool (b : Bool) : Shape depth (.bool b) (.bool b)
  | number (n : Number) : Shape depth (.number (some n)) (.number n)
  | string (s : String) : Shape depth (.string (some s)) (.string s)
  | array {items : List Tree} {values : List Json}
      (read : itemsWithin? (depth - 1) items = some values) :
      Shape depth (.array items) (.array values)
  | object {members : List (Option String × Tree)} {values : List (String × Json)}
      (read : membersWithin? (depth - 1) members = some values) :
      Shape depth (.object members) (Json.ofMembers values)

theorem shape_of_valueWithin? {depth : Nat} {t : Tree} {v : Json}
    (h : valueWithin? depth t = some v) : Tree.Shape depth t v := by
  cases t with
  | null =>
    obtain rfl : Json.null = v := by simpa [valueWithin?] using h
    exact .null
  | bool b =>
    obtain rfl : Json.bool b = v := by simpa [valueWithin?] using h
    exact .bool b
  | number n =>
    obtain ⟨n, rfl, rfl⟩ : ∃ m, n = some m ∧ Json.number m = v := by simpa [valueWithin?] using h
    exact .number n
  | string s =>
    obtain ⟨s, rfl, rfl⟩ : ∃ r, s = some r ∧ Json.string r = v := by simpa [valueWithin?] using h
    exact .string s
  | array items =>
    obtain ⟨_, values, hvalues, rfl⟩ := valueWithin?_array.1 h
    exact .array hvalues
  | object members =>
    obtain ⟨_, values, hvalues, rfl⟩ := valueWithin?_object.1 h
    exact .object hvalues

theorem membersWithin?_cons {depth : Nat} {name : Option String} {t : Tree}
    {members : List (Option String × Tree)} {values : List (String × Json)} :
    membersWithin? depth ((name, t) :: members) = some values ↔
      ∃ n v rest, name = some n ∧ valueWithin? depth t = some v ∧
        membersWithin? depth members = some rest ∧ (n, v) :: rest = values := by
  simp [membersWithin?, Option.bind_eq_some_iff]

theorem of_mem_membersWithin? {depth : Nat} {members : List (Option String × Tree)}
    {values : List (String × Json)} (h : membersWithin? depth members = some values)
    {m : Option String × Tree} (hm : m ∈ members) :
    m.1.isSome = true ∧ ∃ v, valueWithin? depth m.2 = some v := by
  induction members generalizing values with
  | nil => simp at hm
  | cons head members ih =>
    obtain ⟨n, v, rest, hn, hv, hrest, _⟩ := membersWithin?_cons.1 h
    rcases List.mem_cons.1 hm with rfl | hm
    · exact ⟨by simp [hn], v, hv⟩
    · exact ih hrest hm

theorem names_of_membersWithin? {depth : Nat} {members : List (Option String × Tree)}
    {values : List (String × Json)} (h : membersWithin? depth members = some values) :
    members.all (·.1.isSome) = true :=
  List.all_eq_true.2 fun _ hm => (of_mem_membersWithin? h hm).1

theorem mem_of_member? {members : List (Option String × Tree)} {name : String} {t : Tree}
    (h : member? members name = some (some t)) : (some name, t) ∈ members := by
  unfold member? at h
  split at h
  · simp at h
  · rename_i label value hf
    obtain rfl : value = t := by simpa using h
    have hin : (label, value) ∈ members.filter (·.1 == some name) := by simp [hf]
    rw [List.mem_filter, beq_iff_eq] at hin
    exact hin.2 ▸ hin.1
  · simp at h

theorem lookup_foldl_insertEntry {depth : Nat} {members : List (Option String × Tree)}
    {values init : List (String × Json)} {name : String} {found : Option Tree}
    (hv : membersWithin? depth members = some values)
    (hm : member? members name = some found) :
    (values.foldl (fun ms m => insertEntry m.1 m.2 ms) init).lookup name =
      (found.bind (valueWithin? depth)).or (init.lookup name) := by
  induction members generalizing values init found with
  | nil =>
    obtain rfl : [] = values := by simpa [membersWithin?] using hv
    obtain rfl : none = found := by simpa [member?] using hm
    rfl
  | cons m members ih =>
    obtain ⟨n, v, rest, hn, ht, hrest, rfl⟩ := membersWithin?_cons.1 hv
    obtain ⟨label, t⟩ := m
    obtain rfl : label = some n := hn
    rw [List.foldl_cons]
    -- Later members win in the value, but of a name that occurs once there is no later one.
    by_cases heq : n = name
    · subst heq
      obtain ⟨rfl, hnone⟩ := member?_cons_self hm
      rw [ih hrest hnone, Table.lookup_insertEntry]
      simp [ht]
    · rw [member?_cons_of_ne heq] at hm
      rw [ih hrest hm, Table.lookup_insertEntry]
      simp [Ne.symm heq]

/-- Under a name that occurs once, the value has what the tree has. -/
theorem get?_ofMembers {depth : Nat} {members : List (Option String × Tree)}
    {values : List (String × Json)} {name : String} {found : Option Tree}
    (hv : membersWithin? depth members = some values)
    (hm : member? members name = some found) :
    (Json.ofMembers values).get? name = found.bind (valueWithin? depth) := by
  simp only [Json.ofMembers, Json.get?]
  rw [lookup_foldl_insertEntry hv hm, List.lookup_nil, Option.or_none]

theorem record?_object {members : List (Option String × Tree)}
    (h : members.all (·.1.isSome) = true) (fields : List Field) :
    Tree.record? fields (.object members) = fields.mapM (ofMember? members) := by
  simp [Tree.record?, h]

theorem ofMember?_of_ne {members : List (Option String × Tree)} {f : Field}
    (h : f.presence ≠ .required) : ofMember? members f = member? members f.name := by
  simp [ofMember?, h]

/-! Lists of texts. -/

theorem itemsWithin?_cons {depth : Nat} {t : Tree} {items : List Tree} {values : List Json} :
    itemsWithin? depth (t :: items) = some values ↔
      ∃ v rest, valueWithin? depth t = some v ∧ itemsWithin? depth items = some rest ∧
        v :: rest = values := by
  simp [itemsWithin?, Option.bind_eq_some_iff]

theorem asString?_iff {v : Json} {text : String} : v.asString? = some text ↔ v = .string text := by
  cases v <;> simp [Json.asString?]

theorem asString?_eq_some {depth : Nat} {t : Tree} {v : Json} {text : String}
    (h : valueWithin? depth t = some v) : Tree.asString? t = some text ↔ v = .string text := by
  cases shape_of_valueWithin? h <;> simp [Tree.asString?, Json.ofMembers]

theorem mapM_asString? {depth : Nat} {items : List Tree} {values : List Json}
    {names : List String} (h : itemsWithin? depth items = some values) :
    items.mapM Tree.asString? = some names ↔ values = names.map .string := by
  induction items generalizing values names with
  | nil =>
    obtain rfl : [] = values := by simpa [itemsWithin?] using h
    cases names <;> simp
  | cons t items ih =>
    obtain ⟨v, rest, hv, hrest, rfl⟩ := itemsWithin?_cons.1 h
    cases names with
    | nil => simp [Option.bind_eq_some_iff]
    | cons name names =>
      simp only [List.mapM_cons, Option.bind_eq_bind, Option.bind_eq_some_iff,
        asString?_eq_some hv, ih hrest, Option.pure_def, Option.some.injEq, List.cons.injEq,
        List.map_cons]
      constructor
      · intro h
        obtain ⟨_, rfl, _, rfl, rfl, rfl⟩ := h
        exact ⟨rfl, rfl⟩
      · intro h
        obtain ⟨rfl, rfl⟩ := h
        exact ⟨name, rfl, names, rfl, rfl, rfl⟩

end Attestation.Json
