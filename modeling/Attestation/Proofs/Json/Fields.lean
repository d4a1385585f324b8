import Attestation.Proofs.Json.Members

/-!
What a value says in the fields of a record. A record is an object, or an array of the values of its
fields in order; either way its reader gets for every field what stands there, or nothing.
-/
namespace Attestation.Json

open Attestation.Json.Tree

/-- The value in a field: the member of that name in an object, the item at its place in a list. -/
def field? (fields : List Field) (name : String) : Json → Option Json
  | .array items => ((fields.map (·.name)).zip items).lookup name
  | v => v.get? name

theorem member?_ofMembers {members : List (String × Json)} {name : String} {found : Option Tree}
    (h : member? (Tree.ofMembers members) name = some found) :
    found = (members.lookup name).map Tree.ofJson := by
  induction members with
  | nil =>
    obtain rfl : none = found := by simpa [Tree.ofMembers, member?] using h
    rfl
  | cons m members ih =>
    obtain ⟨label, v⟩ := m
    rw [Tree.ofMembers] at h
    by_cases heq : label = name
    · subst heq
      obtain ⟨rfl, _⟩ := member?_cons_self h
      simp
    · rw [member?_cons_of_ne heq] at h
      rw [ih h, List.lookup_cons, beq_false_of_ne (Ne.symm heq)]

theorem names_ofMembers (members : List (String × Json)) :
    (Tree.ofMembers members).all (·.1.isSome) = true := by
  induction members with
  | nil => rfl
  | cons m members ih =>
    obtain ⟨label, v⟩ := m
    simpa [Tree.ofMembers] using ih

theorem value_of_ofMember? {members : List (Option String × Tree)} {f : Field}
    {found : Option Tree} (h : ofMember? members f = some found) :
    member? members f.name = some found := by
  simp only [ofMember?, Option.bind_eq_bind, Option.bind_eq_some_iff] at h
  obtain ⟨value, hvalue, h⟩ := h
  split at h
  · simp at h
  · rw [hvalue, h]

theorem mapM_ofMember? {members : List (String × Json)} {fields : List Field}
    {values : List (Option Tree)}
    (h : fields.mapM (ofMember? (Tree.ofMembers members)) = some values) :
    values = fields.map fun f => (members.lookup f.name).map Tree.ofJson := by
  induction fields generalizing values with
  | nil => simpa using h.symm
  | cons f fields ih =>
    simp only [List.mapM_cons, Option.bind_eq_bind, Option.bind_eq_some_iff, Option.pure_def,
      Option.some.injEq] at h
    obtain ⟨found, hfound, rest, hrest, rfl⟩ := h
    rw [List.map_cons, ih hrest, member?_ofMembers (value_of_ofMember? hfound)]

theorem aligned?_ofItems {fields : List Field} {items : List Json} {values : List (Option Tree)}
    (hnames : (fields.map (·.name)).Nodup)
    (h : aligned? fields (Tree.ofItems items) = some values) :
    values = fields.map fun f =>
      (((fields.map (·.name)).zip items).lookup f.name).map Tree.ofJson := by
  induction fields generalizing items values with
  | nil =>
    cases items with
    | nil => simpa [aligned?, Tree.ofItems] using h.symm
    | cons item items => simp [aligned?, Tree.ofItems] at h
  | cons f fields ih =>
    rw [List.map_cons, List.nodup_cons] at hnames
    cases items with
    | nil =>
      simp only [Tree.ofItems, aligned?, Option.ite_none_right_eq_some, Option.map_eq_some_iff] at h
      obtain ⟨_, rest, hrest, rfl⟩ := h
      have hrest' : aligned? fields (Tree.ofItems []) = some rest := hrest
      rw [ih hnames.2 hrest']
      simp
    | cons item items =>
      simp only [Tree.ofItems, aligned?, Option.map_eq_some_iff] at h
      obtain ⟨rest, hrest, rfl⟩ := h
      rw [ih hnames.2 hrest]
      simp only [List.map_cons, List.zip_cons_cons, List.lookup_cons, beq_self_eq_true,
        Option.map_some, List.cons.injEq, true_and]
      -- The other fields bear other names, so none of them is found at the first place.
      refine List.map_congr_left fun g hg => ?_
      have hne : g.name ≠ f.name := fun heq => hnames.1 (heq ▸ List.mem_map_of_mem hg)
      rw [beq_false_of_ne hne]

/-- The reader of a record gets for each field the value that stands in it. -/
theorem record?_ofJson {fields : List Field} {v : Json} {values : List (Option Tree)}
    (hnames : (fields.map (·.name)).Nodup)
    (h : (Tree.ofJson v).record? fields = some values) :
    values = fields.map fun f => (v.field? fields f.name).map Tree.ofJson := by
  cases v with
  | object members =>
    rw [Tree.ofJson, record?_object (names_ofMembers members)] at h
    exact mapM_ofMember? h
  | array items =>
    rw [Tree.ofJson] at h
    exact aligned?_ofItems hnames h
  | _ => simp [Tree.ofJson, Tree.record?] at h

/-! One field. -/

theorem orDefault?_eq_some {α : Type} {default x : α} {read? : Tree → Option α}
    {found : Option Json} :
    orDefault? default read? (found.map Tree.ofJson) = some x ↔
      (found = none ∧ default = x) ∨ ∃ v, found = some v ∧ read? (Tree.ofJson v) = some x := by
  cases found <;> simp [orDefault?]

theorem asString?_ofJson {v : Json} {text : String} :
    Tree.asString? (Tree.ofJson v) = some text ↔ v = .string text := by
  cases v <;> simp [Tree.ofJson, Tree.asString?]

theorem asBool?_ofJson {v : Json} {b : Bool} :
    Tree.asBool? (Tree.ofJson v) = some b ↔ v = .bool b := by
  cases v <;> simp [Tree.ofJson, Tree.asBool?]

/-- A text that is read is stated, or it is the default of one that is not. -/
theorem text_orDefault?_iff {default text : String} {found : Option Json} :
    orDefault? default Tree.asString? (found.map Tree.ofJson) = some text ↔
      (found = none ∧ default = text) ∨ found = some (.string text) := by
  simp only [orDefault?_eq_some, asString?_ofJson, exists_eq_right]

theorem bool_orDefault?_iff {default b : Bool} {found : Option Json} :
    orDefault? default Tree.asBool? (found.map Tree.ofJson) = some b ↔
      (found = none ∧ default = b) ∨ found = some (.bool b) := by
  simp only [orDefault?_eq_some, asBool?_ofJson, exists_eq_right]

theorem orAbsent?_eq_some {α : Type} {x : Option α} {read? : Tree → Option α}
    {found : Option Json} :
    orAbsent? read? (found.map Tree.ofJson) = some x ↔
      ((found = none ∨ found = some .null) ∧ x = none) ∨
        ∃ v y, found = some v ∧ v ≠ .null ∧ read? (Tree.ofJson v) = some y ∧ x = some y := by
  cases found with
  | none => simp [orAbsent?, eq_comm]
  | some v =>
    by_cases hnull : v = .null
    · simp [hnull, Tree.ofJson, orAbsent?, eq_comm]
    · have hread : orAbsent? read? (some (Tree.ofJson v)) = (read? (Tree.ofJson v)).map some := by
        cases v <;> simp_all [Tree.ofJson, orAbsent?]
      rw [Option.map_some, hread, Option.map_eq_some_iff]
      constructor
      · rintro ⟨y, hy, rfl⟩
        exact .inr ⟨v, y, rfl, hnull, hy, rfl⟩
      · rintro (⟨hv | hv, _⟩ | ⟨_, y, hv, _, hy, rfl⟩)
        · cases hv
        · exact absurd (Option.some.inj hv) hnull
        · obtain rfl := Option.some.inj hv
          exact ⟨y, hy, rfl⟩

theorem mapM_asString?_ofItems {items : List Json} {names : List String} :
    (Tree.ofItems items).mapM Tree.asString? = some names ↔ items = names.map .string := by
  induction items generalizing names with
  | nil => cases names <;> simp [Tree.ofItems]
  | cons item items ih =>
    cases names with
    | nil => simp [Tree.ofItems, Option.bind_eq_some_iff]
    | cons name names =>
      simp only [Tree.ofItems, List.mapM_cons, Option.bind_eq_bind, Option.bind_eq_some_iff,
        asString?_ofJson, ih, Option.pure_def, Option.some.injEq, List.cons.injEq, List.map_cons]
      constructor
      · rintro ⟨_, rfl, _, rfl, rfl, rfl⟩
        exact ⟨rfl, rfl⟩
      · rintro ⟨rfl, rfl⟩
        exact ⟨name, rfl, names, rfl, rfl, rfl⟩

theorem asStrings?_ofJson {v : Json} {names : List String} :
    Tree.asStrings? (Tree.ofJson v) = some names ↔ v = .strings names := by
  cases v with
  | array items => simp [Tree.ofJson, Tree.asStrings?, Tree.asItems?, mapM_asString?_ofItems, strings]
  | _ => simp [Tree.ofJson, Tree.asStrings?, Tree.asItems?, strings]

/-- A text that is not the default is stated. -/
theorem text_stated {default text : String} {found : Option Json}
    (h : orDefault? default Tree.asString? (found.map Tree.ofJson) = some text)
    (hne : text ≠ default) : found = some (.string text) :=
  (text_orDefault?_iff.1 h).resolve_left fun hdefault => hne hdefault.2.symm

theorem names_stated {found : Option Json} {names : Option (List String)} {name : String}
    (h : orAbsent? Tree.asStrings? (found.map Tree.ofJson) = some names)
    (hmem : name ∈ names.getD []) : ∃ all, found = some (.strings all) ∧ name ∈ all := by
  rcases orAbsent?_eq_some.1 h with ⟨_, rfl⟩ | ⟨v, all, rfl, _, hread, rfl⟩
  · cases hmem
  · exact ⟨all, congrArg some (asStrings?_ofJson.1 hread), hmem⟩

theorem null_or_empty_of_names {v : Json} {names : Option (List String)}
    (h : orAbsent? Tree.asStrings? ((some v).map Tree.ofJson) = some names)
    (hnil : names.getD [] = []) : v = .null ∨ v = .array [] := by
  rcases orAbsent?_eq_some.1 h with ⟨hnone | hnull, _⟩ | ⟨w, all, hw, _, hread, rfl⟩
  · cases hnone
  · exact .inl (Option.some.inj hnull)
  · obtain rfl : all = [] := hnil
    obtain rfl := Option.some.inj hw
    exact .inr (asStrings?_ofJson.1 hread)

end Attestation.Json
