import Attestation.Proofs.Cbor.Extent

/-!
Items, octet by octet. An item is read from its own octets, whatever follows them and by every
reader that may go deep enough. An array is a head, its items one after another and an end; an item
under a tag is the head of the tag and the item.
-/
namespace Attestation.Cbor

/-- What is made of something that is read, with what follows it. -/
theorem map_eq_some {α β : Type} {f : α → β} {found? : Option (α × Bytes)} {b : β} {rest : Bytes}
    (h : found?.map (fun found => (f found.1, found.2)) = some (b, rest)) :
    ∃ a, found? = some (a, rest) ∧ f a = b := by
  obtain ⟨⟨a, behind⟩, rfl, heq⟩ := Option.map_eq_some_iff.1 h
  obtain ⟨rfl, rfl⟩ : f a = b ∧ behind = rest := by simpa using heq
  exact ⟨a, rfl, rfl⟩

/-- What is read of an item behind its head. -/
def afterHead? (part? : Option Reader) : Head → Reader
  | .unsigned n => fun rest => some (.integer n, rest)
  | .negative n => fun rest => some (.integer (-1 - Int.ofNat n), rest)
  | .bytes length => fun rest =>
    (byteString? length rest).map fun found => (.bytes found.1, found.2)
  | .text length => fun rest =>
    (textString? length rest).map fun found => (.text found.1, found.2)
  | .array length => fun rest => part?.bind fun part? =>
    (sequence? part? length rest).map fun found => (.array found.1, found.2)
  | .map length => fun rest => part?.bind fun part? =>
    (sequence? (pair? part?) length rest).map fun found => (.map found.1, found.2)
  | .tag n => fun rest =>
    match bigOctets? n rest with
    | some (octets, rest) => (bigNumber? n octets).map fun item => (item, rest)
    | none => part?.bind fun part? =>
      (part? rest).map fun found => (.tag n found.1, found.2)
  | .simple n => fun rest => (simple? n).map fun item => (item, rest)
  | .float octets => fun rest => some (.float octets, rest)
  | .stop => fun _ => none

theorem itemWith?_eq (part? : Option Reader) (bytes : Bytes) :
    itemWith? part? bytes =
      (Head.read? bytes >>= fun found => afterHead? part? found.1 found.2) := by
  unfold itemWith?
  cases Head.read? bytes with
  | none => rfl
  | some found =>
    obtain ⟨head, rest⟩ := found
    cases head <;> rfl

theorem itemWith?_starts (part? : Option Reader) : Starts (itemWith? part?) where
  nil := rfl
  stop := fun hread => by rw [itemWith?_eq, hread]; rfl

theorem itemWithin?_eq (depth : Nat) : ∃ part?, itemWithin? depth = itemWith? part? := by
  cases depth with
  | zero => exact ⟨none, rfl⟩
  | succ depth => exact ⟨some (itemWithin? depth), rfl⟩

theorem itemWithin?_starts (depth : Nat) : Starts (itemWithin? depth) := by
  obtain ⟨part?, hpart⟩ := itemWithin?_eq depth
  rw [hpart]
  exact itemWith?_starts part?

/-- The octets of a big number are a byte string in their own right. -/
theorem itemWithin?_bigOctets {tag : Nat} {bytes octets rest : Bytes} (depth : Nat)
    (h : bigOctets? tag bytes = some (octets, rest)) :
    itemWithin? depth bytes = some (.bytes octets, rest) := by
  obtain ⟨part?, hpart⟩ := itemWithin?_eq depth
  obtain ⟨n, behind, hhead, htake⟩ := bigOctets?_eq_some h
  rw [hpart, itemWith?_eq, hhead]
  simp [afterHead?, byteString?, segments?, htake]

/-- What is under a tag is no big number for what follows it. -/
theorem bigOctets?_eq_none {tag depth : Nat} {octets rest : Bytes} {item : Item}
    (hitem : Spells (itemWithin? depth) octets item) (h : bigOctets? tag (octets ++ rest) = none)
    (rest' : Bytes) : bigOctets? tag (octets ++ rest') = none := by
  refine Option.eq_none_iff_forall_ne_some.2 fun found hfound => ?_
  obtain ⟨front, hfront, hspells⟩ := bigOctets?_tracks tag _ _ _ hfound
  -- The same octets are read as the item, so that the big number would go just as far.
  have hbytes := itemWithin?_bigOctets depth hfound
  rw [hitem, Option.some.injEq, Prod.mk.injEq] at hbytes
  rw [← hbytes.2, List.append_cancel_right_eq] at hfront
  rw [hfront, hspells] at h
  cases h

theorem afterHead?_tracks {part? part?' : Option Reader} (head : Head)
    (hpart : ∀ p ∈ part?, ∃ depth, part?' = some (itemWithin? depth) ∧
      Tracks p (itemWithin? depth)) :
    Tracks (afterHead? part? head) (afterHead? part?' head) := by
  cases head with
  | unsigned n => exact tracks_pure _
  | negative n => exact tracks_pure _
  | bytes length => exact (byteString?_tracks length).map Item.bytes
  | text length => exact (textString?_tracks length).map Item.text
  | array length =>
    cases part? with
    | none => exact tracks_none
    | some p =>
      obtain ⟨depth, rfl, hp⟩ := hpart p rfl
      exact (sequence?_tracks hp (itemWithin?_starts depth) length).map Item.array
  | map length =>
    cases part? with
    | none => exact tracks_none
    | some p =>
      obtain ⟨depth, rfl, hp⟩ := hpart p rfl
      exact (sequence?_tracks (pair?_tracks hp) (itemWithin?_starts depth).pair? length).map
        Item.map
  | tag n =>
    intro bytes item rest hread
    simp only [afterHead?] at hread
    split at hread
    · rename_i content behind hcontent
      obtain ⟨number, hnumber, heq⟩ := Option.map_eq_some_iff.1 hread
      obtain ⟨rfl, rfl⟩ : number = item ∧ behind = rest := by simpa using heq
      obtain ⟨octets, rfl, hoctets⟩ := bigOctets?_tracks n _ _ _ hcontent
      refine ⟨octets, rfl, fun rest' => ?_⟩
      simp only [afterHead?, hoctets rest', hnumber, Option.map_some]
    · rename_i hnone
      obtain ⟨p, rfl, hread⟩ := Option.bind_eq_some_iff.1 hread
      obtain ⟨inner, hinner, rfl⟩ := map_eq_some hread
      obtain ⟨depth, rfl, hp⟩ := hpart p rfl
      obtain ⟨octets, rfl, hoctets⟩ := hp _ _ _ hinner
      refine ⟨octets, rfl, fun rest' => ?_⟩
      simp only [afterHead?, bigOctets?_eq_none hoctets hnone rest', Option.bind_some,
        hoctets rest', Option.map_some]
  | simple n =>
    cases h : simple? n with
    | none =>
      simp only [afterHead?, h]
      exact tracks_none
    | some item =>
      simp only [afterHead?, h]
      exact tracks_pure item
  | float octets => exact tracks_pure _
  | stop => exact tracks_none

theorem itemWith?_tracks {part? part?' : Option Reader}
    (hpart : ∀ p ∈ part?, ∃ depth, part?' = some (itemWithin? depth) ∧
      Tracks p (itemWithin? depth)) :
    Tracks (itemWith? part?) (itemWith? part?') := by
  simpa only [Tracks, Spells, itemWith?_eq] using
    head_tracks.bind fun head => afterHead?_tracks head hpart

/-- An item is read the same wherever it stands, and by a reader that may go deeper. -/
theorem itemWithin?_tracks {depth depth' : Nat} (h : depth ≤ depth') :
    Tracks (itemWithin? depth) (itemWithin? depth') := by
  -- The two depths go down together; where the first is zero, nothing with parts is read.
  induction depth generalizing depth' with
  | zero =>
    obtain ⟨part?', hpart'⟩ := itemWithin?_eq depth'
    rw [hpart']
    exact itemWith?_tracks fun p hp => by cases hp
  | succ depth ih =>
    obtain ⟨depth', rfl⟩ := Nat.exists_eq_add_one.2 (Nat.lt_of_lt_of_le (Nat.succ_pos depth) h)
    refine itemWith?_tracks fun p hp => ⟨depth', rfl, ?_⟩
    obtain rfl := Option.some.inj hp
    exact ih (Nat.le_of_succ_le_succ h)

/-- Octets that are read to their end are read wherever they stand. -/
theorem spells_of_eq_some {depth depth' : Nat} {octets : Bytes} {item : Item}
    (h : itemWithin? depth octets = some (item, [])) (hdepth : depth ≤ depth') :
    Spells (itemWithin? depth') octets item := by
  obtain ⟨front, hfront, hspells⟩ := itemWithin?_tracks hdepth _ _ _ h
  rwa [hfront, List.append_nil]

/-! Arrays and tags, octet by octet. -/

section
variable {part? : Option Reader} {head : Head} {depth n : Nat} {bytes rest : Bytes} {item : Item}
  {items : List Item}

/-- A tagged number outside the range of integers keeps its tag. -/
theorem bigNumber?_eq_some {content : Bytes} (h : bigNumber? n content = some item) :
    (∃ k, item = .integer k) ∨ item = .tag n (.bytes content) := by
  unfold bigNumber? at h
  dsimp only at h
  split at h
  · exact .inl ⟨_, (Option.some.inj h).symm⟩
  · split at h
    · cases h
    · exact .inr (Option.some.inj h).symm

theorem simple?_eq_some (h : simple? n = some item) : (∃ b, item = .bool b) ∨ item = .null := by
  unfold simple? at h
  repeat' split at h
  all_goals simp_all

theorem afterHead?_eq_array (h : afterHead? part? head bytes = some (.array items, rest)) :
    ∃ p length, part? = some p ∧ head = .array length ∧
      sequence? p length bytes = some (items, rest) := by
  cases head with
  | array length =>
    obtain ⟨p, hp, h⟩ := Option.bind_eq_some_iff.1 h
    obtain ⟨found, hfound, heq⟩ := map_eq_some h
    obtain rfl : found = items := Item.array.inj heq
    exact ⟨p, length, hp, rfl, hfound⟩
  | tag n =>
    simp only [afterHead?] at h
    split at h
    · obtain ⟨number, hnumber, heq⟩ := Option.map_eq_some_iff.1 h
      rcases bigNumber?_eq_some hnumber with ⟨k, rfl⟩ | rfl <;> cases heq
    · simp [Option.bind_eq_some_iff] at h
  | simple n =>
    obtain ⟨value, hvalue, heq⟩ := Option.map_eq_some_iff.1 h
    rcases simple?_eq_some hvalue with ⟨b, rfl⟩ | rfl <;> cases heq
  | _ => simp [afterHead?, Option.bind_eq_some_iff] at h

theorem afterHead?_eq_tag (h : afterHead? part? head bytes = some (.tag n item, rest)) :
    head = .tag n ∧ (bigOctets? n bytes = none → ∃ p, part? = some p ∧
      p bytes = some (item, rest)) := by
  cases head with
  | tag m =>
    simp only [afterHead?] at h
    split at h
    · rename_i hbig
      obtain ⟨number, hnumber, heq⟩ := Option.map_eq_some_iff.1 h
      rcases bigNumber?_eq_some hnumber with ⟨k, rfl⟩ | rfl
      · cases heq
      · obtain ⟨⟨rfl, rfl⟩, rfl⟩ : (m = n ∧ _ = item) ∧ _ = rest := by simpa using heq
        exact ⟨rfl, fun hnone => by rw [hbig] at hnone; cases hnone⟩
    · obtain ⟨p, hp, h⟩ := Option.bind_eq_some_iff.1 h
      obtain ⟨found, hfound, heq⟩ := map_eq_some h
      obtain ⟨rfl, rfl⟩ : m = n ∧ found = item := Item.tag.inj heq
      exact ⟨rfl, fun _ => ⟨p, hp, hfound⟩⟩
  | simple m =>
    obtain ⟨value, hvalue, heq⟩ := Option.map_eq_some_iff.1 h
    rcases simple?_eq_some hvalue with ⟨b, rfl⟩ | rfl <;> cases heq
  | _ => simp [afterHead?, Option.bind_eq_some_iff] at h

theorem spells_itemWith? {front back : Bytes} (hhead : Spells Head.read? front head)
    (hafter : Spells (afterHead? part? head) back item) :
    Spells (itemWith? part?) (front ++ back) item := by
  simpa only [Spells, itemWith?_eq] using hhead.bind hafter

/-- Items between the head of an array and its end are an array. -/
theorem spells_array {opening closing : Bytes} {parts : List Bytes} {length : Option Nat}
    (hopening : Spells Head.read? opening (.array length))
    (hparts : List.Forall₂ (Spells (itemWithin? depth)) parts items)
    (hclosing : Closes length items.length closing) :
    Spells (itemWithin? (depth + 1)) (opening ++ (parts.flatten ++ closing)) (.array items) := by
  refine spells_itemWith? hopening fun rest => ?_
  simp only [afterHead?, Option.bind_some, Option.map_some,
    spells_sequence? (itemWithin?_starts depth) hparts hclosing rest]

theorem array_eq_some (h : itemWithin? (depth + 1) bytes = some (.array items, rest)) :
    ∃ opening parts closing length, bytes = opening ++ (parts.flatten ++ closing) ++ rest ∧
      Spells Head.read? opening (.array length) ∧
      List.Forall₂ (Spells (itemWithin? depth)) parts items ∧
      Closes length items.length closing := by
  rw [itemWithin?, itemWith?_eq] at h
  obtain ⟨⟨head, behind⟩, hhead, h⟩ := Option.bind_eq_some_iff.1 h
  obtain ⟨p, length, hp, rfl, hitems⟩ := afterHead?_eq_array h
  obtain rfl := Option.some.inj hp
  obtain ⟨opening, rfl, hopening⟩ := head_tracks _ _ _ hhead
  obtain ⟨parts, closing, rfl, hparts, hclosing⟩ :=
    sequence?_eq_some (itemWithin?_tracks (Nat.le_refl depth)) hitems
  exact ⟨opening, parts, closing, length, (List.append_assoc ..).symm, hopening, hparts, hclosing⟩

theorem bigOctets?_of_not (hn : ¬(n = 2 ∨ n = 3)) (bytes : Bytes) : bigOctets? n bytes = none :=
  if_neg hn

/-- An item behind the head of a tag is tagged, unless the tag is one for big numbers. -/
theorem spells_tag {front octets : Bytes} (hn : ¬(n = 2 ∨ n = 3))
    (hfront : Spells Head.read? front (.tag n)) (h : Spells (itemWithin? depth) octets item) :
    Spells (itemWithin? (depth + 1)) (front ++ octets) (.tag n item) := by
  refine spells_itemWith? hfront fun rest => ?_
  simp only [afterHead?, bigOctets?_of_not hn, Option.bind_some, h rest, Option.map_some]

theorem tag_eq_some (hn : ¬(n = 2 ∨ n = 3))
    (h : itemWithin? (depth + 1) bytes = some (.tag n item, rest)) :
    ∃ front behind, bytes = front ++ behind ∧ Spells Head.read? front (.tag n) ∧
      itemWithin? depth behind = some (item, rest) := by
  rw [itemWithin?, itemWith?_eq] at h
  obtain ⟨⟨head, behind⟩, hhead, h⟩ := Option.bind_eq_some_iff.1 h
  obtain ⟨rfl, hitem⟩ := afterHead?_eq_tag h
  obtain ⟨p, hp, hitem⟩ := hitem (bigOctets?_of_not hn behind)
  obtain rfl := Option.some.inj hp
  obtain ⟨front, rfl, hfront⟩ := head_tracks _ _ _ hhead
  exact ⟨front, behind, rfl, hfront, hitem⟩

end

end Attestation.Cbor
