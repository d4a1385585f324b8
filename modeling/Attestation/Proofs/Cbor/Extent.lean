import Attestation.Proofs.Cbor.Strings
import Mathlib.Data.List.Defs

/-!
How far a reader goes. It takes something from the front of a byte string, and it takes the same
from the same octets whatever follows them. So what stands one after another can be taken apart and
put together with other things, in sequences and strings of stated and of open length.
-/
namespace Attestation.Cbor

section
variable {α β : Type} {read? read?' : Bytes → Option (α × Bytes)}

/-- The reader takes this value from the octets, whatever follows them. -/
def Spells (read? : Bytes → Option (α × Bytes)) (octets : Bytes) (a : α) : Prop :=
  ∀ rest, read? (octets ++ rest) = some (a, rest)

/-- What the first reader takes from the front of a byte string, the second takes from the same
octets, whatever follows them. -/
def Tracks (read? read?' : Bytes → Option (α × Bytes)) : Prop :=
  ∀ bytes a rest, read? bytes = some (a, rest) →
    ∃ octets, bytes = octets ++ rest ∧ Spells read?' octets a

theorem Spells.eq_some {octets : Bytes} {a : α} (h : Spells read? octets a) :
    read? octets = some (a, []) := by
  simpa using h []

theorem Spells.ne_nil {octets : Bytes} {a : α} (h : Spells read? octets a)
    (hnil : read? [] = none) : octets ≠ [] := by
  rintro rfl
  rw [h.eq_some] at hnil
  cases hnil

theorem tracks_pure (a : α) :
    Tracks (fun bytes => some (a, bytes)) fun bytes => some (a, bytes) := by
  intro bytes b rest h
  obtain ⟨rfl, rfl⟩ : a = b ∧ bytes = rest := by simpa using h
  exact ⟨[], rfl, fun _ => rfl⟩

theorem tracks_none : Tracks (fun _ => none) read?' := by
  intro bytes a rest h
  cases h

theorem Spells.bind {next? : α → Bytes → Option (β × Bytes)} {front back : Bytes} {a : α} {b : β}
    (hfront : Spells read? front a) (hback : Spells (next? a) back b) :
    Spells (fun bytes => read? bytes >>= fun found => next? found.1 found.2) (front ++ back) b := by
  intro rest
  dsimp only
  rw [List.append_assoc, hfront]
  exact hback rest

theorem Tracks.bind {next? next?' : α → Bytes → Option (β × Bytes)} (h : Tracks read? read?')
    (hnext : ∀ a, Tracks (next? a) (next?' a)) :
    Tracks (fun bytes => read? bytes >>= fun found => next? found.1 found.2)
      fun bytes => read?' bytes >>= fun found => next?' found.1 found.2 := by
  intro bytes b rest hread
  obtain ⟨⟨a, behind⟩, ha, hb⟩ := Option.bind_eq_some_iff.1 hread
  obtain ⟨front, rfl, hfront⟩ := h _ _ _ ha
  obtain ⟨back, rfl, hback⟩ := hnext a _ _ _ hb
  exact ⟨front ++ back, (List.append_assoc ..).symm, hfront.bind hback⟩

theorem Tracks.filterMap (h : Tracks read? read?') (f? : α → Option β) :
    Tracks (fun bytes => read? bytes >>= fun found => (f? found.1).map fun b => (b, found.2))
      fun bytes => read?' bytes >>= fun found => (f? found.1).map fun b => (b, found.2) := by
  have hmade (a : α) : Tracks (fun rest : Bytes => (f? a).map fun b => (b, rest))
      fun rest => (f? a).map fun b => (b, rest) := by
    cases f? a with
    | none => exact tracks_none
    | some b => exact tracks_pure b
  exact h.bind hmade

theorem Tracks.map (h : Tracks read? read?') (f : α → β) :
    Tracks (fun bytes => (read? bytes).map fun found => (f found.1, found.2))
      fun bytes => (read?' bytes).map fun found => (f found.1, found.2) := by
  simpa only [Option.bind_eq_bind, Option.map_eq_bind, Option.bind_some, Function.comp_def]
    using h.filterMap fun a => some (f a)

end

/-! Heads and strings. -/

theorem takeExactly_tracks (n : Nat) : Tracks (Bytes.takeExactly n) (Bytes.takeExactly n) := by
  intro bytes content rest h
  obtain ⟨hlength, rfl⟩ := Bytes.takeExactly_eq_some h
  exact ⟨content, rfl, fun rest' => Bytes.takeExactly_append hlength rest'⟩

theorem argument?_append {info n : Nat} {bytes octets rest : Bytes}
    (h : Head.argument? info bytes = some (n, octets, rest)) :
    bytes = octets ++ rest ∧
      ∀ rest', Head.argument? info (octets ++ rest') = some (n, octets, rest') := by
  refine ⟨(argument?_eq_some h).1, fun rest' => ?_⟩
  unfold Head.argument? at h ⊢
  split at h
  · rename_i hinfo
    obtain ⟨rfl, rfl, rfl⟩ : info = n ∧ [] = octets ∧ bytes = rest := by simpa using h
    rw [if_pos hinfo, List.nil_append]
  · rename_i hinfo
    simp only [Option.bind_eq_bind, Option.bind_eq_some_iff, Option.pure_def, Option.some.injEq,
      Prod.mk.injEq, Prod.exists] at h
    obtain ⟨width, hwidth, found, tail, htaken, hvalue, rfl, rfl⟩ := h
    obtain ⟨hlength, _⟩ := Bytes.takeExactly_eq_some htaken
    simp only [if_neg hinfo, hwidth, Option.bind_eq_bind, Option.bind_some,
      Bytes.takeExactly_append hlength, Option.pure_def, hvalue]

theorem head_tracks : Tracks Head.read? Head.read? := by
  intro bytes head rest h
  cases bytes with
  | nil => cases h
  | cons first tail =>
    simp only [Head.read?] at h
    split at h
    · rename_i hinfo
      obtain ⟨found, hfound, heq⟩ := Option.map_eq_some_iff.1 h
      obtain ⟨rfl, rfl⟩ : found = head ∧ tail = rest := by simpa using heq
      refine ⟨[first], rfl, fun rest' => ?_⟩
      simp [Head.read?, hinfo, hfound]
    · rename_i hinfo
      obtain ⟨⟨n, octets, behind⟩, hargument, heq⟩ := Option.map_eq_some_iff.1 h
      obtain ⟨rfl, rfl⟩ : Head.withArgument (first.toNat / 32) n octets = head ∧ behind = rest := by
        simpa using heq
      obtain ⟨rfl, hagain⟩ := argument?_append hargument
      refine ⟨first :: octets, rfl, fun rest' => ?_⟩
      simp [Head.read?, hinfo, hagain]

/-! Sequences. -/

section
variable {α : Type} {item? item?' : Bytes → Option (α × Bytes)}

/-- A reader that takes nothing from nothing, and nothing where a sequence stops. -/
structure Starts (item? : Bytes → Option (α × Bytes)) : Prop where
  nil : item? [] = none
  stop : ∀ {bytes rest}, Head.read? bytes = some (.stop, rest) → item? bytes = none

theorem pair?_tracks (h : Tracks item? item?') : Tracks (pair? item?) (pair? item?') :=
  h.bind fun key => h.bind fun value => tracks_pure (key, value)

theorem Starts.pair? (h : Starts item?) : Starts (pair? item?) where
  nil := by simp [Cbor.pair?, h.nil]
  stop := fun hread => by simp [Cbor.pair?, h.stop hread]

/-- What stands behind the items of a sequence: nothing, if it says how many there are, and the stop
of a sequence of open length. -/
inductive Closes : Option Nat → Nat → Bytes → Prop where
  | counted (n : Nat) : Closes (some n) n []
  | stopped {octets : Bytes} (h : Spells Head.read? octets .stop) (n : Nat) : Closes none n octets

theorem exactly?_flatten {parts : List Bytes} {xs : List α}
    (h : List.Forall₂ (Spells item?) parts xs) (rest : Bytes) :
    exactly? item? xs.length (parts.flatten ++ rest) = some (xs, rest) := by
  induction h with
  | nil => rfl
  | cons hx _ ih =>
    simp only [List.length_cons, exactly?, List.flatten_cons, List.append_assoc, hx _,
      Option.bind_eq_bind, Option.bind_some, ih, Option.pure_def]

theorem exactly?_eq_some (h : Tracks item? item?') {n : Nat} {bytes rest : Bytes} {xs : List α}
    (hread : exactly? item? n bytes = some (xs, rest)) :
    ∃ parts, bytes = parts.flatten ++ rest ∧ List.Forall₂ (Spells item?') parts xs ∧
      xs.length = n := by
  induction n generalizing bytes xs with
  | zero =>
    obtain ⟨rfl, rfl⟩ : [] = xs ∧ bytes = rest := by simpa [exactly?] using hread
    exact ⟨[], rfl, .nil, rfl⟩
  | succ n ih =>
    simp only [exactly?, Option.bind_eq_bind, Option.bind_eq_some_iff, Option.pure_def,
      Option.some.injEq, Prod.mk.injEq, Prod.exists] at hread
    obtain ⟨x, behind, hx, tail, _, htail, rfl, rfl⟩ := hread
    obtain ⟨front, rfl, hfront⟩ := h _ _ _ hx
    obtain ⟨parts, rfl, hparts, hcount⟩ := ih htail
    exact ⟨front :: parts, by simp, .cons hfront hparts, congrArg (· + 1) hcount⟩

theorem untilStopWithin?_flatten (hstarts : Starts item?) {parts : List Bytes} {xs : List α}
    (h : List.Forall₂ (Spells item?) parts xs) {closing : Bytes}
    (hclosing : Spells Head.read? closing .stop) {fuel : Nat} (hfuel : parts.length < fuel)
    (rest : Bytes) :
    untilStopWithin? item? fuel (parts.flatten ++ (closing ++ rest)) = some (xs, rest) := by
  induction h generalizing fuel with
  | nil =>
    obtain ⟨fuel, rfl⟩ := Nat.exists_eq_add_one.2 hfuel
    simp only [untilStopWithin?, List.flatten_nil, List.nil_append, hclosing rest]
  | @cons front x parts xs hx _ ih =>
    obtain ⟨fuel, rfl⟩ := Nat.exists_eq_add_one.2 (Nat.lt_of_le_of_lt (Nat.zero_le _) hfuel)
    rw [List.flatten_cons, List.append_assoc]
    unfold untilStopWithin?
    split
    · -- an item is read here, so that the sequence does not stop
      rename_i hstop
      have hnone := hstarts.stop hstop
      rw [hx] at hnone
      cases hnone
    · simp only [hx _, Option.bind_eq_bind, Option.bind_some, Option.pure_def,
        ih (Nat.lt_of_succ_lt_succ hfuel)]

theorem untilStopWithin?_eq_some (h : Tracks item? item?') {fuel : Nat} {bytes rest : Bytes}
    {xs : List α} (hread : untilStopWithin? item? fuel bytes = some (xs, rest)) :
    ∃ parts closing, bytes = parts.flatten ++ (closing ++ rest) ∧
      List.Forall₂ (Spells item?') parts xs ∧ Spells Head.read? closing .stop := by
  induction fuel generalizing bytes xs with
  | zero => cases hread
  | succ fuel ih =>
    unfold untilStopWithin? at hread
    split at hread
    · rename_i behind hstop
      obtain ⟨rfl, rfl⟩ : [] = xs ∧ behind = rest := by simpa using hread
      obtain ⟨closing, rfl, hclosing⟩ := head_tracks _ _ _ hstop
      exact ⟨[], closing, rfl, .nil, hclosing⟩
    · simp only [Option.bind_eq_bind, Option.bind_eq_some_iff, Option.pure_def, Option.some.injEq,
        Prod.mk.injEq, Prod.exists] at hread
      obtain ⟨x, behind, hx, tail, _, htail, rfl, rfl⟩ := hread
      obtain ⟨front, rfl, hfront⟩ := h _ _ _ hx
      obtain ⟨parts, closing, rfl, hparts, hclosing⟩ := ih htail
      exact ⟨front :: parts, closing, by simp, .cons hfront hparts, hclosing⟩

theorem Starts.length_le_flatten (h : Starts item?) {parts : List Bytes} {xs : List α}
    (hparts : List.Forall₂ (Spells item?) parts xs) : parts.length ≤ parts.flatten.length := by
  induction hparts with
  | nil => exact Nat.le_refl 0
  | cons hx _ ih =>
    have hpos := List.length_pos_iff.2 (hx.ne_nil h.nil)
    rw [List.length_cons, List.flatten_cons, List.length_append]
    omega

/-- Items that stand one after another are a sequence. -/
theorem spells_sequence? (hstarts : Starts item?) {parts : List Bytes} {xs : List α}
    (h : List.Forall₂ (Spells item?) parts xs) {length : Option Nat} {closing : Bytes}
    (hclosing : Closes length xs.length closing) :
    Spells (sequence? item? length) (parts.flatten ++ closing) xs := by
  intro rest
  rw [List.append_assoc]
  cases hclosing with
  | counted => exact exactly?_flatten h rest
  | stopped hstop =>
    refine untilStopWithin?_flatten hstarts h hstop ?_ rest
    have hcount := hstarts.length_le_flatten h
    rw [List.length_append]
    omega

/-- The items of a sequence stand one after another. -/
theorem sequence?_eq_some (h : Tracks item? item?') {length : Option Nat} {bytes rest : Bytes}
    {xs : List α} (hread : sequence? item? length bytes = some (xs, rest)) :
    ∃ parts closing, bytes = parts.flatten ++ closing ++ rest ∧
      List.Forall₂ (Spells item?') parts xs ∧ Closes length xs.length closing := by
  cases length with
  | some n =>
    obtain ⟨parts, rfl, hparts, rfl⟩ := exactly?_eq_some h hread
    exact ⟨parts, [], by simp, hparts, .counted _⟩
  | none =>
    obtain ⟨parts, closing, rfl, hparts, hclosing⟩ := untilStopWithin?_eq_some h hread
    exact ⟨parts, closing, (List.append_assoc ..).symm, hparts, .stopped hclosing _⟩

theorem sequence?_tracks (h : Tracks item? item?') (hstarts : Starts item?')
    (length : Option Nat) : Tracks (sequence? item? length) (sequence? item?' length) := by
  intro bytes xs rest hread
  obtain ⟨parts, closing, rfl, hparts, hclosing⟩ := sequence?_eq_some h hread
  exact ⟨parts.flatten ++ closing, rfl, spells_sequence? hstarts hparts hclosing⟩

end

/-! Strings. -/

theorem segmentsWithin?_tracks (isText : Bool) {fuel inner : Nat} {bytes rest : Bytes}
    {segments : List Bytes}
    (hread : segmentsWithin? isText fuel inner bytes = some (segments, rest)) :
    ∃ octets, bytes = octets ++ rest ∧ ∀ fuel', octets.length ≤ fuel' →
      Spells (segmentsWithin? isText fuel' inner) octets segments := by
  induction fuel generalizing inner bytes segments with
  | zero => cases hread
  | succ fuel ih =>
    unfold segmentsWithin? at hread
    obtain ⟨⟨head, behind⟩, hhead, hbehind⟩ := Option.bind_eq_some_iff.1 hread
    obtain ⟨mark, rfl, hmark⟩ := head_tracks _ _ _ hhead
    have hpos : 0 < mark.length := List.length_pos_iff.2 (hmark.ne_nil rfl)
    -- each case gives the octets behind the head, and how they are read with a round less
    suffices hback : ∃ back, behind = back ++ rest ∧ ∀ fuel', back.length ≤ fuel' → ∀ rest',
        segmentsWithin? isText (fuel' + 1) inner (mark ++ (back ++ rest')) =
          some (segments, rest') by
      obtain ⟨back, rfl, hback⟩ := hback
      refine ⟨mark ++ back, (List.append_assoc ..).symm, fun fuel' hfuel rest' => ?_⟩
      rw [List.length_append] at hfuel
      obtain ⟨m, rfl⟩ : ∃ m, fuel' = m + 1 := Nat.exists_eq_add_one.2 (by omega)
      rw [List.append_assoc]
      exact hback m (by omega) rest'
    simp only [segmentsWithin?, hmark _, Option.bind_eq_bind, Option.bind_some]
    by_cases hstop : head = .stop
    · simp only [if_pos hstop] at hbehind ⊢
      cases inner with
      | zero =>
        obtain ⟨rfl, rfl⟩ : [] = segments ∧ behind = rest := by simpa using hbehind
        exact ⟨[], rfl, fun _ _ _ => rfl⟩
      | succ outer => exact ih hbehind
    · simp only [if_neg hstop] at hbehind ⊢
      obtain ⟨length?, hlength, htaken⟩ := Option.bind_eq_some_iff.1 hbehind
      simp only [hlength, Option.bind_some]
      split at htaken
      · exact ih htaken
      · rename_i n
        simp only [Option.bind_eq_bind, Option.bind_eq_some_iff, Option.pure_def, Option.some.injEq,
          Prod.mk.injEq, Prod.exists] at htaken
        obtain ⟨segment, behind', hsegment, tail, _, htail, rfl, rfl⟩ := htaken
        obtain ⟨content, rfl, hcontent⟩ := takeExactly_tracks n _ _ _ hsegment
        obtain ⟨back, rfl, hback⟩ := ih htail
        refine ⟨content ++ back, (List.append_assoc ..).symm, fun fuel' hfuel rest' => ?_⟩
        rw [List.length_append] at hfuel
        simp only [List.append_assoc, hcontent _, Option.bind_some, hback fuel' (by omega) rest',
          Option.pure_def]

theorem segments?_tracks (isText : Bool) (length : Option Nat) :
    Tracks (segments? isText length) (segments? isText length) := by
  cases length with
  | some n => exact (takeExactly_tracks n).map fun segment => [segment]
  | none =>
    intro bytes segments rest hread
    obtain ⟨octets, rfl, hoctets⟩ := segmentsWithin?_tracks isText hread
    exact ⟨octets, rfl, fun rest' => hoctets _ (by simp; omega) rest'⟩

theorem byteString?_tracks (length : Option Nat) :
    Tracks (byteString? length) (byteString? length) :=
  (segments?_tracks false length).map List.flatten

theorem textString?_tracks (length : Option Nat) :
    Tracks (textString? length) (textString? length) := by
  have hjoined (segments : List Bytes) :
      Tracks (fun bytes =>
        segments.mapM Utf8.decode? >>= fun texts => some (String.join texts, bytes))
      fun bytes =>
        segments.mapM Utf8.decode? >>= fun texts => some (String.join texts, bytes) := by
    cases segments.mapM Utf8.decode? with
    | none => exact tracks_none
    | some texts => exact tracks_pure (String.join texts)
  exact (segments?_tracks true length).bind hjoined

theorem bigOctets?_eq_some {tag : Nat} {bytes octets rest : Bytes}
    (h : bigOctets? tag bytes = some (octets, rest)) :
    ∃ n behind, Head.read? bytes = some (.bytes (some n), behind) ∧
      Bytes.takeExactly n behind = some (octets, rest) := by
  unfold bigOctets? at h
  split at h
  · split at h
    · rename_i n behind hhead
      split at h
      · exact ⟨n, behind, hhead, h⟩
      · cases h
    · cases h
  · cases h

theorem bigOctets?_tracks (tag : Nat) : Tracks (bigOctets? tag) (bigOctets? tag) := by
  intro bytes octets rest h
  obtain ⟨n, behind, hhead, htake⟩ := bigOctets?_eq_some h
  obtain ⟨mark, rfl, hmark⟩ := head_tracks _ _ _ hhead
  obtain ⟨content, rfl, hcontent⟩ := takeExactly_tracks n _ _ _ htake
  refine ⟨mark ++ content, (List.append_assoc ..).symm, fun rest' => ?_⟩
  unfold bigOctets? at h ⊢
  split at h
  · rename_i htag
    rw [if_pos htag, List.append_assoc, hmark]
    rw [hmark] at h
    dsimp only at h ⊢
    split at h
    · rename_i hn
      rw [if_pos hn, hcontent]
    · cases h
  · cases h

end Attestation.Cbor
