import Attestation.Proofs.Base64.RoundTrip
import Attestation.Proofs.Cbor.Items
import Attestation.Proofs.Nitro.Soundness
import Attestation.Proofs.Text.Blank
import Attestation.Proofs.Text.Utf8

/-!
The forms in which one envelope may come. In base64, with blanks around it, it is read as it is by
itself. What follows it, its unprotected header and the tag over it do not count. The verification
sees no more than the three byte strings that are signed, and their signature.
-/
namespace Attestation.Nitro

open Checks Cbor

namespace Envelope

/-! Text. The first byte of a text of blanks and digits does not mark an envelope. -/

/-- Digits of base64 and its padding are printed characters of ASCII. -/
def IsPrinted (c : Char) : Prop := 0x20 < c.toNat ∧ c.toNat < 0x80

theorem isPrinted_digit : ∀ n < 64, 0x20 < (Base64.standard.digit n).toNat ∧
    (Base64.standard.digit n).toNat < 0x80 := by
  decide

theorem isPrinted_of_mem {bytes : Bytes} {c : Char}
    (h : c ∈ (Base64.encode Base64.standard bytes).toList) : IsPrinted c := by
  rw [Base64.encode, String.toList_ofList, List.mem_append] at h
  rcases h with h | h
  · obtain ⟨n, hn, rfl⟩ := List.mem_map.1 h
    exact isPrinted_digit n (Base64.sextets_lt bytes n hn)
  · rw [List.eq_of_mem_replicate h]
    exact ⟨by decide, by decide⟩

theorem IsPrinted.not_blank {c : Char} (h : IsPrinted c) : Text.isBlank c = false := by
  obtain ⟨hlow, hhigh⟩ := h
  simp only [Text.isBlank, Bool.or_eq_false_iff, Bool.and_eq_false_iff, decide_eq_false_iff_not,
    beq_eq_false_iff_ne]
  omega

/-- The characters whose first byte marks an envelope are Cyrillic. -/
theorem toNat_of_marked {c : Char} {first : UInt8} {rest : Bytes}
    (h : Utf8.encodeChar c = first :: rest) (hfirst : first = arrayMark ∨ first = tagMark) :
    0x480 ≤ c.toNat ∧ c.toNat < 0x4c0 := by
  have hmark : first.toNat = 0x84 ∨ first.toNat = 0xd2 :=
    hfirst.imp (congrArg UInt8.toNat) (congrArg UInt8.toNat)
  have hc := Utf8.toNat_lt_planes c
  unfold Utf8.encodeChar at h
  dsimp only at h
  repeat' split at h
  all_goals
    obtain ⟨rfl, -⟩ := List.cons.inj h
    rw [Utf8.toNat_ofNat_of_lt (by omega)] at hmark
    omega

theorem not_marked {c : Char} (h : Text.isBlank c = true ∨ IsPrinted c) :
    c.toNat < 0x480 ∨ 0x4c0 ≤ c.toNat := by
  rcases h with h | ⟨_, hhigh⟩
  · simp only [Text.isBlank, Bool.or_eq_true, Bool.and_eq_true, decide_eq_true_eq,
      beq_iff_eq] at h
    omega
  · exact .inl (Nat.lt_trans hhigh (by decide))

/-- Evidence that is read as a text. -/
theorem decode_encodeChars {c : Char} {cs : List Char} {bytes : Bytes}
    (hc : Text.isBlank c = true ∨ IsPrinted c)
    (h : Base64.decode? Base64.standard (Text.trim (c :: cs)) = some bytes) :
    decode (Utf8.encodeChars (c :: cs)) = ofBytes bytes := by
  have hread := Utf8.decodeChars?_encodeChars (c :: cs)
  obtain ⟨first, rest, hfirst⟩ := List.exists_cons_of_ne_nil (Utf8.encodeChar_ne_nil c)
  rw [Utf8.encodeChars_cons, hfirst, List.cons_append] at hread ⊢
  have hunmarked : ¬(first = arrayMark ∨ first = tagMark) := by
    intro hmark
    have hrange := toNat_of_marked hfirst hmark
    have hnot := not_marked hc
    omega
  simp only [decode, if_neg hunmarked, dearmored?, hread, Option.bind_eq_bind, Option.bind_some, h]

theorem trim_armor {before after : List Char} (hbefore : Text.IsBlanks before)
    (hafter : Text.IsBlanks after) (bytes : Bytes) :
    Text.trim (before ++ (Base64.encode Base64.standard bytes).toList ++ after) =
      (Base64.encode Base64.standard bytes).toList := by
  rw [Text.trim_append hbefore hafter]
  exact Text.trim_of_not_blank fun c hc => (isPrinted_of_mem hc).not_blank

theorem armor_ne_nil {bytes : Bytes} (h : bytes ≠ []) :
    (Base64.encode Base64.standard bytes).toList ≠ [] := by
  rw [Base64.encode, String.toList_ofList]
  exact List.append_ne_nil_of_left_ne_nil (mt Base64.encodeChars_eq_nil.1 h) _

theorem decode_armor {bytes : Bytes} (h : bytes ≠ []) {before after : List Char}
    (hbefore : Text.IsBlanks before) (hafter : Text.IsBlanks after) :
    decode (Utf8.encodeChars
      (before ++ (Base64.encode Base64.standard bytes).toList ++ after)) = ofBytes bytes := by
  have hread := Base64.decode?_encode Base64.standard_lawful bytes
  rw [← trim_armor hbefore hafter bytes] at hread
  have hmem : ∀ c ∈ before ++ (Base64.encode Base64.standard bytes).toList,
      Text.isBlank c = true ∨ IsPrinted c := fun c hc =>
    (List.mem_append.1 hc).imp (hbefore c) isPrinted_of_mem
  obtain ⟨c, cs, htext⟩ := List.exists_cons_of_ne_nil
    (List.append_ne_nil_of_right_ne_nil before (armor_ne_nil h))
  rw [htext, List.cons_append] at hread ⊢
  exact decode_encodeChars (hmem c (htext ▸ List.mem_cons_self)) hread

/-! Octets. -/

/-- The octets of an envelope, part by part. -/
structure Layout where
  /-- The head of the tag, if there is one. -/
  tag : Bytes
  /-- The head of the array. -/
  opening : Bytes
  header : Bytes
  unprotected : Bytes
  payload : Bytes
  signature : Bytes
  /-- The stop of an array of open length. -/
  closing : Bytes
  trailing : Bytes
  deriving DecidableEq

namespace Layout

variable {l : Layout} {header payload signature : Bytes}

def bytes (l : Layout) : Bytes :=
  l.tag ++ l.opening ++ l.header ++ l.unprotected ++ l.payload ++ l.signature ++ l.closing ++
    l.trailing

/-- How deep the parts may go: the array counts, and so does the tag. -/
def depth (l : Layout) : Nat := if l.tag = [] then depthLimit - 1 else depthLimit - 2

/-- The same octets but for the unprotected header. -/
def withUnprotected (l : Layout) (octets : Bytes) : Layout := { l with unprotected := octets }

/-- The layout is one of an envelope with these parts, and any item as its unprotected header. -/
structure Reads (l : Layout) (header payload signature : Bytes) : Prop where
  tag : l.tag = [] ∨ Spells Head.read? l.tag (.tag envelopeTag)
  array : ∃ length, Spells Head.read? l.opening (.array length) ∧ Closes length 4 l.closing
  header : Spells (itemWithin? l.depth) l.header (.bytes header)
  unprotected : ∃ item, Spells (itemWithin? l.depth) l.unprotected item
  payload : Spells (itemWithin? l.depth) l.payload (.bytes payload)
  signature : Spells (itemWithin? l.depth) l.signature (.bytes signature)

end Layout

theorem ofBytes_of_spells {octets : Bytes} {item : Item}
    (h : Spells (itemWithin? depthLimit) octets item) (rest : Bytes) :
    ofBytes (octets ++ rest) = ofItem item := by
  simp only [ofBytes, Item.ofBytes?, h rest, Option.map_some]

theorem Layout.Reads.ofBytes {l : Layout} {header payload signature : Bytes}
    (h : l.Reads header payload signature) :
    Envelope.ofBytes l.bytes = ofParts header payload signature := by
  obtain ⟨length, hopening, hclosing⟩ := h.array
  obtain ⟨unprotected, hunprotected⟩ := h.unprotected
  have hparts : List.Forall₂ (Spells (itemWithin? l.depth))
      [l.header, l.unprotected, l.payload, l.signature]
      [.bytes header, unprotected, .bytes payload, .bytes signature] :=
    .cons h.header (.cons hunprotected (.cons h.payload (.cons h.signature .nil)))
  have harray := spells_array hopening hparts hclosing
  have hbytes : l.bytes = l.tag ++ (l.opening ++
      ([l.header, l.unprotected, l.payload, l.signature].flatten ++ l.closing)) ++ l.trailing := by
    simp [bytes]
  rw [hbytes]
  rcases h.tag with htag | htag
  · have hdepth : l.depth + 1 = depthLimit := by rw [depth, if_pos htag]; rfl
    rw [hdepth] at harray
    rw [htag, List.nil_append, ofBytes_of_spells harray]
    rfl
  · have hdepth : l.depth + 1 + 1 = depthLimit := by
      rw [depth, if_neg (htag.ne_nil rfl)]
      rfl
    have htagged := spells_tag (by decide) htag harray
    rw [hdepth] at htagged
    rw [ofBytes_of_spells htagged]
    rfl

theorem exists_item {bytes : Bytes} {e : Envelope} (h : ofBytes bytes = .ok e) :
    ∃ item rest, itemWithin? depthLimit bytes = some (item, rest) ∧ ofItem item = .ok e := by
  unfold ofBytes at h
  split at h
  · rename_i item hitem
    obtain ⟨⟨found, rest⟩, hread, rfl⟩ := Option.map_eq_some_iff.1 hitem
    exact ⟨found, rest, hread, h⟩
  · cases h

theorem exists_layout_of_array {depth : Nat} {tag behind rest header payload signature : Bytes}
    {unprotected : Item} (htag : tag = [] ∨ Spells Head.read? tag (.tag envelopeTag))
    (hdepth : (if tag = [] then depthLimit - 1 else depthLimit - 2) = depth)
    (h : itemWithin? (depth + 1) behind =
      some (.array [.bytes header, unprotected, .bytes payload, .bytes signature], rest)) :
    ∃ l : Layout, l.bytes = tag ++ behind ∧ l.Reads header payload signature := by
  obtain ⟨opening, parts, closing, length, rfl, hopening, hparts, hclosing⟩ := array_eq_some h
  subst hdepth
  obtain _ | ⟨hheader, _ | ⟨hunprotected, _ | ⟨hpayload, _ | ⟨hsignature, ⟨⟩⟩⟩⟩⟩ := hparts
  exact ⟨⟨tag, opening, _, _, _, _, closing, rest⟩, by simp [Layout.bytes],
    { tag := htag, array := ⟨length, hopening, hclosing⟩, header := hheader,
      unprotected := ⟨unprotected, hunprotected⟩, payload := hpayload, signature := hsignature }⟩

theorem exists_layout {bytes : Bytes} {e : Envelope} (h : ofBytes bytes = .ok e) :
    ∃ l : Layout, l.bytes = bytes ∧ l.Reads e.protectedHeader e.payload e.signature := by
  obtain ⟨item, rest, hread, hitem⟩ := exists_item h
  obtain ⟨⟨unprotected, rfl | rfl⟩, -⟩ := ofItem_eq_ok hitem
  · exact exists_layout_of_array (.inl (rfl : ([] : Bytes) = [])) rfl hread
  · obtain ⟨tag, behind, rfl, htag, harray⟩ := tag_eq_some (by decide) hread
    exact exists_layout_of_array (.inr htag) (if_neg (htag.ne_nil rfl)) harray

theorem Layout.Reads.withUnprotected {l : Layout} {header payload signature octets : Bytes}
    {item : Item}
    (h : l.Reads header payload signature) (hitem : itemWithin? l.depth octets = some (item, [])) :
    (l.withUnprotected octets).Reads header payload signature :=
  { h with unprotected := ⟨item, spells_of_eq_some hitem (Nat.le_refl l.depth)⟩ }

theorem ofBytes_append {bytes : Bytes} {e : Envelope} (h : ofBytes bytes = .ok e) (more : Bytes) :
    ofBytes (bytes ++ more) = .ok e := by
  obtain ⟨item, rest, hread, hitem⟩ := exists_item h
  obtain ⟨octets, rfl, hoctets⟩ := itemWithin?_tracks (Nat.le_refl depthLimit) _ _ _ hread
  rw [List.append_assoc, ofBytes_of_spells hoctets, hitem]

/-- The bytes do not begin with a tag. -/
def Untagged (bytes : Bytes) : Prop := ∀ n rest, Head.read? bytes ≠ some (.tag n, rest)

theorem ofBytes_tagMark {bytes : Bytes} {e : Envelope} (h : ofBytes bytes = .ok e)
    (huntagged : Untagged bytes) (hdepth : (itemWithin? (depthLimit - 1) bytes).isSome) :
    ofBytes (tagMark :: bytes) = .ok e := by
  obtain ⟨item, rest, hread, hitem⟩ := exists_item h
  obtain ⟨⟨item', rest'⟩, hread'⟩ := Option.isSome_iff_exists.1 hdepth
  obtain ⟨octets, rfl, hoctets⟩ := itemWithin?_tracks (Nat.le_refl _) _ _ _ hread'
  -- What is read without going to the limit is what is read when going there.
  have hdeeper := spells_of_eq_some hoctets.eq_some (Nat.sub_le depthLimit 1)
  obtain ⟨rfl, rfl⟩ : item' = item ∧ rest' = rest := by
    simpa [hdeeper rest'] using hread
  have hmark : Spells Head.read? [tagMark] (.tag envelopeTag) := fun _ => rfl
  have htagged := ofBytes_of_spells (spells_tag (by decide) hmark hoctets) rest'
  obtain ⟨⟨unprotected, rfl | rfl⟩, -⟩ := ofItem_eq_ok hitem
  · rw [← hitem]
    exact htagged
  · obtain ⟨front, behind, hbytes, hfront, -⟩ := tag_eq_some (by decide) hread
    exact absurd (hbytes ▸ hfront behind) (huntagged 18 behind)

/-! One envelope in all its forms. -/

theorem ext_parts {evidence evidence' : Bytes} {e e' : Envelope}
    (h : decode evidence = .ok e) (h' : decode evidence' = .ok e')
    (hheader : e.protectedHeader = e'.protectedHeader) (hpayload : e.payload = e'.payload)
    (hsignature : e.signature = e'.signature) : e = e' := by
  have hparts := (decode_eq_ok h).2
  rw [hheader, hpayload, hsignature, (decode_eq_ok h').2] at hparts
  exact (Except.ok.inj hparts).symm

/-- The forms of the envelope with these bytes. -/
structure Interchangeable (bytes : Bytes) : Prop where
  /-- In base64, with blanks around it, it is read as it is by itself. -/
  armored : ∀ before after, Text.IsBlanks before → Text.IsBlanks after →
    decode (Utf8.encodeChars
      (before ++ (Base64.encode Base64.standard bytes).toList ++ after)) = ofBytes bytes
  plain : bytes.head? = some arrayMark ∨ bytes.head? = some tagMark → decode bytes = ofBytes bytes
  /-- What follows it does not count. -/
  trailing : ∀ e, ofBytes bytes = .ok e → ∀ more, ofBytes (bytes ++ more) = .ok e
  laidOut : ∀ e, ofBytes bytes = .ok e →
    ∃ l : Layout, l.bytes = bytes ∧ l.Reads e.protectedHeader e.payload e.signature
  /-- Any other item may stand for its unprotected header. -/
  unprotected : ∀ (l : Layout) header payload signature, l.bytes = bytes →
    l.Reads header payload signature → ∀ octets item,
      itemWithin? l.depth octets = some (item, []) →
        ofBytes (l.withUnprotected octets).bytes = ofBytes bytes
  /-- A tag may be put over it, if it is not too deep for that. -/
  tagged : ∀ e, ofBytes bytes = .ok e → Untagged bytes →
    (itemWithin? (depthLimit - 1) bytes).isSome → ofBytes (tagMark :: bytes) = .ok e

theorem interchangeable {bytes : Bytes} (h : bytes ≠ []) : Interchangeable bytes where
  armored _ _ hbefore hafter := decode_armor h hbefore hafter
  plain hmark := by
    obtain ⟨first, rest, rfl⟩ := List.exists_cons_of_ne_nil h
    simp only [List.head?_cons, Option.some.injEq] at hmark
    rw [decode, if_pos hmark]
  trailing _ hread := ofBytes_append hread
  laidOut _ := exists_layout
  unprotected l header payload signature hbytes hl octets item hitem := by
    rw [(hl.withUnprotected hitem).ofBytes, ← hbytes, hl.ofBytes]
  tagged _ := ofBytes_tagMark

end Envelope

/-- The forms of one envelope are read alike, and evidence is judged by the three byte strings that
are read from it. -/
theorem wireForms_interchangeable {bytes : Bytes} (h : bytes ≠ []) :
    Envelope.Interchangeable bytes ∧ ∀ evidence evidence' e e',
      Envelope.decode evidence = .ok e → Envelope.decode evidence' = .ok e' →
      e.protectedHeader = e'.protectedHeader → e.payload = e'.payload →
      e.signature = e'.signature → ∀ root expectedKey now,
        verify root evidence expectedKey now = verify root evidence' expectedKey now := by
  refine ⟨Envelope.interchangeable h, ?_⟩
  intro evidence evidence' e e' hread hread' hheader hpayload hsignature root expectedKey now
  obtain rfl := Envelope.ext_parts hread hread' hheader hpayload hsignature
  simp only [verify, readEnvelope, hread, hread']

set_option maxRecDepth 100000 in
/-- One envelope by itself, in base64 between an ideographic space and a line feed, with a byte
behind it, under the tag, and with an entry in its unprotected header. -/
theorem wireForms_interchangeable_specimen : specimenEvidence ≠ [] ∧ ∃ e,
    Envelope.decode specimenEvidence = .ok e ∧
    Envelope.decode (Utf8.encodeChars (['\u3000'] ++
      (Base64.encode Base64.standard specimenEvidence).toList ++ ['\n'])) = .ok e ∧
    Envelope.ofBytes (specimenEvidence ++ [0xff]) = .ok e ∧
    Envelope.decode (Envelope.tagMark :: specimenEvidence) = .ok e ∧
    (∃ l : Envelope.Layout, l.bytes = specimenEvidence ∧
      Envelope.ofBytes (l.withUnprotected [0xa1, 0x01, 0x02]).bytes = .ok e) ∧
    ∀ root expectedKey now, verify root (Envelope.tagMark :: specimenEvidence) expectedKey now =
      verify root specimenEvidence expectedKey now := by
  have hne : specimenEvidence ≠ [] := by decide +kernel
  have hread : (Envelope.ofBytes specimenEvidence).isOk = true := by decide +kernel
  have hhead : (Head.read? specimenEvidence).map (·.1) = some (.array (some 4)) := by
    decide +kernel
  have hdepth : (itemWithin? (depthLimit - 1) specimenEvidence).isSome := by decide +kernel
  have hentry : itemWithin? 1 [0xa1, 0x01, 0x02] =
    some (.map [(.integer 1, .integer 2)], []) := rfl
  obtain ⟨e, he⟩ := isOk_iff.1 hread
  have huntagged : Envelope.Untagged specimenEvidence := by
    intro n rest htag
    rw [htag] at hhead
    cases hhead
  obtain ⟨hforms, hverify⟩ := wireForms_interchangeable hne
  have hplain := (hforms.plain (.inl (by decide +kernel))).trans he
  have htagged : Envelope.decode (Envelope.tagMark :: specimenEvidence) = .ok e :=
    hforms.tagged e he huntagged hdepth
  obtain ⟨l, hl, hreads⟩ := hforms.laidOut e he
  have hdeep : 1 ≤ l.depth := by
    unfold Envelope.Layout.depth
    split <;> decide
  have hspace : Text.IsBlanks ['\u3000'] := by decide
  have hfeed : Text.IsBlanks ['\n'] := by decide
  refine ⟨hne, e, hplain, ?_, hforms.trailing e he _, htagged, ⟨l, hl, ?_⟩, ?_⟩
  · exact (hforms.armored _ _ hspace hfeed).trans he
  · exact (hforms.unprotected l _ _ _ hl hreads _ _
      (spells_of_eq_some hentry hdeep).eq_some).trans he
  · exact hverify _ _ e e htagged hplain rfl rfl rfl

end Attestation.Nitro
