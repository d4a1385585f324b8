import Attestation.Cbor.Item
import Attestation.Cbor.Writer

/-!
Byte strings as they are written, behind the shortest head that gives their length. The head tells
how far a string goes, so that what stands one after another is taken apart in one way only,
whatever the strings hold.
-/
namespace Attestation.Cbor

/-- The head of a byte string of `n` bytes. The length stands in the first octet, or in one, two,
four or eight octets behind it if it does not fit into fewer. -/
inductive StringHead (n : Nat) : Bytes → Prop where
  | direct (first : UInt8) (hn : n < 24) (hfirst : first.toNat = 0x40 + n) : StringHead n [first]
  | one (octets : Bytes) (hn : 24 ≤ n ∧ n < 256) (hwidth : octets.length = 1)
      (hvalue : Bytes.toNat octets = n) : StringHead n (0x58 :: octets)
  | two (octets : Bytes) (hn : 256 ≤ n ∧ n < 65536) (hwidth : octets.length = 2)
      (hvalue : Bytes.toNat octets = n) : StringHead n (0x59 :: octets)
  | four (octets : Bytes) (hn : 65536 ≤ n ∧ n < 1 <<< 32) (hwidth : octets.length = 4)
      (hvalue : Bytes.toNat octets = n) : StringHead n (0x5a :: octets)
  | eight (octets : Bytes) (hn : 1 <<< 32 ≤ n) (hwidth : octets.length = 8)
      (hvalue : Bytes.toNat octets = n) : StringHead n (0x5b :: octets)

variable {n : Nat} {head bytes rest content : Bytes}

/-! Writing. -/

theorem stringHead_writeHead (h : n < integerLimit) : StringHead n (writeHead 2 n) := by
  have hvalue {width : Nat} (hfits : n < 1 <<< (8 * width)) :
      Bytes.toNat (Bytes.ofNat width n) = n := Bytes.toNat_ofNat hfits
  unfold writeHead
  dsimp only
  split
  · rename_i hn
    refine .direct _ hn ?_
    rw [UInt8.toNat_ofNat']
    omega
  · split
    · exact .one _ (by omega) (Bytes.ofNat_length 1 n) (hvalue (by assumption))
    · split
      · exact .two _ (by omega) (Bytes.ofNat_length 2 n) (hvalue (by assumption))
      · split
        · exact .four _ (by omega) (Bytes.ofNat_length 4 n) (hvalue (by assumption))
        · exact .eight _ (by omega) (Bytes.ofNat_length 8 n) (hvalue h)

/-! Reading. -/

theorem read?_cons (major : Nat) {info : Nat} {first : UInt8}
    (hfirst : first.toNat = 32 * major + info) (hinfo : info < 31) (rest : Bytes) :
    Head.read? (first :: rest) = (Head.argument? info rest).map
      fun (n, octets, rest) => (Head.withArgument major n octets, rest) := by
  have hmajor : first.toNat / 32 = major := by omega
  have hmod : first.toNat % 32 = info := by omega
  simp only [Head.read?, hmajor, hmod, if_neg (Nat.ne_of_lt hinfo)]

theorem argument?_octets {info width : Nat} (hinfo : ¬info < 24)
    (hwidth : Head.argumentWidth? info = some width) {octets : Bytes}
    (hlength : octets.length = width) (rest : Bytes) :
    Head.argument? info (octets ++ rest) = some (Bytes.toNat octets, octets, rest) := by
  simp only [Head.argument?, if_neg hinfo, hwidth, Option.bind_eq_bind, Option.bind_some,
    Bytes.takeExactly_append hlength, Option.pure_def]

/-- A head is read back whatever follows it. -/
theorem StringHead.read? (h : StringHead n head) (rest : Bytes) :
    Head.read? (head ++ rest) = some (.bytes (some n), rest) := by
  have hwide {first : UInt8} (info : Nat) {width : Nat} {octets : Bytes}
      (hfirst : first.toNat = 32 * 2 + info) (hinfo : ¬info < 24 ∧ info < 31)
      (hinfoWidth : Head.argumentWidth? info = some width) (hwidth : octets.length = width)
      (hvalue : Bytes.toNat octets = n) :
      Head.read? (first :: octets ++ rest) = some (.bytes (some n), rest) := by
    rw [List.cons_append, read?_cons 2 hfirst hinfo.2, argument?_octets hinfo.1 hinfoWidth hwidth,
      hvalue]
    rfl
  cases h with
  | direct first hn hfirst =>
    rw [List.cons_append, List.nil_append, read?_cons 2 hfirst (by omega),
      Head.argument?, if_pos hn]
    rfl
  | one octets _ hwidth hvalue => exact hwide 24 rfl (by decide) rfl hwidth hvalue
  | two octets _ hwidth hvalue => exact hwide 25 rfl (by decide) rfl hwidth hvalue
  | four octets _ hwidth hvalue => exact hwide 26 rfl (by decide) rfl hwidth hvalue
  | eight octets _ hwidth hvalue => exact hwide 27 rfl (by decide) rfl hwidth hvalue

theorem openEnded?_ne_bytes (major n : Nat) :
    Head.openEnded? major ≠ some (.bytes (some n)) := by
  unfold Head.openEnded?
  repeat' split
  all_goals simp

theorem withArgument_eq_bytes {major argument : Nat} {octets : Bytes}
    (h : Head.withArgument major argument octets = .bytes (some n)) : argument = n := by
  unfold Head.withArgument at h
  repeat' split at h
  all_goals simp_all

/-- The octets that a head has beside the first, and what they say. -/
theorem argument?_eq_some {info argument : Nat} {octets : Bytes}
    (h : Head.argument? info bytes = some (argument, octets, rest)) :
    bytes = octets ++ rest ∧ (argument < 24 ∨
      octets.length ∈ [1, 2, 4, 8] ∧ Bytes.toNat octets = argument) := by
  unfold Head.argument? at h
  split at h
  · rename_i hinfo
    obtain ⟨rfl, rfl, rfl⟩ : info = argument ∧ [] = octets ∧ bytes = rest := by simpa using h
    exact ⟨rfl, .inl hinfo⟩
  · simp only [Option.bind_eq_bind, Option.bind_eq_some_iff, Option.pure_def, Option.some.injEq,
      Prod.mk.injEq, Prod.exists] at h
    obtain ⟨width, hwidth, found, tail, htaken, hvalue, rfl, rfl⟩ := h
    obtain ⟨hlength, hbytes⟩ := Bytes.takeExactly_eq_some htaken
    refine ⟨hbytes, .inr ⟨?_, hvalue⟩⟩
    unfold Head.argumentWidth? at hwidth
    repeat' split at hwidth
    all_goals simp_all

theorem read?_eq_bytes (h : Head.read? bytes = some (.bytes (some n), rest)) :
    ∃ first octets, bytes = first :: (octets ++ rest) ∧
      (n < 24 ∨ octets.length ∈ [1, 2, 4, 8] ∧ Bytes.toNat octets = n) := by
  cases bytes with
  | nil => simp [Head.read?] at h
  | cons first tail =>
    simp only [Head.read?] at h
    split at h
    · obtain ⟨head, hhead, heq⟩ := Option.map_eq_some_iff.1 h
      obtain ⟨rfl, rfl⟩ : head = .bytes (some n) ∧ tail = rest := by simpa using heq
      exact absurd hhead (openEnded?_ne_bytes _ n)
    · obtain ⟨⟨argument, octets, behind⟩, hargument, heq⟩ := Option.map_eq_some_iff.1 h
      rw [Prod.mk.injEq] at heq
      obtain ⟨hhead, rfl⟩ := heq
      obtain rfl := withArgument_eq_bytes hhead
      obtain ⟨rfl, hvalue⟩ := argument?_eq_some hargument
      exact ⟨first, octets, rfl, hvalue⟩

/-- No head that is read as the same length is shorter. -/
theorem StringHead.shortest (h : StringHead n head)
    (hread : Head.read? bytes = some (.bytes (some n), rest)) :
    head.length + rest.length ≤ bytes.length := by
  obtain ⟨first, octets, rfl, hoctets⟩ := read?_eq_bytes hread
  have hfits : n < 24 ∨ octets.length ∈ [1, 2, 4, 8] ∧ n < 1 <<< (8 * octets.length) := by
    rcases hoctets with hn | ⟨hlength, rfl⟩
    · exact .inl hn
    · exact .inr ⟨hlength, Bytes.toNat_lt octets⟩
  have hneeded : head.length ≤ 1 + octets.length := by
    rcases hfits with hn | ⟨hlength, hn⟩
    · cases h with
      | direct => simp
      | one | two | four | eight => omega
    · simp only [List.mem_cons, List.not_mem_nil, or_false] at hlength
      rcases hlength with hlength | hlength | hlength | hlength
      all_goals
        rw [hlength] at hn ⊢
        cases h <;> simp only [List.length_cons, List.length_nil] <;> omega
  simp only [List.length_cons, List.length_append]
  omega

/-! Strings one after another. -/

/-- The way in which a byte string is written. -/
structure Written (content bytes : Bytes) : Prop where
  head : ∃ head, StringHead content.length head ∧ bytes = head ++ content
  shortest : ∀ other rest, Head.read? other = some (.bytes (some content.length), rest) →
    bytes.length + rest.length ≤ other.length + content.length

theorem written_writeBytes (h : content.length < integerLimit) :
    Written content (writeBytes content) where
  head := ⟨_, stringHead_writeHead h, rfl⟩
  shortest other rest hread := by
    have hshortest := (stringHead_writeHead h).shortest hread
    rw [writeBytes, List.length_append]
    omega

theorem read?_writeBytes (h : content.length < integerLimit) (rest : Bytes) :
    Head.read? (writeBytes content ++ rest) =
      some (.bytes (some content.length), content ++ rest) := by
  rw [writeBytes, List.append_assoc]
  exact (stringHead_writeHead h).read? (content ++ rest)

/-- Where a string ends is told by its head and not by what it holds or what follows it. -/
theorem writeBytes_append_inj {content' rest' : Bytes} (hlength : content.length < integerLimit)
    (hlength' : content'.length < integerLimit)
    (h : writeBytes content ++ rest = writeBytes content' ++ rest') :
    content = content' ∧ rest = rest' := by
  have hread := read?_writeBytes hlength rest
  rw [h, read?_writeBytes hlength' rest'] at hread
  obtain ⟨hsame, hbehind⟩ : content'.length = content.length ∧
    content' ++ rest' = content ++ rest := by simpa using hread
  exact List.append_inj hbehind.symm hsame.symm

end Attestation.Cbor
