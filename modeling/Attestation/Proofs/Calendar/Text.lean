import Attestation.Proofs.Calendar.Days
import Mathlib.Data.Rat.Cast.Order
import Mathlib.Tactic.FieldSimp
import Mathlib.Tactic.LinearCombination

/-!
The text of a time. It is read as RFC 3339 has it, with years of more than four digits under a sign,
and denotes the very millisecond that it was written for.
-/
namespace Attestation.Calendar

/-! What a text denotes. -/

/-- A separator and a number of two digits, with what follows them. -/
def field? (separator : Char) : List Char → Option (Nat × List Char)
  | c :: a :: b :: rest =>
    if c = separator ∧ a.isDigit ∧ b.isDigit then some (Nat.ofDigitChars 10 [a, b] 0, rest)
    else none
  | _ => none

def year? : List Char → Option (Nat × List Char)
  | '+' :: cs =>
    let (ds, rest) := cs.span Char.isDigit
    if 4 < ds.length then some (Nat.ofDigitChars 10 ds 0, rest) else none
  | cs =>
    let (ds, rest) := cs.span Char.isDigit
    if ds.length = 4 then some (Nat.ofDigitChars 10 ds 0, rest) else none

/-- The part of a second, of as many digits as there are. -/
def fraction? : List Char → Option (ℚ × List Char)
  | '.' :: cs =>
    let (ds, rest) := cs.span Char.isDigit
    if ds = [] then none else some (Nat.ofDigitChars 10 ds 0 / 10 ^ ds.length, rest)
  | cs => some (0, cs)

/-- The minutes that the time of a place is ahead of universal time. -/
def offset? (cs : List Char) : Option ℤ := do
  if cs = ['Z'] then return 0
  let sign ← cs.head?
  let (hours, rest) ← field? sign cs
  let (minutes, rest) ← field? ':' rest
  if rest = [] ∧ hours ≤ 23 ∧ minutes ≤ 59 then
    if sign = '+' then return 60 * hours + minutes
    else if sign = '-' then return -(60 * hours + minutes)
    else none
  else none

/-- The milliseconds since 1970 of the point in time that a text denotes. -/
def read? (text : String) : Option ℚ := do
  let (year, rest) ← year? text.toList
  let (month, rest) ← field? '-' rest
  let (day, rest) ← field? '-' rest
  let (hour, rest) ← field? 'T' rest
  let (minute, rest) ← field? ':' rest
  let (second, rest) ← field? ':' rest
  let (fraction, rest) ← fraction? rest
  let offset ← offset? rest
  let date : Date := ⟨year, month, day⟩
  if date.isValid ∧ hour ≤ 23 ∧ minute ≤ 59 ∧ second ≤ 59 then
    return 1000 * (60 * (60 * (24 * date.elapsed + hour) + minute - offset) + second + fraction)
  else none

/-! Numbers in digits. -/

theorem isDigit_of_mem_digits {width n : Nat} {c : Char} (h : c ∈ digits width n) :
    c.isDigit = true := by
  rcases List.mem_append.1 h with h | h
  · rw [List.eq_of_mem_replicate h]
    rfl
  · exact Nat.isDigit_of_mem_toDigits (by decide) (by decide) h

theorem ofDigitChars_digits (width n : Nat) : Nat.ofDigitChars 10 (digits width n) 0 = n := by
  rw [digits, Nat.ofDigitChars_append, Nat.ofDigitChars_replicate_zero, Nat.mul_zero,
    Nat.ofDigitChars_ten_toDigits]

theorem length_digits {width n : Nat} (hwidth : 0 < width) (h : n < 10 ^ width) :
    (digits width n).length = width := by
  have hle := (Nat.length_toDigits_le_iff (by decide) hwidth).2 h
  rw [digits, List.length_append, List.length_replicate, Nat.sub_add_cancel hle]

theorem le_length_digits (width n : Nat) : width ≤ (digits width n).length := by
  rw [digits, List.length_append, List.length_replicate]
  omega

theorem span_digits (width n : Nat) {rest : List Char}
    (h : ∀ c, rest.head? = some c → c.isDigit = false) :
    (digits width n ++ rest).span Char.isDigit = (digits width n, rest) := by
  rw [List.span_eq_takeWhile_dropWhile, List.takeWhile_append_of_pos fun _ => isDigit_of_mem_digits,
    List.dropWhile_append_of_pos fun _ => isDigit_of_mem_digits]
  cases rest with
  | nil => simp
  | cons c rest => simp [h c rfl]

theorem field?_digits (separator : Char) {n : Nat} (h : n < 100) (rest : List Char) :
    field? separator (separator :: (digits 2 n ++ rest)) = some (n, rest) := by
  obtain ⟨a, b, hab⟩ := List.length_eq_two.1 (length_digits (by decide) h)
  have hdigit : ∀ c ∈ [a, b], c.isDigit = true := fun c hc => isDigit_of_mem_digits (hab ▸ hc)
  have hvalue := ofDigitChars_digits 2 n
  rw [hab] at hvalue ⊢
  simp [field?, hdigit, hvalue]

/-- The year as it stands in a text. -/
def yearText (year : Nat) : List Char :=
  if 9999 < year then '+' :: digits 5 year else digits 4 year

theorem year?_yearText (year : Nat) (rest : List Char) :
    year? (yearText year ++ '-' :: rest) = some (year, '-' :: rest) := by
  have h (c : Char) (hc : ('-' :: rest).head? = some c) : c.isDigit = false := by
    obtain rfl := Option.some.inj hc
    rfl
  unfold yearText
  split
  · have hlength : 4 < (digits 5 year).length := le_length_digits 5 year
    simp only [List.cons_append, year?, span_digits 5 year h, if_pos hlength, ofDigitChars_digits]
  · rename_i hyear
    have hlength : (digits 4 year).length = 4 := length_digits (by decide) (by omega)
    unfold year?
    split
    · rename_i cs hsigned
      obtain ⟨c, ds, hds⟩ := List.exists_cons_of_length_eq_add_one hlength
      have hdigit : c.isDigit = true := isDigit_of_mem_digits (hds ▸ List.mem_cons_self)
      rw [hds, List.cons_append, List.cons.injEq] at hsigned
      rw [hsigned.1] at hdigit
      exact absurd hdigit (by decide)
    · simp only [span_digits 4 year h, if_pos hlength, ofDigitChars_digits]

/-- The milliseconds beyond the second as they stand in a text. -/
def fractionText (milliseconds : Nat) : List Char :=
  if milliseconds = 0 then [] else '.' :: digits 3 milliseconds

theorem fraction?_fractionText {milliseconds : Nat} (h : milliseconds < 1000) (rest : List Char)
    (hrest : ∀ c, rest.head? = some c → c.isDigit = false ∧ c ≠ '.') :
    fraction? (fractionText milliseconds ++ rest) = some ((milliseconds : ℚ) / 1000, rest) := by
  unfold fractionText
  split
  · rename_i hzero
    unfold fraction?
    split
    · rename_i cs hcs
      exact absurd rfl (hrest '.' (by rw [← List.nil_append rest, hcs]; rfl)).2
    · simp [hzero]
  · have hlength : (digits 3 milliseconds).length = 3 := length_digits (by decide) h
    have hne : digits 3 milliseconds ≠ [] := by
      rintro hnil
      rw [hnil] at hlength
      cases hlength
    simp only [List.cons_append, fraction?, span_digits 3 milliseconds fun c hc => (hrest c hc).1,
      if_neg hne, ofDigitChars_digits, hlength]
    norm_num

/-! Texts of times. -/

/-- The last millisecond that has a text, the last one of the year 262142. -/
def lastMillisecond : Nat := 8210266876799999

/-- The text of a time of day, in seconds and milliseconds, on a date. -/
def dateTime (date : Date) (seconds milliseconds : Nat) : List Char :=
  yearText date.year ++ '-' :: digits 2 date.month ++ '-' :: digits 2 date.day ++
    'T' :: digits 2 (seconds / 3600) ++ ':' :: digits 2 (seconds / 60 % 60) ++
    ':' :: digits 2 (seconds % 60) ++ fractionText milliseconds ++ "+00:00".toList

theorem timestamp?_eq (milliseconds : Nat) : timestamp? milliseconds =
    if lastYear < (ofDays (milliseconds / 1000 / 86400)).year then none
    else some (String.ofList (dateTime (ofDays (milliseconds / 1000 / 86400))
      (milliseconds / 1000 % 86400) (milliseconds % 1000))) := rfl

theorem dateTime_eq (date : Date) (seconds milliseconds : Nat) :
    dateTime date seconds milliseconds = yearText date.year ++ '-' :: (digits 2 date.month ++
      '-' :: (digits 2 date.day ++ 'T' :: (digits 2 (seconds / 3600) ++
      ':' :: (digits 2 (seconds / 60 % 60) ++ ':' :: (digits 2 (seconds % 60) ++
      (fractionText milliseconds ++ "+00:00".toList)))))) := by
  simp only [dateTime, List.append_assoc, List.cons_append]

theorem daysInMonth_le (year month : Nat) : daysInMonth year month ≤ 31 := by
  unfold daysInMonth
  split_ifs <;> omega

theorem offset?_universal : offset? "+00:00".toList = some 0 := by decide

theorem read?_dateTime {date : Date} (h : date.Valid) {seconds milliseconds : Nat}
    (hseconds : seconds < 86400) (hmilliseconds : milliseconds < 1000) :
    read? (String.ofList (dateTime date seconds milliseconds)) =
      some ((1000 * (86400 * date.elapsed + seconds) + milliseconds : Nat) : ℚ) := by
  have hmonth : date.month < 100 := by
    have := h.month
    omega
  have hday : date.day < 100 := by
    have := h.day
    have := daysInMonth_le date.year date.month
    omega
  have hhour : seconds / 3600 < 24 := Nat.div_lt_of_lt_mul hseconds
  have hminute : seconds / 60 % 60 < 60 := Nat.mod_lt _ (by decide)
  have hsecond : seconds % 60 < 60 := Nat.mod_lt _ (by decide)
  have hparts : seconds = 3600 * (seconds / 3600) + 60 * (seconds / 60 % 60) + seconds % 60 := by
    omega
  rw [read?, String.toList_ofList, dateTime_eq]
  simp only [year?_yearText, field?_digits _ hmonth,
    field?_digits _ hday, field?_digits _ (hhour.trans (by decide : 24 < 100)),
    field?_digits _ (hminute.trans (by decide : 60 < 100)),
    field?_digits _ (hsecond.trans (by decide : 60 < 100)),
    fraction?_fractionText hmilliseconds "+00:00".toList (by rintro c ⟨⟩; decide),
    offset?_universal, Option.bind_eq_bind, Option.bind_some]
  rw [if_pos ⟨Date.isValid_iff.2 h, Nat.le_of_lt_succ hhour, Nat.le_of_lt_succ hminute,
    Nat.le_of_lt_succ hsecond⟩]
  have hsum : (seconds : ℚ) =
      3600 * (seconds / 3600 : Nat) + 60 * (seconds / 60 % 60 : Nat) + (seconds % 60 : Nat) := by
    exact_mod_cast hparts
  refine congrArg some ?_
  push_cast
  linear_combination -1000 * hsum

/-- A text denotes the millisecond that it was written for. -/
theorem read?_timestamp? {milliseconds : Nat} {text : String}
    (h : timestamp? milliseconds = some text) : read? text = some (milliseconds : ℚ) := by
  rw [timestamp?_eq] at h
  split at h
  · cases h
  · obtain rfl := Option.some.inj h
    rw [read?_dateTime (valid_ofDays _) (Nat.mod_lt _ (by decide)) (Nat.mod_lt _ (by decide)),
      elapsed_ofDays]
    have hparts : 1000 * (86400 * (milliseconds / 1000 / 86400) + milliseconds / 1000 % 86400) +
        milliseconds % 1000 = milliseconds := by omega
    rw [hparts]

example : timestamp? 1721159587239 = some "2024-07-16T19:53:07.239+00:00" := by decide

example : read? "2024-07-16T21:53:07.239+02:00" = some 1721159587239 := by decide +kernel

/-! Times that have a text. -/

theorem year_mono : Monotone fun days => (ofDays days).year := by
  refine monotone_nat_of_le_succ fun days => ?_
  rw [ofDays_eq_dayAfter, ofDays_eq_dayAfter, dayAfter_succ]
  unfold Date.next
  split_ifs
  · exact le_rfl
  · exact le_rfl
  · exact Nat.le_succ _

theorem lastYear_lt_iff (milliseconds : Nat) :
    lastYear < (ofDays (milliseconds / 1000 / 86400)).year ↔ lastMillisecond < milliseconds := by
  have hlast : (ofDays 95026236).year = lastYear := rfl
  have hnext : (ofDays 95026237).year = lastYear + 1 := rfl
  constructor
  · intro h
    by_contra hle
    have hdays : milliseconds / 1000 / 86400 ≤ 95026236 := by
      unfold lastMillisecond at hle
      omega
    have hyear := year_mono hdays
    dsimp only at hyear
    omega
  · intro h
    have hdays : 95026237 ≤ milliseconds / 1000 / 86400 := by
      unfold lastMillisecond at h
      omega
    have hyear := year_mono hdays
    dsimp only at hyear
    omega

theorem timestamp?_eq_none {milliseconds : Nat} :
    timestamp? milliseconds = none ↔ lastMillisecond < milliseconds := by
  rw [timestamp?_eq, ← lastYear_lt_iff]
  split <;> simp_all

/-- Different times have different texts, as far as they have any. -/
theorem timestamp?_inj {m n : Nat} :
    timestamp? m = timestamp? n ↔ m = n ∨ lastMillisecond < m ∧ lastMillisecond < n := by
  rw [← timestamp?_eq_none, ← timestamp?_eq_none]
  constructor
  · intro h
    cases hn : timestamp? n with
    | none => exact .inr ⟨h.trans hn, rfl⟩
    | some text =>
      have hreads := (read?_timestamp? (h.trans hn)).symm.trans (read?_timestamp? hn)
      exact .inl (by exact_mod_cast Option.some.inj hreads)
  · rintro (rfl | ⟨hm, hn⟩)
    · rfl
    · rw [hm, hn]

end Attestation.Calendar
