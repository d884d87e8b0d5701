import TaskBoard.Proofs.Text.Ascii
import TaskBoard.Proofs.Text.Numeral
import TaskBoard.Time.Moment

/-!
# Moments and their texts

A moment with a year of four digits is read back from its text, with its offset and to the
nanosecond. What is read as a moment is such a moment.
-/

namespace TaskBoard.Time.Moment

open Text Text.Utf8

/-- A day of a year of four digits, a time of day, and an offset of less than a day. -/
structure Legible (m : Moment) : Prop where
  year : m.year < 10000
  valid : m.isValid = true
  nano : m.nano < 1000000000
  offset : m.offset.natAbs < 1440

variable {m : Moment} {s rest : Bytes} {n k : Nat}

/-! ## Numbers -/

theorem lt_of_isDigit {c : Char} (h : Text.isDigit c = true) : c.toNat < 0x80 := by
  simp only [Text.isDigit, Bool.and_eq_true, decide_eq_true_eq, Char.le_def,
    UInt32.le_iff_toNat_le] at h
  have hnine : '9'.val.toNat = 57 := rfl
  have hc : c.toNat = c.val.toNat := rfl
  omega

theorem digits_encode_padded (hk : 0 < k) (h : n < 10 ^ k) (rest : Bytes) :
    digits k (encode (padded k n) ++ rest) = some (n, rest) := by
  have hascii : ∀ c ∈ padded k n, c.toNat < 0x80 := fun c hc =>
    lt_of_isDigit (isDigit_of_mem_padded hc)
  have hmap : (encode (padded k n)).map (fun b => Char.ofNat b.toNat) = padded k n :=
    map_asciiChar_encode hascii
  have hlength : (encode (padded k n)).length = k := by
    rw [length_encode_of_ascii hascii, length_padded hk h]
  unfold digits
  rw [List.take_left' hlength, List.drop_left' hlength, hmap]
  simp only [length_padded hk h, if_true, digits?_padded]
  rfl

theorem lt_of_digits (h : digits k s = some (n, rest)) : n < 10 ^ k := by
  unfold digits at h
  simp only at h
  split at h
  · next hlength =>
    obtain ⟨v, hv, heq⟩ := Option.map_eq_some_iff.mp h
    have hlt := lt_of_digits? hv
    cases heq
    rwa [hlength] at hlt
  · cases h

theorem literal_encode {c : Char} (h : c.toNat < 0x80) (text : List Char) (rest : Bytes) :
    literal c (encode (c :: text) ++ rest) = some (encode text ++ rest) := by
  have hbyte : (UInt8.ofNat c.toNat).toNat = c.toNat := by
    simp only [UInt8.toNat_ofNat']
    omega
  rw [encode_cons, encodeChar_of_ascii h]
  exact if_pos hbyte

/-! ## Nanoseconds -/

/-- What comes after the digits of a number does not begin with a digit or a point. -/
def Ended (rest : Bytes) : Prop := ∀ b ∈ rest.head?, isDigit b = false ∧ b ≠ 46

theorem isDigit_of_mem_encode {ds : List Char} (h : ∀ c ∈ ds, Text.isDigit c = true) :
    ∀ b ∈ encode ds, isDigit b = true := by
  intro b hb
  obtain ⟨c, hc, hbc⟩ := List.mem_flatMap.mp hb
  have hdigit := h c hc
  rw [encodeChar_of_ascii (lt_of_isDigit hdigit), List.mem_singleton] at hbc
  simp only [Text.isDigit, Bool.and_eq_true, decide_eq_true_eq, Char.le_def,
    UInt32.le_iff_toNat_le] at hdigit
  have hnine : '9'.val.toNat = 57 := rfl
  have hzero : '0'.val.toNat = 48 := rfl
  have hval : c.toNat = c.val.toNat := rfl
  simp only [hbc, isDigit, Bool.and_eq_true, decide_eq_true_eq, UInt8.le_iff_toNat_le,
    UInt8.toNat_ofNat', UInt8.reduceToNat]
  omega

theorem Ended.takeWhile (h : Ended rest) : rest.takeWhile isDigit = [] := by
  cases rest with
  | nil => rfl
  | cons b rest => exact List.takeWhile_cons_of_neg (by simp [(h b rfl).1])

theorem Ended.dropWhile (h : Ended rest) : rest.dropWhile isDigit = rest := by
  cases rest with
  | nil => rfl
  | cons b rest => exact List.dropWhile_cons_of_neg (by simp [(h b rfl).1])

theorem nanos_encode_nanosText (h : n < 1000000000) (hrest : Ended rest) :
    nanos (encode (nanosText n) ++ rest) = some (n, rest) := by
  unfold nanosText
  split
  · next hzero =>
    have hpoint : literal '.' rest = none := by
      cases rest with
      | nil => rfl
      | cons b rest =>
        have hb : b.toNat ≠ 46 := fun h46 => (hrest b rfl).2 (UInt8.toNat_inj.mp h46)
        exact if_neg hb
    rw [encode_nil, List.nil_append, nanos, hpoint, hzero]
  · next hne =>
    let ds := trimZeros (padded 9 n)
    have hnine : (padded 9 n).length = 9 := length_padded (by decide) h
    have hds : ∀ c ∈ ds, Text.isDigit c = true := fun c hc =>
      isDigit_of_mem_padded (mem_of_mem_trimZeros hc)
    have hzeros : ds ++ List.replicate (9 - ds.length) '0' = padded 9 n := by
      have h := trimZeros_append_zeros (padded 9 n)
      rwa [hnine] at h
    have hpoint : literal '.' (encode ('.' :: ds) ++ rest) = some (encode ds ++ rest) :=
      literal_encode (by decide) ds rest
    have htake : (encode ds ++ rest).takeWhile isDigit = encode ds := by
      rw [List.takeWhile_append_of_pos (isDigit_of_mem_encode hds), hrest.takeWhile,
        List.append_nil]
    have hdrop : (encode ds ++ rest).dropWhile isDigit = rest := by
      rw [List.dropWhile_append_of_pos (isDigit_of_mem_encode hds), hrest.dropWhile]
    have hascii : ∀ c ∈ ds, c.toNat < 0x80 := fun c hc => lt_of_isDigit (hds c hc)
    have hmap : (encode ds).map (fun b => Char.ofNat b.toNat) = ds := map_asciiChar_encode hascii
    have hlength : (encode ds).length = ds.length := length_encode_of_ascii hascii
    have hle : ds.length ≤ 9 := by
      have h := congrArg List.length hzeros
      rw [List.length_append, hnine] at h
      omega
    have hsome : (encode ds).isEmpty = false := by
      rw [List.isEmpty_eq_false_iff, ne_eq, encode_eq_nil]
      exact trimZeros_padded_ne_nil hne
    unfold nanos
    rw [hpoint]
    simp only [htake, hdrop, hsome, if_false, Bool.false_eq_true]
    rw [List.take_of_length_le (by omega), hmap, hlength, hzeros, digits?_padded]
    rfl

theorem lt_of_nanos (h : nanos s = some (n, rest)) : n < 1000000000 := by
  unfold nanos at h
  split at h
  · cases h
    decide
  · next s _ =>
    simp only at h
    split at h
    · cases h
    · obtain ⟨v, hv, heq⟩ := Option.map_eq_some_iff.mp h
      have hlt := lt_of_digits? hv
      cases heq
      rw [List.length_append, List.length_map, List.length_take, List.length_replicate] at hlt
      have hnine : min 9 (s.takeWhile isDigit).length + (9 - (s.takeWhile isDigit).length) = 9 := by
        omega
      rwa [hnine] at hlt

/-! ## Offsets -/

theorem zone_signed {sign : UInt8} (hsign : sign = 43 ∨ sign = 45) {hours minutes : Nat}
    (hhours : hours ≤ 23) (hminutes : minutes ≤ 59) (rest : Bytes) :
    zone (sign :: (encode (two hours) ++ (encode (':' :: two minutes) ++ rest))) =
      some (if sign = 45 then -(hours * 60 + minutes : Int) else hours * 60 + minutes, rest) := by
  have hutc : (sign = 90 || sign = 122) = false := by
    rcases hsign with rfl | rfl <;> decide
  have hsigned : (sign = 43 || sign = 45) = true := by simpa using hsign
  have hlt : hours < 10 ^ 2 := by omega
  have hlt' : minutes < 10 ^ 2 := by omega
  unfold zone two
  simp only [hutc, hsigned, if_true, Bool.false_eq_true, if_false, bind, Option.bind_some,
    digits_encode_padded (by decide : 0 < 2) hlt, digits_encode_padded (by decide : 0 < 2) hlt',
    literal_encode (by decide : ':'.toNat < 0x80), if_pos (And.intro hhours hminutes)]

/-- The text of an offset: the letter of UTC, or a sign before the hours and the minutes. -/
theorem encode_zoneText {offset : Int} (h : offset ≠ 0) : encode (zoneText offset) =
    (if offset < 0 then 45 else 43) ::
      (encode (two (offset.natAbs / 60)) ++ encode (':' :: two (offset.natAbs % 60))) := by
  rw [zoneText, if_neg h]
  simp only [encode_append, encode_cons]
  split <;> rfl

theorem ended_zoneText (offset : Int) (rest : Bytes) : Ended (encode (zoneText offset) ++ rest) := by
  intro b hb
  by_cases h : offset = 0
  · rw [h] at hb
    cases hb
    decide
  · rw [encode_zoneText h] at hb
    cases hb
    split <;> decide

theorem zone_encode_zoneText {offset : Int} (h : offset.natAbs < 1440) (rest : Bytes) :
    zone (encode (zoneText offset) ++ rest) = some (offset, rest) := by
  by_cases hzero : offset = 0
  · rw [hzero]
    rfl
  · have hhours : offset.natAbs / 60 ≤ 23 := by omega
    have hminutes : offset.natAbs % 60 ≤ 59 := by omega
    have hsum : (↑(offset.natAbs / 60) * 60 + ↑(offset.natAbs % 60) : Int) = offset.natAbs := by
      omega
    rw [encode_zoneText hzero, List.cons_append, List.append_assoc]
    by_cases hneg : offset < 0
    · rw [if_pos hneg, zone_signed (.inr rfl) hhours hminutes, hsum, if_pos rfl]
      congr 2
      omega
    · rw [if_neg hneg, zone_signed (.inl rfl) hhours hminutes, hsum, if_neg (by decide)]
      congr 2
      omega

theorem natAbs_lt_of_zone {offset : Int} (h : zone s = some (offset, rest)) :
    offset.natAbs < 1440 := by
  unfold zone at h
  split at h
  · split at h
    · cases h
      decide
    · split at h
      · simp only [bind, Option.bind_eq_some_iff, Prod.exists] at h
        obtain ⟨hours, s₁, -, s₂, -, minutes, s₃, -, h⟩ := h
        split at h
        · split at h <;> cases h <;> omega
        · cases h
      · cases h
  · cases h

/-! ## Moments -/

theorem settle_of_valid (h : m.isValid = true) : settle m = some m := by
  have hsecond : m.second ≠ 60 := by
    simp only [isValid, Bool.and_eq_true, decide_eq_true_eq] at h
    omega
  rw [settle, if_neg hsecond, if_pos h]

/-- A moment is read back from its text. -/
theorem parse?_text (h : m.Legible) : parse? m.text = some m := by
  obtain ⟨hyear, hvalid, hnano, hoffset⟩ := h
  have hfields := hvalid
  simp only [isValid, Bool.and_eq_true, decide_eq_true_eq] at hfields
  have hday : daysInMonth m.year m.month ≤ 31 := by
    unfold daysInMonth
    split_ifs <;> decide
  have hmonth : m.month < 10 ^ 2 := by omega
  have hday : m.day < 10 ^ 2 := by omega
  have hhour : m.hour < 10 ^ 2 := by omega
  have hminute : m.minute < 10 ^ 2 := by omega
  have hsecond : m.second < 10 ^ 2 := by omega
  have htime : ∀ (t : List Char) (r : Bytes), (encode ('T' :: t) ++ r).isEmpty = false ∧
      (encode ('T' :: t) ++ r).drop 1 = encode t ++ r := fun _ _ => ⟨rfl, rfl⟩
  unfold parse? text secondText two read?
  simp only [encode_append, List.append_assoc, bind, Option.bind_some,
    digits_encode_padded (by decide : 0 < 4) hyear,
    digits_encode_padded (by decide : 0 < 2) hmonth,
    digits_encode_padded (by decide : 0 < 2) hday,
    digits_encode_padded (by decide : 0 < 2) hhour,
    digits_encode_padded (by decide : 0 < 2) hminute,
    digits_encode_padded (by decide : 0 < 2) hsecond,
    literal_encode (by decide : '-'.toNat < 0x80), literal_encode (by decide : ':'.toNat < 0x80),
    htime, Bool.false_eq_true, if_false]
  have hended : Ended (encode (zoneText m.offset)) := by
    have h := ended_zoneText m.offset []
    rwa [List.append_nil] at h
  have hnanos := nanos_encode_nanosText hnano hended
  have hzone := zone_encode_zoneText hoffset []
  rw [List.append_nil] at hzone
  simp only [hnanos, hzone, Option.bind_some, List.isEmpty_nil, if_true]
  exact settle_of_valid hvalid

theorem isValid_of_settle {m' : Moment} (h : settle m = some m') :
    m'.isValid = true ∧ m'.year = m.year ∧ m'.offset = m.offset ∧
      (m.nano < 1000000000 → m'.nano < 1000000000) := by
  unfold settle at h
  split at h
  · simp only at h
    split at h
    · next hsettled =>
      rw [Bool.and_eq_true] at hsettled
      cases h
      exact ⟨hsettled.1, rfl, rfl, fun _ => (by decide : 999999999 < 1000000000)⟩
    · cases h
  · split at h
    · next hvalid =>
      cases h
      exact ⟨hvalid, rfl, rfl, id⟩
    · cases h

/-- A leap second is read as a moment of the second before it. -/
theorem legible_of_parse? {text : List Char} (h : parse? text = some m) : m.Legible := by
  unfold parse? read? at h
  simp only [bind, Option.bind_eq_some_iff, Prod.exists] at h
  obtain ⟨year, _, hyear, _, -, _, _, -, _, -, _, _, -, h⟩ := h
  split at h
  · cases h
  · simp only [Option.bind_eq_some_iff, Prod.exists] at h
    obtain ⟨_, _, -, _, -, _, _, -, _, -, _, _, -, nano, _, hnano, offset, _, hoffset, h⟩ := h
    split at h
    · obtain ⟨hvalid, hyear', hoffset', hnano'⟩ := isValid_of_settle h
      constructor
      · rw [hyear']
        exact lt_of_digits hyear
      · exact hvalid
      · exact hnano' (lt_of_nanos hnano)
      · rw [hoffset']
        exact natAbs_lt_of_zone hoffset
    · cases h

end TaskBoard.Time.Moment
