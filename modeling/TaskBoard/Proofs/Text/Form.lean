import TaskBoard.Proofs.Text.Ascii
import TaskBoard.Proofs.Text.Split
import TaskBoard.Text.Form

/-!
# Form queries and their pieces

A query falls apart at its ampersands, before anything in it is decoded, and each piece is decoded
by itself. Every list of pairs is what some query says: one in which all is written in `%XX`.
-/

namespace TaskBoard.Text.Form

open Utf8

variable {s : List Char} {c : Char}

/-! ## Pieces -/

theorem ampersand_not_mem_encodeChar (h : c ≠ '&') : ampersand ∉ String.utf8EncodeChar c :=
  fun hmem => h (eq_asciiChar_of_mem_encodeChar (by decide) hmem)

theorem splitAll_encode (query : List Char) :
    splitAll ampersand (encode query) = (splitAll '&' query).map encode := by
  induction query with
  | nil => rfl
  | cons c query ih =>
    by_cases h : c = '&'
    · subst h
      rw [splitAll_cons_self, List.map_cons, ← ih]
      exact splitAll_cons_self ampersand (encode query)
    · rw [encode_cons, splitAll_append_of_not_mem (ampersand_not_mem_encodeChar h),
        splitAll_cons_of_ne h, ih]
      cases splitAll '&' query <;> rfl

/-- The name and the value of a piece of a query. -/
def decoded (piece : List Char) : List Char × List Char := pair (encode piece)

theorem parse_eq_map_decoded (query : List Char) :
    parse query = ((splitAll '&' query).filter (!·.isEmpty)).map decoded := by
  have hempty : ∀ piece : List Char, (encode piece).isEmpty = piece.isEmpty := by
    intro piece
    rw [Bool.eq_iff_iff, List.isEmpty_iff, List.isEmpty_iff, encode_eq_nil]
  rw [parse, splitAll_encode, List.filter_map, List.map_map]
  simp only [Function.comp_def, hempty]
  rfl

/-! ## A query for any pairs -/

def percentEncode (bytes : Bytes) : List Char :=
  bytes.flatMap fun b => ['%', hexDigit (b.toNat / 16), hexDigit (b.toNat % 16)]

/-- A text with all of its bytes in `%XX`. -/
def spell (s : List Char) : List Char := percentEncode (encode s)

def render (pairs : List (List Char × List Char)) : List Char :=
  ['&'].intercalate (pairs.map fun (name, value) => spell name ++ '=' :: spell value)

/-- A hexadecimal digit is one byte, from which its value is read. -/
theorem encode_hexDigit {n : Nat} (h : n < 16) :
    ∃ b, String.utf8EncodeChar (hexDigit n) = [b] ∧ b ≠ plus ∧ hexValue? b = some n := by
  have hall : ∀ n < 16, ∃ b ∈ String.utf8EncodeChar (hexDigit n),
      String.utf8EncodeChar (hexDigit n) = [b] ∧ b ≠ plus ∧ hexValue? b = some n := by decide
  obtain ⟨b, -, hb⟩ := hall n h
  exact ⟨b, hb⟩

theorem decode_percentEncode (bytes : Bytes) :
    decode (encode (percentEncode bytes)) = decodeLossy bytes := by
  unfold decode
  congr 1
  induction bytes with
  | nil => rw [percentEncode, List.flatMap_nil, encode_nil, List.map_nil, percentDecode]; simp
  | cons b bytes ih =>
    have hb : b.toNat < 256 := b.toNat_lt
    obtain ⟨high, hhigh, hplus, hhighv⟩ := encode_hexDigit (n := b.toNat / 16) (by omega)
    obtain ⟨low, hlow, hplus', hlowv⟩ := encode_hexDigit (n := b.toNat % 16) (by omega)
    have hpercent : String.utf8EncodeChar '%' = [percent] := by decide
    have hsum : 16 * (b.toNat / 16) + b.toNat % 16 = b.toNat := Nat.div_add_mod _ _
    rw [percentEncode, List.flatMap_cons, ← percentEncode, encode_append]
    simp only [encode_cons, encode_nil, hpercent, hhigh, hlow, List.cons_append, List.nil_append,
      List.map_cons, if_neg hplus, if_neg hplus', show percent ≠ plus by decide, if_false]
    rw [percentDecode, if_pos rfl, hhighv, hlowv]
    simp only [hsum, UInt8.ofNat_toNat]
    rw [ih]

theorem decode_spell (s : List Char) : decode (encode (spell s)) = s := by
  rw [spell, decode_percentEncode, decodeLossy_encode]

/-- A text in `%XX` holds no character that separates pieces, or a name from a value. -/
theorem separator_not_mem_spell {c : Char} (hc : c = '&' ∨ c = '=') (s : List Char) :
    c ∉ spell s := by
  have hdigit : ∀ n < 16, '&' ≠ hexDigit n ∧ '=' ≠ hexDigit n := by decide
  intro hmem
  obtain ⟨b, -, hb⟩ := List.mem_flatMap.mp hmem
  have hlt : b.toNat < 256 := b.toNat_lt
  have hhigh := hdigit (b.toNat / 16) (by omega)
  have hlow := hdigit (b.toNat % 16) (by omega)
  rcases hc with rfl | rfl <;> simp [hhigh, hlow] at hb

theorem decoded_spelled (name value : List Char) :
    decoded (spell name ++ '=' :: spell value) = (name, value) := by
  have hname : equals ∉ encode (spell name) := fun hmem =>
    separator_not_mem_spell (.inr rfl) name (asciiChar_mem_of_mem_encode (by decide) hmem)
  have hequals : encode ('=' :: spell value) = equals :: encode (spell value) := rfl
  rw [decoded, pair, encode_append, hequals, splitFirst?_append_cons hname]
  simp only [decode_spell]

/-- Reading gives back any pairs that were written. -/
theorem parse_render (pairs : List (List Char × List Char)) : parse (render pairs) = pairs := by
  rw [parse_eq_map_decoded]
  cases pairs with
  | nil => rfl
  | cons p ps =>
    rw [render, splitAll_intercalate (by simp), List.filter_eq_self.mpr, List.map_map]
    · refine (List.map_congr_left fun pair _ => ?_).trans (List.map_id _)
      exact decoded_spelled pair.1 pair.2
    · intro piece hpiece
      obtain ⟨pair, -, rfl⟩ := List.mem_map.mp hpiece
      simp
    · intro piece hpiece hmem
      obtain ⟨pair, -, rfl⟩ := List.mem_map.mp hpiece
      have hnot := separator_not_mem_spell (.inl (Eq.refl '&'))
      simp [hnot] at hmem

end TaskBoard.Text.Form
