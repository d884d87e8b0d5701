import Mathlib.Tactic.SplitIfs
import TaskBoard.Text.Utf8

/-!
# UTF-8 texts

The bytes that can be read as text are the encodings of texts, each of one text.
-/

namespace TaskBoard.Text.Utf8

/-! ## One character -/

/-- The bytes that stand for a code point. -/
inductive Form : Bytes → Nat → Prop
  | one {a : UInt8} : a.toNat < 0x80 → Form [a] a.toNat
  | two {a b : UInt8} : 0xC2 ≤ a.toNat → a.toNat ≤ 0xDF → isContinuation b = true →
    Form [a, b] (a.toNat % 32 * 64 + low6 b)
  | three {a b c : UInt8} : 0xE0 ≤ a.toNat → a.toNat ≤ 0xEF → secondOfThree a b = true →
    isContinuation c = true → Form [a, b, c] ((a.toNat % 16 * 64 + low6 b) * 64 + low6 c)
  | four {a b c d : UInt8} : 0xF0 ≤ a.toNat → a.toNat ≤ 0xF4 → secondOfFour a b = true →
    isContinuation c = true → isContinuation d = true →
    Form [a, b, c, d] (((a.toNat % 8 * 64 + low6 b) * 64 + low6 c) * 64 + low6 d)

theorem step_form {a : UInt8} {t : Bytes} {n : Nat} (h : Form (a :: t) n) (s : Bytes) :
    step a (t ++ s) = (some (Char.ofNat n), s) := by
  cases h with
  | one ha =>
    have h₁ : a < 0x80 := UInt8.lt_iff_toNat_lt.mpr ha
    simp [step, h₁]
  | two low high hb =>
    have h₁ : ¬ a < 0x80 := by simp only [UInt8.lt_iff_toNat_lt, UInt8.reduceToNat]; omega
    simp [step, h₁, hb, UInt8.le_iff_toNat_le, low, high]
  | three low high hb hc =>
    have h₁ : ¬ a < 0x80 := by simp only [UInt8.lt_iff_toNat_lt, UInt8.reduceToNat]; omega
    have h₂ : ¬ a ≤ 0xDF := by simp only [UInt8.le_iff_toNat_le, UInt8.reduceToNat]; omega
    simp [step, h₁, h₂, hb, hc, UInt8.le_iff_toNat_le, low, high]
  | four low high hb hc hd =>
    have h₁ : ¬ a < 0x80 := by simp only [UInt8.lt_iff_toNat_lt, UInt8.reduceToNat]; omega
    have h₂ : ¬ a ≤ 0xDF := by simp only [UInt8.le_iff_toNat_le, UInt8.reduceToNat]; omega
    have h₃ : ¬ a ≤ 0xEF := by simp only [UInt8.le_iff_toNat_le, UInt8.reduceToNat]; omega
    simp [step, h₁, h₂, h₃, hb, hc, hd, UInt8.le_iff_toNat_le, low, high]

theorem toNat_bounds {a low high : UInt8} (h : (low ≤ a && a ≤ high) = true) :
    low.toNat ≤ a.toNat ∧ a.toNat ≤ high.toNat := by
  simpa [UInt8.le_iff_toNat_le] using h

theorem form_of_step {a : UInt8} {s rest : Bytes} {c : Char} (h : step a s = (some c, rest)) :
    ∃ t n, Form (a :: t) n ∧ s = t ++ rest ∧ c = Char.ofNat n := by
  revert h
  -- Only the four branches that give a character are left.
  fun_cases step a s <;> intro h <;> cases h
  · next ha => exact ⟨[], _, .one (UInt8.lt_iff_toNat_lt.mp ha), rfl, rfl⟩
  · next _ ha b hb => exact ⟨[b], _, .two (toNat_bounds ha).1 (toNat_bounds ha).2 hb, rfl, rfl⟩
  · next _ _ ha b hb c hc =>
    exact ⟨[b, c], _, .three (toNat_bounds ha).1 (toNat_bounds ha).2 hb hc, rfl, rfl⟩
  · next _ _ _ ha b hb c hc d hd high =>
    exact ⟨[b, c, d], _, .four (toNat_bounds ha).1 (toNat_bounds ha).2 hb hc hd, rfl, rfl⟩

theorem isContinuation_iff {b : UInt8} :
    isContinuation b = true ↔ 0x80 ≤ b.toNat ∧ b.toNat ≤ 0xBF := by
  simp [isContinuation, UInt8.le_iff_toNat_le]

theorem secondOfThree_iff {a b : UInt8} :
    secondOfThree a b = true ↔ 0x80 ≤ b.toNat ∧ b.toNat ≤ 0xBF ∧
      (a.toNat = 0xE0 → 0xA0 ≤ b.toNat) ∧ (a.toNat = 0xED → b.toNat ≤ 0x9F) := by
  simp only [secondOfThree, isContinuation, ← UInt8.toNat_inj, UInt8.reduceToNat]
  split_ifs <;> simp only [Bool.and_eq_true, decide_eq_true_eq, UInt8.le_iff_toNat_le,
    UInt8.reduceToNat] <;> omega

theorem secondOfFour_iff {a b : UInt8} :
    secondOfFour a b = true ↔ 0x80 ≤ b.toNat ∧ b.toNat ≤ 0xBF ∧
      (a.toNat = 0xF0 → 0x90 ≤ b.toNat) ∧ (a.toNat = 0xF4 → b.toNat ≤ 0x8F) := by
  simp only [secondOfFour, isContinuation, ← UInt8.toNat_inj, UInt8.reduceToNat]
  split_ifs <;> simp only [Bool.and_eq_true, decide_eq_true_eq, UInt8.le_iff_toNat_le,
    UInt8.reduceToNat] <;> omega

theorem form_encodeChar (c : Char) : Form (String.utf8EncodeChar c) c.toNat := by
  have hvalid : c.toNat < 0xD800 ∨ 0xDFFF < c.toNat ∧ c.toNat < 0x110000 := c.valid
  have hform : ∀ {p n}, Form p n → n = c.toNat → Form p c.toNat := fun h hn => hn ▸ h
  have hval : c.val.toNat = c.toNat := rfl
  fun_cases String.utf8EncodeChar c with
  | case1 v h =>
    refine hform (.one ?_) ?_ <;> simp only [UInt8.toNat_ofNat'] <;> omega
  | case2 v h =>
    refine hform (.two ?_ ?_ ?_) ?_ <;>
      simp only [isContinuation_iff, low6, UInt8.toNat_ofNat'] <;> omega
  | case3 v h =>
    refine hform (.three ?_ ?_ ?_ ?_) ?_ <;>
      simp only [isContinuation_iff, secondOfThree_iff, low6, UInt8.toNat_ofNat'] <;> omega
  | case4 v h =>
    refine hform (.four ?_ ?_ ?_ ?_ ?_) ?_ <;>
      simp only [isContinuation_iff, secondOfFour_iff, low6, UInt8.toNat_ofNat'] <;> omega

theorem toNat_ofNat {n : Nat} (h : n.isValidChar) : (Char.ofNat n).toNat = n := by
  rw [Char.ofNat, dif_pos h]
  rfl

theorem Form.valid {p : Bytes} {n : Nat} (h : Form p n) : n.isValidChar := by
  unfold Nat.isValidChar
  cases h with
  | one ha => omega
  | two low high hb => simp only [isContinuation_iff, low6] at *; omega
  | three low high hb hc => simp only [isContinuation_iff, secondOfThree_iff, low6] at *; omega
  | four low high hb hc hd => simp only [isContinuation_iff, secondOfFour_iff, low6] at *; omega

theorem encodeChar_of_form {p : Bytes} {n : Nat} (h : Form p n) :
    String.utf8EncodeChar (Char.ofNat n) = p := by
  have hval : (Char.ofNat n).val.toNat = n := toNat_ofNat h.valid
  have hlow6 : ∀ b, low6 b = b.toNat % 64 := fun _ => rfl
  rw [String.utf8EncodeChar.eq_1]
  simp only [hval]
  cases h with
  | one ha =>
    rw [if_pos (by omega), UInt8.ofNat_toNat]
  | @two a b low high hb =>
    rw [isContinuation_iff] at hb
    have := hlow6 b
    rw [if_neg (by omega), if_pos (by omega)]
    simp only [List.cons.injEq, ← UInt8.toNat_inj, UInt8.toNat_ofNat', and_true]
    omega
  | @three a b c low high hb hc =>
    rw [isContinuation_iff] at hc
    rw [secondOfThree_iff] at hb
    have := hlow6 b
    have := hlow6 c
    rw [if_neg (by omega), if_neg (by omega), if_pos (by omega)]
    simp only [List.cons.injEq, ← UInt8.toNat_inj, UInt8.toNat_ofNat', and_true]
    omega
  | @four a b c d low high hb hc hd =>
    rw [isContinuation_iff] at hc hd
    rw [secondOfFour_iff] at hb
    have := hlow6 b
    have := hlow6 c
    have := hlow6 d
    rw [if_neg (by omega), if_neg (by omega), if_neg (by omega)]
    simp only [List.cons.injEq, ← UInt8.toNat_inj, UInt8.toNat_ofNat', and_true]
    omega

theorem Form.isContinuation_head {a : UInt8} {t : Bytes} {n : Nat} (h : Form (a :: t) n) :
    isContinuation a = false := by
  rw [Bool.eq_false_iff, ne_eq, isContinuation_iff]
  cases h <;> omega

theorem Form.isContinuation_tail {a : UInt8} {t : Bytes} {n : Nat} (h : Form (a :: t) n) :
    ∀ b ∈ t, isContinuation b = true := by
  cases h with
  | one => simp
  | two _ _ hb => simpa using hb
  | three _ _ hb hc =>
    have hb := secondOfThree_iff.mp hb
    simpa [hc] using isContinuation_iff.mpr ⟨hb.1, hb.2.1⟩
  | four _ _ hb hc hd =>
    have hb := secondOfFour_iff.mp hb
    simpa [hc, hd] using isContinuation_iff.mpr ⟨hb.1, hb.2.1⟩

theorem Form.head_eq_or {a : UInt8} {t : Bytes} {n : Nat} (h : Form (a :: t) n) :
    a.toNat = n ∨ 0x80 ≤ a.toNat ∧ 0x80 ≤ n := by
  cases h with
  | one => exact .inl rfl
  | two _ _ hb =>
    right
    omega
  | three _ _ hb =>
    rw [secondOfThree_iff] at hb
    simp only [low6]
    omega
  | four _ _ hb =>
    rw [secondOfFour_iff] at hb
    simp only [low6]
    omega

/-! ## Texts -/

variable {c d : Char} {s t : Bytes} {text : List Char}

theorem exists_encodeChar_cons (c : Char) : ∃ a t, String.utf8EncodeChar c = a :: t :=
  List.exists_cons_of_ne_nil String.utf8EncodeChar_ne_nil

theorem step_encodeChar {a : UInt8} (h : String.utf8EncodeChar c = a :: t) (s : Bytes) :
    step a (t ++ s) = (some c, s) := by
  rw [step_form (h ▸ form_encodeChar c), Char.ofNat_toNat]

theorem encodeChar_of_step {a : UInt8} (h : step a s = (some c, t)) :
    a :: s = String.utf8EncodeChar c ++ t := by
  obtain ⟨t, n, hform, rfl, rfl⟩ := form_of_step h
  rw [encodeChar_of_form hform, List.cons_append]

theorem encodeChar_append_inj :
    String.utf8EncodeChar c ++ s = String.utf8EncodeChar d ++ t ↔ c = d ∧ s = t := by
  refine ⟨fun h => ?_, fun ⟨hc, hs⟩ => by rw [hc, hs]⟩
  obtain ⟨a, u, hu⟩ := exists_encodeChar_cons c
  obtain ⟨b, v, hv⟩ := exists_encodeChar_cons d
  have hc := step_encodeChar hu s
  have hd := step_encodeChar hv t
  rw [hu, hv, List.cons_append, List.cons_append, List.cons.injEq] at h
  rw [h.1, h.2, hd] at hc
  simpa [eq_comm] using hc

@[simp] theorem encode_nil : encode [] = [] := rfl

@[simp] theorem encode_cons (c : Char) (text : List Char) :
    encode (c :: text) = String.utf8EncodeChar c ++ encode text := rfl

theorem encode_append (text other : List Char) :
    encode (text ++ other) = encode text ++ encode other := List.flatMap_append

theorem encode_eq_nil : encode text = [] ↔ text = [] := by
  cases text <;> simp

theorem length_le_length_encode (text : List Char) : text.length ≤ (encode text).length := by
  induction text with
  | nil => exact Nat.zero_le _
  | cons c text ih =>
    obtain ⟨a, t, ht⟩ := exists_encodeChar_cons c
    rw [encode_cons, ht, List.length_append, List.length_cons, List.length_cons]
    omega

theorem encode_injective : Function.Injective encode := by
  intro text
  induction text with
  | nil => exact fun other h => (encode_eq_nil.mp h.symm).symm
  | cons c text ih =>
    intro other h
    cases other with
    | nil => cases encode_eq_nil.mp h
    | cons d other =>
      obtain ⟨hc, htext⟩ := encodeChar_append_inj.mp h
      rw [hc, ih htext]

theorem decodeOnto_encode (done text : List Char) :
    decodeOnto done (encode text) = some (done.reverse ++ text) := by
  induction text generalizing done with
  | nil => simp [decodeOnto]
  | cons c text ih =>
    obtain ⟨a, t, ht⟩ := exists_encodeChar_cons c
    rw [encode_cons, ht, List.cons_append, decodeOnto, step_encodeChar ht]
    simp only
    rw [ih, List.reverse_cons, List.append_assoc, List.singleton_append]

theorem decodeLossy_encode (text : List Char) : decodeLossy (encode text) = text := by
  induction text with
  | nil => rw [encode_nil, decodeLossy]
  | cons c text ih =>
    obtain ⟨a, t, ht⟩ := exists_encodeChar_cons c
    rw [encode_cons, ht, List.cons_append, decodeLossy, step_encodeChar ht, ih]
    rfl

theorem eq_encode_of_decodeOnto {done whole : List Char} (h : decodeOnto done s = some whole) :
    ∃ text, s = encode text ∧ whole = done.reverse ++ text := by
  fun_induction decodeOnto done s with
  | case1 done => exact ⟨[], rfl, by simpa [eq_comm] using h⟩
  | case2 done a s c hc ih =>
    obtain ⟨text, htext, rfl⟩ := ih h
    refine ⟨c :: text, ?_, by simp⟩
    rw [encode_cons, ← htext]
    exact encodeChar_of_step (Prod.ext hc rfl)
  | case3 => cases h

theorem decode?_eq_some_iff : decode? s = some text ↔ s = encode text := by
  constructor
  · intro h
    obtain ⟨_, hs, rfl⟩ := eq_encode_of_decodeOnto h
    simpa using hs
  · rintro rfl
    exact decodeOnto_encode [] text

end TaskBoard.Text.Utf8
