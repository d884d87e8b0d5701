import Mathlib.Algebra.Group.Nat.Defs
import Mathlib.Tactic.SplitIfs
import TaskBoard.Proofs.Text.Utf8
import TaskBoard.Text.Base64

/-!
# Base64 texts

The one Base64 text of each list of bytes, told by their bits.
-/

namespace TaskBoard.Text.Base64

/-! ## The rules -/

def alphabet : List Char :=
  "ABCDEFGHIJKLMNOPQRSTUVWXYZabcdefghijklmnopqrstuvwxyz0123456789+/".toList

/-- The last bits of a number, highest first. -/
def bits : Nat → Nat → List Bool
  | 0, _ => []
  | width + 1, n => n.testBit width :: bits width n

theorem length_alphabet : alphabet.length = 64 := by decide +kernel

def letter (v : Fin 64) : Char := alphabet.get (v.cast length_alphabet.symm)

/-- The bits of the bytes, filled up with zeros to a number of letters, six bits each, and the
letters with padding to a multiple of four. -/
inductive Canonical (body : Bytes) : List Char → Prop
  | mk (letters : List (Fin 64)) (filler pads : Nat) :
    letters.flatMap (bits 6 ·.val) =
      body.flatMap (bits 8 ·.toNat) ++ List.replicate filler false →
    filler < 6 → pads < 4 → (letters.length + pads) % 4 = 0 →
    Canonical body (letters.map letter ++ List.replicate pads '=')

/-! ## Bits -/

variable {n m w : Nat}

@[simp] theorem length_bits (w n : Nat) : (bits w n).length = w := by
  induction w with
  | zero => rfl
  | succ w ih => simp [bits, ih]

theorem bits_eq_iff : bits w n = bits w m ↔ ∀ i < w, n.testBit i = m.testBit i := by
  induction w with
  | zero => simp [bits]
  | succ w ih => rw [bits, bits, List.cons.injEq, ih, Nat.forall_lt_succ_right, and_comm]

theorem bits_mod (w n : Nat) : bits w (n % 2 ^ w) = bits w n :=
  bits_eq_iff.mpr fun i hi => by simp [Nat.testBit_mod_two_pow, hi]

theorem bits_injOn (hn : n < 2 ^ w) (hm : m < 2 ^ w) (h : bits w n = bits w m) : n = m := by
  refine Nat.eq_of_testBit_eq fun i => ?_
  rcases Nat.lt_or_ge i w with hi | hi
  · exact bits_eq_iff.mp h i hi
  · have hpow := Nat.pow_le_pow_right Nat.two_pos hi
    rw [Nat.testBit_lt_two_pow (Nat.lt_of_lt_of_le hn hpow),
      Nat.testBit_lt_two_pow (Nat.lt_of_lt_of_le hm hpow)]

/-- A number cut in two, with the lower part of `w` bits. -/
theorem bits_add (v w n : Nat) : bits (v + w) n = bits v (n / 2 ^ w) ++ bits w n := by
  induction v with
  | zero => simp [bits]
  | succ v ih =>
    rw [Nat.add_right_comm, bits, ih, bits, Nat.testBit_div_two_pow]
    rfl

theorem bits_zero (w : Nat) : bits w 0 = List.replicate w false := by
  induction w with
  | zero => rfl
  | succ w ih => rw [bits, ih, Nat.zero_testBit, List.replicate_succ]

/-! ## Symbols -/

variable {b : UInt8} {v : Nat} {vs : List Nat} {s body last : Bytes}

theorem symbol_toNat (h : v < 64) : (symbol v).toNat =
    if v < 26 then 65 + v else if v < 52 then 71 + v else if v < 62 then v - 4
    else if v = 62 then 43 else 47 := by
  rw [symbol, UInt8.toNat_ofNat']
  split_ifs <;> omega

theorem value?_symbol (h : v < 64) : value? (symbol v) = some v := by
  have hall : ∀ v < 64, value? (symbol v) = some v := by decide
  exact hall v h

theorem symbol_of_value? (h : value? b = some v) : v < 64 ∧ b = symbol v := by
  have hlt : v < 64 := by
    unfold value? at h
    simp only at h
    split_ifs at h <;> simp only [Option.some.injEq] at h <;> omega
  refine ⟨hlt, ?_⟩
  rw [← UInt8.toNat_inj, symbol_toNat hlt]
  unfold value? at h
  simp only at h
  split_ifs at h <;> simp only [Option.some.injEq] at h <;> split_ifs <;> omega

theorem symbol_ne_pad (h : v < 64) : symbol v ≠ pad := by
  have hall : ∀ v < 64, symbol v ≠ pad := by decide
  exact hall v h

/-- Each of the values is one of a symbol. -/
def Sextets (vs : List Nat) : Prop := ∀ v ∈ vs, v < 64

theorem values_map_symbol (h : Sextets vs) (offset : Nat) :
    values offset (vs.map symbol) = .ok vs := by
  induction vs generalizing offset with
  | nil => rfl
  | cons v vs ih =>
    obtain ⟨hv, hvs⟩ := List.forall_mem_cons.mp h
    rw [List.map_cons, values, value?_symbol hv]
    simp only
    rw [ih hvs]
    rfl

theorem of_values {offset : Nat} (h : values offset s = .ok vs) :
    s = vs.map symbol ∧ Sextets vs := by
  induction s generalizing offset vs with
  | nil =>
    cases h
    exact ⟨rfl, by simp [Sextets]⟩
  | cons b s ih =>
    rw [values] at h
    split at h
    · cases h
    · next v hv =>
      obtain ⟨hlt, rfl⟩ := symbol_of_value? hv
      match hvalues : values (offset + 1) s, h with
      | .ok more, h =>
        cases h
        obtain ⟨rfl, hmore⟩ := ih hvalues
        exact ⟨rfl, List.forall_mem_cons.mpr ⟨hlt, hmore⟩⟩
      | .error e, h => cases h

/-! ## Groups -/

theorem encode_sextets {a b c d : Nat} (ha : a < 64) (hb : b < 64) (hc : c < 64) (hd : d < 64)
    (rest : Bytes) :
    let n := ((a * 64 + b) * 64 + c) * 64 + d
    encode (UInt8.ofNat (n / 65536) :: UInt8.ofNat (n / 256 % 256) :: UInt8.ofNat (n % 256) ::
      rest) = [a, b, c, d].map symbol ++ encode rest := by
  intro n
  have hn : ((UInt8.ofNat (n / 65536)).toNat * 256 + (UInt8.ofNat (n / 256 % 256)).toNat) * 256 +
      (UInt8.ofNat (n % 256)).toNat = n := by
    simp only [UInt8.toNat_ofNat']
    omega
  have h₁ : n / 262144 = a := by omega
  have h₂ : n / 4096 % 64 = b := by omega
  have h₃ : n / 64 % 64 = c := by omega
  have h₄ : n % 64 = d := by omega
  simp only [encode, hn, h₁, h₂, h₃, h₄]
  rfl

theorem encode_groups (h : Sextets vs) (hlen : vs.length % 4 = 0) (last : Bytes) :
    encode (groups vs ++ last) = vs.map symbol ++ encode last := by
  fun_induction groups vs with
  | case1 a b c d vs n ih =>
    simp only [Sextets, List.forall_mem_cons] at h
    obtain ⟨ha, hb, hc, hd, hvs⟩ := h
    simp only [List.length_cons] at hlen
    rw [List.cons_append, List.cons_append, List.cons_append, encode_sextets ha hb hc hd,
      ih hvs (by omega)]
    rfl
  | case2 vs hne =>
    match vs, hne, hlen with
    | [], _, _ => rfl
    | a :: b :: c :: d :: vs, hne, _ => exact absurd rfl (hne a b c d vs)

theorem groups_sextets (a b c : UInt8) (vs : List Nat) :
    let n := (a.toNat * 256 + b.toNat) * 256 + c.toNat
    groups (n / 262144 :: n / 4096 % 64 :: n / 64 % 64 :: n % 64 :: vs) =
      a :: b :: c :: groups vs := by
  intro n
  have ha := a.toNat_lt
  have hb := b.toNat_lt
  have hc := c.toNat_lt
  have hn : ((n / 262144 * 64 + n / 4096 % 64) * 64 + n / 64 % 64) * 64 + n % 64 = n := by omega
  have h₁ : n / 65536 = a.toNat := by omega
  have h₂ : n / 256 % 256 = b.toNat := by omega
  have h₃ : n % 256 = c.toNat := by omega
  simp only [groups, hn, h₁, h₂, h₃, UInt8.ofNat_toNat]

/-- All but the last one to three bytes are the bytes of whole groups. -/
theorem exists_groups (hbody : body ≠ []) : ∃ vs last, Sextets vs ∧ vs.length % 4 = 0 ∧
    body = groups vs ++ last ∧ last ≠ [] ∧ last.length ≤ 3 := by
  fun_induction encode body with
  | case1 a b c s n ih =>
    by_cases hs : s = []
    · exact ⟨[], [a, b, c], by simp [Sextets], rfl, by simp [groups, hs], by simp, by simp⟩
    · obtain ⟨vs, last, hvs, hlen, rfl, hlast, hshort⟩ := ih hs
      have hn : n < 16777216 := by
        have := a.toNat_lt
        have := b.toNat_lt
        have := c.toNat_lt
        omega
      refine ⟨n / 262144 :: n / 4096 % 64 :: n / 64 % 64 :: n % 64 :: vs, last, ?_, ?_, ?_, hlast,
        hshort⟩
      · simp only [Sextets, List.forall_mem_cons]
        exact ⟨by omega, by omega, by omega, by omega, hvs⟩
      · simp only [List.length_cons]
        omega
      · rw [groups_sextets]
        rfl
  | case2 a b n => exact ⟨[], [a, b], by simp [Sextets], rfl, rfl, by simp, by simp⟩
  | case3 a n => exact ⟨[], [a], by simp [Sextets], rfl, rfl, by simp, by simp⟩
  | case4 => exact absurd rfl hbody

/-! ## The last group -/

/-- What is known of a last group with these values and this many pads. -/
def tailOf (vs : List Nat) (padded : Option Nat) (pads : Nat) : Tail :=
  ⟨(vs.map fun v => (symbol v, v)).reverse, padded, pads⟩

theorem tail_of_readTail {start i : Nat} {tail tail' : Tail}
    (h : readTail start i tail s = .ok tail') :
    ∃ vs k, s = vs.map symbol ++ List.replicate k pad ∧ Sextets vs ∧
      tail'.symbols = (vs.map fun v => (symbol v, v)).reverse ++ tail.symbols ∧
      tail'.pads = tail.pads + k ∧ (tail.padded ≠ none → vs = []) := by
  fun_induction readTail start i tail s with
  | case1 =>
    cases h
    exact ⟨[], 0, rfl, by simp [Sextets], by simp, rfl, fun _ => rfl⟩
  | case2 => cases h
  | case3 i tail s hi ih =>
    -- Only pads come after a pad.
    obtain ⟨vs, k, rfl, hvs, hsymbols, hpads, hnone⟩ := ih h
    obtain rfl := hnone (by simp)
    refine ⟨[], k + 1, by simp [List.replicate_succ], hvs, hsymbols, ?_, fun _ => rfl⟩
    simp only [hpads]
    omega
  | case4 => cases h
  | case5 => cases h
  | case6 i tail b s hb hnone v hv ih =>
    obtain ⟨vs, k, rfl, hvs, hsymbols, hpads, -⟩ := ih h
    obtain ⟨hlt, rfl⟩ := symbol_of_value? hv
    exact ⟨v :: vs, k, rfl, List.forall_mem_cons.mpr ⟨hlt, hvs⟩, by simp [hsymbols], hpads,
      by simp [hnone]⟩

theorem readTail_opening {start : Nat} {tail : Tail}
    (h : readTail start 0 ⟨[], none, 0⟩ s = .ok tail) :
    ∃ vs k padded, Sextets vs ∧ s = vs.map symbol ++ List.replicate k pad ∧
      tail = tailOf vs padded k := by
  obtain ⟨vs, k, hs, hvs, hsymbols, hpads, -⟩ := tail_of_readTail h
  refine ⟨vs, k, tail.padded, hvs, hs, ?_⟩
  rw [List.append_nil] at hsymbols
  rw [Nat.zero_add] at hpads
  rw [tailOf, ← hsymbols, ← hpads]

theorem encode_one {a b : Nat} (ha : a < 64) (hb : b < 64) (h : (a * 64 + b) % 16 = 0) :
    encode [UInt8.ofNat ((a * 64 + b) / 16)] = [symbol a, symbol b, pad, pad] := by
  have hn : (UInt8.ofNat ((a * 64 + b) / 16)).toNat * 16 = a * 64 + b := by
    rw [UInt8.toNat_ofNat']
    omega
  have h₁ : (a * 64 + b) / 64 = a := by omega
  have h₂ : (a * 64 + b) % 64 = b := by omega
  simp only [encode, hn, h₁, h₂]

theorem encode_two {a b c : Nat} (ha : a < 64) (hb : b < 64) (hc : c < 64)
    (h : ((a * 64 + b) * 64 + c) % 4 = 0) :
    encode [UInt8.ofNat (((a * 64 + b) * 64 + c) / 1024),
        UInt8.ofNat (((a * 64 + b) * 64 + c) / 4 % 256)] =
      [symbol a, symbol b, symbol c, pad] := by
  have hn : ((UInt8.ofNat (((a * 64 + b) * 64 + c) / 1024)).toNat * 256 +
      (UInt8.ofNat (((a * 64 + b) * 64 + c) / 4 % 256)).toNat) * 4 = (a * 64 + b) * 64 + c := by
    simp only [UInt8.toNat_ofNat']
    omega
  have h₁ : ((a * 64 + b) * 64 + c) / 4096 = a := by omega
  have h₂ : ((a * 64 + b) * 64 + c) / 64 % 64 = b := by omega
  have h₃ : ((a * 64 + b) * 64 + c) % 64 = c := by omega
  simp only [encode, hn, h₁, h₂, h₃]

section TailBytes

variable {a b c d k : Nat} {start : Nat} {padded : Option Nat}

theorem tailBytes_two : tailBytes start (tailOf [a, b] padded k) =
    if (2 + k) % 4 ≠ 0 then .error .invalidPadding
    else if (a * 64 + b) % 16 ≠ 0 then .error (.invalidLastSymbol (start + 1) (symbol b))
    else .ok [UInt8.ofNat ((a * 64 + b) / 16)] := by
  simp [tailBytes, tailOf]

theorem tailBytes_three : tailBytes start (tailOf [a, b, c] padded k) =
    if (3 + k) % 4 ≠ 0 then .error .invalidPadding
    else if ((a * 64 + b) * 64 + c) % 4 ≠ 0 then
      .error (.invalidLastSymbol (start + 2) (symbol c))
    else .ok [UInt8.ofNat (((a * 64 + b) * 64 + c) / 1024),
      UInt8.ofNat (((a * 64 + b) * 64 + c) / 4 % 256)] := by
  simp [tailBytes, tailOf]

theorem tailBytes_four : tailBytes start (tailOf [a, b, c, d] padded k) =
    if (4 + k) % 4 ≠ 0 then .error .invalidPadding
    else .ok [UInt8.ofNat ((((a * 64 + b) * 64 + c) * 64 + d) / 65536),
      UInt8.ofNat ((((a * 64 + b) * 64 + c) * 64 + d) / 256 % 256),
      UInt8.ofNat ((((a * 64 + b) * 64 + c) * 64 + d) % 256)] := by
  simp [tailBytes, tailOf]

end TailBytes

theorem encode_tailBytes {start k : Nat} {padded : Option Nat} (hvs : Sextets vs)
    (hshort : vs.length + k ≤ 4) (h : tailBytes start (tailOf vs padded k) = .ok last) :
    encode last = vs.map symbol ++ List.replicate k pad := by
  match vs, hvs, hshort with
  | [], _, _ => simp [tailBytes, tailOf] at h
  | [_], _, _ => simp [tailBytes, tailOf] at h
  | [a, b], hvs, hshort =>
    simp only [Sextets, List.forall_mem_cons] at hvs
    simp only [List.length_cons, List.length_nil] at hshort
    rw [tailBytes_two] at h
    split_ifs at h with hk hbits
    obtain rfl : k = 2 := by omega
    cases h
    rw [encode_one hvs.1 hvs.2.1 (by omega)]
    rfl
  | [a, b, c], hvs, hshort =>
    simp only [Sextets, List.forall_mem_cons] at hvs
    simp only [List.length_cons, List.length_nil] at hshort
    rw [tailBytes_three] at h
    split_ifs at h with hk hbits
    obtain rfl : k = 1 := by omega
    cases h
    rw [encode_two hvs.1 hvs.2.1 hvs.2.2.1 (by omega)]
    rfl
  | [a, b, c, d], hvs, hshort =>
    simp only [Sextets, List.forall_mem_cons] at hvs
    simp only [List.length_cons, List.length_nil] at hshort
    rw [tailBytes_four] at h
    split_ifs at h with hk
    obtain rfl : k = 0 := by omega
    cases h
    rw [encode_sextets hvs.1 hvs.2.1 hvs.2.2.1 hvs.2.2.2.1]
    rfl
  | a :: b :: c :: d :: e :: vs, _, hshort =>
    simp only [List.length_cons] at hshort
    omega

theorem readTail_symbols (hvs : Sextets vs) (start i : Nat) (symbols : List (UInt8 × Nat))
    (s : Bytes) :
    readTail start i ⟨symbols, none, 0⟩ (vs.map symbol ++ s) = readTail start (i + vs.length)
      ⟨(vs.map fun v => (symbol v, v)).reverse ++ symbols, none, 0⟩ s := by
  induction vs generalizing i symbols with
  | nil => rfl
  | cons v vs ih =>
    obtain ⟨hv, hvs⟩ := List.forall_mem_cons.mp hvs
    rw [List.map_cons, List.cons_append, readTail, if_neg (symbol_ne_pad hv)]
    simp only [value?_symbol hv]
    rw [ih hvs, List.length_cons, Nat.add_right_comm, Nat.add_assoc]
    simp

theorem readTail_pads {start i : Nat} (hi : 2 ≤ i) (k : Nat) (tail : Tail) :
    ∃ padded, readTail start i tail (List.replicate k pad) =
      .ok ⟨tail.symbols, padded, tail.pads + k⟩ := by
  induction k generalizing i tail with
  | zero => exact ⟨tail.padded, rfl⟩
  | succ k ih =>
    rw [List.replicate_succ, readTail, if_pos rfl, if_neg (Nat.not_lt.mpr hi)]
    obtain ⟨padded, h⟩ := ih (Nat.le_succ_of_le hi)
      { tail with padded := some (tail.padded.getD (start + i)), pads := tail.pads + 1 }
    refine ⟨padded, ?_⟩
    rw [h, Nat.add_right_comm, Nat.add_assoc]

theorem readTail_tailOf (vs : List Nat) (hvs : Sextets vs) (hlen : 2 ≤ vs.length)
    (start k : Nat) :
    ∃ padded, readTail start 0 ⟨[], none, 0⟩ (vs.map symbol ++ List.replicate k pad) =
      .ok (tailOf vs padded k) := by
  rw [readTail_symbols hvs, Nat.zero_add, List.append_nil]
  obtain ⟨padded, h⟩ := readTail_pads hlen k ⟨_, none, 0⟩
  exact ⟨padded, by rw [h, Nat.zero_add, tailOf]⟩

/-- The last group of an encoding is read back. -/
theorem last_of_encode (hlast : last ≠ []) (hshort : last.length ≤ 3) (start : Nat) :
    ∃ tail, readTail start 0 ⟨[], none, 0⟩ (encode last) = .ok tail ∧
      tailBytes start tail = .ok last := by
  match last, hlast, hshort with
  | [a], _, _ =>
    have ha := a.toNat_lt
    obtain ⟨padded, h⟩ := readTail_tailOf [a.toNat * 16 / 64, a.toNat * 16 % 64]
      (by simp [Sextets]; omega) (by simp) start 2
    refine ⟨_, h, ?_⟩
    have hn : a.toNat * 16 / 64 * 64 + a.toNat * 16 % 64 = a.toNat * 16 := by omega
    rw [tailBytes_two, hn, if_neg (by decide), if_neg (by omega), Nat.mul_div_cancel _ (by decide),
      UInt8.ofNat_toNat]
  | [a, b], _, _ =>
    have ha := a.toNat_lt
    have hb := b.toNat_lt
    let n := (a.toNat * 256 + b.toNat) * 4
    obtain ⟨padded, h⟩ := readTail_tailOf [n / 4096, n / 64 % 64, n % 64]
      (by simp [Sextets]; omega) (by simp) start 1
    refine ⟨_, h, ?_⟩
    have hn : (n / 4096 * 64 + n / 64 % 64) * 64 + n % 64 = n := by omega
    have h₁ : n / 1024 = a.toNat := by omega
    have h₂ : n / 4 % 256 = b.toNat := by omega
    rw [tailBytes_three, hn, if_neg (by decide), if_neg (by omega), h₁, h₂,
      UInt8.ofNat_toNat, UInt8.ofNat_toNat]
  | [a, b, c], _, _ =>
    have ha := a.toNat_lt
    have hb := b.toNat_lt
    have hc := c.toNat_lt
    let n := (a.toNat * 256 + b.toNat) * 256 + c.toNat
    obtain ⟨padded, h⟩ := readTail_tailOf [n / 262144, n / 4096 % 64, n / 64 % 64, n % 64]
      (by simp [Sextets]; omega) (by simp) start 0
    refine ⟨_, h, ?_⟩
    have hn : ((n / 262144 * 64 + n / 4096 % 64) * 64 + n / 64 % 64) * 64 + n % 64 = n := by omega
    have h₁ : n / 65536 = a.toNat := by omega
    have h₂ : n / 256 % 256 = b.toNat := by omega
    have h₃ : n % 256 = c.toNat := by omega
    rw [tailBytes_four, hn, if_neg (by decide), h₁, h₂, h₃]
    simp only [UInt8.ofNat_toNat]

theorem length_encode_last (hlast : last ≠ []) (hshort : last.length ≤ 3) :
    (encode last).length = 4 := by
  match last, hlast, hshort with
  | [_], _, _ | [_, _], _, _ | [_, _, _], _, _ => rfl

/-! ## Whole texts -/

/-- What the reader does behind the check of a byte that is left over. -/
theorem decode_of_parts {tail : Tail} (hs : s ≠ []) (hstray : strayByte? s = none)
    (hvs : values 0 (s.take (tailStart s.length)) = .ok vs)
    (htail : readTail (tailStart s.length) 0 ⟨[], none, 0⟩ (s.drop (tailStart s.length)) = .ok tail)
    (hlast : tailBytes (tailStart s.length) tail = .ok last) :
    decode s = .ok (groups vs ++ last) := by
  match s, hs with
  | b :: s, _ =>
    simp only [decode, hstray, hvs, htail, hlast, bind, Except.bind, pure, Except.pure]

theorem exists_of_bind {ε α β : Type} {x : Except ε α} {f : α → Except ε β} {r : β}
    (h : x >>= f = .ok r) : ∃ a, x = .ok a ∧ f a = .ok r := by
  cases x with
  | error e => cases h
  | ok a => exact ⟨a, rfl, h⟩

theorem parts_of_decode (hs : s ≠ []) (h : decode s = .ok body) : ∃ vs tail last,
    values 0 (s.take (tailStart s.length)) = .ok vs ∧
    readTail (tailStart s.length) 0 ⟨[], none, 0⟩ (s.drop (tailStart s.length)) = .ok tail ∧
    tailBytes (tailStart s.length) tail = .ok last ∧ body = groups vs ++ last := by
  match s, hs with
  | b :: s, _ =>
    cases hstray : strayByte? (b :: s) with
    | some c => simp [decode, hstray] at h
    | none =>
      simp only [decode, hstray] at h
      obtain ⟨vs, hvs, h⟩ := exists_of_bind h
      obtain ⟨tail, htail, h⟩ := exists_of_bind h
      obtain ⟨last, hlast, h⟩ := exists_of_bind h
      cases h
      exact ⟨vs, tail, last, hvs, htail, hlast, rfl⟩

theorem encode_of_decode (h : decode s = .ok body) : s = encode body := by
  by_cases hs : s = []
  · subst hs
    cases h
    rfl
  · obtain ⟨vs, tail, last, hvs, htail, hlast, rfl⟩ := parts_of_decode hs h
    -- One to four bytes are left for the last group, whatever they are.
    obtain ⟨htake, hsextets⟩ := of_values hvs
    obtain ⟨ws, k, padded, hws, hdrop, rfl⟩ := readTail_opening htail
    have hlength := congrArg List.length htake
    have hpos := List.length_pos_iff.mpr hs
    simp only [tailStart, List.length_take, List.length_map] at hlength
    have hshort := congrArg List.length hdrop
    simp only [tailStart, List.length_drop, List.length_append, List.length_map,
      List.length_replicate] at hshort
    rw [encode_groups hsextets (by omega), encode_tailBytes hws (by omega) hlast, ← htake, ← hdrop,
      List.take_append_drop]

theorem decode_encode (body : Bytes) : decode (encode body) = .ok body := by
  by_cases hbody : body = []
  · subst hbody
    rfl
  · obtain ⟨vs, last, hvs, hlen, rfl, hlast, hshort⟩ := exists_groups hbody
    rw [encode_groups hvs hlen]
    have hlength : (vs.map symbol ++ encode last).length = vs.length + 4 := by
      rw [List.length_append, List.length_map, length_encode_last hlast hshort]
    have hstart : tailStart (vs.map symbol ++ encode last).length = (vs.map symbol).length := by
      rw [hlength, List.length_map, tailStart]
      omega
    obtain ⟨tail, htail, hbytes⟩ := last_of_encode hlast hshort (vs.map symbol).length
    rw [← hstart] at htail hbytes
    refine decode_of_parts ?_ ?_ ?_ ?_ hbytes
    · rw [← List.length_pos_iff, hlength]
      omega
    · rw [strayByte?, hlength, if_neg (by omega)]
    · rw [hstart, List.take_left]
      exact values_map_symbol hvs 0
    · rw [hstart, List.drop_left, ← hstart]
      exact htail

theorem decode_eq_ok_iff : decode s = .ok body ↔ s = encode body := by
  refine ⟨encode_of_decode, ?_⟩
  rintro rfl
  exact decode_encode body

/-! ## The text of a body -/

variable {text : List Char}

theorem letter_mem (v : Fin 64) : letter v ∈ alphabet := List.get_mem _ _

theorem encodeChar_letter (v : Fin 64) : String.utf8EncodeChar (letter v) = [symbol v.val] := by
  have hall : alphabet.map String.utf8EncodeChar = (List.range 64).map fun n => [symbol n] := by
    cbv
  have hv := congrArg (·[v.val]?) hall
  have hlt : v.val < alphabet.length := length_alphabet.symm ▸ v.isLt
  simpa [letter, hlt] using hv

theorem encode_letters (letters : List (Fin 64)) (text : List Char) :
    Utf8.encode (letters.map letter ++ text) =
      letters.map (fun v => symbol v.val) ++ Utf8.encode text := by
  induction letters with
  | nil => rfl
  | cons v letters ih =>
    rw [List.map_cons, List.cons_append, Utf8.encode_cons, ih, encodeChar_letter]
    rfl

theorem encode_pads (k : Nat) : Utf8.encode (List.replicate k '=') = List.replicate k pad := by
  induction k with
  | zero => rfl
  | succ k ih =>
    rw [List.replicate_succ, Utf8.encode_cons, ih]
    rfl

theorem bits_cons (w n : Nat) (b : UInt8) :
    bits (w + 8) (n * 256 + b.toNat) = bits w n ++ bits 8 b.toNat := by
  have hb := b.toNat_lt
  have hn : (n * 256 + b.toNat) / 2 ^ 8 = n := by omega
  have hmod : (n * 256 + b.toNat) % 2 ^ 8 = b.toNat := by omega
  rw [bits_add, hn, ← bits_mod 8, hmod]

theorem bits_filled (w k n : Nat) :
    bits (w + k) (n * 2 ^ k) = bits w n ++ List.replicate k false := by
  rw [bits_add, Nat.mul_div_cancel _ (Nat.two_pow_pos k), ← bits_mod k, Nat.mul_mod_left, bits_zero]

theorem bits_six (w n : Nat) : bits (w + 6) n = bits w (n / 64) ++ bits 6 (n % 64) := by
  rw [bits_add, ← bits_mod 6 n]
  rfl

theorem bits_three (a b c : UInt8) :
    let n := (a.toNat * 256 + b.toNat) * 256 + c.toNat
    bits 6 (n / 262144) ++ (bits 6 (n / 4096 % 64) ++ (bits 6 (n / 64 % 64) ++ bits 6 (n % 64))) =
      bits 8 a.toNat ++ (bits 8 b.toNat ++ bits 8 c.toNat) := by
  intro n
  have h : bits 24 n = bits 8 a.toNat ++ bits 8 b.toNat ++ bits 8 c.toNat := by
    rw [bits_cons 16, bits_cons 8]
  rw [bits_six 18, bits_six 12, bits_six 6] at h
  simp only [Nat.div_div_eq_div_mul, Nat.reduceMul, List.append_assoc] at h
  exact h

theorem bits_two (a b : UInt8) :
    let n := (a.toNat * 256 + b.toNat) * 4
    bits 6 (n / 4096) ++ (bits 6 (n / 64 % 64) ++ bits 6 (n % 64)) =
      bits 8 a.toNat ++ (bits 8 b.toNat ++ List.replicate 2 false) := by
  intro n
  have h : bits 18 n = bits 8 a.toNat ++ bits 8 b.toNat ++ List.replicate 2 false := by
    rw [← bits_cons 8]
    exact bits_filled 16 2 (a.toNat * 256 + b.toNat)
  rw [bits_six 12, bits_six 6] at h
  simp only [Nat.div_div_eq_div_mul, Nat.reduceMul, List.append_assoc] at h
  exact h

theorem bits_one (a : UInt8) :
    let n := a.toNat * 16
    bits 6 (n / 64) ++ bits 6 (n % 64) = bits 8 a.toNat ++ List.replicate 4 false := by
  intro n
  rw [← bits_six 6]
  exact bits_filled 8 4 a.toNat

theorem Canonical.append (front : List (Fin 64)) (bytes : Bytes)
    (hbits : front.flatMap (bits 6 ·.val) = bytes.flatMap (bits 8 ·.toNat))
    (hlen : front.length % 4 = 0) (h : Canonical body text) :
    Canonical (bytes ++ body) (front.map letter ++ text) := by
  obtain ⟨letters, filler, pads, hletters, hfiller, hpads, hfour⟩ := h
  rw [← List.append_assoc, ← List.map_append]
  refine .mk (front ++ letters) filler pads ?_ hfiller hpads ?_
  · rw [List.flatMap_append, List.flatMap_append, hbits, hletters, List.append_assoc]
  · rw [List.length_append]
    omega

theorem exists_canonical (body : Bytes) :
    ∃ text, Canonical body text ∧ Utf8.encode text = encode body := by
  fun_induction encode body with
  | case1 a b c s n ih =>
    have ha := a.toNat_lt
    have hb := b.toNat_lt
    have hc := c.toNat_lt
    obtain ⟨text, htext, hencode⟩ := ih
    let front : List (Fin 64) := [⟨n / 262144, by omega⟩, ⟨n / 4096 % 64, by omega⟩,
      ⟨n / 64 % 64, by omega⟩, ⟨n % 64, by omega⟩]
    refine ⟨front.map letter ++ text, htext.append front [a, b, c] ?_ (by simp [front]), ?_⟩
    · simp only [front, List.flatMap_cons, List.flatMap_nil, List.append_nil]
      exact bits_three a b c
    · rw [encode_letters, hencode]
      rfl
  | case2 a b n =>
    have ha := a.toNat_lt
    have hb := b.toNat_lt
    let letters : List (Fin 64) := [⟨n / 4096, by omega⟩, ⟨n / 64 % 64, by omega⟩,
      ⟨n % 64, by omega⟩]
    refine ⟨_, .mk letters 2 1 ?_ (by decide) (by decide) (by simp [letters]), ?_⟩
    · simp only [letters, List.flatMap_cons, List.flatMap_nil, List.append_nil, List.append_assoc]
      exact bits_two a b
    · rw [encode_letters, encode_pads]
      rfl
  | case3 a n =>
    have ha := a.toNat_lt
    let letters : List (Fin 64) := [⟨n / 64, by omega⟩, ⟨n % 64, by omega⟩]
    refine ⟨_, .mk letters 4 2 ?_ (by decide) (by decide) (by simp [letters]), ?_⟩
    · simp only [letters, List.flatMap_cons, List.flatMap_nil, List.append_nil]
      exact bits_one a
    · rw [encode_letters, encode_pads]
      rfl
  | case4 => exact ⟨_, .mk [] 0 0 rfl (by decide) (by decide) rfl, rfl⟩

theorem length_flatMap_bits {α : Type} (w : Nat) (f : α → Nat) (l : List α) :
    (l.flatMap fun a => bits w (f a)).length = w * l.length := by
  induction l with
  | nil => rfl
  | cons a l ih =>
    rw [List.flatMap_cons, List.length_append, ih, length_bits, List.length_cons, Nat.mul_succ,
      Nat.add_comm]

theorem flatMap_bits_inj {letters letters' : List (Fin 64)}
    (hlen : letters.length = letters'.length)
    (h : letters.flatMap (bits 6 ·.val) = letters'.flatMap (bits 6 ·.val)) :
    letters = letters' := by
  induction letters generalizing letters' with
  | nil => exact (List.length_eq_zero_iff.mp hlen.symm).symm
  | cons v letters ih =>
    cases letters' with
    | nil => cases hlen
    | cons w letters' =>
      rw [List.flatMap_cons, List.flatMap_cons] at h
      obtain ⟨hv, hmore⟩ := List.append_inj h (by rw [length_bits, length_bits])
      rw [Fin.ext (bits_injOn v.isLt w.isLt hv), ih (Nat.succ.inj hlen) hmore]

theorem Canonical.unique {text' : List Char} (h : Canonical body text)
    (h' : Canonical body text') : text = text' := by
  obtain ⟨letters, filler, pads, hbits, hfiller, hpads, hfour⟩ := h
  obtain ⟨letters', filler', pads', hbits', hfiller', hpads', hfour'⟩ := h'
  have hlen := congrArg List.length hbits
  have hlen' := congrArg List.length hbits'
  rw [length_flatMap_bits, List.length_append, length_flatMap_bits, List.length_replicate]
    at hlen hlen'
  -- There is one number of letters for which less than a letter is filled up.
  obtain rfl : filler = filler' := by omega
  obtain rfl : letters = letters' := flatMap_bits_inj (by omega) (hbits.trans hbits'.symm)
  obtain rfl : pads = pads' := by omega
  rfl

/-- The bytes of a text are read exactly if it is the text of the body. -/
theorem decode_encode_eq_ok_iff : decode (Utf8.encode text) = .ok body ↔ Canonical body text := by
  obtain ⟨text', htext', hencode⟩ := exists_canonical body
  rw [decode_eq_ok_iff, ← hencode, Utf8.encode_injective.eq_iff]
  exact ⟨fun h => h ▸ htext', fun h => h.unique htext'⟩

end TaskBoard.Text.Base64
