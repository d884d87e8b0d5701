import Mathlib.Data.List.TakeWhile
import TaskBoard.Json.Reader
import TaskBoard.Json.Writer
import TaskBoard.Proofs.Text.Utf8

/-!
# JSON strings

What is read as a string is what the grammar of JSON strings derives, and it is read as the text
that the grammar gives it.
-/

namespace TaskBoard.Json

open Text Text.Utf8

/-! ## The grammar -/

inductive HexDigit : UInt8 → Nat → Prop
  | digit {v : Nat} : v < 10 → HexDigit (UInt8.ofNat ('0'.toNat + v)) v
  | lower {v : Nat} : v < 6 → HexDigit (UInt8.ofNat ('a'.toNat + v)) (10 + v)
  | upper {v : Nat} : v < 6 → HexDigit (UInt8.ofNat ('A'.toNat + v)) (10 + v)

inductive FourDigits : Bytes → Nat → Prop
  | mk {a b c d : UInt8} {w x y z : Nat} : HexDigit a w → HexDigit b x → HexDigit c y →
    HexDigit d z → FourDigits [a, b, c, d] (((w * 16 + x) * 16 + y) * 16 + z)

/-- The letters after a backslash, with what they stand for. -/
def letters : List (Char × Char) :=
  [('"', '"'), ('\\', '\\'), ('/', '/'), ('b', '\x08'), ('f', '\x0c'), ('n', '\n'), ('r', '\r'),
    ('t', '\t')]

/-- The number of a character, or the numbers of the two halves of one that four digits do not
reach. No character has the number of a half. -/
inductive CodeUnits : Bytes → Char → Prop
  | one {digits : Bytes} {c : Char} : FourDigits digits c.toNat → CodeUnits digits c
  | two {high low : Bytes} {c : Char} : 0x10000 ≤ c.toNat →
    FourDigits high (0xD800 + (c.toNat - 0x10000) / 0x400) →
    FourDigits low (0xDC00 + (c.toNat - 0x10000) % 0x400) →
    CodeUnits (high ++ backslash :: letterU :: low) c

/-- What follows a backslash. -/
inductive Escape : Bytes → Char → Prop
  | letter {l c : Char} : (l, c) ∈ letters → Escape [UInt8.ofNat l.toNat] c
  | units {e : Bytes} {c : Char} : CodeUnits e c → Escape (letterU :: e) c

/-- A character that may stand for itself. -/
def PlainChar (c : Char) : Prop := 0x20 ≤ c.toNat ∧ c ≠ '"' ∧ c ≠ '\\'

inductive Piece : Bytes → Char → Prop
  | plain {c : Char} : PlainChar c → Piece (String.utf8EncodeChar c) c
  | escape {e : Bytes} {c : Char} : Escape e c → Piece (backslash :: e) c

inductive Spells : Bytes → List Char → Prop
  | nil : Spells [] []
  | cons {p s : Bytes} {c : Char} {text : List Char} : Piece p c → Spells s text →
    Spells (p ++ s) (c :: text)

def Blank (s : Bytes) : Prop := ∀ b ∈ s, b ∈ [0x20, 0x09, 0x0A, 0x0D]

/-- The bytes are a JSON text that consists of one string. -/
inductive StringText : Bytes → List Char → Prop
  | mk {before body after : Bytes} {text : List Char} : Blank before → Spells body text →
    Blank after → StringText (before ++ quote :: (body ++ quote :: after)) text

/-! ## Escapes -/

variable {s rest : Bytes} {n : Nat} {c : Char}

theorem hexValue?_of_digit {b : UInt8} (h : HexDigit b n) : hexValue? b = some n := by
  cases h <;> simp only [hexValue?, UInt8.toNat_ofNat', Char.reduceToNat] <;> split_ifs <;>
    first | omega | (congr 1; omega)

theorem hexDigit_of_value {b : UInt8} (h : hexValue? b = some n) : HexDigit b n := by
  have hbyte : ∀ {k v : Nat}, k + v = b.toNat → UInt8.ofNat (k + v) = b :=
    fun h => h ▸ UInt8.ofNat_toNat
  unfold hexValue? at h
  simp only at h
  split_ifs at h with h₁ h₂ h₃ <;> obtain rfl := Option.some.inj h
  · have hdigit : HexDigit (UInt8.ofNat (48 + (b.toNat - 48))) (b.toNat - 48) :=
      .digit (by omega)
    rwa [hbyte (Nat.add_sub_cancel' h₁.1)] at hdigit
  · have hvalue : 10 + (b.toNat - 65) = b.toNat - 55 := by omega
    have hupper : HexDigit (UInt8.ofNat (65 + (b.toNat - 65))) (10 + (b.toNat - 65)) :=
      .upper (by omega)
    rwa [hbyte (Nat.add_sub_cancel' h₂.1), hvalue] at hupper
  · have hvalue : 10 + (b.toNat - 97) = b.toNat - 87 := by omega
    have hlower : HexDigit (UInt8.ofNat (97 + (b.toNat - 97))) (10 + (b.toNat - 97)) :=
      .lower (by omega)
    rwa [hbyte (Nat.add_sub_cancel' h₃.1), hvalue] at hlower

theorem HexDigit.lt {b : UInt8} (h : HexDigit b n) : n < 16 := by
  cases h <;> omega

theorem FourDigits.lt {digits : Bytes} (h : FourDigits digits n) : n < 0x10000 := by
  cases h with
  | mk ha hb hc hd =>
    have := ha.lt
    have := hb.lt
    have := hc.lt
    have := hd.lt
    omega

theorem hex4_append {digits : Bytes} (h : FourDigits digits n) (rest : Bytes) :
    hex4 (digits ++ rest) = .ok (n, rest) := by
  cases h with
  | mk ha hb hc hd =>
    simp [hex4, hexValue?_of_digit ha, hexValue?_of_digit hb, hexValue?_of_digit hc,
      hexValue?_of_digit hd]

theorem fourDigits_of_hex4 (h : hex4 s = .ok (n, rest)) :
    ∃ digits, FourDigits digits n ∧ s = digits ++ rest := by
  revert h
  fun_cases hex4 s <;> intro h <;> cases h
  next hd hc hb ha =>
    exact ⟨_, .mk (hexDigit_of_value ha) (hexDigit_of_value hb) (hexDigit_of_value hc)
      (hexDigit_of_value hd), rfl⟩

theorem lowSurrogate_append {digits : Bytes} (h : FourDigits digits n)
    (hlow : isLowSurrogate n = true) (rest : Bytes) :
    lowSurrogate (backslash :: letterU :: (digits ++ rest)) = .ok (n, rest) := by
  simp [lowSurrogate, hex4_append h, hlow]

theorem fourDigits_of_lowSurrogate (h : lowSurrogate s = .ok (n, rest)) :
    isLowSurrogate n = true ∧
      ∃ digits, FourDigits digits n ∧ s = backslash :: letterU :: (digits ++ rest) := by
  revert h
  fun_cases lowSurrogate s <;> intro h <;> cases h
  next s hlow hhex =>
    obtain ⟨digits, hdigits, rfl⟩ := fourDigits_of_hex4 hhex
    exact ⟨hlow, digits, hdigits, rfl⟩

theorem isLowSurrogate_iff : isLowSurrogate n = true ↔ 0xDC00 ≤ n ∧ n ≤ 0xDFFF := by
  simp [isLowSurrogate]

theorem isHighSurrogate_iff : isHighSurrogate n = true ↔ 0xD800 ≤ n ∧ n ≤ 0xDBFF := by
  simp [isHighSurrogate]

theorem unicodeEscape_append {e : Bytes} (h : CodeUnits e c) (rest : Bytes) :
    unicodeEscape (e ++ rest) = .ok (c, rest) := by
  have hvalid : c.toNat < 0xD800 ∨ 0xDFFF < c.toNat ∧ c.toNat < 0x110000 := c.valid
  cases h with
  | one hdigits =>
    have hlow : isLowSurrogate c.toNat = false := by
      rw [Bool.eq_false_iff, ne_eq, isLowSurrogate_iff]
      omega
    have hhigh : isHighSurrogate c.toNat = false := by
      rw [Bool.eq_false_iff, ne_eq, isHighSurrogate_iff]
      omega
    simp [unicodeEscape, hex4_append hdigits, hlow, hhigh]
  | @two high low c hbig hhigh hlow =>
    have h₁ : isLowSurrogate (0xD800 + (c.toNat - 0x10000) / 0x400) = false := by
      rw [Bool.eq_false_iff, ne_eq, isLowSurrogate_iff]
      omega
    have h₂ : isHighSurrogate (0xD800 + (c.toNat - 0x10000) / 0x400) = true := by
      rw [isHighSurrogate_iff]
      omega
    have h₃ : isLowSurrogate (0xDC00 + (c.toNat - 0x10000) % 0x400) = true := by
      rw [isLowSurrogate_iff]
      omega
    have hc : pairChar (0xD800 + (c.toNat - 0x10000) / 0x400)
        (0xDC00 + (c.toNat - 0x10000) % 0x400) = c := by
      have hsum : 0x10000 + (0xD800 + (c.toNat - 0x10000) / 0x400 - 0xD800) * 0x400 +
          (0xDC00 + (c.toNat - 0x10000) % 0x400 - 0xDC00) = c.toNat := by omega
      rw [pairChar, hsum, Char.ofNat_toNat]
    rw [List.append_assoc, List.cons_append, List.cons_append]
    simp only [unicodeEscape, hex4_append hhigh, h₁, h₂, lowSurrogate_append hlow h₃, hc]
    rfl

theorem codeUnits_of_unicodeEscape (h : unicodeEscape s = .ok (c, rest)) :
    ∃ e, CodeUnits e c ∧ s = e ++ rest := by
  revert h
  fun_cases unicodeEscape s <;> intro h <;>
    simp only [Except.ok.injEq, Prod.mk.injEq, reduceCtorEq] at h <;> obtain ⟨rfl, rfl⟩ := h
  · next n s hhex hlow hhigh m s' hm =>
    obtain ⟨high, hhigh', rfl⟩ := fourDigits_of_hex4 hhex
    obtain ⟨hsecond, low, hlow', rfl⟩ := fourDigits_of_lowSurrogate hm
    rw [isHighSurrogate_iff] at hhigh
    rw [isLowSurrogate_iff] at hsecond
    have hpair : (pairChar n m).toNat = 0x10000 + (n - 0xD800) * 0x400 + (m - 0xDC00) :=
      toNat_ofNat (.inr (by omega))
    have hn : 0xD800 + ((pairChar n m).toNat - 0x10000) / 0x400 = n := by omega
    have hm : 0xDC00 + ((pairChar n m).toNat - 0x10000) % 0x400 = m := by omega
    exact ⟨_, .two (by omega) (hn.symm ▸ hhigh') (hm.symm ▸ hlow'), by simp⟩
  · next n s' hhex hlow hhigh =>
    obtain ⟨digits, hdigits, rfl⟩ := fourDigits_of_hex4 hhex
    rw [isHighSurrogate_iff] at hhigh
    rw [isLowSurrogate_iff] at hlow
    have := hdigits.lt
    have hn : (Char.ofNat n).toNat = n := toNat_ofNat (by unfold Nat.isValidChar; omega)
    exact ⟨digits, .one (by rwa [hn]), rfl⟩

theorem simpleEscape?_of_letter {l : Char} (h : (l, c) ∈ letters) :
    simpleEscape? (UInt8.ofNat l.toNat) = some c := by
  have hall : ∀ e ∈ letters, simpleEscape? (UInt8.ofNat e.1.toNat) = some e.2 := by decide
  exact hall _ h

theorem letter_of_simpleEscape? {b : UInt8} (h : simpleEscape? b = some c) :
    ∃ l, (l, c) ∈ letters ∧ b = UInt8.ofNat l.toNat := by
  revert h
  fun_cases simpleEscape? b <;> intro h <;> cases h
  all_goals subst b; simp [letters]

theorem escape_append {e : Bytes} (h : Escape e c) (rest : Bytes) :
    escape (e ++ rest) = .ok (c, rest) := by
  cases h with
  | letter hl => simp [escape, simpleEscape?_of_letter hl]
  | units he =>
    have hletter : simpleEscape? letterU = none := by decide
    simp [escape, hletter, unicodeEscape_append he]

theorem escape_of_read (h : escape s = .ok (c, rest)) : ∃ e, Escape e c ∧ s = e ++ rest := by
  revert h
  fun_cases escape s <;> intro h
  · cases h
  · next b s c' hc =>
    cases h
    obtain ⟨l, hl, rfl⟩ := letter_of_simpleEscape? hc
    exact ⟨_, .letter hl, rfl⟩
  · next s hnone =>
    obtain ⟨e, he, rfl⟩ := codeUnits_of_unicodeEscape h
    exact ⟨_, .units he, rfl⟩
  · cases h

/-! ## The bytes between the quotes -/

def PlainByte (b : UInt8) : Prop := 0x20 ≤ b ∧ b ≠ quote ∧ b ≠ backslash

theorem plainByte_iff {a : UInt8} {u : Bytes} (h : String.utf8EncodeChar c = a :: u) :
    PlainByte a ↔ PlainChar c := by
  have hquote : c = '"' ↔ c.toNat = 34 := by rw [← Char.toNat_inj]; rfl
  have hslash : c = '\\' ↔ c.toNat = 92 := by rw [← Char.toNat_inj]; rfl
  simp only [PlainByte, PlainChar, quote, backslash, ne_eq, ← UInt8.toNat_inj,
    UInt8.le_iff_toNat_le, UInt8.reduceToNat, hquote, hslash]
  rcases (h ▸ form_encodeChar c).head_eq_or with ha | ⟨ha, hc⟩
  · rw [ha]
  · omega

theorem plainByte_of_isContinuation {b : UInt8} (h : isContinuation b = true) : PlainByte b := by
  rw [isContinuation_iff] at h
  simp only [PlainByte, quote, backslash, ne_eq, ← UInt8.toNat_inj, UInt8.le_iff_toNat_le,
    UInt8.reduceToNat]
  omega

theorem plainByte_of_mem (h : PlainChar c) : ∀ b ∈ String.utf8EncodeChar c, PlainByte b := by
  obtain ⟨a, u, hu⟩ := exists_encodeChar_cons c
  rw [hu, List.forall_mem_cons]
  exact ⟨(plainByte_iff hu).mpr h, fun b hb =>
    plainByte_of_isContinuation ((hu ▸ form_encodeChar c).isContinuation_tail b hb)⟩

/-- The bytes between the quotes with the bytes that they are read as. What stands for itself is
taken byte by byte, whether it is text or not. -/
inductive Reads : Bytes → Bytes → Prop
  | nil : Reads [] []
  | byte {b : UInt8} {s t : Bytes} : PlainByte b → Reads s t → Reads (b :: s) (b :: t)
  | escape {e s t : Bytes} {c : Char} : Escape e c → Reads s t →
    Reads (backslash :: (e ++ s)) (String.utf8EncodeChar c ++ t)

variable {done bytes body t : Bytes} {text : List Char}

theorem stringOnto_escape (h : escape s = .ok (c, rest)) (done : Bytes) :
    stringOnto done (backslash :: s) =
      stringOnto ((String.utf8EncodeChar c).reverse ++ done) rest := by
  rw [stringOnto, if_neg (by decide), if_pos rfl]
  split
  · next hread =>
    rw [h] at hread
    cases hread
    rfl
  · next hread =>
    rw [h] at hread
    cases hread

theorem Reads.stringOnto (h : Reads body t) (done rest : Bytes) :
    stringOnto done (body ++ quote :: rest) = .ok (done.reverse ++ t, rest) := by
  induction h generalizing done with
  | nil => simp [Json.stringOnto]
  | @byte b s t hb _ ih =>
    rw [List.cons_append, Json.stringOnto, if_neg hb.2.1, if_neg hb.2.2,
      if_neg (UInt8.not_lt.mpr hb.1), ih]
    simp
  | @escape e s t c he _ ih =>
    rw [List.cons_append, List.append_assoc, stringOnto_escape (escape_append he _), ih]
    simp

theorem reads_of_stringOnto (h : stringOnto done s = .ok (bytes, rest)) :
    ∃ body t, Reads body t ∧ s = body ++ quote :: rest ∧ bytes = done.reverse ++ t := by
  fun_induction stringOnto done s with
  | case1 => cases h
  | case2 done s =>
    cases h
    exact ⟨[], [], .nil, rfl, by simp⟩
  | case3 done s c rest' hescape _ ih =>
    obtain ⟨e, he, rfl⟩ := escape_of_read hescape
    obtain ⟨body, t, hreads, rfl, rfl⟩ := ih h
    exact ⟨_, _, .escape he hreads, by simp, by simp⟩
  | case4 => cases h
  | case5 => cases h
  | case6 done b s hquote hslash hb ih =>
    obtain ⟨body, t, hreads, rfl, rfl⟩ := ih h
    exact ⟨_, _, .byte ⟨UInt8.not_lt.mp hb, hquote, hslash⟩ hreads, by simp, by simp⟩

/-- Bytes in the middle of a character cannot come from an escape. -/
theorem Reads.continued {more : Bytes} (h : Reads body (t ++ more))
    (ht : ∀ b ∈ t, isContinuation b = true) : ∃ body', body = t ++ body' ∧ Reads body' more := by
  induction t generalizing body with
  | nil => exact ⟨body, rfl, h⟩
  | cons b t ih =>
    generalize hwhole : b :: t ++ more = whole at h
    cases h with
    | nil => cases hwhole
    | byte _ hreads =>
      obtain ⟨rfl, rfl⟩ := hwhole
      obtain ⟨body', rfl, hbody'⟩ := ih hreads fun c hc => ht c (List.mem_cons_of_mem b hc)
      exact ⟨body', rfl, hbody'⟩
    | @escape e s t' c he hreads =>
      obtain ⟨a, u, hu⟩ := exists_encodeChar_cons c
      rw [hu] at hwhole
      have ha := (hu ▸ form_encodeChar c).isContinuation_head
      obtain ⟨rfl, -⟩ := List.cons.inj hwhole
      rw [ht b List.mem_cons_self] at ha
      cases ha

theorem Reads.plain_append {p : Bytes} (h : Reads body t) (hp : ∀ b ∈ p, PlainByte b) :
    Reads (p ++ body) (p ++ t) := by
  induction p with
  | nil => exact h
  | cons b p ih =>
    rw [List.forall_mem_cons] at hp
    exact .byte hp.1 (ih hp.2)

theorem Spells.reads (h : Spells body text) : Reads body (encode text) := by
  induction h with
  | nil => exact .nil
  | @cons p s c text hp _ ih =>
    cases hp with
    | escape he => exact .escape he ih
    | plain hc => exact ih.plain_append (plainByte_of_mem hc)

theorem Reads.spells (h : Reads body (encode text)) : Spells body text := by
  -- The first character comes from one escape, or else all of its bytes stand for themselves.
  induction text generalizing body with
  | nil =>
    generalize hwhole : encode [] = whole at h
    cases h with
    | nil => exact .nil
    | byte => cases hwhole
    | escape => cases String.utf8EncodeChar_ne_nil (List.append_eq_nil_iff.mp hwhole.symm).1
  | cons c text ih =>
    generalize hwhole : encode (c :: text) = whole at h
    cases h with
    | nil => cases encode_eq_nil.mp hwhole
    | @byte b s t hb hreads =>
      obtain ⟨a, u, hu⟩ := exists_encodeChar_cons c
      rw [encode_cons, hu] at hwhole
      obtain ⟨rfl, rfl⟩ := List.cons.inj hwhole
      obtain ⟨body', rfl, hbody'⟩ :=
        hreads.continued (hu ▸ form_encodeChar c).isContinuation_tail
      rw [← List.cons_append, ← hu]
      exact .cons (.plain ((plainByte_iff hu).mp hb)) (ih hbody')
    | @escape e s t d he hreads =>
      obtain ⟨rfl, rfl⟩ := encodeChar_append_inj.mp hwhole
      rw [← List.cons_append]
      exact .cons (.escape he) (ih hreads)

/-! ## Whole texts -/

theorem string_eq_ok_iff : string s = .ok (text, rest) ↔
    ∃ body, Spells body text ∧ s = body ++ quote :: rest := by
  constructor
  · intro h
    revert h
    fun_cases string s <;> intro h <;> cases h
    next bytes htext hbytes =>
      obtain ⟨body, t, hreads, rfl, rfl⟩ := reads_of_stringOnto hbytes
      obtain rfl := decode?_eq_some_iff.mp htext
      exact ⟨body, hreads.spells, rfl⟩
  · rintro ⟨body, hbody, rfl⟩
    have hbytes := hbody.reads.stringOnto [] rest
    have htext : decode? (encode text) = some text := decode?_eq_some_iff.mpr rfl
    simp [string, hbytes, htext]

theorem forall_isBlank_iff {s : Bytes} : (∀ b ∈ s, isBlank b = true) ↔ Blank s := by
  simp [Blank, isBlank, or_assoc]

theorem skipBlank_append {before : Bytes} (h : Blank before) (s : Bytes) :
    skipBlank (before ++ s) = skipBlank s :=
  List.dropWhile_append_of_pos (forall_isBlank_iff.mpr h)

theorem blank_append_skipBlank (s : Bytes) : ∃ before, Blank before ∧ s = before ++ skipBlank s :=
  ⟨s.takeWhile isBlank, forall_isBlank_iff.mp (List.all_eq_true.mp List.all_takeWhile),
    List.takeWhile_append_dropWhile.symm⟩

theorem atEnd_eq_ok_iff : atEnd s = .ok () ↔ Blank s := by
  have h : skipBlank s = [] ↔ Blank s := by
    rw [skipBlank, List.dropWhile_eq_nil_iff, forall_isBlank_iff]
  rw [← h, atEnd]
  split <;> simp_all

theorem text_eq_ok_iff : Json.text s = .ok (text, rest) ↔
    ∃ before body, Blank before ∧ Spells body text ∧
      s = before ++ quote :: (body ++ quote :: rest) := by
  constructor
  · intro h
    obtain ⟨before, hbefore, hs⟩ := blank_append_skipBlank s
    unfold Json.text at h
    split at h
    · next b more hmore =>
      split at h
      · next hb =>
        obtain ⟨body, hbody, rfl⟩ := string_eq_ok_iff.mp h
        exact ⟨before, body, hbefore, hbody, by rw [hs, hmore, hb]⟩
      · cases h
    · cases h
  · rintro ⟨before, body, hbefore, hbody, rfl⟩
    have hquote : skipBlank (quote :: (body ++ quote :: rest)) =
        quote :: (body ++ quote :: rest) := List.dropWhile_cons_of_neg (by decide)
    rw [Json.text, skipBlank_append hbefore, hquote]
    simp only [if_pos]
    exact string_eq_ok_iff.mpr ⟨body, hbody, rfl⟩

theorem whole_eq_ok_iff {α : Type} {r : Reader α} {a : α} :
    whole r s = .ok a ↔ ∃ rest, r s = .ok (a, rest) ∧ Blank rest := by
  unfold whole
  constructor
  · intro h
    match hread : r s, h with
    | .error e, h => cases h
    | .ok (b, rest), h =>
      match hend : atEnd rest, h with
      | .error e, h =>
        simp only [bind, Except.bind, hend] at h
        cases h
      | .ok (), h =>
        simp only [bind, Except.bind, hend] at h
        cases h
        exact ⟨rest, rfl, atEnd_eq_ok_iff.mp hend⟩
  · rintro ⟨rest, hread, hrest⟩
    rw [hread]
    simp [bind, Except.bind, atEnd_eq_ok_iff.mpr hrest, pure, Except.pure]

/-- A text is read as one string exactly if the grammar makes it one, and as what the grammar
makes it. -/
theorem whole_text_eq_ok_iff : whole Json.text s = .ok text ↔ StringText s text := by
  rw [whole_eq_ok_iff]
  constructor
  · rintro ⟨after, h, hafter⟩
    obtain ⟨before, body, hbefore, hbody, rfl⟩ := text_eq_ok_iff.mp h
    exact .mk hbefore hbody hafter
  · rintro ⟨hbefore, hbody, hafter⟩
    exact ⟨_, text_eq_ok_iff.mpr ⟨_, _, hbefore, hbody, rfl⟩, hafter⟩

theorem StringText.unique {text' : List Char} (h : StringText s text) (h' : StringText s text') :
    text = text' := by
  rw [← whole_text_eq_ok_iff] at h h'
  rw [h] at h'
  exact Except.ok.inj h'

/-! ## Written strings -/

theorem hexDigit_encodeChar {v : Nat} (h : v < 16) :
    ∃ b, String.utf8EncodeChar (hexDigit v) = [b] ∧ HexDigit b v := by
  have hall : ∀ v < 16, String.utf8EncodeChar (hexDigit v) = [UInt8.ofNat (hexDigit v).toNat] ∧
      hexValue? (UInt8.ofNat (hexDigit v).toNat) = some v := by decide
  exact ⟨_, (hall v h).1, hexDigit_of_value (hall v h).2⟩

theorem piece_escaped (c : Char) : Piece (encode (escaped c)) c := by
  fun_cases escaped c
  case case8 hcontrol =>
    obtain ⟨a, ha, hhigh⟩ := hexDigit_encodeChar (show c.toNat / 16 < 16 by omega)
    obtain ⟨b, hb, hlow⟩ := hexDigit_encodeChar (show c.toNat % 16 < 16 by omega)
    have hzero : HexDigit 0x30 0 := hexDigit_of_value rfl
    have hdigits : FourDigits [0x30, 0x30, a, b] c.toNat := by
      have h := FourDigits.mk hzero hzero hhigh hlow
      rwa [Nat.zero_mul, Nat.zero_add, Nat.div_add_mod'] at h
    have hencode : encode ['\\', 'u', '0', '0', hexDigit (c.toNat / 16), hexDigit (c.toNat % 16)] =
        backslash :: letterU :: [0x30, 0x30, a, b] := by
      simp only [encode_cons, ha, hb]
      rfl
    rw [hencode]
    exact .escape (.units (.one hdigits))
  case case9 hquote hslash _ _ _ _ _ hcontrol =>
    rw [encode_cons, encode_nil, List.append_nil]
    exact .plain ⟨Nat.not_lt.mp hcontrol, hquote, hslash⟩
  all_goals
    subst c
    exact .escape (.letter (by decide))

theorem spells_escaped (text : List Char) : Spells (encode (text.flatMap escaped)) text := by
  induction text with
  | nil => exact .nil
  | cons c text ih =>
    rw [List.flatMap_cons, encode_append]
    exact .cons (piece_escaped c) ih

/-- What is written as a string is read as the text that was written. -/
theorem stringText_quoted (text : List Char) : StringText (encode (quoted text)) text := by
  have h : StringText ([] ++ quote :: (encode (text.flatMap escaped) ++ quote :: [])) text :=
    .mk (by simp [Blank]) (spells_escaped text) (by simp [Blank])
  rw [quoted, List.cons_append, encode_cons, encode_append]
  exact h

end TaskBoard.Json
