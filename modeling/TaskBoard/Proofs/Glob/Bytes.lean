import Mathlib.Data.List.Infix
import TaskBoard.Proofs.Glob.Language
import TaskBoard.Proofs.Text.Ascii

/-!
# Patterns over bytes

A server matches the bytes of a name against the bytes of a pattern, and knows classes of bytes as
well. A pattern in which only stars and escaped characters have a meaning stands for the same texts
as over characters.
-/

namespace TaskBoard.Text.ByteGlob

/-! ## The language -/

/-- What a part of a pattern stands for: any run of bytes, any one byte, one byte of a class or one
outside it, or one only. A class is a list of ranges. -/
inductive Token where
  | run
  | any
  | oneOf (negated : Bool) (ranges : List (UInt8 × UInt8))
  | byte (b : UInt8)
deriving DecidableEq, Repr

/-- The ranges of a class, and the pattern after it. The class goes on to `]` or to the end of the
pattern; a backslash takes away the meaning of the byte after it, and the ends of a range may be in
any order. -/
def readClass : Bytes → List (UInt8 × UInt8) × Bytes
  | [] => ([], [])
  | 0x5C :: b :: p => ((b, b) :: (readClass p).1, (readClass p).2)
  | 0x5D :: p => ([], p)
  | a :: 0x2D :: b :: p => ((min a b, max a b) :: (readClass p).1, (readClass p).2)
  | b :: p => ((b, b) :: (readClass p).1, (readClass p).2)

theorem readClass_length_le (p : Bytes) : (readClass p).2.length ≤ p.length := by
  fun_induction readClass p <;> simp only [List.length_cons, List.length_nil] <;> omega

/-- The tokens of a pattern: `*` is 2A, `?` is 3F, `[` is 5B, `^` is 5E, and a backslash is 5C. A
backslash at the very end stands for itself. -/
def tokens : Bytes → List Token
  | [] => []
  | 0x2A :: p => .run :: tokens p
  | 0x3F :: p => .any :: tokens p
  | 0x5B :: 0x5E :: p => .oneOf true (readClass p).1 :: tokens (readClass p).2
  | 0x5B :: p => .oneOf false (readClass p).1 :: tokens (readClass p).2
  | 0x5C :: b :: p => .byte b :: tokens p
  | b :: p => .byte b :: tokens p
termination_by p => p.length
decreasing_by
  all_goals simp only [List.length_cons]
  all_goals first
    | omega
    | have := readClass_length_le p
      omega

def Token.fits : Token → UInt8 → Bool
  | .run, _ => false
  | .any, _ => true
  | .oneOf negated ranges, x => ranges.any (fun r => r.1 ≤ x && x ≤ r.2) != negated
  | .byte b, x => b = x

/-- Whether tokens stand for a list of bytes. -/
def accepts : List Token → Bytes → Bool
  | [], s => s.isEmpty
  | .run :: ts, s => s.tails.any (accepts ts)
  | _ :: _, [] => false
  | tk :: ts, x :: s => tk.fits x && accepts ts s

variable {ts : List Token} {b : UInt8} {s u : Bytes} {c : Char} {text p : List Char}

theorem accepts_nil_iff : accepts [] s = true ↔ s = [] := List.isEmpty_iff

theorem accepts_run_iff : accepts (.run :: ts) s = true ↔ ∃ u, u <:+ s ∧ accepts ts u = true := by
  rw [accepts, List.any_eq_true]
  simp only [List.mem_tails]

theorem accepts_byte_iff :
    accepts (.byte b :: ts) s = true ↔ ∃ u, s = b :: u ∧ accepts ts u = true := by
  cases s with
  | nil => simp [accepts]
  | cons x s =>
    have hcons : accepts (.byte b :: ts) (x :: s) = (decide (b = x) && accepts ts s) := rfl
    rw [hcons, Bool.and_eq_true, decide_eq_true_eq]
    constructor
    · rintro ⟨rfl, hs⟩
      exact ⟨s, rfl, hs⟩
    · rintro ⟨u, hu, hacc⟩
      obtain ⟨rfl, rfl⟩ := List.cons.inj hu
      exact ⟨rfl, hacc⟩

theorem accepts_bytes_append (a : Bytes) :
    accepts (a.map .byte ++ ts) s = true ↔ ∃ u, s = a ++ u ∧ accepts ts u = true := by
  induction a generalizing s with
  | nil => simp
  | cons b a ih =>
    simp only [List.map_cons, List.cons_append, accepts_byte_iff, ih]
    constructor
    · rintro ⟨_, rfl, u, rfl, hu⟩
      exact ⟨u, rfl, hu⟩
    · rintro ⟨u, rfl, hu⟩
      exact ⟨a ++ u, rfl, u, rfl, hu⟩

/-! ## Suffixes of an encoded text -/

theorem suffix_of_suffix_append {t : Bytes} (ht : ∀ x ∈ t, Utf8.isContinuation x = true)
    (hb : Utf8.isContinuation b = false) (h : b :: u <:+ t ++ s) : b :: u <:+ s := by
  induction t with
  | nil => exact h
  | cons x t ih =>
    rw [List.forall_mem_cons] at ht
    rcases List.suffix_cons_iff.mp h with heq | h
    · rw [(List.cons.inj heq).1, ht.1] at hb
      cases hb
    · exact ih ht.2 h

/-- What begins where a character may begin is the encoding of the text from there on. -/
theorem exists_suffix_of_suffix_encode (hb : Utf8.isContinuation b = false)
    (h : b :: u <:+ Utf8.encode text) : ∃ v, v <:+ text ∧ b :: u = Utf8.encode v := by
  induction text with
  | nil => cases List.suffix_nil.mp h
  | cons c text ih =>
    obtain ⟨a, t, ht⟩ := Utf8.exists_encodeChar_cons c
    have hform : Utf8.Form (a :: t) c.toNat := ht ▸ Utf8.form_encodeChar c
    rw [Utf8.encode_cons, ht, List.cons_append] at h
    rcases List.suffix_cons_iff.mp h with heq | h
    · refine ⟨c :: text, List.suffix_rfl, ?_⟩
      rw [heq, Utf8.encode_cons, ht, List.cons_append]
    · obtain ⟨v, hv, heq⟩ := ih (suffix_of_suffix_append hform.isContinuation_tail hb h)
      exact ⟨v, hv.trans (List.suffix_cons c text), heq⟩

theorem encode_suffix {v : List Char} (h : v <:+ text) : Utf8.encode v <:+ Utf8.encode text := by
  obtain ⟨w, rfl⟩ := h
  rw [Utf8.encode_append]
  exact List.suffix_append _ _

/-! ## Tokens over characters and over bytes -/

/-- The tokens over bytes for one over characters. -/
def ofToken : Glob.Token → List Token
  | .run => [.run]
  | .any => [.any]
  | .char c => (String.utf8EncodeChar c).map .byte

theorem encode_eq_encodeChar_append_iff :
    Utf8.encode text = String.utf8EncodeChar c ++ u ↔
      ∃ v, text = c :: v ∧ u = Utf8.encode v := by
  constructor
  · intro h
    cases text with
    | nil =>
      obtain ⟨a, t, ht⟩ := Utf8.exists_encodeChar_cons c
      rw [ht] at h
      cases h
    | cons d v =>
      rw [Utf8.encode_cons] at h
      obtain ⟨rfl, rfl⟩ := Utf8.encodeChar_append_inj.mp h
      exact ⟨v, rfl, rfl⟩
  · rintro ⟨v, rfl, rfl⟩
    rfl

/-- Tokens that are runs and characters stand for the same texts over bytes as over characters. -/
theorem accepts_ofTokens {tokens : List Glob.Token} (h : .any ∉ tokens) :
    (∀ text, accepts (tokens.flatMap ofToken) (Utf8.encode text) = true ↔
      Glob.Reads tokens text) ∧
    ∀ text u, u <:+ Utf8.encode text → accepts (tokens.flatMap ofToken) u = true →
      ∃ v, v <:+ text ∧ Glob.Reads tokens v := by
  -- A run takes up bytes and not characters. So the induction is also about what the tokens stand
  -- for at any byte of the text; with a character first, that can only be where one begins.
  induction tokens with
  | nil =>
    refine ⟨fun text => ?_, fun text u _ hu => ⟨[], List.nil_suffix, rfl⟩⟩
    rw [List.flatMap_nil, accepts_nil_iff, Utf8.encode_eq_nil]
    rfl
  | cons tk tokens ih =>
    rw [List.mem_cons, not_or] at h
    obtain ⟨ihText, ihSuffix⟩ := ih h.2
    cases tk with
    | any => exact absurd rfl h.1
    | run =>
      have hrun : ∀ s, accepts ((Glob.Token.run :: tokens).flatMap ofToken) s = true ↔
          ∃ u, u <:+ s ∧ accepts (tokens.flatMap ofToken) u = true := fun s => accepts_run_iff
      refine ⟨fun text => ?_, fun text u hu hacc => ?_⟩
      · rw [hrun]
        constructor
        · rintro ⟨u, hu, hacc⟩
          exact ihSuffix text u hu hacc
        · rintro ⟨v, hv, hreads⟩
          exact ⟨Utf8.encode v, encode_suffix hv, (ihText v).mpr hreads⟩
      · obtain ⟨u', hu', hacc'⟩ := (hrun u).mp hacc
        obtain ⟨v, hv, hreads⟩ := ihSuffix text u' (hu'.trans hu) hacc'
        exact ⟨v, hv, v, List.suffix_rfl, hreads⟩
    | char c =>
      have hchar : ∀ s, accepts ((Glob.Token.char c :: tokens).flatMap ofToken) s = true ↔
          ∃ u, s = String.utf8EncodeChar c ++ u ∧ accepts (tokens.flatMap ofToken) u = true := by
        intro s
        rw [List.flatMap_cons, ofToken, accepts_bytes_append]
      have htext : ∀ text, accepts ((Glob.Token.char c :: tokens).flatMap ofToken)
          (Utf8.encode text) = true ↔ Glob.Reads (.char c :: tokens) text := by
        intro text
        rw [hchar]
        constructor
        · rintro ⟨u, hu, hacc⟩
          obtain ⟨v, rfl, rfl⟩ := encode_eq_encodeChar_append_iff.mp hu
          exact ⟨v, rfl, (ihText v).mp hacc⟩
        · rintro ⟨v, rfl, hreads⟩
          exact ⟨Utf8.encode v, rfl, (ihText v).mpr hreads⟩
      refine ⟨htext, fun text u hu hacc => ?_⟩
      obtain ⟨u', rfl, -⟩ := (hchar u).mp hacc
      obtain ⟨a, t, ht⟩ := Utf8.exists_encodeChar_cons c
      have hform : Utf8.Form (a :: t) c.toNat := ht ▸ Utf8.form_encodeChar c
      rw [ht, List.cons_append] at hu hacc
      obtain ⟨v, hv, heq⟩ := exists_suffix_of_suffix_encode hform.isContinuation_head hu
      rw [heq, htext] at hacc
      exact ⟨v, hv, hacc⟩

/-! ## Patterns with escapes and stars -/

/-- A pattern in which nothing has a meaning but stars and backslashes before characters that would
have one. -/
inductive Simple : List Char → Prop
  | nil : Simple []
  | star {p : List Char} (hp : Simple p) : Simple ('*' :: p)
  | escaped {c : Char} {p : List Char} (hc : Glob.isMeta c = true) (hp : Simple p) :
    Simple ('\\' :: c :: p)
  | literal {c : Char} {p : List Char} (hc : Glob.isMeta c = false) (hp : Simple p) :
    Simple (c :: p)

theorem Simple.escape_append (s : List Char) (hp : Simple p) : Simple (Glob.escape s ++ p) := by
  induction s with
  | nil => exact hp
  | cons c s ih =>
    have hcons : Glob.escape (c :: s) = (if Glob.isMeta c then ['\\', c] else [c]) ++ Glob.escape s :=
      rfl
    rw [hcons, List.append_assoc]
    by_cases hc : Glob.isMeta c = true
    · rw [if_pos hc]
      exact Simple.escaped hc ih
    · rw [if_neg hc]
      exact Simple.literal (Bool.eq_false_iff.mpr hc) ih

theorem Simple.any_not_mem (h : Simple p) : .any ∉ Glob.tokens p := by
  induction h with
  | nil => simp [Glob.tokens]
  | star hp ih => simpa [Glob.tokens] using ih
  | escaped hc hp ih => simpa [Glob.tokens] using ih
  | literal hc hp ih =>
    simp only [Glob.isMeta, Bool.or_eq_false_iff, decide_eq_false_iff_not] at hc
    obtain ⟨⟨⟨⟨hs, hq⟩, -⟩, -⟩, hb⟩ := hc
    rw [Glob.tokens_literal hs hq hb]
    simpa using ih

def isMeta (b : UInt8) : Bool := b = 0x2A || b = 0x3F || b = 0x5B || b = 0x5C

theorem tokens_literal (hb : isMeta b = false) (p : Bytes) :
    tokens (b :: p) = .byte b :: tokens p := by
  simp only [isMeta, Bool.or_eq_false_iff, decide_eq_false_iff_not] at hb
  obtain ⟨⟨⟨hs, hq⟩, hc⟩, hb⟩ := hb
  rw [tokens]
  · exact hs
  · exact hq
  · intro _ h _
    exact hc h
  · exact hc
  · intro _ _ h _
    exact hb h

theorem isMeta_of_mem_encodeChar (hc : Glob.isMeta c = false) :
    ∀ b ∈ String.utf8EncodeChar c, isMeta b = false := by
  intro b hb
  rw [Bool.eq_false_iff]
  intro hmeta
  have hascii : b < 0x80 ∧ Glob.isMeta (Utf8.asciiChar b) = true := by
    simp only [isMeta, Bool.or_eq_true, decide_eq_true_eq] at hmeta
    rcases hmeta with ((rfl | rfl) | rfl) | rfl <;> decide
  rw [Utf8.eq_asciiChar_of_mem_encodeChar hascii.1 hb, hascii.2] at hc
  cases hc

theorem tokens_literals_append {a : Bytes} (ha : ∀ b ∈ a, isMeta b = false) (p : Bytes) :
    tokens (a ++ p) = a.map .byte ++ tokens p := by
  induction a with
  | nil => rfl
  | cons b a ih =>
    rw [List.forall_mem_cons] at ha
    rw [List.cons_append, tokens_literal ha.1, ih ha.2]
    rfl

theorem tokens_star_cons (p : Bytes) : tokens (0x2A :: p) = .run :: tokens p := by
  rw [tokens]

theorem tokens_escaped_cons (b : UInt8) (p : Bytes) :
    tokens (0x5C :: b :: p) = .byte b :: tokens p := by
  rw [tokens]

theorem encodeChar_of_isMeta (hc : Glob.isMeta c = true) : ∃ b, String.utf8EncodeChar c = [b] := by
  simp only [Glob.isMeta, Bool.or_eq_true, decide_eq_true_eq] at hc
  rcases hc with (((rfl | rfl) | rfl) | rfl) | rfl <;> exact ⟨_, rfl⟩

theorem Simple.tokens_encode (h : Simple p) :
    tokens (Utf8.encode p) = (Glob.tokens p).flatMap ofToken := by
  induction h with
  | nil => simp [tokens, Glob.tokens]
  | star hp ih =>
    rw [Glob.tokens, List.flatMap_cons, ← ih]
    exact tokens_star_cons _
  | @escaped c p hc hp ih =>
    obtain ⟨b, hb⟩ := encodeChar_of_isMeta hc
    have hbytes : Utf8.encode ('\\' :: c :: p) = 0x5C :: b :: Utf8.encode p := by
      rw [Utf8.encode_cons, Utf8.encode_cons, hb]
      rfl
    rw [hbytes, tokens_escaped_cons, ih, Glob.tokens, List.flatMap_cons, ofToken, hb]
    rfl
  | @literal c p hc hp ih =>
    have hmeta := hc
    simp only [Glob.isMeta, Bool.or_eq_false_iff, decide_eq_false_iff_not] at hmeta
    obtain ⟨⟨⟨⟨hs, hq⟩, -⟩, -⟩, hb⟩ := hmeta
    rw [Utf8.encode_cons, tokens_literals_append (isMeta_of_mem_encodeChar hc), ih,
      Glob.tokens_literal hs hq hb]
    rfl

/-- Such a pattern stands for the same texts over bytes as over characters. -/
theorem Simple.accepts_encode_iff (h : Simple p) :
    accepts (tokens (Utf8.encode p)) (Utf8.encode text) = true ↔
      Glob.Reads (Glob.tokens p) text := by
  rw [h.tokens_encode]
  exact (accepts_ofTokens h.any_not_mem).1 text

/-- It would not do so if it had a question mark, which is one byte to a server. -/
example : accepts (tokens (Utf8.encode ['?'])) (Utf8.encode ['é']) = false ∧
    Glob.Reads (Glob.tokens ['?']) ['é'] :=
  ⟨by cbv, 'é', [], rfl, rfl⟩

end TaskBoard.Text.ByteGlob
