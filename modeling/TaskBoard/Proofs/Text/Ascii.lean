import TaskBoard.Proofs.Text.Utf8

/-!
# ASCII bytes as text

Each byte below 128 is a character by itself.
-/

namespace TaskBoard.Text.Utf8

def asciiChar (b : UInt8) : Char := Char.ofNat b.toNat

theorem step_ascii {b : UInt8} (h : b < 0x80) (s : Bytes) : step b s = (some (asciiChar b), s) := by
  unfold step
  rw [if_pos h]
  rfl

theorem decodeOnto_ascii {s : Bytes} (h : ∀ b ∈ s, b < 0x80) (done : List Char) :
    decodeOnto done s = some (done.reverse ++ s.map asciiChar) := by
  induction s generalizing done with
  | nil => simp [decodeOnto]
  | cons b s ih =>
    rw [decodeOnto, step_ascii (h b List.mem_cons_self)]
    simp only
    rw [ih (fun c hc => h c (List.mem_cons_of_mem b hc)), List.reverse_cons, List.append_assoc,
      List.map_cons, List.singleton_append]

theorem decode?_ascii {s : Bytes} (h : ∀ b ∈ s, b < 0x80) : decode? s = some (s.map asciiChar) :=
  decodeOnto_ascii h []

/-! ## In encoded texts -/

theorem encodeChar_of_ascii {c : Char} (h : c.toNat < 0x80) :
    String.utf8EncodeChar c = [UInt8.ofNat c.toNat] := by
  have hbyte : (UInt8.ofNat c.toNat).toNat = c.toNat := by
    simp only [UInt8.toNat_ofNat']
    omega
  have hform : Form [UInt8.ofNat c.toNat] (UInt8.ofNat c.toNat).toNat := .one (hbyte.symm ▸ h)
  have hchar := encodeChar_of_form hform
  rwa [hbyte, Char.ofNat_toNat] at hchar

theorem map_asciiChar_encode {text : List Char} (h : ∀ c ∈ text, c.toNat < 0x80) :
    (encode text).map asciiChar = text := by
  induction text with
  | nil => rfl
  | cons c text ih =>
    rw [List.forall_mem_cons] at h
    have hbyte : (UInt8.ofNat c.toNat).toNat = c.toNat := by
      simp only [UInt8.toNat_ofNat']
      omega
    rw [encode_cons, encodeChar_of_ascii h.1, List.singleton_append, List.map_cons, ih h.2,
      asciiChar, hbyte, Char.ofNat_toNat]

theorem length_encode_of_ascii {text : List Char} (h : ∀ c ∈ text, c.toNat < 0x80) :
    (encode text).length = text.length := by
  have hlength := congrArg List.length (map_asciiChar_encode h)
  rwa [List.length_map] at hlength

theorem eq_asciiChar_of_mem_encodeChar {b : UInt8} {c : Char} (hb : b < 0x80)
    (h : b ∈ String.utf8EncodeChar c) : c = asciiChar b := by
  obtain ⟨a, t, ht⟩ := exists_encodeChar_cons c
  have hform : Form (a :: t) c.toNat := ht ▸ form_encodeChar c
  simp only [UInt8.lt_iff_toNat_lt, UInt8.reduceToNat] at hb
  rw [ht, List.mem_cons] at h
  rcases h with rfl | h
  · rcases hform.head_eq_or with heq | ⟨hhigh, -⟩
    · rw [asciiChar, heq, Char.ofNat_toNat]
    · omega
  · have hcont := isContinuation_iff.mp (hform.isContinuation_tail b h)
    omega

/-- An ASCII byte stands in an encoded text only for its character. -/
theorem asciiChar_mem_of_mem_encode {b : UInt8} {text : List Char} (hb : b < 0x80)
    (h : b ∈ encode text) : asciiChar b ∈ text := by
  obtain ⟨c, hc, hbc⟩ := List.mem_flatMap.mp h
  exact eq_asciiChar_of_mem_encodeChar hb hbc ▸ hc

end TaskBoard.Text.Utf8
