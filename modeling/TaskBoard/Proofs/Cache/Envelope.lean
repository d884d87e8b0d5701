import Mathlib.Data.List.Basic
import TaskBoard.Cache.Envelope
import TaskBoard.Proofs.Json.StringText
import TaskBoard.Proofs.Text.Base64

/-!
# What is kept of a body

A stored value is a JSON text of one string, the Base64 text of the body. Each body has one such
text, and every value that is read as a body holds it.
-/

namespace TaskBoard.Cache.Envelope

open Text

variable {raw body : Bytes} {text : List Char}

theorem open?_eq_ok_iff :
    open? raw = .ok body ↔ ∃ text, Json.StringText raw text ∧ Base64.Canonical body text := by
  unfold open?
  constructor
  · intro h
    split at h
    · cases h
    · next text htext =>
      split at h
      · next hbody =>
        cases h
        exact ⟨text, Json.whole_text_eq_ok_iff.mp htext, Base64.decode_encode_eq_ok_iff.mp hbody⟩
      · cases h
  · rintro ⟨text, hraw, htext⟩
    rw [Json.whole_text_eq_ok_iff.mpr hraw]
    simp only [Base64.decode_encode_eq_ok_iff.mpr htext]

theorem decode_eq_ok_iff :
    decode raw = .ok body ↔ ∃ text, Json.StringText raw text ∧ Base64.Canonical body text := by
  rw [← open?_eq_ok_iff, decode]
  cases open? raw <;> simp [Except.mapError]

theorem canonical_of_decode (h : decode raw = .ok body) (hraw : Json.StringText raw text) :
    Base64.Canonical body text := by
  obtain ⟨text', hraw', htext'⟩ := decode_eq_ok_iff.mp h
  rwa [hraw.unique hraw']

theorem decode_ok_or_undecodable (raw : Bytes) : (∃ body, decode raw = .ok body) ∨
    ∃ e : DecodeError, decode raw = .error (.undecodable e.message) := by
  rw [decode]
  cases open? raw with
  | ok body => exact .inl ⟨body, rfl⟩
  | error e => exact .inr ⟨e, rfl⟩

/-- No letter of Base64, nor its padding, is escaped in a string. -/
theorem flatMap_escaped (h : Base64.Canonical body text) : text.flatMap Json.escaped = text := by
  have hall : Base64.alphabet.all (fun c => Json.escaped c == [c]) = true := by cbv
  have hletter : ∀ c ∈ Base64.alphabet, Json.escaped c = [c] := by simpa using hall
  have hpad : Json.escaped '=' = ['='] := by decide
  have hplain : ∀ c ∈ text, Json.escaped c = [c] := by
    obtain ⟨letters, filler, pads, -⟩ := h
    intro c hc
    rcases List.mem_append.mp hc with hc | hc
    · obtain ⟨v, -, rfl⟩ := List.mem_map.mp hc
      exact hletter _ (Base64.letter_mem v)
    · rw [List.eq_of_mem_replicate hc, hpad]
  rw [List.flatMap_congr hplain, List.flatMap_singleton']

theorem encode_eq_quoted (h : Base64.Canonical body text) :
    encode body = Utf8.encode (Json.quoted text) := by
  have hbytes : Utf8.encode text = Base64.encode body :=
    Base64.decode_eq_ok_iff.mp (Base64.decode_encode_eq_ok_iff.mpr h)
  rw [Json.quoted, flatMap_escaped h, List.cons_append, Utf8.encode_cons, Utf8.encode_append,
    hbytes]
  rfl

theorem decode_encode (body : Bytes) : decode (encode body) = .ok body := by
  obtain ⟨text, htext, -⟩ := Base64.exists_canonical body
  refine decode_eq_ok_iff.mpr ⟨text, ?_, htext⟩
  rw [encode_eq_quoted htext]
  exact Json.stringText_quoted text

/-- A value is read as a body exactly if it is a JSON string of the one Base64 text of the body,
and else refused. What is written for a body is such a value, and all values of a body have the
same text. -/
theorem stored_value_exact :
    (∀ raw body, decode raw = .ok body ↔
      ∃ text, Json.StringText raw text ∧ Base64.Canonical body text) ∧
    (∀ raw, (¬ ∃ body text, Json.StringText raw text ∧ Base64.Canonical body text) →
      ∃ e : DecodeError, decode raw = .error (.undecodable e.message)) ∧
    (∀ body, decode (encode body) = .ok body ∧
      ∃ text, Base64.Canonical body text ∧ encode body = Utf8.encode (Json.quoted text)) ∧
    (∀ raw raw' body text text', decode raw = .ok body → decode raw' = .ok body →
      Json.StringText raw text → Json.StringText raw' text' → text = text') := by
  refine ⟨fun raw body => decode_eq_ok_iff, ?_, ?_, ?_⟩
  · intro raw hnone
    refine (decode_ok_or_undecodable raw).resolve_left ?_
    rintro ⟨body, hbody⟩
    exact hnone ⟨body, decode_eq_ok_iff.mp hbody⟩
  · intro body
    obtain ⟨text, htext, -⟩ := Base64.exists_canonical body
    have hquoted := encode_eq_quoted htext
    refine ⟨decode_eq_ok_iff.mpr ⟨text, ?_, htext⟩, text, htext, hquoted⟩
    rw [hquoted]
    exact Json.stringText_quoted text
  · intro raw raw' body text text' hbody hbody' hraw hraw'
    exact (canonical_of_decode hbody hraw).unique (canonical_of_decode hbody' hraw')

-- A letter may be escaped.
example : open? (Utf8.encode " \"Q\\u0051==\"\n".toList) = .ok [65] := by cbv

-- Bits past the end of the body have to be zero, and padding may not be left out.
example : open? (Utf8.encode "\"QR==\"".toList) =
    .error (.notBase64 (.invalidLastSymbol 1 82)) := by cbv

example : open? (Utf8.encode "\"QQ\"".toList) = .error (.notBase64 .invalidPadding) := by cbv

end TaskBoard.Cache.Envelope
