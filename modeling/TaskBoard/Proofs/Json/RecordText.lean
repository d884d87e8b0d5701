import TaskBoard.Json.Record
import TaskBoard.Proofs.Json.StringText

/-!
# Records and their texts

A record is read back from an object that gives each of its members once. What holds of the record
before a member is read, and is kept by the reading of each member, holds of what is read.
-/

namespace TaskBoard.Json

open Text Text.Utf8

variable {σ α β : Type} {text : List Char} {f : List Char → Option α} {a : α} {s rest : Bytes}

theorem skipBlank_cons {b : UInt8} (h : isBlank b = false) (s : Bytes) :
    skipBlank (b :: s) = b :: s :=
  List.dropWhile_cons_of_neg (by simp [h])

/-! ## Values -/

/-- A reader that finds the text takes the whole of it, whatever follows, and gives the value. -/
def Takes (r : Reader α) (text : List Char) (a : α) : Prop :=
  ∀ rest, r (encode text ++ rest) = .ok (a, rest)

theorem encode_quoted_append (text : List Char) (rest : Bytes) :
    encode (quoted text) ++ rest =
      quote :: (encode (text.flatMap escaped) ++ quote :: rest) := by
  have hopen : encode (quoted text) = quote :: (encode (text.flatMap escaped) ++ [quote]) := by
    rw [quoted, List.cons_append, encode_cons, encode_append]
    rfl
  rw [hopen, List.cons_append, List.append_assoc, List.singleton_append]

theorem string_escaped (text : List Char) (rest : Bytes) :
    string (encode (text.flatMap escaped) ++ quote :: rest) = .ok (text, rest) :=
  string_eq_ok_iff.mpr ⟨_, spells_escaped text, rfl⟩

theorem takes_text (text : List Char) : Takes Json.text (quoted text) text := by
  intro rest
  rw [encode_quoted_append, Json.text, skipBlank_cons (by decide)]
  exact string_escaped text rest

theorem takes_textOf (h : f text = some a) : Takes (textOf f) (quoted text) a := by
  intro rest
  simp only [textOf, takes_text text rest, h]

theorem takes_choice (h : f text = some a) : Takes (choice f) (quoted text) a := by
  intro rest
  have hread := takes_textOf h rest
  rw [encode_quoted_append] at hread ⊢
  rw [choice, skipBlank_cons (by decide)]
  exact hread

theorem takes_member {name : String} {mayLack : Bool} {r : Reader β} {get : σ → Option β}
    {put : σ → β → σ} {b : β} (h : Takes r text b) (st : σ) :
    Takes ((member name mayLack r get put).read st) text (put st b) := by
  intro rest
  simp only [member, h rest, Except.map]

/-! ## Objects -/

def pair (written : String × List Char) : List Char := quoted written.1.toList ++ ':' :: written.2

theorem object_eq (written : List (String × List Char)) :
    object written = '\x7b' :: [','].intercalate (written.map pair) ++ ['\x7d'] := rfl

/-- The written members lead from one state of the record to another: each is one that the record
knows and has not got yet, and is taken. -/
inductive Fills (members : List (Member σ)) : σ → List (String × List Char) → σ → Prop
  | nil (st : σ) : Fills members st [] st
  | cons {st st' st'' : σ} {member : Member σ} {name : String} {value : List Char}
    {written : List (String × List Char)} :
    members.find? (·.name = name.toList) = some member → member.isSet st = false →
    Takes (member.read st) value st' → Fills members st' written st'' →
    Fills members st ((name, value) :: written) st''

variable {members : List (Member σ)} {st st' : σ} {written : List (String × List Char)}

/-- A member from after the quote that opens its name. -/
theorem readMember_of_takes {member : Member σ} {name : String} {value : List Char}
    (hfind : members.find? (·.name = name.toList) = some member) (hset : member.isSet st = false)
    (htakes : Takes (member.read st) value st') (rest : Bytes) :
    ∃ body, encode (pair (name, value)) ++ rest = quote :: body ∧
      readMember members st body = .ok (st', rest) := by
  have hcolon : colonAfterName (encode (':' :: value) ++ rest) = .ok (encode value ++ rest) := by
    rw [encode_cons, List.append_assoc]
    rfl
  refine ⟨encode (name.toList.flatMap escaped) ++ quote :: (encode (':' :: value) ++ rest), ?_, ?_⟩
  · rw [pair, encode_append, List.append_assoc, encode_quoted_append]
  · simp only [readMember, string_escaped, hfind, hset, hcolon, Except.bind, htakes rest,
      Bool.false_eq_true, if_false]

/-- The members after one that has been read. -/
def followers (written : List (String × List Char)) : List Char :=
  (written.map fun m => ',' :: pair m).flatten

theorem intercalate_pair (m : String × List Char) (written : List (String × List Char)) :
    [','].intercalate ((m :: written).map pair) = pair m ++ followers written := by
  induction written generalizing m with
  | nil => simp [followers]
  | cons next written ih =>
    rw [List.map_cons, List.map_cons, List.intercalate_cons_cons, ← List.map_cons, ih]
    simp [followers]

theorem readMembers_followers (h : Fills members st written st') {fuel : Nat}
    (hfuel : written.length < fuel) (rest : Bytes) :
    readMembers members fuel false st (encode (followers written) ++ closeBrace :: rest) =
      .ok (st', rest) := by
  induction h generalizing fuel with
  | nil st =>
    obtain ⟨fuel, rfl⟩ := Nat.exists_eq_add_one.mpr (Nat.zero_lt_of_lt hfuel)
    rfl
  | @cons st st' st'' member name value written hfind hset htakes _ ih =>
    obtain ⟨fuel, rfl⟩ := Nat.exists_eq_add_one.mpr (Nat.zero_lt_of_lt hfuel)
    rw [List.length_cons, Nat.add_lt_add_iff_right] at hfuel
    obtain ⟨body, hbody, hread⟩ := readMember_of_takes hfind hset htakes
      (encode (followers written) ++ closeBrace :: rest)
    have htext : encode (followers ((name, value) :: written)) ++ closeBrace :: rest =
        comma :: quote :: body := by
      rw [← hbody, followers, List.map_cons, List.flatten_cons, encode_append, encode_cons]
      simp only [List.append_assoc]
      rfl
    rw [htext, readMembers, skipBlank_cons (by decide)]
    simp only [skipBlank_cons (show isBlank quote = false by decide), hread, ih hfuel]
    rfl

theorem length_le_followers (written : List (String × List Char)) :
    written.length ≤ (followers written).length := by
  induction written with
  | nil => exact Nat.zero_le _
  | cons m written ih =>
    simp only [followers, List.map_cons, List.flatten_cons, List.length_append,
      List.length_cons] at ih ⊢
    omega

theorem length_le_intercalate (written : List (String × List Char)) :
    written.length ≤ ([','].intercalate (written.map pair)).length := by
  cases written with
  | nil => exact Nat.zero_le _
  | cons m written =>
    have hle := length_le_followers written
    rw [intercalate_pair, List.length_append, List.length_cons, pair, List.length_append,
      List.length_cons]
    omega

theorem readMembers_object (h : Fills members st written st') {fuel : Nat}
    (hfuel : written.length < fuel) (rest : Bytes) :
    readMembers members fuel true st
      (encode ([','].intercalate (written.map pair)) ++ closeBrace :: rest) = .ok (st', rest) := by
  obtain ⟨fuel, rfl⟩ := Nat.exists_eq_add_one.mpr (Nat.zero_lt_of_lt hfuel)
  cases h with
  | nil => rfl
  | @cons _ st₁ _ member name value written hfind hset htakes hrest =>
    rw [List.length_cons, Nat.add_lt_add_iff_right] at hfuel
    obtain ⟨body, hbody, hread⟩ := readMember_of_takes hfind hset htakes
      (encode (followers written) ++ closeBrace :: rest)
    have hmore := readMembers_followers hrest hfuel rest
    rw [intercalate_pair, encode_append, List.append_assoc, hbody, readMembers,
      skipBlank_cons (by decide)]
    simp only [hread, hmore]
    rfl

/-- A record is read back from an object that fills it. -/
theorem takes_record {shape : Shape σ α} (h : Fills shape.members shape.start written st)
    (hfinish : shape.finish st = some a) : Takes (record shape) (object written) a := by
  intro rest
  let body := encode ([','].intercalate (written.map pair)) ++ closeBrace :: rest
  have hopen : encode (object written) ++ rest = openBrace :: body := by
    rw [object_eq, List.cons_append, encode_cons, encode_append]
    simp only [List.append_assoc]
    rfl
  have hfuel : written.length < body.length + 1 := by
    have hchars := length_le_intercalate written
    have hbytes := length_le_length_encode ([','].intercalate (written.map pair))
    simp only [body, List.length_append, List.length_cons]
    omega
  have hmembers := readMembers_object h hfuel rest
  rw [hopen, record, skipBlank_cons (by decide)]
  simp only [if_pos, body, hmembers, finishRecord, hfinish]

/-! ## What is kept while members are read -/

/-- The reading of each of the members keeps what holds of the record so far. -/
def Keep (P : σ → Prop) (members : List (Member σ)) : Prop :=
  ∀ member ∈ members, ∀ st s st' rest, P st → member.read st s = .ok (st', rest) → P st'

variable {P : σ → Prop} {isFirst : Bool}

theorem map_eq_ok_iff {ε : Type} {g : α → β} {result : Except ε α} {b : β} :
    result.map g = .ok b ↔ ∃ a, result = .ok a ∧ g a = b := by
  cases result <;> simp [Except.map]

theorem Keep.readMember (h : Keep P members) (hst : P st)
    (hread : readMember members st s = .ok (st', rest)) : P st' := by
  unfold Json.readMember at hread
  split at hread
  · cases hread
  · split at hread
    · next name s hstring hfind =>
      simp only [bind, Except.bind, pure, Except.pure] at hread
      split at hread
      · cases hread
      · split at hread
        · cases hread
        · cases hread
          exact hst
    · next member hfind =>
      split at hread
      · cases hread
      · unfold Except.bind at hread
        split at hread
        · cases hread
        · exact h member (List.mem_of_find?_eq_some hfind) _ _ _ _ hst hread

theorem Keep.readMembers (h : Keep P members) {fuel : Nat} (hst : P st)
    (hread : readMembers members fuel isFirst st s = .ok (st', rest)) : P st' := by
  fun_induction Json.readMembers members fuel isFirst st s
  case case3 =>
    cases hread
    exact hst
  case case4 hmember _ _ ih => exact ih (h.readMember hst hmember) hread
  case case8 hmember _ _ _ ih => exact ih (h.readMember hst hmember) hread
  all_goals cases hread

theorem Keep.readItems (h : Keep P members) (hst : P st)
    (hread : readItems isFirst members st s = .ok (st', rest)) : P st' := by
  have htail {member members} (h : Keep P (member :: members)) : Keep P members :=
    fun m hm => h m (List.mem_cons_of_mem member hm)
  fun_induction Json.readItems isFirst members st s
  case case2 =>
    cases hread
    exact hst
  case case5 ih => exact ih (htail h) hst hread
  case case7 hmember ih => exact ih (htail h) (h _ List.mem_cons_self _ _ _ _ hst hmember) hread
  case case11 hmember _ _ ih =>
    exact ih (htail h) (h _ List.mem_cons_self _ _ _ _ hst hmember) hread
  all_goals cases hread

theorem Keep.nil : Keep P [] := nofun

theorem Keep.cons {name : String} {mayLack : Bool} {r : Reader β} {get : σ → Option β}
    {put : σ → β → σ} (h : ∀ st s b rest, P st → r s = .ok (b, rest) → P (put st b))
    (hmembers : Keep P members) : Keep P (member name mayLack r get put :: members) := by
  refine List.forall_mem_cons.mpr ⟨fun st s st' rest hst hread => ?_, hmembers⟩
  obtain ⟨⟨b, rest'⟩, hb, heq⟩ := map_eq_ok_iff.mp hread
  cases heq
  exact h st s b _ hst hb

theorem exists_of_finishRecord {shape : Shape σ α} {result : Except Fault (σ × Bytes)}
    (h : finishRecord shape result = .ok (a, rest)) :
    ∃ st s, result = .ok (st, s) ∧ shape.finish st = some a := by
  unfold finishRecord at h
  split at h
  · cases h
  · next st s =>
    split at h
    · next a hfinish =>
      cases h
      exact ⟨st, _, rfl, hfinish⟩
    · cases h

/-- A record that is read is made from a state of which holds what its members keep. -/
theorem Keep.record {shape : Shape σ α} (h : Keep P shape.members) (hstart : P shape.start)
    (hread : record shape s = .ok (a, rest)) : ∃ st, P st ∧ shape.finish st = some a := by
  unfold Json.record at hread
  split at hread
  · cases hread
  · split at hread
    · obtain ⟨st, _, hmembers, hfinish⟩ := exists_of_finishRecord hread
      exact ⟨st, h.readMembers hstart hmembers, hfinish⟩
    · split at hread
      · obtain ⟨st, _, hitems, hfinish⟩ := exists_of_finishRecord hread
        exact ⟨st, h.readItems hstart hitems, hfinish⟩
      · cases hread

theorem Keep.whole_record {shape : Shape σ α} (h : Keep P shape.members) (hstart : P shape.start)
    (hread : whole (Json.record shape) s = .ok a) : ∃ st, P st ∧ shape.finish st = some a := by
  obtain ⟨rest, hrecord, -⟩ := whole_eq_ok_iff.mp hread
  exact h.record hstart hrecord

/-! ## What is read -/

variable {r : Reader α}

theorem exists_of_textOf (h : textOf f s = .ok (a, rest)) : ∃ text, f text = some a := by
  unfold textOf at h
  split at h
  · cases h
  · next text s _ =>
    split at h
    · next a hsome =>
      cases h
      exact ⟨text, hsome⟩
    · cases h

theorem exists_of_optional (h : optional r s = .ok (some a, rest)) :
    ∃ s' rest', r s' = .ok (a, rest') := by
  unfold optional at h
  split at h
  · split at h
    · obtain ⟨_, -, heq⟩ := map_eq_ok_iff.mp h
      cases heq
    · obtain ⟨_, hread, heq⟩ := map_eq_ok_iff.mp h
      cases heq
      exact ⟨s, _, hread⟩
  · obtain ⟨_, hread, heq⟩ := map_eq_ok_iff.mp h
    cases heq
    exact ⟨s, _, hread⟩

end TaskBoard.Json
