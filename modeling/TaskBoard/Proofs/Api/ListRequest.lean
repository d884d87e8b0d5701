import Mathlib
import TaskBoard.Api.Handlers
import TaskBoard.Proofs.Cache.QueryText

/-!
# What a list query asks for

The list handler counts the first pair of a parameter, and a key the first pair that is readable.
They agree unless an unreadable pair comes first: the handler takes that for a value that it cannot
use.
-/

namespace TaskBoard.Api

open Text Http Cache

/-- What the query of a task list comes down to. -/
@[ext]
structure ListRequest where
  /-- The status to list, if any. Without even that, the request is refused. -/
  status : Option (Option Status)
  page : Nat
  limit : Nat
deriving DecidableEq, Repr

def statusAsked : Option (List Char) → Option (Option Status)
  | none => some none
  | some name => (Status.parse name).toOption.map some

def listRequest (query : Option (List Char)) : ListRequest :=
  let q := ListQuery.parse query
  ⟨statusAsked q.status, Desk.effectivePage q.page, Desk.effectiveLimit q.limit⟩

inductive ListParam where
  | status
  | page
  | limit
deriving DecidableEq, Repr

namespace ListParam

def name : ListParam → List Char
  | status => "status".toList
  | page => "page".toList
  | limit => "limit".toList

def Outcome : ListParam → Type
  | status => Option (Option Status)
  | page | limit => Nat

def outcome : (p : ListParam) → Option (List Char) → p.Outcome
  | status, value => statusAsked (value.filter (!·.isEmpty))
  | page, value => Desk.effectivePage (value.bind ListQuery.number?)
  | limit, value => Desk.effectiveLimit (value.bind ListQuery.number?)

/-- What a value decides that cannot be read: the request is refused, or the default holds. -/
def fallback : (p : ListParam) → p.Outcome
  | status => none
  | page => (1 : Nat)
  | limit => Desk.defaultLimit

/-- The value that the handler counts. -/
def first (p : ListParam) (query : Option (List Char)) : Option (List Char) :=
  (Form.parse (query.getD [])).lookup p.name

/-- An unreadable pair comes before the pair that the key counts, if there is one. -/
def Shadowed (p : ListParam) (query : Option (List Char)) : Prop :=
  ∃ value, p.first query = some value ∧ isReadable (p.name, value) = false

theorem name_mem_keyedParams (p : ListParam) : p.name ∈ keyedParams := by
  cases p <;> decide

end ListParam

/-! ## Unreadable values -/

theorem mem_dropWhile_of_not {p : Char → Bool} {c : Char} {s : List Char} (hc : c ∈ s)
    (hp : p c = false) : c ∈ s.dropWhile p := by
  rw [← List.takeWhile_append_dropWhile (p := p) (l := s), List.mem_append] at hc
  rcases hc with hc | hc
  · simp [List.mem_takeWhile_imp hc] at hp
  · exact hc

theorem mem_trim_of_not_blank {c : Char} {s : List Char} (hc : c ∈ s) (hp : isBlank c = false) :
    c ∈ trim s := by
  have hstart : c ∈ trimStart isBlank s := mem_dropWhile_of_not hc hp
  exact List.mem_reverse.mpr (mem_dropWhile_of_not (List.mem_reverse.mpr hstart) hp)

theorem digits?_of_mem_not_digit {c : Char} {s : List Char} (hc : c ∈ s) (hd : isDigit c = false) :
    digits? s = none := by
  rw [digits?, if_neg]
  intro h
  have hall : s.all isDigit = true := (Bool.and_eq_true_iff.mp h).1
  rw [List.all_eq_true.mp hall c hc] at hd
  cases hd

theorem unsigned?_of_mem_not_digit {max : Nat} {c : Char} {s : List Char} (hc : c ∈ s)
    (hd : isDigit c = false) (hplus : c ≠ '+') : unsigned? max s = none := by
  unfold unsigned?
  split
  · next rest =>
    rcases List.mem_cons.mp hc with h | h
    · exact absurd h hplus
    · simp only [digits?_of_mem_not_digit h hd]
  · simp only [digits?_of_mem_not_digit hc hd]

theorem number?_of_unreadable {value : List Char} (h : '\uFFFD' ∈ value) :
    ListQuery.number? value = none :=
  unsigned?_of_mem_not_digit (mem_trim_of_not_blank h (by decide)) (by decide) (by decide)

theorem statusParse_of_unreadable {value : List Char} (h : '\uFFFD' ∈ value) :
    Status.parse value = .error (.unknownStatus value) := by
  have hnone : Status.ofName? value = none := by
    rw [Status.ofName?, List.find?_eq_none]
    intro status _ heq
    obtain rfl := of_decide_eq_true heq
    revert h
    cases status <;> decide
  rw [Status.parse, hnone]

namespace ListParam

variable {p : ListParam} {query : Option (List Char)}

theorem isReadable_name (p : ListParam) (value : List Char) :
    isReadable (p.name, value) = !value.contains '\uFFFD' := by
  have hname : p.name.contains '\uFFFD' = false := by cases p <;> decide
  simp only [isReadable, hname, Bool.not_false, Bool.true_and]

theorem outcome_of_unreadable {value : List Char} (h : isReadable (p.name, value) = false) :
    p.outcome (some value) = p.fallback := by
  rw [isReadable_name, Bool.not_eq_false', List.contains_iff_mem] at h
  cases p with
  | status =>
    have hne : (!value.isEmpty) = true := by cases value <;> simp_all
    simp only [outcome, Option.filter_some, hne, if_true, statusAsked,
      statusParse_of_unreadable h]
    rfl
  | page => simp only [outcome, Option.bind_some, number?_of_unreadable h]; rfl
  | limit => simp only [outcome, Option.bind_some, number?_of_unreadable h]; rfl

theorem not_shadowed_of_absent (h : p.first query = none) : ¬ p.Shadowed query := by
  rintro ⟨value, hvalue, -⟩
  rw [h] at hvalue
  cases hvalue

theorem lookup_filter {keep : List Char × List Char → Bool} {name : List Char}
    {pairs : List (List Char × List Char)}
    (h : ∀ value, pairs.lookup name = some value → keep (name, value) = true) :
    (pairs.filter keep).lookup name = pairs.lookup name := by
  induction pairs with
  | nil => rfl
  | cons pair pairs ih =>
    obtain ⟨key, value⟩ := pair
    by_cases hkey : name = key
    · subst hkey
      have hkeep : keep (name, value) = true := h value List.lookup_cons_self
      rw [List.filter_cons_of_pos hkeep, List.lookup_cons_self, List.lookup_cons_self]
    · have hne : (name == key) = false := beq_eq_false_iff_ne.mpr hkey
      have hrest : (pairs.filter keep).lookup name = pairs.lookup name :=
        ih fun v hv => h v (by rwa [List.lookup_cons, hne])
      rw [List.lookup_cons, hne, List.filter_cons]
      split
      · rw [List.lookup_cons, hne]
        exact hrest
      · exact hrest

/-- Where no unreadable pair comes first, the handler and the key count the same value. -/
theorem first_of_not_shadowed (h : ¬ p.Shadowed query) : p.first query = param p.name query := by
  refine (lookup_filter fun value hvalue => ?_).symm
  rw [← Bool.not_eq_false]
  exact fun hunreadable => h ⟨value, hvalue, hunreadable⟩

open Classical in
/-- What the handler makes of a parameter, told from the value in the key. -/
theorem outcome_first (p : ListParam) (query : Option (List Char)) :
    p.outcome (p.first query) =
      if p.Shadowed query then p.fallback else p.outcome (param p.name query) := by
  split
  · next h =>
    obtain ⟨value, hvalue, hunreadable⟩ := h
    rw [hvalue, outcome_of_unreadable hunreadable]
  · next h => rw [first_of_not_shadowed h]

end ListParam

/-! ## Two queries -/

variable {q₁ q₂ : Option (List Char)}

theorem listRequest_eq_iff_outcome :
    listRequest q₁ = listRequest q₂ ↔
      ∀ p : ListParam, p.outcome (p.first q₁) = p.outcome (p.first q₂) := by
  constructor
  · intro h p
    cases p with
    | status => exact congrArg ListRequest.status h
    | page => exact congrArg ListRequest.page h
    | limit => exact congrArg ListRequest.limit h
  · intro h
    exact ListRequest.ext (h .status) (h .page) (h .limit)

/-! ## Answers -/

variable {ρ : Type} {repo : Repository ρ} {r : Request} {s : ρ}

/-- A request that asks for a status, or for all, is answered by the repository alone. -/
theorem listTasks_of_accepted {status : Option Status}
    (h : (listRequest r.uri.query).status = some status) :
    listTasks repo r s =
      answer (fun page => .json 200 (pageJson page))
        (((repo.list ⟨status, (listRequest r.uri.query).page, (listRequest r.uri.query).limit⟩
          s).mapError .repo).mapError ApiError.ofDesk) := by
  simp only [listRequest] at h
  unfold listTasks
  cases hq : (ListQuery.parse r.uri.query).status with
  | none =>
    rw [hq, statusAsked] at h
    cases h
    simp only [hq]
    rfl
  | some name =>
    rw [hq, statusAsked] at h
    cases hparse : Status.parse name with
    | error v => simp [hparse, Except.toOption] at h
    | ok status' =>
      simp only [hparse, Except.toOption, Option.map_some, Option.some_inj] at h
      subst h
      simp only [hq, hparse]
      rfl

theorem listTasks_of_refused (h : (listRequest r.uri.query).status = none) :
    (listTasks repo r s).status = 400 := by
  simp only [listRequest] at h
  unfold listTasks
  cases hq : (ListQuery.parse r.uri.query).status with
  | none =>
    rw [hq, statusAsked] at h
    cases h
  | some name =>
    rw [hq, statusAsked] at h
    cases hparse : Status.parse name with
    | error v =>
      simp only [hq, hparse]
      rfl
    | ok status' => simp [hparse, Except.toOption] at h

/-- Queries that come down to the same are answered alike: by the same answer, or by refusals. -/
theorem listTasks_alike {r₁ r₂ : Request}
    (h : listRequest r₁.uri.query = listRequest r₂.uri.query) :
    listTasks repo r₁ s = listTasks repo r₂ s ∨
      (listTasks repo r₁ s).status = 400 ∧ (listTasks repo r₂ s).status = 400 := by
  cases hstatus : (listRequest r₁.uri.query).status with
  | none =>
    exact Or.inr ⟨listTasks_of_refused hstatus, listTasks_of_refused (h ▸ hstatus)⟩
  | some status =>
    rw [listTasks_of_accepted hstatus, listTasks_of_accepted (h ▸ hstatus), h]
    exact Or.inl rfl

/-! ## Queries of one key -/

open Classical in
/-- Two queries with the same text in a key come down to the same list request exactly if, for
every parameter, both or neither has an unreadable pair before the one that counts for the key, or
that one decides no more than an unreadable one would. This holds of queries whose values can be
told apart in the key; of others the values that count for the key have to be compared as well. -/
theorem listRequest_eq_iff (h : normalizedQuery q₁ = normalizedQuery q₂) :
    (Separable q₁ → Separable q₂ →
      (listRequest q₁ = listRequest q₂ ↔ ∀ p : ListParam,
        (p.Shadowed q₁ ↔ p.Shadowed q₂) ∨ p.outcome (param p.name q₁) = p.fallback)) ∧
    (listRequest q₁ = listRequest q₂ ↔ ∀ p : ListParam,
      (if p.Shadowed q₁ then p.fallback else p.outcome (param p.name q₁)) =
        if p.Shadowed q₂ then p.fallback else p.outcome (param p.name q₂)) ∧
    (listRequest q₁ = listRequest q₂ →
      ∀ {ρ : Type} (repo : Repository ρ) (s : ρ) (r₁ r₂ : Request),
        r₁.uri.query = q₁ → r₂.uri.query = q₂ →
          listTasks repo r₁ s = listTasks repo r₂ s ∨
            (listTasks repo r₁ s).status = 400 ∧ (listTasks repo r₂ s).status = 400) := by
  have hiff : listRequest q₁ = listRequest q₂ ↔ ∀ p : ListParam,
      (if p.Shadowed q₁ then p.fallback else p.outcome (param p.name q₁)) =
        if p.Shadowed q₂ then p.fallback else p.outcome (param p.name q₂) := by
    simp only [listRequest_eq_iff_outcome, ListParam.outcome_first]
  refine ⟨fun hs₁ hs₂ => ?_, hiff, ?_⟩
  · rw [hiff]
    refine forall_congr' fun p => ?_
    rw [param_eq_of_text_eq h hs₁ hs₂ p.name_mem_keyedParams]
    by_cases h₁ : p.Shadowed q₁ <;> by_cases h₂ : p.Shadowed q₂ <;>
      simp [h₁, h₂, eq_comm]
  · rintro heq ρ repo s r₁ r₂ rfl rfl
    exact listTasks_alike heq

/-- An unreadable page before the first page does no harm. -/
theorem unreadable_before_first_page :
    listRequest (some "page=%FF&page=1".toList) = listRequest (some "page=1".toList) := by
  have htext : normalizedQuery (some "page=%FF&page=1".toList) =
      normalizedQuery (some "page=1".toList) := by cbv
  have hselected₁ : selected (some "page=%FF&page=1".toList) = [("page".toList, ['1'])] := by cbv
  have hselected₂ : selected (some "page=1".toList) = [("page".toList, ['1'])] := by cbv
  have hplain : ∀ pair ∈ [("page".toList, ['1'])], Plain pair.2 := by
    unfold Plain
    decide
  refine ((listRequest_eq_iff htext).1 (fun pair hpair => hplain pair (hselected₁ ▸ hpair))
    (fun pair hpair => hplain pair (hselected₂ ▸ hpair))).mpr fun p => ?_
  cases p with
  | page =>
    have hparam : param ListParam.page.name (some "page=%FF&page=1".toList) = some ['1'] := by cbv
    rw [hparam]
    exact Or.inr rfl
  | status | limit =>
    exact Or.inl (iff_of_false (ListParam.not_shadowed_of_absent (by cbv))
      (ListParam.not_shadowed_of_absent (by cbv)))

/-- An unreadable page before any other does, and so does an ampersand inside a value. -/
theorem same_text_other_request :
    (normalizedQuery (some "page=%FF&page=2".toList) = normalizedQuery (some "page=2".toList) ∧
      listRequest (some "page=%FF&page=2".toList) ≠ listRequest (some "page=2".toList)) ∧
    (normalizedQuery (some "limit=1%26page=2".toList) =
        normalizedQuery (some "limit=1&page=2".toList) ∧
      listRequest (some "limit=1%26page=2".toList) ≠
        listRequest (some "limit=1&page=2".toList)) := by
  have hshadowed : listRequest (some "page=%FF&page=2".toList) = ⟨some none, 1, 10⟩ := by cbv
  have hplain : listRequest (some "page=2".toList) = ⟨some none, 2, 10⟩ := by cbv
  have hjoined : listRequest (some "limit=1%26page=2".toList) = ⟨some none, 1, 10⟩ := by cbv
  have hapart : listRequest (some "limit=1&page=2".toList) = ⟨some none, 2, 1⟩ := by cbv
  refine ⟨⟨by cbv, ?_⟩, by cbv, ?_⟩
  · rw [hshadowed, hplain]
    decide
  · rw [hjoined, hapart]
    decide

end TaskBoard.Api
