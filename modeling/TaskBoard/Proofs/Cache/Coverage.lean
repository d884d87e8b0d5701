import TaskBoard.Cache.Pattern
import TaskBoard.Proofs.Cache.KeyText
import TaskBoard.Proofs.Glob.Machine

/-!
# What a write invalidates

The patterns of a write cover exactly the keys of its collection: the bare collection key, and
every key that goes on with a colon after the name of the collection. Nothing that a request puts
into a path or a header changes that.
-/

namespace TaskBoard.Cache

open Text

/-- The key belongs to the collection that the path names. -/
def KeySpace.Collects (space : KeySpace) (path : List Char) (key : Key) : Prop :=
  key.text = space.collection path ∨ space.collection path ++ [':'] <+: key.text

/-! ## Patterns -/

theorem tokens_base_append (space : KeySpace) (path p : List Char) :
    Glob.tokens (space.base path ++ p) =
      (space.collection path).map .char ++ Glob.tokens p := by
  unfold KeySpace.base KeySpace.collection
  rw [List.append_assoc, List.cons_append, Glob.tokens_escape_append,
    Glob.tokens_literal (by decide) (by decide) (by decide), Glob.tokens_escape_append,
    List.map_append, List.map_cons, List.append_assoc, List.cons_append]

theorem covers_base_append (space : KeySpace) (path p : List Char) (key : Key) :
    Pattern.covers ⟨space.base path ++ p⟩ key = true ↔
      ∃ u, key.text = space.collection path ++ u ∧ Glob.Reads (Glob.tokens p) u := by
  unfold Pattern.covers
  rw [Glob.isMatch_iff_reads, tokens_base_append, Glob.reads_chars_append]

/-- What comes after the collection in a pattern of a write. -/
inductive PatternEnd : List Char → Prop
  | collection : PatternEnd []
  | members : PatternEnd [':', '*']
  | caller (scope : List Char) : PatternEnd (':' :: Glob.escape scope ++ [':', '*'])
  | resource (id : List Char) : PatternEnd ([':', '*', ':'] ++ Glob.escape id)
  | views (id : List Char) : PatternEnd ([':', '*', ':'] ++ Glob.escape id ++ [':', '*'])

theorem patternEnd_of_mem {space : KeySpace} {w : Target} {p : Pattern}
    (h : p ∈ space.patterns w) : ∃ q, p = ⟨space.base w.path ++ q⟩ ∧ PatternEnd q := by
  simp only [KeySpace.patterns, List.mem_map, List.mem_append, Option.mem_toList,
    List.mem_flatMap, List.mem_cons, List.not_mem_nil, or_false] at h
  obtain ⟨text, ((rfl | ⟨scope, -, rfl⟩) | ⟨id, -, rfl | rfl⟩) | rfl, rfl⟩ := h
  · exact ⟨_, rfl, .members⟩
  · exact ⟨_, by simp, .caller scope⟩
  · exact ⟨_, by simp, .resource id⟩
  · exact ⟨_, by simp, .views id⟩
  · exact ⟨_, by simp, .collection⟩

theorem mem_patterns {space : KeySpace} {w : Target} {p : Pattern} (h : p ∈ space.patterns w) :
    ∃ q, p = ⟨space.base w.path ++ q⟩ ∧ (q = [] ∨ ∃ q', q = ':' :: q') := by
  obtain ⟨q, hp, hq⟩ := patternEnd_of_mem h
  refine ⟨q, hp, ?_⟩
  cases hq with
  | collection => exact Or.inl rfl
  | members | caller | resource | views => exact Or.inr ⟨_, rfl⟩

theorem collection_mem_patterns (space : KeySpace) (w : Target) :
    (⟨space.base w.path ++ []⟩ : Pattern) ∈ space.patterns w := by
  simp [KeySpace.patterns]

theorem members_mem_patterns (space : KeySpace) (w : Target) :
    (⟨space.base w.path ++ [':', '*']⟩ : Pattern) ∈ space.patterns w := by
  simp [KeySpace.patterns]

/-- The patterns of a write cover exactly the keys of its collection. -/
theorem patterns_cover_iff_collects (space : KeySpace) (w : Target) (key : Key) :
    (∃ p ∈ space.patterns w, p.covers key = true) ↔ space.Collects w.path key := by
  constructor
  · rintro ⟨p, hp, hc⟩
    obtain ⟨q, rfl, hq⟩ := mem_patterns hp
    obtain ⟨u, hu, hr⟩ := (covers_base_append space w.path q key).mp hc
    rcases hq with rfl | ⟨q', rfl⟩
    · obtain rfl : u = [] := hr
      exact Or.inl (by rw [hu, List.append_nil])
    · rw [Glob.tokens_literal (by decide) (by decide) (by decide)] at hr
      obtain ⟨v, rfl, -⟩ := hr
      exact Or.inr ⟨v, by rw [hu, List.append_assoc]; rfl⟩
  · rintro (h | ⟨v, hv⟩)
    · refine ⟨_, collection_mem_patterns space w, ?_⟩
      rw [covers_base_append]
      exact ⟨[], by rw [h, List.append_nil], rfl⟩
    · refine ⟨_, members_mem_patterns space w, ?_⟩
      rw [covers_base_append]
      refine ⟨':' :: v, by rw [← hv, List.append_assoc]; rfl, v, rfl, ?_⟩
      exact Glob.reads_run_alone v

/-! ## Keys of reads -/

theorem collects_key_of_eq {s₁ s₂ : KeySpace} {path : List Char} {r : Target}
    (h : s₁.collection path = s₂.collection r.path) : s₁.Collects path (s₂.key r) := by
  unfold KeySpace.Collects
  rw [key_text, h]
  rcases parts_nil_or_colon r with hp | ⟨s, hp⟩
  · exact Or.inl (by rw [hp, List.append_nil])
  · exact Or.inr ⟨s, by rw [hp, List.append_assoc]; rfl⟩

/-- Without colons in versions and resource types, a key belongs to one collection only. -/
theorem eq_of_collects_key {s₁ s₂ : KeySpace} {path : List Char} {r : Target}
    (hv₁ : ':' ∉ s₁.version path) (hv₂ : ':' ∉ s₂.version r.path)
    (ht₁ : ':' ∉ s₁.resourceType) (ht₂ : ':' ∉ s₂.resourceType)
    (h : s₁.Collects path (s₂.key r)) :
    s₁.version path = s₂.version r.path ∧ s₁.resourceType = s₂.resourceType := by
  have hkey : ∃ u, (u = [] ∨ ∃ s, u = ':' :: s) ∧
      (s₂.key r).text = s₁.collection path ++ u := by
    rcases h with h | ⟨u, hu⟩
    · exact ⟨[], Or.inl rfl, by rw [h, List.append_nil]⟩
    · exact ⟨':' :: u, Or.inr ⟨u, rfl⟩, by rw [← hu, List.append_assoc]; rfl⟩
  obtain ⟨u, hu, hkey⟩ := hkey
  rw [key_text, KeySpace.collection, KeySpace.collection, List.append_assoc, List.append_assoc,
    List.cons_append, List.cons_append] at hkey
  obtain ⟨hv, hrest⟩ := append_cons_inj hv₂ hv₁ hkey
  obtain ⟨ht, -⟩ := append_colonless_inj ht₂ ht₁ (parts_nil_or_colon r) hu hrest
  exact ⟨hv.symm, ht.symm⟩

/-- A write reaches every read of its own version and resource type, whatever characters the
request puts there, and no read of another. -/
theorem write_reaches_its_collection_only (s₁ s₂ : KeySpace) (w r : Target) :
    (s₁.version w.path = s₂.version r.path → s₁.resourceType = s₂.resourceType →
      ∃ p ∈ s₁.patterns w, p.covers (s₂.key r) = true) ∧
    (':' ∉ s₁.version w.path → ':' ∉ s₂.version r.path →
      ':' ∉ s₁.resourceType → ':' ∉ s₂.resourceType →
      s₁.version w.path ≠ s₂.version r.path ∨ s₁.resourceType ≠ s₂.resourceType →
      ∀ p ∈ s₁.patterns w, p.covers (s₂.key r) = false) := by
  refine ⟨?_, ?_⟩
  · intro hv ht
    rw [patterns_cover_iff_collects]
    apply collects_key_of_eq
    rw [KeySpace.collection, KeySpace.collection, hv, ht]
  · intro hv₁ hv₂ ht₁ ht₂ hne p hp
    rw [Bool.eq_false_iff]
    intro hc
    have hcollects := (patterns_cover_iff_collects s₁ w (s₂.key r)).mp ⟨p, hp, hc⟩
    obtain ⟨hv, ht⟩ := eq_of_collects_key hv₁ hv₂ ht₁ ht₂ hcollects
    exact hne.elim (fun h => h hv) (fun h => h ht)

/-- A star that a request puts in the place of the version stands for itself. -/
theorem starred_version_reaches_itself_only :
    let space : KeySpace := ⟨"v1".toList, "tasks".toList⟩
    let write : Target := ⟨"/api/v*/tasks/[7]".toList, none, some "ann:*".toList⟩
    (∃ p ∈ space.patterns write,
        p.covers (space.key ⟨"/api/v*/tasks".toList, none, some "b*b".toList⟩) = true) ∧
      ∀ p ∈ space.patterns write,
        p.covers (space.key ⟨"/api/v2/tasks".toList, none, some "b*b".toList⟩) = false := by
  intro space write
  refine ⟨(write_reaches_its_collection_only space space write _).1 (by decide) rfl, ?_⟩
  exact (write_reaches_its_collection_only space space write _).2 (by decide) (by decide)
    (by decide) (by decide) (Or.inl (by decide))

end TaskBoard.Cache
