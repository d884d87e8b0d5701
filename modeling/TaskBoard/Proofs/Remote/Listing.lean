import TaskBoard.Proofs.Cache.Coverage
import TaskBoard.Proofs.Glob.Bytes
import TaskBoard.Proofs.Remote.Expiry

/-!
# Patterns on a server

A server is asked for the keys under a pattern, and matches bytes where the store in memory matches
characters. It knows more patterns than the store in memory does, but on the patterns of a write the
two agree about every key.
-/

namespace TaskBoard.Remote

open Cache Text Time

variable {σ : Type}

/-- A server matches names against patterns as its documentation says. It need not find a name that
is empty. -/
structure MatchesGlobs (keysMatch : Bytes → Bytes → Bool) : Prop where
  sound : ∀ pattern name, keysMatch pattern name = true →
    ByteGlob.accepts (ByteGlob.tokens pattern) name = true
  complete : ∀ pattern name, name ≠ [] →
    ByteGlob.accepts (ByteGlob.tokens pattern) name = true → keysMatch pattern name = true

/-! ## The patterns of a write -/

theorem simple_colon {p : List Char} (hp : ByteGlob.Simple p) : ByteGlob.Simple (':' :: p) :=
  .literal (by decide) hp

theorem simple_base_append (space : KeySpace) (path : List Char) {p : List Char}
    (hp : ByteGlob.Simple p) : ByteGlob.Simple (space.base path ++ p) := by
  unfold KeySpace.base
  rw [List.append_assoc, List.cons_append]
  exact (simple_colon (hp.escape_append _)).escape_append _

theorem simple_patternEnd {q : List Char} (h : PatternEnd q) : ByteGlob.Simple q := by
  have hall : ByteGlob.Simple [':', '*'] := simple_colon (.star .nil)
  cases h with
  | collection => exact .nil
  | members => exact hall
  | caller scope => exact simple_colon (hall.escape_append scope)
  | resource id =>
    have hid : ByteGlob.Simple (Glob.escape id ++ []) := ByteGlob.Simple.nil.escape_append id
    rw [List.append_nil] at hid
    exact simple_colon (.star (simple_colon hid))
  | views id =>
    rw [List.append_assoc]
    exact simple_colon (.star (simple_colon (hall.escape_append id)))

theorem simple_patterns {space : KeySpace} {w : Target} {p : Pattern}
    (h : p ∈ space.patterns w) : ByteGlob.Simple p.text := by
  obtain ⟨q, rfl, hq⟩ := patternEnd_of_mem h
  exact simple_base_append space w.path (simple_patternEnd hq)

theorem not_covers_empty {space : KeySpace} {w : Target} {p : Pattern}
    (h : p ∈ space.patterns w) : p.covers ⟨[]⟩ = false := by
  obtain ⟨q, rfl, -⟩ := mem_patterns h
  rw [Bool.eq_false_iff]
  intro hcovers
  obtain ⟨u, hu, -⟩ := (covers_base_append space w.path q ⟨[]⟩).mp hcovers
  -- The collection has a colon.
  simp [KeySpace.collection] at hu

theorem accepts_iff_covers {space : KeySpace} {w : Target} {p : Pattern}
    (h : p ∈ space.patterns w) (key : Key) :
    ByteGlob.accepts (ByteGlob.tokens (Utf8.encode p.text)) (keyBytes key) = true ↔
      p.covers key = true := by
  unfold keyBytes Pattern.covers
  rw [(simple_patterns h).accepts_encode_iff, Glob.isMatch_iff_reads]

variable {space : KeySpace} {w : Target} {p : Pattern} {keysMatch : Bytes → Bytes → Bool}
  {server : Server σ}

theorem MatchesGlobs.eq_covers (hmatch : MatchesGlobs keysMatch) (hp : p ∈ space.patterns w)
    (key : Key) : keysMatch (Utf8.encode p.text) (keyBytes key) = p.covers key := by
  rw [Bool.eq_iff_iff]
  constructor
  · intro h
    exact (accepts_iff_covers hp key).mp (hmatch.sound _ _ h)
  · intro h
    refine hmatch.complete _ _ (fun hempty => ?_) ((accepts_iff_covers hp key).mpr h)
    have hkey : key = ⟨[]⟩ := congrArg Key.mk (Utf8.encode_eq_nil.mp hempty)
    rw [hkey, not_covers_empty hp] at h
    cases h

/-- A server that matches names as documented finds a key under a pattern of a write exactly if the
pattern covers it in the store in memory, whatever characters the request puts into the pattern; and
it is asked for the keys under the pattern by the bytes of its text. -/
theorem server_matches_iff_covers (hmatch : MatchesGlobs keysMatch) (space : KeySpace) (w : Target) :
    ∀ p ∈ space.patterns w,
      (∀ key, keysMatch (Utf8.encode p.text) (keyBytes key) = p.covers key) ∧
      ∀ {σ : Type} (server : Server σ) (timeout : Duration) (s : σ),
        (store server.logged timeout (.keysMatching p) (s, [])).2.2 =
          [command "KEYS" [Utf8.encode p.text]] := by
  intro p hp
  refine ⟨fun key => hmatch.eq_covers hp key, fun server timeout s => ?_⟩
  exact send_logged "KEYS" [Utf8.encode p.text] Reply.toTexts []

def globMatches (pattern name : Bytes) : Bool := ByteGlob.accepts (ByteGlob.tokens pattern) name

theorem matchesGlobs_globMatches : MatchesGlobs globMatches :=
  ⟨fun _ _ h => h, fun _ _ _ h => h⟩

/-- A star in the version, brackets in the resource type and a question mark after a letter of two
bytes are matched as they are. -/
theorem server_matches_escaped_patterns :
    let space : KeySpace := ⟨"v1".toList, "[tâches]".toList⟩
    let w : Target := ⟨"/api/v*/tâches/é?".toList, none, none⟩
    let p : Pattern := ⟨"v\\*:\\[tâches\\]:*:é\\?".toList⟩
    MatchesGlobs globMatches ∧ p ∈ space.patterns w ∧
      globMatches (Utf8.encode p.text) (keyBytes ⟨"v*:[tâches]:alice:é?".toList⟩) = true ∧
      globMatches (Utf8.encode p.text) (keyBytes ⟨"v2:[tâches]:alice:é?".toList⟩) = false := by
  intro space w p
  have hp : p ∈ space.patterns w := by
    have hpatterns : space.patterns w = [⟨"v\\*:\\[tâches\\]:*".toList⟩, p,
      ⟨"v\\*:\\[tâches\\]:*:é\\?:*".toList⟩, ⟨"v\\*:\\[tâches\\]".toList⟩] := by cbv
    rw [hpatterns]
    simp
  obtain ⟨hcovers, -⟩ :=
    server_matches_iff_covers matchesGlobs_globMatches space w p hp
  exact ⟨matchesGlobs_globMatches, hp, (hcovers _).trans (by cbv), (hcovers _).trans (by cbv)⟩

/-! ## Listings -/

/-- The server answers with the names that it holds and that match. -/
def Lists (server : Server σ) (keysMatch : Bytes → Bytes → Bool) (names : σ → List Key) : Prop :=
  ∀ pattern s, ∃ t, server (command "KEYS" [pattern]) s =
    (some (.list ((((names s).map keyBytes).filter (keysMatch pattern)).map .bulk)), t)

theorem firstError?_bulks (names : List Bytes) : firstError? (names.map .bulk) = none := by
  induction names with
  | nil => rfl
  | cons name names ih =>
    rw [List.map_cons, firstError?, ih]
    rfl

theorem toText_bulk_keyBytes (key : Key) : (Reply.bulk (keyBytes key)).toText = .ok key.text := by
  have hdecode : Utf8.decode? (keyBytes key) = some key.text := Utf8.decode?_eq_some_iff.mpr rfl
  simp only [Reply.toText, hdecode]

theorem toTexts_bulks (keys : List Key) :
    (Reply.list ((keys.map keyBytes).map .bulk)).toTexts = .ok (keys.map Key.text) := by
  change ((keys.map keyBytes).map Reply.bulk).mapM Reply.toText = _
  induction keys with
  | nil => rfl
  | cons key keys ih =>
    rw [List.map_cons, List.map_cons, List.mapM_cons, toText_bulk_keyBytes, ih]
    rfl

/-- Under a pattern of a write, such a server lists what a store in memory lists that has the same
keys. -/
theorem listed_as_in_memory (hmatch : MatchesGlobs keysMatch) {names : σ → List Key}
    (hlists : Lists server keysMatch names) (hp : p ∈ space.patterns w) (timeout : Duration)
    {s : σ} {now : Instant} {m : Memory} (hnames : names s = Memory.keys now m) :
    (store server timeout (.keysMatching p) s).1 = (Memory.store now (.keysMatching p) m).1 := by
  obtain ⟨t, hreply⟩ := hlists (Utf8.encode p.text) s
  have hnamed : ((names s).map keyBytes).filter (keysMatch (Utf8.encode p.text)) =
      ((Memory.keys now m).filter p.covers).map keyBytes := by
    rw [hnames, List.filter_map]
    exact congrArg (List.map keyBytes) (List.filter_congr fun key _ => hmatch.eq_covers hp key)
  rw [hnamed] at hreply
  simp only [store, send_eq hreply (firstError?_bulks _), toTexts_bulks, Memory.store]
  change Except.ok (((Memory.keys now m).filter p.covers).map Key.text |>.map Key.mk) = _
  rw [List.map_map]
  exact congrArg Except.ok (List.map_id _)

end TaskBoard.Remote
