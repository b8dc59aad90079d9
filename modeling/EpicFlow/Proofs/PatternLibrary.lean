import EpicFlow.Proofs.PatternSearch
import EpicFlow.Proofs.TextLines

/-!
# The pattern library

A pattern is stored by its key, its name and scope. Storing (`PatternBook.store`) refuses a
pattern whose name is blank or whose confidence is not a number between 0 and 1, NaN included
(`PatternRecord.Rejected`), and writes nothing then (`store_error_iff`). Otherwise the pattern,
with a negative zero confidence read as zero (`PatternRecord.kept`), takes the place of the
pattern of its key where that one stands, or is appended when the key is new, and the answer
says whether it was new (`Upserted`, `store_upserts`).

A library is reachable when stores built it from the empty one (`Reachable`). Each store keeps
the keys apart and the confidences between 0 and 1 (`Sound.store`), so every reachable library
does (`Reachable.sound`). Such a library has numbers for confidences, so its searches answer
exactly the listing of `Proofs.PatternSearch`: the patterns of the scope and the global scope in
the library's order, those that score ranked by score, the first `limit` of them
(`reachable_contract`).

Main statements:

* `store_error_iff`: a store fails exactly on a refused pattern.
* `store_upserts`: otherwise it replaces or appends, and says which.
* `Reachable.sound`: a reachable library has one pattern per key, confidences between 0 and 1.
* `reachable_contract`: what searches and stores do on every reachable library.
-/

set_option autoImplicit false

namespace EpicFlow

namespace PatternRecord

/-- Two patterns share a key: the same name and the same scope. -/
def SameKey (p r : PatternRecord) : Prop := p.name = r.name ∧ p.scope = r.scope

instance : DecidableRel SameKey := fun _ _ => inferInstanceAs (Decidable (_ ∧ _))

/-- The key of a pattern. -/
def key (p : PatternRecord) : String × String := (p.name, p.scope)

theorem sameKey_iff_key {p r : PatternRecord} : SameKey p r ↔ p.key = r.key := by
  simp [SameKey, key]

/-- The pattern as the library keeps it: a negative zero confidence is kept as zero. -/
def kept (r : PatternRecord) : PatternRecord :=
  { r with confidence := PatternBook.keptConfidence r.confidence }

@[simp] theorem key_kept (r : PatternRecord) : r.kept.key = r.key := rfl

/-- A confidence between 0 and 1; no NaN is. -/
def UnitConfidence (x : Float) : Prop := (0.0 : Float) ≤ x ∧ x ≤ 1.0

/-- A pattern the library refuses: its name is blank, or its confidence is NaN, below 0 or
above 1. -/
def Rejected (r : PatternRecord) : Prop :=
  (∀ c ∈ r.name.toList, Text.isBlank c = true) ∨
    r.confidence.isNaN = true ∨ r.confidence < 0.0 ∨ (1.0 : Float) < r.confidence

theorem unitConfidence_of_not_rejected {r : PatternRecord} (h : ¬ r.Rejected) :
    UnitConfidence r.confidence := by
  rw [Rejected, not_or, ← FloatOrder.outside_unit_iff] at h
  simpa [UnitConfidence] using h.2

/-- Keeping a confidence between 0 and 1 keeps it between 0 and 1. -/
theorem unitConfidence_kept {r : PatternRecord} (h : UnitConfidence r.confidence) :
    UnitConfidence r.kept.confidence := by
  simp only [kept, PatternBook.keptConfidence]
  split
  · exact ⟨by decide, by decide⟩
  · exact h

end PatternRecord

namespace PatternBook

open PatternRecord

/-! ### Stores -/

/-- A store fails exactly on a refused pattern, and a failed store writes nothing: it answers
an error and no library. -/
theorem store_error_iff (b : PatternBook) (r : PatternRecord) :
    (∃ e, b.store r = .error e) ↔ r.Rejected := by
  rw [Rejected, ← Text.trim_isEmpty_iff, ← FloatOrder.outside_unit_iff]
  unfold store
  by_cases hname : (Text.trim r.name).isEmpty = true
  · simp [hname]
  · by_cases hconf : (!(decide ((0.0 : Float) ≤ r.confidence) && decide (r.confidence ≤ 1.0))) = true
    · simp [hname, hconf]
    · simp [hname, hconf]

/-- A pattern that is not refused is written as the library keeps it. -/
theorem store_eq_upsert {b : PatternBook} {r : PatternRecord} (h : ¬ r.Rejected) :
    b.store r = .ok (b.upsert r.kept) := by
  rw [Rejected, ← Text.trim_isEmpty_iff, ← FloatOrder.outside_unit_iff, not_or] at h
  simp [store, h.1, h.2, kept]

/-- One pattern per key. -/
def KeysUnique (b : PatternBook) : Prop := (b.records.map key).Nodup

/-- What writing `r` by its key does to a library, said without the code: the answer is true
exactly when no pattern has `r`'s key; then `r` is appended; and a pattern of `r`'s key is
replaced by `r` where it stands. -/
structure Upserted (b : PatternBook) (r : PatternRecord) (b' : PatternBook) (created : Bool) :
    Prop where
  created_iff : created = true ↔ ∀ p ∈ b.records, ¬ SameKey p r
  appended : (∀ p ∈ b.records, ¬ SameKey p r) → b'.records = b.records ++ [r]
  replaced : ∀ pre old post, b.records = pre ++ old :: post → SameKey old r →
    b'.records = pre ++ r :: post

/-- In a list of patterns with distinct keys, no pattern but `old` has the key of `old`. -/
theorem not_sameKey_of_nodup {pre post : List PatternRecord} {old : PatternRecord}
    (h : ((pre ++ old :: post).map key).Nodup) : ∀ p ∈ pre ++ post, ¬ SameKey p old := by
  rw [List.map_append, List.map_cons, List.nodup_middle, List.nodup_cons, ← List.map_append] at h
  intro p hp hkey
  exact h.1 (List.mem_map.2 ⟨p, hp, sameKey_iff_key.1 hkey⟩)

/-- The test `upsert` makes is `SameKey`. -/
theorem sameKey_test {p r : PatternRecord} :
    (p.name == r.name && p.scope == r.scope) = true ↔ SameKey p r := by
  simp [SameKey]

/-- On a library with one pattern per key, `upsert` writes by the key. -/
theorem upsert_upserted {b : PatternBook} (hb : b.KeysUnique) (r : PatternRecord) :
    Upserted b r (b.upsert r).1 (b.upsert r).2 := by
  unfold upsert
  split
  · rename_i h
    obtain ⟨o, ho, hkey⟩ := List.any_eq_true.1 h
    refine ⟨?_, fun hnone => absurd (sameKey_test.1 hkey) (hnone o ho),
      fun pre old post hsplit hold => ?_⟩
    · simp only [Bool.false_eq_true, false_iff, not_forall, not_not]
      exact ⟨o, ho, sameKey_test.1 hkey⟩
    · -- the patterns around `old` have other keys than `old`, which has `r`'s: they stay
      have hothers := not_sameKey_of_nodup (by rwa [KeysUnique, hsplit] at hb)
      have hsame : ∀ p, SameKey p r ↔ SameKey p old := fun p => by
        rw [sameKey_iff_key, sameKey_iff_key, sameKey_iff_key.1 hold]
      have hkeep : ∀ p ∈ pre ++ post,
          (if (p.name == r.name && p.scope == r.scope) = true then r else p) = p :=
        fun p hp => if_neg fun hp' => hothers p hp ((hsame p).1 (sameKey_test.1 hp'))
      simp only [hsplit, List.map_append, List.map_cons, sameKey_test.2 hold, if_true]
      rw [List.map_congr_left fun p hp => hkeep p (List.mem_append_left _ hp),
        List.map_congr_left fun p hp => hkeep p (List.mem_append_right _ hp)]
      simp
  · rename_i h
    have hnone : ∀ p ∈ b.records, ¬ SameKey p r := fun p hp hkey =>
      h (List.any_eq_true.2 ⟨p, hp, sameKey_test.2 hkey⟩)
    exact ⟨by simpa using hnone, fun _ => rfl,
      fun pre old post hsplit hold => absurd hold (hnone old (by simp [hsplit]))⟩

/-- A store of a pattern that is not refused writes it, as kept, by its key. -/
theorem store_upserts {b : PatternBook} (hb : b.KeysUnique) {r : PatternRecord} (h : ¬ r.Rejected) :
    ∃ b' created, b.store r = .ok (b', created) ∧ Upserted b r.kept b' created :=
  ⟨_, _, store_eq_upsert h, upsert_upserted hb r.kept⟩

/-- Writing by the key keeps one pattern per key. -/
theorem Upserted.keysUnique {b b' : PatternBook} {r : PatternRecord} {created : Bool}
    (hu : Upserted b r b' created) (hb : b.KeysUnique) : b'.KeysUnique := by
  by_cases hnew : ∀ p ∈ b.records, ¬ SameKey p r
  · -- appended: its key is none of the others
    rw [KeysUnique, hu.appended hnew, List.map_append, List.nodup_append]
    refine ⟨hb, List.nodup_singleton _, fun k hk k' hk' hkk => ?_⟩
    obtain ⟨p, hp, rfl⟩ := List.mem_map.1 hk
    rw [List.map_singleton, List.mem_singleton] at hk'
    exact hnew p hp (sameKey_iff_key.2 (hkk.trans hk'))
  · -- replaced: the keys are those of the library before
    obtain ⟨old, hold, hkey⟩ := not_forall_not.1 (by simpa using hnew)
    obtain ⟨pre, post, hsplit⟩ := List.append_of_mem hold
    have hkeys : b'.records.map key = b.records.map key := by
      rw [hu.replaced pre old post hsplit hkey, hsplit]
      simp [sameKey_iff_key.1 hkey]
    rw [KeysUnique, hkeys]
    exact hb

/-- Writing a pattern of confidence between 0 and 1 keeps all confidences between 0 and 1. -/
theorem Upserted.unit {b b' : PatternBook} {r : PatternRecord} {created : Bool}
    (hu : Upserted b r b' created) (hb : ∀ p ∈ b.records, UnitConfidence p.confidence)
    (hr : UnitConfidence r.confidence) : ∀ p ∈ b'.records, UnitConfidence p.confidence := by
  by_cases hnew : ∀ p ∈ b.records, ¬ SameKey p r
  · rw [hu.appended hnew]
    intro p hp
    rcases List.mem_append.1 hp with hp | hp
    · exact hb p hp
    · rw [List.mem_singleton.1 hp]
      exact hr
  · obtain ⟨old, hold, hkey⟩ := not_forall_not.1 (by simpa using hnew)
    obtain ⟨pre, post, hsplit⟩ := List.append_of_mem hold
    rw [hu.replaced pre old post hsplit hkey]
    intro p hp
    rcases List.mem_append.1 hp with hp | hp
    · exact hb p (hsplit ▸ List.mem_append_left _ hp)
    · rcases List.mem_cons.1 hp with rfl | hp
      · exact hr
      · exact hb p (hsplit ▸ List.mem_append_right _ (List.mem_cons_of_mem _ hp))

/-! ### Reachable libraries -/

/-- The libraries that stores build from the empty one. -/
inductive Reachable : PatternBook → Prop
  | empty : Reachable {}
  | stored {b b' : PatternBook} {r : PatternRecord} {created : Bool} :
      Reachable b → b.store r = .ok (b', created) → Reachable b'

/-- What every reachable library keeps: one pattern per key and confidences between 0 and 1. -/
structure Sound (b : PatternBook) : Prop where
  keysUnique : b.KeysUnique
  unit : ∀ p ∈ b.records, UnitConfidence p.confidence

theorem sound_empty : Sound {} := ⟨List.nodup_nil, fun _ h => absurd h List.not_mem_nil⟩

/-- A store keeps a library sound: it wrote a pattern that was not refused, by its key. -/
theorem Sound.store {b b' : PatternBook} {r : PatternRecord} {created : Bool} (hb : b.Sound)
    (h : b.store r = .ok (b', created)) : b'.Sound := by
  have hr : ¬ r.Rejected := fun hr => by
    obtain ⟨e, he⟩ := (store_error_iff b r).2 hr
    rw [he] at h
    cases h
  rw [store_eq_upsert hr, Except.ok.injEq] at h
  have hu : Upserted b r.kept b' created := by
    have hup := upsert_upserted hb.keysUnique r.kept
    rwa [h] at hup
  exact ⟨hu.keysUnique hb.keysUnique,
    hu.unit hb.unit (unitConfidence_kept (unitConfidence_of_not_rejected hr))⟩

/-- Every reachable library is sound. -/
theorem Reachable.sound {b : PatternBook} (h : b.Reachable) : b.Sound := by
  induction h with
  | empty => exact sound_empty
  | stored _ hstore ih => exact ih.store hstore

/-- A confidence between 0 and 1 is a number. -/
theorem isNaN_of_unit {x : Float} (h : UnitConfidence x) : x.isNaN = false := by
  cases hx : x.isNaN
  · rfl
  · exact absurd h.1 (FloatOrder.not_le_isNaN hx)

/-- A query without terms finds nothing. -/
theorem search_of_no_terms (b : PatternBook) (limit : Nat) {q : String}
    (hq : ∀ t, ¬ IsQueryTerm q t) (scope : String) : b.search limit q scope = [] := by
  have hzero : ∀ p, score q p = 0 := fun p => by
    simp [score, hq]
  simp [search_eq, hzero]

/-- What a library answers: its keys apart and its confidences between 0 and 1; a search the
listing; a store an error exactly on a refused pattern, and otherwise the pattern, as kept,
written by its key. -/
structure Contract (b : PatternBook) : Prop where
  sound : b.Sound
  search : ∀ limit q scope found, b.search limit q scope = found ↔ b.Listed limit q scope found
  noTerms : ∀ limit q scope, (∀ t, ¬ IsQueryTerm q t) → b.search limit q scope = []
  rejects : ∀ r, (∃ e, b.store r = .error e) ↔ r.Rejected
  upserts : ∀ r, ¬ r.Rejected → ∃ b' created, b.store r = .ok (b', created) ∧ Upserted b r.kept b' created

/-- Every library that stores built from the empty one keeps the contract. -/
theorem reachable_contract {b : PatternBook} (hb : b.Reachable) : b.Contract := by
  have hsound := hb.sound
  have hnum : ∀ p ∈ b.records, p.confidence.isNaN = false := fun p hp => isNaN_of_unit (hsound.unit p hp)
  exact ⟨hsound, search_eq_iff_listed hnum, fun limit _ scope hq => search_of_no_terms b limit hq scope,
    store_error_iff b, fun _ hr => store_upserts hsound.keysUnique hr⟩

/-- The patterns of a build, a release and the global scope, two of them equally confident. -/
def samplePatterns : PatternBook :=
  ⟨[⟨"flaky-tests", "Retry flaky tests once before failing", "BUILD", 0.4⟩,
    ⟨"lint-first", "Run the linter before the tests", "global", 0.9⟩,
    ⟨"release-notes", "Write release notes from the merged changes", "RELEASE", 0.9⟩]⟩

theorem samplePatterns_contract : samplePatterns.Reachable ∧ samplePatterns.Contract := by
  have h : samplePatterns.Reachable :=
    .stored (r := ⟨"release-notes", "Write release notes from the merged changes", "RELEASE", 0.9⟩)
      (.stored (r := ⟨"lint-first", "Run the linter before the tests", "global", 0.9⟩)
        (.stored (r := ⟨"flaky-tests", "Retry flaky tests once before failing", "BUILD", 0.4⟩)
          .empty rfl) rfl) rfl
  exact ⟨h, reachable_contract h⟩

end PatternBook

end EpicFlow
