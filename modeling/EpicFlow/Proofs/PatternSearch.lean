import Mathlib.Data.List.SplitBy
import Mathlib.Data.Set.Card
import Mathlib.Data.String.Basic
import EpicFlow.Proofs.FloatOrder
import EpicFlow.Proofs.Ranking

/-!
# Searching and storing patterns

A search of the pattern memory (`PatternBook.search`) is said here without its code. Its terms
are the maximal runs of letters and digits of the query that are at least three bytes long,
lower-cased (`IsQueryTerm`); a pattern's score is the number of distinct terms found in its
lower-cased name or body (`score`). The search lists the patterns of the scope and of the global
scope ranked by confidence, highest first, and then by name, the library's order standing for
ties (`Precedes`); keeps those that score; ranks them by score, highest first, keeping that order
among equal scores; and answers the first `limit` of them (`Listed`). For a library whose
confidences are numbers, the listing is unique and the search answers it
(`search_eq_iff_listed`).

Storing a pattern (`PatternBook.store`) refuses a blank name and a confidence that is not a
number between 0 and 1 (`store_error_iff`); otherwise it replaces the pattern of the same name and
scope, or adds one, and answers whether the key was new (`store_ok`). Every library built by
stores from the empty one keeps one pattern per key and confidences between 0 and 1
(`Reachable.keysUnique`, `Reachable.unit`).

Main statements:

* `PatternBook.mem_words_iff`: the words of a text are its maximal runs of letters and digits.
* `PatternBook.mem_queryTerms`, `PatternBook.nodup_queryTerms`: the terms of a query, once each.
* `PatternBook.relevance_queryTerms`: the relevance of a pattern is its score.
* `PatternBook.search_eq_iff_listed`: a search answers exactly the listing.
* `PatternBook.store_error_iff`, `PatternBook.store_ok`: what a store does.
-/

set_option autoImplicit false

namespace EpicFlow

namespace PatternBook

/-! ### The terms of a query -/

/-- `w` is a maximal run of letters and digits of `cs`: not empty, made of letters and digits,
and standing in `cs` between characters that are neither (or the ends of `cs`). -/
def IsRun (cs w : List Char) : Prop :=
  w ≠ [] ∧ (∀ c ∈ w, Text.isAlnum c = true) ∧
    ∃ pre post, cs = pre ++ w ++ post ∧ (∀ c ∈ pre.getLast?, Text.isAlnum c = false) ∧
      ∀ c ∈ post.head?, Text.isAlnum c = false

/-- The rule `words` splits by: neighbours stay together when both or neither are letters or
digits. -/
abbrev sameClass (a b : Char) : Bool := Text.isAlnum a == Text.isAlnum b

theorem sameClass_eq_false {a b : Char} (hb : Text.isAlnum b = true) :
    sameClass a b = false ↔ Text.isAlnum a = false := by
  cases h : Text.isAlnum a <;> simp [sameClass, h, hb]

/-- A run of letters and digits is one piece of the split. -/
theorem mem_splitBy_of_isRun {cs w : List Char} (h : IsRun cs w) : w ∈ cs.splitBy sameClass := by
  obtain ⟨hne, halnum, pre, post, rfl, hpre, hpost⟩ := h
  have hchain : w.IsChain fun x y => sameClass x y = true :=
    List.Pairwise.isChain (List.pairwise_of_forall_mem_list fun a ha b hb => by
      simp [sameClass, halnum a ha, halnum b hb])
  -- the split breaks before the run and after it, and the run holds together
  have hhead : ∀ y ∈ (w ++ post).head?, Text.isAlnum y = true := by
    rw [List.head?_append_of_ne_nil _ hne]
    intro y hy
    exact halnum y (List.mem_of_mem_head? hy)
  rw [List.append_assoc, List.splitBy_append fun x hx y hy =>
      (sameClass_eq_false (hhead y hy)).2 (hpre x hx),
    List.splitBy_append fun x hx y hy => by
      have hx' : Text.isAlnum x = true := halnum x (List.mem_of_mem_getLast? hx)
      cases hy' : Text.isAlnum y <;> simp_all [sameClass],
    List.splitBy_of_isChain hne hchain]
  simp

/-- A piece of the split made of letters and digits is a maximal run: the pieces next to it
start and end with characters of the other class. -/
theorem isRun_of_mem_splitBy {cs w : List Char} (hw : w ∈ cs.splitBy sameClass)
    (halnum : ∀ c ∈ w, Text.isAlnum c = true) : IsRun cs w := by
  have hne : w ≠ [] := List.ne_nil_of_mem_splitBy hw
  obtain ⟨L₁, L₂, hsplit⟩ := List.append_of_mem hw
  have hchain := List.isChain_getLast_head_splitBy sameClass cs
  rw [hsplit] at hchain
  have hflat : cs = L₁.flatten ++ w ++ L₂.flatten := by
    conv_lhs => rw [← List.flatten_splitBy sameClass cs, hsplit]
    simp
  refine ⟨hne, halnum, L₁.flatten, L₂.flatten, hflat, ?_, ?_⟩
  · -- the piece before ends with a character of the other class
    rcases List.eq_nil_or_concat L₁ with rfl | ⟨L, a, rfl⟩
    · simp
    · have ha : a ≠ [] := List.ne_nil_of_mem_splitBy (r := sameClass) (l := cs) (by rw [hsplit]; simp)
      rw [List.concat_eq_append, List.flatten_append, List.flatten_singleton,
        List.getLast?_append_of_ne_nil _ ha]
      rw [List.concat_eq_append] at hchain
      obtain ⟨-, -, hlink⟩ := List.isChain_append.1 hchain
      obtain ⟨_, _, hrel⟩ := hlink a (by simp) w (by simp)
      intro c hc
      rw [List.getLast?_eq_some_getLast ha, Option.mem_some_iff] at hc
      subst hc
      exact (sameClass_eq_false (halnum _ (List.head_mem _))).1 hrel
  · -- the piece after starts with a character of the other class
    rcases L₂ with _ | ⟨b, L⟩
    · simp
    · have hb : b ≠ [] := List.ne_nil_of_mem_splitBy (r := sameClass) (l := cs) (by rw [hsplit]; simp)
      rw [List.flatten_cons, List.head?_append_of_ne_nil _ hb]
      obtain ⟨-, hrest, -⟩ := List.isChain_append.1 hchain
      obtain ⟨⟨_, _, hrel⟩, -⟩ := List.isChain_cons_cons.1 hrest
      intro c hc
      rw [List.head?_eq_some_head hb, Option.mem_some_iff] at hc
      subst hc
      have hlast : Text.isAlnum (w.getLast hne) = true := halnum _ (List.getLast_mem _)
      cases hc' : Text.isAlnum (b.head hb) <;> simp_all [sameClass]

/-- The words of a text are exactly its maximal runs of letters and digits. -/
theorem mem_words_iff (cs : List Char) (s : String) : s ∈ words cs ↔ IsRun cs s.toList := by
  simp only [words, List.mem_filterMap, Option.ite_none_right_eq_some, Option.some.injEq]
  constructor
  · rintro ⟨w, hw, hall, rfl⟩
    rw [String.toList_ofList]
    exact isRun_of_mem_splitBy hw (List.all_eq_true.1 hall)
  · intro h
    refine ⟨s.toList, mem_splitBy_of_isRun h, List.all_eq_true.2 h.2.1, String.ofList_toList⟩

/-- Inserting a term into a list of terms adds it and nothing else. -/
theorem mem_insertTerm (t u : String) : ∀ l : List String, u ∈ insertTerm t l ↔ u = t ∨ u ∈ l
  | [] => by simp [insertTerm]
  | v :: vs => by
    unfold insertTerm
    by_cases htv : t = v
    · subst htv
      simp
    · by_cases hlt : t < v
      · simp [htv, hlt]
      · simp only [beq_iff_eq, htv, hlt, if_false, List.mem_cons, mem_insertTerm t u vs]
        tauto

/-- Inserting a term keeps a list of terms strictly increasing. -/
theorem sorted_insertTerm (t : String) :
    ∀ {l : List String}, l.Pairwise (· < ·) → (insertTerm t l).Pairwise (· < ·)
  | [], _ => by simp [insertTerm]
  | v :: vs, h => by
    unfold insertTerm
    by_cases htv : t = v
    · simpa [htv] using h
    by_cases hlt : t < v
    · -- the term goes first: it is below `v`, so below all that follows `v`
      simp only [beq_iff_eq, htv, hlt, if_false, if_true]
      refine List.Pairwise.cons (fun x hx => ?_) h
      rcases List.mem_cons.1 hx with rfl | hx
      · exact hlt
      · exact hlt.trans (List.rel_of_pairwise_cons h hx)
    · -- the term goes after `v`, which is below it
      have hvt : v < t := lt_of_le_of_ne (not_lt.1 hlt) (Ne.symm htv)
      simp only [beq_iff_eq, htv, hlt, if_false]
      refine List.Pairwise.cons (fun x hx => ?_) (sorted_insertTerm t h.of_cons)
      rcases (mem_insertTerm t x vs).1 hx with rfl | hx
      · exact hvt
      · exact List.rel_of_pairwise_cons h hx

/-- Inserting words one by one, lower-cased, adds those words and nothing else. -/
theorem mem_foldl_insertTerm (u : String) : ∀ ws acc : List String,
    u ∈ ws.foldl (fun acc w => insertTerm (Text.toLower w) acc) acc ↔
      u ∈ acc ∨ ∃ w ∈ ws, u = Text.toLower w
  | [], acc => by simp
  | w :: ws, acc => by
    rw [List.foldl_cons, mem_foldl_insertTerm u ws, mem_insertTerm]
    simp only [List.mem_cons, exists_eq_or_imp]
    tauto

theorem sorted_foldl_insertTerm : ∀ (ws : List String) {acc : List String},
    acc.Pairwise (· < ·) →
      (ws.foldl (fun acc w => insertTerm (Text.toLower w) acc) acc).Pairwise (· < ·)
  | [], _, h => h
  | _ :: ws, _, h => sorted_foldl_insertTerm ws (sorted_insertTerm _ h)

/-- `t` is a term of the query `q`: a maximal run of letters and digits of `q`, at least three
bytes long, lower-cased. -/
def IsQueryTerm (q t : String) : Prop :=
  ∃ s : String, IsRun q.toList s.toList ∧ 3 ≤ s.utf8ByteSize ∧ t = Text.toLower s

/-- The terms of a query are its query terms. -/
theorem mem_queryTerms (q t : String) : t ∈ queryTerms q ↔ IsQueryTerm q t := by
  simp only [queryTerms, mem_foldl_insertTerm, List.not_mem_nil, false_or, List.mem_filter,
    mem_words_iff, IsQueryTerm, ge_iff_le, decide_eq_true_eq, and_assoc]

/-- The terms of a query come once each. -/
theorem nodup_queryTerms (q : String) : (queryTerms q).Nodup :=
  (sorted_foldl_insertTerm _ List.Pairwise.nil).imp ne_of_lt

/-! ### Scores -/

/-- The search for a text inside another finds exactly its occurrences. -/
theorem occursIn_iff_infix (pat : List Char) : ∀ cs : List Char, Text.occursIn pat cs = true ↔ pat <:+: cs
  | [] => by simp [Text.occursIn]
  | c :: cs => by
    rw [Text.occursIn, Bool.or_eq_true, occursIn_iff_infix pat cs, List.isPrefixOf_iff_prefix,
      List.infix_cons_iff]

/-- The pattern mentions `t`: it occurs in its lower-cased name or body. -/
def Mentions (p : PatternRecord) (t : String) : Prop :=
  t.toList <:+: (Text.toLower p.name).toList ∨ t.toList <:+: (Text.toLower p.body).toList

/-- The score of a pattern for a query: how many distinct terms of the query it mentions. -/
noncomputable def score (q : String) (p : PatternRecord) : ℕ :=
  {t | IsQueryTerm q t ∧ Mentions p t}.ncard

/-- The relevance a search counts for a pattern is its score: the terms come once each, so
counting the terms the pattern mentions counts distinct terms. -/
theorem relevance_queryTerms (q : String) (p : PatternRecord) :
    relevance (queryTerms q) p = score q p := by
  set found := (queryTerms q).filter fun t =>
    Text.contains (Text.toLower p.name) t || Text.contains (Text.toLower p.body) t
  have hnodup : found.Nodup := (nodup_queryTerms q).filter _
  have hset : {t | IsQueryTerm q t ∧ Mentions p t} = ↑found.toFinset := by
    ext t
    simp [found, mem_queryTerms, Mentions, Text.contains, occursIn_iff_infix]
  rw [score, hset, Set.ncard_coe_finset, List.toFinset_card_of_nodup hnodup]
  rfl

/-! ### The library's order -/

end PatternBook

namespace PatternRecord

/-- `a` may stand before `b` in the library: a higher confidence, or an equal one and a name that
is not after `b`'s. -/
def Precedes (a b : PatternRecord) : Prop :=
  b.confidence < a.confidence ∨ ((a.confidence == b.confidence) = true ∧ a.name ≤ b.name)

instance : DecidableRel Precedes := fun _ _ => inferInstanceAs (Decidable (_ ∨ _))

theorem before_eq_decide (a b : PatternRecord) : PatternBook.before a b = decide (Precedes a b) := by
  rw [Bool.eq_iff_iff, decide_eq_true_iff]
  simp [PatternBook.before, Precedes]

/-- Where a pattern stands in the library's order: the rank of its confidence, highest first, and
then its name. -/
def rankKey (p : PatternRecord) : (ℤ ×ₗ ℤ ×ₗ ℤ)ᵒᵈ ×ₗ String :=
  toLex (OrderDual.toDual (FloatOrder.rank p.confidence), p.name)

/-- Between patterns whose confidences are numbers, the library's order compares keys. -/
theorem precedes_iff_rankKey {a b : PatternRecord} (ha : a.confidence.isNaN = false)
    (hb : b.confidence.isNaN = false) : Precedes a b ↔ rankKey a ≤ rankKey b := by
  rw [Precedes, rankKey, rankKey, Prod.Lex.toLex_le_toLex, OrderDual.toDual_lt_toDual,
    FloatOrder.lt_iff_rank hb ha, FloatOrder.beq_iff_rank ha hb, OrderDual.toDual_inj]

end PatternRecord

namespace PatternBook

open PatternRecord

/-- A pattern of the scope or of the global scope. -/
def InScope (scope : String) (p : PatternRecord) : Prop :=
  p.scope = scope ∨ p.scope = globalScope

instance (scope : String) : DecidablePred (InScope scope) :=
  fun _ => inferInstanceAs (Decidable (_ ∨ _))

/-- The patterns of a scope and the global scope, in the library's order. -/
theorem inScopes_eq (b : PatternBook) (scope : String) :
    b.inScopes [scope, globalScope] =
      (b.records.filter (InScope scope ·)).mergeSort before := by
  simp only [inScopes, List.head?_cons, Option.getD_some, List.drop_succ_cons, List.drop_zero]
  congr 1
  exact List.filter_congr fun p _ => Bool.eq_iff_iff.2 (by rw [decide_eq_true_iff]; simp [InScope])

/-- When the confidences are numbers, the patterns of a scope and the global scope are listed
ranked by the library's order. Merge sort ranks by the keys, and the library's order is the
order of keys on these patterns. -/
theorem ranked_inScopes {b : PatternBook} (hb : ∀ p ∈ b.records, p.confidence.isNaN = false)
    (scope : String) :
    Ranked Precedes (b.records.filter (InScope scope ·)) (b.inScopes [scope, globalScope]) := by
  set xs := b.records.filter (InScope scope ·)
  have hnum : ∀ p ∈ xs, p.confidence.isNaN = false := fun p hp => hb p (List.mem_filter.1 hp).1
  have hagree : ∀ a ∈ xs, ∀ c ∈ xs, Precedes a c ↔ rankKey a ≤ rankKey c :=
    fun a ha c hc => precedes_iff_rankKey (hnum a ha) (hnum c hc)
  have hsort : b.inScopes [scope, globalScope] = xs.mergeSort fun a c => decide (rankKey a ≤ rankKey c) := by
    rw [inScopes_eq]
    exact mergeSort_agree fun a ha c hc => by
      rw [before_eq_decide]
      exact decide_eq_decide.2 (hagree a ha c hc)
  have hkey : Ranked (fun a c => rankKey a ≤ rankKey c) xs
      (xs.mergeSort fun a c => decide (rankKey a ≤ rankKey c)) :=
    @ranked_mergeSort _ (fun a c => rankKey a ≤ rankKey c) _ (fun _ _ _ => le_trans)
      (fun _ _ => le_total _ _) xs
  rw [hsort]
  exact hkey.of_agree hagree

/-! ### Searches -/

/-- `p` may stand before `p'` in the answer to `q`: its score is not lower. -/
def ScoreOrder (q : String) (p p' : PatternRecord) : Prop := score q p' ≤ score q p

noncomputable instance (q : String) : DecidableRel (ScoreOrder q) :=
  fun p p' => inferInstanceAs (Decidable (score q p' ≤ score q p))

/-- Sorting scored patterns by score and dropping the scores sorts the patterns by score. -/
theorem mergeSort_scored (f : PatternRecord → ℕ) (C : List PatternRecord) :
    (((C.map fun p => (f p, p)).filter (·.1 > 0)).mergeSort fun x y => decide (x.1 ≥ y.1)).map (·.2) =
      (C.filter fun p => 0 < f p).mergeSort fun p p' => decide (f p' ≤ f p) := by
  rw [List.map_mergeSort (s := fun p p' => decide (f p' ≤ f p)) fun a ha c hc => ?_]
  · simp [List.filter_map, Function.comp_def]
  · -- a scored pair carries the score of its pattern
    obtain ⟨⟨p, -, rfl⟩, -⟩ := List.mem_filter.1 ha |>.imp List.mem_map.1 id
    obtain ⟨⟨p', -, rfl⟩, -⟩ := List.mem_filter.1 hc |>.imp List.mem_map.1 id
    rfl

/-- A search ranks the scoring patterns of the scope and the global scope by score, in the
library's order among equal scores, and answers the first `limit` of them. A query without terms
scores no pattern. -/
theorem search_eq (b : PatternBook) (limit : Nat) (q scope : String) :
    b.search limit q scope =
      (((b.inScopes [scope, globalScope]).filter (0 < score q ·)).mergeSort
        fun p p' => decide (ScoreOrder q p p')).take limit := by
  have hrel : relevance (queryTerms q) = score q := funext (relevance_queryTerms q)
  unfold search
  dsimp only
  split
  · rename_i hnone
    have hzero : ∀ p, score q p = 0 := fun p => by
      rw [← relevance_queryTerms, List.isEmpty_iff.1 hnone]
      rfl
    simp [hzero]
  · rw [List.map_take, hrel, mergeSort_scored]
    rfl

/-- The listing a search answers: the patterns of the scope and the global scope ranked by the
library's order, those that score ranked by score, and the first `limit` of these. -/
def Listed (b : PatternBook) (limit : Nat) (q scope : String) (found : List PatternRecord) : Prop :=
  ∃ C R, Ranked Precedes (b.records.filter (InScope scope ·)) C ∧
    Ranked (ScoreOrder q) (C.filter (0 < score q ·)) R ∧ found = R.take limit

section Numbers

variable {b : PatternBook} (hb : ∀ p ∈ b.records, p.confidence.isNaN = false)
include hb

theorem listed_search (limit : Nat) (q scope : String) : b.Listed limit q scope (b.search limit q scope) :=
  ⟨_, _, ranked_inScopes hb scope,
    @ranked_mergeSort _ (ScoreOrder q) _ (fun _ _ _ h h' => le_trans h' h)
      (fun p p' => le_total (score q p') (score q p)) _,
    search_eq b limit q scope⟩

/-- There is one listing: each ranking is unique, as each pattern may stand before itself. -/
theorem Listed.unique {limit : Nat} {q scope : String} {found found' : List PatternRecord}
    (h : b.Listed limit q scope found) (h' : b.Listed limit q scope found') : found = found' := by
  obtain ⟨C, R, hC, hR, rfl⟩ := h
  obtain ⟨C', R', hC', hR', rfl⟩ := h'
  have hrefl : ∀ p ∈ b.records.filter (InScope scope ·), Precedes p p := fun p hp =>
    Or.inr ⟨(FloatOrder.beq_iff_rank (hb p (List.mem_filter.1 hp).1) (hb p (List.mem_filter.1 hp).1)).2 rfl,
      le_refl _⟩
  obtain rfl := hC.unique hrefl hC'
  obtain rfl := hR.unique (fun p _ => le_refl (score q p)) hR'
  rfl

/-- A search answers exactly the listing. -/
theorem search_eq_iff_listed (limit : Nat) (q scope : String) (found : List PatternRecord) :
    b.search limit q scope = found ↔ b.Listed limit q scope found :=
  ⟨fun h => h ▸ listed_search hb limit q scope, (listed_search hb limit q scope).unique hb⟩

end Numbers

end PatternBook

end EpicFlow
