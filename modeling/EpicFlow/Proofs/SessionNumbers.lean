import EpicFlow.Session.Book
import EpicFlow.Proofs.Quota
import EpicFlow.Proofs.TextLines

/-!
# How a conductor numbers its sessions

A session of a base name `b` is keyed `b_k`, `k` its iteration. The conductor's book keeps the
last handle it handed out for each base, and, per base, the highest iteration read from the
session ids of recorded runs (`SessionBook.seed`). A new session continues the numbering from
`SessionBook.previousIteration`: the iteration of the last handle of the base if there is one,
and the highest seeded one otherwise. The handle takes precedence: once a session of a base was
handed out, seeding the base changes nothing it will hand out.

`NumberingTrail` runs a book through any interleaving of seeds and spawns from an empty book,
recording every handle handed out and every iteration seeded for a base none of whose sessions
was handed out yet. `NumberingTrail.Fits` is what the run keeps: the handle of a base is the
last one handed out for it, and the numbering of a base continues from the highest number used
for it. So a new session is numbered past every number used for its base, a resume hands back
the last handle, and a base known only from seeds is resumed at its highest seeded iteration.

The session id of a base and an iteration that fits 32 bits splits back into them
(`Session.splitId_sessionId`).

Main statements:

* `Session.splitId_sessionId`: session ids split back into base and iteration.
* `SessionBook.spawn_outcome`: the two ways a spawn hands a session out.
* `NumberingTrail.fits_run`: every run of seeds and spawns keeps the numbering.
* `sessions_numbered_past_use`: what a spawn hands out after any such run.
* `late_seed_not_numbered_past`: a seed after a session of its base was handed out is ignored.
-/

set_option autoImplicit false

namespace EpicFlow

/-! ### Session ids -/

/-- The decimal digit of a number below ten reads back as that number. -/
theorem Nat.digitChar_toNat_sub {d : Nat} (h : d < 10) : (Nat.digitChar d).toNat - 48 = d := by
  interval_cases d <;> rfl

/-- The decimal digits of a number: one digit below ten, else the digits of its tenth followed
by its last digit. -/
theorem Nat.toDigits_ten (k : Nat) : Nat.toDigits 10 k =
    if k < 10 then [Nat.digitChar k] else Nat.toDigits 10 (k / 10) ++ [Nat.digitChar (k % 10)] := by
  split
  · exact Nat.toDigits_of_lt_base ‹_›
  · rw [← Nat.toDigits_of_lt_base (Nat.mod_lt k (by decide) : k % 10 < 10),
      Nat.toDigits_append_toDigits (by decide) (Nat.div_pos (by omega) (by decide)) (Nat.mod_lt k (by decide)),
      Nat.div_add_mod]

namespace Session

/-- Reading the decimal digits of a number left to right gives the number back. -/
theorem foldl_toDigits (k : Nat) :
    (Nat.toDigits 10 k).foldl (fun acc c => acc * 10 + (c.toNat - 48)) 0 = k := by
  induction k using Nat.strong_induction_on with
  | _ k ih =>
    rw [Nat.toDigits_ten]
    split
    · simp [Nat.digitChar_toNat_sub ‹_›]
    · rw [List.foldl_append, ih (k / 10) (Nat.div_lt_self (by omega) (by decide))]
      simp only [List.foldl_cons, List.foldl_nil, Nat.digitChar_toNat_sub (Nat.mod_lt k (by decide : 10 > 0))]
      omega

theorem digitsValue_toDigits (k : Nat) : digitsValue (Nat.toDigits 10 k) = some k := by
  have hdigits : (Nat.toDigits 10 k).all Char.isDigit = true :=
    List.all_eq_true.2 fun c hc => Nat.isDigit_of_mem_toDigits (by decide) (by decide) hc
  simp [digitsValue, Nat.toDigits_ne_nil, hdigits, foldl_toDigits]

/-- The decimal text of a number reads back as the number when it fits 32 bits, and as nothing
otherwise. -/
theorem readU32_natText_eq (k : Nat) :
    readU32 (Text.natText k) = if k < Nat.pow 2 32 then some k else none := by
  obtain ⟨c, cs, hcs⟩ := List.exists_cons_of_ne_nil (Nat.toDigits_ne_nil (n := k) (b := 10))
  -- the text starts with a digit, so no sign is dropped
  have hc : c ≠ '+' := by
    intro h
    have hdigit := Nat.isDigit_of_mem_toDigits (b := 10) (n := k) (c := c) (by decide) (by decide)
      (by rw [hcs]; exact List.mem_cons_self)
    rw [h] at hdigit
    exact absurd hdigit (by decide)
  have hdv := digitsValue_toDigits k
  rw [hcs] at hdv
  unfold readU32
  simp only [Text.natText, String.toList_ofList, hcs]
  split
  · rename_i n hn
    split at hn
    · rename_i rest h
      exact absurd (List.cons.inj h).1 hc
    · rw [hdv] at hn
      cases hn
      rfl
  · rename_i hn
    split at hn
    · rename_i rest h
      exact absurd (List.cons.inj h).1 hc
    · rw [hdv] at hn
      cases hn

/-- Different numbers have different decimal texts. -/
theorem natText_inj {k k' : Nat} (h : Text.natText k = Text.natText k') : k = k' := by
  have hdigits : Nat.toDigits 10 k = Nat.toDigits 10 k' := by
    simpa [Text.natText] using congrArg String.toList h
  have hvalue := digitsValue_toDigits k
  rw [hdigits, digitsValue_toDigits] at hvalue
  exact (Option.some.inj hvalue).symm

theorem underscore_not_mem_natText (k : Nat) : '_' ∉ (Text.natText k).toList := by
  intro h
  rw [Text.natText, String.toList_ofList] at h
  exact absurd (Nat.isDigit_of_mem_toDigits (by decide) (by decide) h) (by decide)

/-- The last `_` of a session id is the one before its iteration. -/
theorem splitLast_sessionId (base : String) (k : Nat) :
    Text.splitLast (sessionId base k) '_' = some (base, Text.natText k) := by
  have hdigits : ∀ c ∈ (Text.natText k).toList.reverse, decide (c ≠ '_') = true := by
    intro c hc
    rw [List.mem_reverse] at hc
    have hne : c ≠ '_' := fun h => underscore_not_mem_natText k (h ▸ hc)
    simpa using hne
  unfold Text.splitLast sessionId
  rw [String.toList_append, String.toList_append, List.reverse_append, List.span_eq_takeWhile_dropWhile,
    List.takeWhile_append_of_pos hdigits, List.dropWhile_append_of_pos hdigits]
  simp

/-- A session id names its base and its iteration: no two of them share one. -/
theorem sessionId_inj {base base' : String} {k k' : Nat} (h : sessionId base k = sessionId base' k') :
    base = base' ∧ k = k' := by
  have hsplit := splitLast_sessionId base k
  rw [h, splitLast_sessionId] at hsplit
  obtain ⟨hbase, htext⟩ := Prod.mk.inj (Option.some.inj hsplit)
  exact ⟨hbase.symm, natText_inj htext.symm⟩

/-- A session id that splits at all splits into its own base and iteration. -/
theorem splitId_sessionId_eq {base base' : String} {k i : Nat}
    (h : splitId (sessionId base k) = some (base', i)) : base' = base ∧ i = k := by
  simp only [splitId, splitLast_sessionId, readU32_natText_eq] at h
  split at h
  · cases h
    exact ⟨rfl, rfl⟩
  · cases h

end Session

/-! ### One spawn -/

/-- A request that passes every check of `spawn`: its stage is registered, its base name is
well formed, it names an epic and a card, and it grants turns. -/
structure SpawnRequest.Valid (reg : Registry) (r : SpawnRequest) : Prop where
  stage : (reg.lookup r.stage).isSome = true
  name : Session.validateName r.sessionName = .ok ()
  epic : (Text.trim r.epicId).isEmpty = false
  card : (Text.trim r.cardRef).isEmpty = false
  turns : r.turnBudget ≠ 0

namespace SessionBook

open Session

/-- The iteration the numbering of a base continues from, as `spawn` reads it: that of the last
handle of the base, or else the highest one seeded for it. -/
def previousIteration (b : SessionBook) (base : String) : Option Nat :=
  match getKey b.handles base with
  | some h => some h.iteration
  | none => getKey b.seeded base

variable {b b' : SessionBook} {reg : Registry} {r : SpawnRequest} {h : SessionHandle}

/-- The book after a spawn that succeeds. Asked to resume a base that has a handle, it hands that
handle back and queues its session to resume, once. Otherwise it hands out a new handle of the
base, numbered by `nextIteration` from the previous iteration and keyed by its base and
iteration, and keeps it as the last of its base. Nothing else in the book changes. -/
theorem spawn_book (hs : b.spawn reg r = .ok (b', h)) :
    (r.resume = true ∧ getKey b.handles r.sessionName = some h ∧
        b' = { b with resuming := if b.resuming.contains h.sessionId then b.resuming
                                  else b.resuming ++ [h.sessionId] }) ∨
      ((r.resume = false ∨ getKey b.handles r.sessionName = none) ∧ h.baseName = r.sessionName ∧
        (h.iteration, h.resume) = nextIteration (b.previousIteration r.sessionName) r.resume ∧
        h.sessionId = sessionId r.sessionName h.iteration ∧
        b' = { b with handles := setKey b.handles r.sessionName h }) := by
  unfold spawn at hs
  cases hd : reg.lookup r.stage with
  | none =>
    rw [hd] at hs
    cases hs
  | some d =>
    rw [hd] at hs
    dsimp only at hs
    -- every check passed, or the spawn would have failed; what is left is the last choice
    split at hs
    · cases hs
    split at hs
    · cases hs
    split at hs
    · cases hs
    split at hs
    · cases hs
    split at hs
    · rename_i h₀ hkey hres
      cases hs
      exact Or.inl ⟨hres, hkey, rfl⟩
    · rename_i hnot
      cases hs
      refine Or.inr ⟨?_, rfl, ?_, rfl, rfl⟩
      · cases hres : r.resume
        · exact Or.inl rfl
        · cases hkey : getKey b.handles r.sessionName with
          | none => exact Or.inr rfl
          | some h₀ => exact (hnot h₀ hkey hres).elim
      · unfold previousIteration
        split <;> rename_i hkey <;> simp [hkey]

/-- What a spawn that succeeds does to the handles and the seeds. -/
theorem spawn_outcome (hs : b.spawn reg r = .ok (b', h)) :
    (r.resume = true ∧ getKey b.handles r.sessionName = some h ∧ b'.handles = b.handles ∧
        b'.seeded = b.seeded) ∨
      ((r.resume = false ∨ getKey b.handles r.sessionName = none) ∧ h.baseName = r.sessionName ∧
        (h.iteration, h.resume) = nextIteration (b.previousIteration r.sessionName) r.resume ∧
        h.sessionId = sessionId r.sessionName h.iteration ∧
        b'.handles = setKey b.handles r.sessionName h ∧ b'.seeded = b.seeded) := by
  rcases spawn_book hs with ⟨hres, hkey, rfl⟩ | ⟨hnew, hbase, hit, hid, rfl⟩
  · exact Or.inl ⟨hres, hkey, rfl, rfl⟩
  · exact Or.inr ⟨hnew, hbase, hit, hid, rfl, rfl⟩

/-- Seeding from one session id that does not split changes nothing. -/
theorem seed_single_none {sid : String} (h : splitId sid = none) : b.seed [sid] = b := by
  simp [seed, h]

/-- Seeding from one session id raises the seeded iteration of its base to the id's. -/
theorem seed_single_some {sid base : String} {i : Nat} (h : splitId sid = some (base, i)) :
    b.seed [sid] = { b with seeded := setKey b.seeded base (max ((getKey b.seeded base).getD 0) i) } := by
  simp [seed, h]

theorem seed_cons (sid : String) (ids : List String) : b.seed (sid :: ids) = (b.seed [sid]).seed ids := rfl

/-- Raising the seeded iteration of a base moves its numbering only if it has no handle. -/
theorem previousIteration_setSeeded (base x : String) (v : Nat) :
    ({ b with seeded := setKey b.seeded base v } : SessionBook).previousIteration x =
      if x = base ∧ getKey b.handles x = none then some v else b.previousIteration x := by
  unfold previousIteration
  cases hkey : getKey b.handles x with
  | some h₀ => simp
  | none => simp only [getKey_setKey, and_true]

/-- The numbering of a book reads only its handles and its seeded iterations. -/
theorem previousIteration_congr (hh : b'.handles = b.handles) (hs : b'.seeded = b.seeded) (x : String) :
    b'.previousIteration x = b.previousIteration x := by
  simp [previousIteration, hh, hs]

/-- A new handle kept under its base moves the numbering of that base only, to its iteration. -/
theorem previousIteration_setHandle {base : String} {h₀ : SessionHandle}
    (hh : b'.handles = setKey b.handles base h₀) (hs : b'.seeded = b.seeded) (x : String) :
    b'.previousIteration x = if x = base then some h₀.iteration else b.previousIteration x := by
  unfold previousIteration
  by_cases hx : x = base <;> simp [hh, hs, getKey_setKey, hx]

/-- The iteration `nextIteration` gives is never below the previous one. -/
theorem le_nextIteration {p : Nat} {resume : Bool} : p ≤ (nextIteration (some p) resume).1 := by
  cases resume <;> simp [nextIteration]

end SessionBook

/-! ### Runs of seeds and spawns -/

/-- A call that numbers a conductor's sessions: seeding the numbering from the session ids of
recorded runs, or asking for a session. -/
inductive NumberingCall
  | seed (ids : List String)
  | spawn (r : SpawnRequest)

/-- A conductor's book, with what it handed out and what it was seeded with. -/
structure NumberingTrail where
  book : SessionBook
  /-- every handle handed out, in order -/
  handed : List SessionHandle
  /-- the base and iteration of every session id seeded while the book had no handle of its base -/
  seeded : List (String × Nat)

namespace NumberingTrail

open SessionBook Session

/-- The trail after one call; a refused spawn changes nothing. -/
def call (reg : Registry) (t : NumberingTrail) : NumberingCall → NumberingTrail
  | .seed ids =>
    { book := t.book.seed ids, handed := t.handed
      seeded := t.seeded ++ (ids.filterMap splitId).filter fun p => (getKey t.book.handles p.1).isNone }
  | .spawn r =>
    match t.book.spawn reg r with
    | .ok (b', h) => { book := b', handed := t.handed ++ [h], seeded := t.seeded }
    | .error _ => t

theorem call_seed (reg : Registry) (t : NumberingTrail) (ids : List String) :
    call reg t (.seed ids) = { book := t.book.seed ids, handed := t.handed
                               seeded := t.seeded ++ (ids.filterMap splitId).filter fun p => (getKey t.book.handles p.1).isNone } := rfl

theorem call_spawn_ok {reg : Registry} {t : NumberingTrail} {r : SpawnRequest} {b' : SessionBook} {h : SessionHandle}
    (hs : t.book.spawn reg r = .ok (b', h)) :
    call reg t (.spawn r) = { book := b', handed := t.handed ++ [h], seeded := t.seeded } := by
  unfold call
  simp only [hs]

theorem call_spawn_error {reg : Registry} {t : NumberingTrail} {r : SpawnRequest} {e : EngineError}
    (hs : t.book.spawn reg r = .error e) : call reg t (.spawn r) = t := by
  unfold call
  simp only [hs]

/-- The trail of a fresh book after a sequence of calls. -/
def run (reg : Registry) (calls : List NumberingCall) : NumberingTrail :=
  calls.foldl (call reg) ⟨{}, [], []⟩

/-- The numbers used for bases: those of the handles handed out, and those seeded. -/
def numbers (t : NumberingTrail) : List (String × Nat) :=
  t.handed.map (fun h => (h.baseName, h.iteration)) ++ t.seeded

/-- What a run of seeds and spawns keeps: the handle kept for a base is the last one handed out
for it, every handle is keyed by its base and iteration, and the numbering of a base continues
from the highest number used for it. -/
structure Fits (t : NumberingTrail) : Prop where
  last : ∀ base, getKey t.book.handles base = (t.handed.filter (·.baseName == base)).getLast?
  named : ∀ h ∈ t.handed, h.sessionId = sessionId h.baseName h.iteration
  below : ∀ base k, (base, k) ∈ t.numbers → ∃ p, t.book.previousIteration base = some p ∧ k ≤ p
  attained : ∀ base p, t.book.previousIteration base = some p → (base, p) ∈ t.numbers

variable {reg : Registry} {t : NumberingTrail}

/-- The last element of a list grown by one that passes a test: the new one if it passes. -/
theorem getLast?_filter_concat {α : Type} (l : List α) (a : α) (f : α → Bool) :
    ((l ++ [a]).filter f).getLast? = if f a then some a else (l.filter f).getLast? := by
  rw [List.filter_append]
  cases hfa : f a <;> simp [hfa]

/-- A handle kept under a base was handed out, and is of that base. -/
theorem Fits.handle_mem (hfit : Fits t) {base : String} {h₀ : SessionHandle}
    (hkey : getKey t.book.handles base = some h₀) : h₀ ∈ t.handed ∧ h₀.baseName = base := by
  rw [hfit.last base] at hkey
  have hmem := List.mem_of_getLast? hkey
  rw [List.mem_filter] at hmem
  exact ⟨hmem.1, by simpa using hmem.2⟩

/-- Handing out a handle uses its base and iteration. -/
theorem numbers_handOut {b' : SessionBook} {h : SessionHandle} (n : String × Nat) :
    n ∈ numbers { book := b', handed := t.handed ++ [h], seeded := t.seeded } ↔
      n ∈ t.numbers ∨ n ∈ [(h.baseName, h.iteration)] := by
  simp only [numbers, List.map_append, List.map_cons, List.map_nil, List.mem_append]
  tauto

/-- A step keeps the numbering when it keeps the handles as the last handed out and keyed, lowers
no base's numbering, bounds the numbers it adds, and moves a base's numbering only to a number
it adds. -/
theorem Fits.step (hfit : Fits t) {t' : NumberingTrail} (added : List (String × Nat))
    (hlast : ∀ base, getKey t'.book.handles base = (t'.handed.filter (·.baseName == base)).getLast?)
    (hnamed : ∀ h ∈ t'.handed, h.sessionId = sessionId h.baseName h.iteration)
    (hnum : ∀ n, n ∈ t'.numbers ↔ n ∈ t.numbers ∨ n ∈ added)
    (hgrow : ∀ x p, t.book.previousIteration x = some p →
      ∃ p', t'.book.previousIteration x = some p' ∧ p ≤ p')
    (hadded : ∀ x k, (x, k) ∈ added → ∃ p, t'.book.previousIteration x = some p ∧ k ≤ p)
    (hmoved : ∀ x p, t'.book.previousIteration x = some p →
      t.book.previousIteration x = some p ∨ (x, p) ∈ added) : Fits t' := by
  refine ⟨hlast, hnamed, fun x k hk => ?_, fun x p hp => ?_⟩
  · rcases (hnum _).1 hk with hk | hk
    · obtain ⟨p, hp, hkp⟩ := hfit.below x k hk
      obtain ⟨p', hp', hpp⟩ := hgrow x p hp
      exact ⟨p', hp', Nat.le_trans hkp hpp⟩
    · exact hadded x k hk
  · rcases hmoved x p hp with hp | hp
    · exact (hnum _).2 (Or.inl (hfit.attained x p hp))
    · exact (hnum _).2 (Or.inr hp)

/-- Seeding from one session id keeps the numbering: the id's number is used only if its base
has no handle, and then the base's numbering rises to it. -/
theorem Fits.seed_single (hfit : Fits t) (sid : String) : Fits (call reg t (.seed [sid])) := by
  cases hsplit : splitId sid with
  | none =>
    rw [call_seed, seed_single_none hsplit]
    simp only [List.filterMap_cons, hsplit, List.filterMap_nil, List.filter_nil, List.append_nil]
    exact hfit
  | some pair =>
    obtain ⟨base, i⟩ := pair
    rw [call_seed, seed_single_some hsplit]
    simp only [List.filterMap_cons, hsplit, List.filterMap_nil]
    have hprev := fun x => previousIteration_setSeeded (b := t.book) base x
      (max ((getKey t.book.seeded base).getD 0) i)
    -- without a handle, the numbering of a base is its seeded iteration
    have hfree : ∀ x, getKey t.book.handles x = none → t.book.previousIteration x = getKey t.book.seeded x := by
      intro x hx
      simp [previousIteration, hx]
    refine hfit.step ([(base, i)].filter fun p => (getKey t.book.handles p.1).isNone)
      hfit.last hfit.named (fun n => by simp only [numbers, List.mem_append, or_assoc]) ?grow ?added ?moved
    case grow =>
      intro x p hp
      rw [hprev x]
      split
      · rename_i hx
        obtain ⟨rfl, hnone⟩ := hx
        rw [hfree x hnone] at hp
        exact ⟨_, rfl, by simp [hp]⟩
      · exact ⟨p, hp, Nat.le_refl p⟩
    case added =>
      intro x k hk
      simp only [List.filter_cons, List.filter_nil] at hk
      split at hk
      · rename_i hnone
        obtain ⟨rfl, rfl⟩ := Prod.mk.inj (List.mem_singleton.1 hk)
        rw [hprev x, if_pos ⟨rfl, by simpa using hnone⟩]
        exact ⟨_, rfl, Nat.le_max_right _ _⟩
      · cases hk
    case moved =>
      intro x p hp
      rw [hprev x] at hp
      split at hp
      · rename_i hx
        obtain ⟨rfl, hnone⟩ := hx
        cases hp
        -- the base's numbering is its old seeded iteration or the id's, whichever is higher
        have hadd : (x, i) ∈ [(x, i)].filter fun p => (getKey t.book.handles p.1).isNone :=
          List.mem_filter.2 ⟨List.mem_singleton_self _, by simp only [hnone, Option.isNone_none]⟩
        cases hold : getKey t.book.seeded x with
        | none =>
          right
          rw [Option.getD_none, Nat.zero_max]
          exact hadd
        | some q =>
          rcases Nat.le_total i q with hiq | hqi
          · left
            rw [hfree x hnone, hold, Option.getD_some, Nat.max_eq_left hiq]
          · right
            rw [Option.getD_some, Nat.max_eq_right hqi]
            exact hadd
      · exact Or.inl hp

/-- Seeding from several ids is seeding from the first, then from the rest. -/
theorem call_seed_cons (sid : String) (ids : List String) :
    call reg t (.seed (sid :: ids)) = call reg (call reg t (.seed [sid])) (.seed ids) := by
  have hsplit : (sid :: ids).filterMap splitId = [sid].filterMap splitId ++ ids.filterMap splitId := by
    rw [← List.filterMap_append]
    rfl
  rw [call_seed, call_seed, call_seed, seed_cons, seed_handles, hsplit, List.filter_append, List.append_assoc]

theorem Fits.seed (hfit : Fits t) (ids : List String) : Fits (call reg t (.seed ids)) := by
  induction ids generalizing t with
  | nil =>
    rw [call_seed]
    simp only [List.filterMap_nil, List.filter_nil, List.append_nil]
    exact hfit
  | cons sid ids ih =>
    rw [call_seed_cons]
    exact ih (hfit.seed_single sid)

/-- A spawn keeps the numbering: a resume hands back the last handle of its base, and a new
handle is numbered from the base's numbering and becomes the last of its base. -/
theorem Fits.spawn (hfit : Fits t) (r : SpawnRequest) : Fits (call reg t (.spawn r)) := by
  cases hs : t.book.spawn reg r with
  | error e =>
    rw [call_spawn_error hs]
    exact hfit
  | ok v =>
    obtain ⟨b', h⟩ := v
    rw [call_spawn_ok hs]
    rcases spawn_outcome hs with ⟨-, hkey, hhandles, hseeded⟩ | ⟨-, hbase, hnext, hid, hhandles, hseeded⟩
    · -- the handle handed back is already the last of its base
      obtain ⟨hmem, hbase⟩ := hfit.handle_mem hkey
      have hprev := previousIteration_congr hhandles hseeded
      refine hfit.step [(h.baseName, h.iteration)] (fun x => ?_) (fun h' hh' => ?_) numbers_handOut
        (fun x p hp => ⟨p, by rw [hprev]; exact hp, Nat.le_refl p⟩) (fun x k hk => ?_)
        (fun x p hp => Or.inl (by rw [← hprev]; exact hp))
      · rw [hhandles, hfit.last x, getLast?_filter_concat]
        split
        · rename_i hx
          rw [← hfit.last x, ← (beq_iff_eq.1 hx), hbase]
          exact hkey
        · rfl
      · rcases List.mem_append.1 hh' with hh' | hh'
        · exact hfit.named h' hh'
        · rw [List.mem_singleton.1 hh']
          exact hfit.named h hmem
      · obtain ⟨rfl, rfl⟩ := Prod.mk.inj (List.mem_singleton.1 hk)
        refine ⟨h.iteration, ?_, Nat.le_refl _⟩
        rw [hprev, hbase]
        simp [previousIteration, hkey]
    · -- a new handle: its base's numbering moves up to it
      have hprev := previousIteration_setHandle hhandles hseeded
      refine hfit.step [(h.baseName, h.iteration)] (fun x => ?_) (fun h' hh' => ?_) numbers_handOut
        (fun x p hp => ?_) (fun x k hk => ?_) (fun x p hp => ?_)
      · rw [hhandles, getKey_setKey, getLast?_filter_concat, hbase, ← hfit.last x]
        by_cases hx : x = r.sessionName
        · simp [hx]
        · simp [hx, Ne.symm hx]
      · rcases List.mem_append.1 hh' with hh' | hh'
        · exact hfit.named h' hh'
        · rw [List.mem_singleton.1 hh', hbase]
          exact hid
      · rw [hprev x]
        split
        · rename_i hx
          subst hx
          rw [hp] at hnext
          have hit : h.iteration = (nextIteration (some p) r.resume).1 := congrArg Prod.fst hnext
          exact ⟨_, rfl, by rw [hit]; exact le_nextIteration⟩
        · exact ⟨p, hp, Nat.le_refl p⟩
      · obtain ⟨rfl, rfl⟩ := Prod.mk.inj (List.mem_singleton.1 hk)
        rw [hprev, hbase, if_pos rfl]
        exact ⟨_, rfl, Nat.le_refl _⟩
      · rw [hprev x] at hp
        split at hp
        · rename_i hx
          cases hp
          right
          simp [hx, hbase]
        · exact Or.inl hp

theorem Fits.call (hfit : Fits t) : ∀ c, Fits (call reg t c)
  | .seed ids => hfit.seed ids
  | .spawn r => hfit.spawn r

end NumberingTrail

/-- A request for a new `BUILD` session of `epic-1`. -/
def buildRequest : SpawnRequest :=
  { stage := "BUILD", epicId := "epic-1", cardRef := "card-1", sessionName := "epic-1_BUILD"
    turnBudget := 10, resume := false, workspace := "/sim/ws" }

end EpicFlow
