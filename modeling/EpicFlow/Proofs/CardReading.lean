import Mathlib.Data.List.Chain
import EpicFlow.Proofs.Quota

/-!
# Reading a card back

A conductor reads a worker's card by pulling a copy through the mailbox and checking it
(`CardBook.pullAndRead`). A copy is accepted only if it keeps the identity of the card as
created (`TaskCard.SameIdentity`: id, epic, stage and requirement texts) and only moves forward
from the last accepted view (`TaskCard.Advances`: a checked box stays checked, a set timestamp
keeps its value, a declared signal stays declared). The two checks, `sameRequirements` and
`forward`, decide exactly these relations (`sameRequirements_eq_ok`, `forward_eq_ok`), and
`Advances` is a preorder, so accepted views chain.

A reading tries the copy again after a pull that fails, a torn copy, or a copy of another
identity; a malformed copy or one that moved backwards ends it at once as corrupt. To say which
copies a reading saw, the worker's side is taken as a sequence of outcomes: pull number `n` of
the conductor answers `outcomes n` (`Mailbox.replay`). Any worker editing its card and any
mailbox that drops pulls is such a sequence.

One reading (`pullAndRead_outcome`) either accepts a view, which keeps the identity of the
card and advances from the last accepted view, and becomes the new last view with the
unreachable flag cleared; or gives up as unreachable, which sets the flag and keeps the last
view; or fails otherwise, which changes no card. It fails as corrupt only if one of its own
pulls answered a refused copy: malformed, of another identity, or moving backwards.

A run of readings (`ReadRun`) is any sequence of calls between which the card's entry is left
alone. Along such a run the accepted views, after the card as created, form a chain of
`Advances` (`readings_chain`).

Main statements:

* `TaskCard.sameRequirements_eq_ok`, `TaskCard.forward_eq_ok`: the checks decide the relations.
* `CardBook.attempts_ends`: what a round of attempts ends in.
* `CardBook.pullAndRead_outcome`: what one reading does to the card book.
* `CardBook.readings_chain`: along a run of readings, every accepted view keeps the card's
  identity, the accepted views advance pairwise, and each reading does what one reading does.
-/

set_option autoImplicit false

namespace EpicFlow

namespace TaskCard

/-- A copy keeps the identity of the card as created: its id, epic and stage, and the texts of
its requirements, in order. -/
structure SameIdentity (created c : TaskCard) : Prop where
  cardId : c.cardId = created.cardId
  epicId : c.epicId = created.epicId
  stage : c.stage = created.stage
  texts : c.requirements.map (·.text) = created.requirements.map (·.text)

theorem SameIdentity.length {created c : TaskCard} (h : SameIdentity created c) :
    c.requirements.length = created.requirements.length := by
  simpa using congrArg List.length h.texts

theorem SameIdentity.refl (c : TaskCard) : SameIdentity c c := ⟨rfl, rfl, rfl, rfl⟩

/-- The card `after` keeps the progress of `before`: it has as many requirements, each one checked
in `before` is checked in `after`, every timestamp set in `before` has the same value in `after`,
and every signal of `before` is still declared. -/
structure Advances (before after : TaskCard) : Prop where
  checked : List.Forall₂ (fun r r' => r.done = true → r'.done = true) before.requirements
    after.requirements
  created : ∀ s, before.created = some s → after.created = some s
  started : ∀ s, before.started = some s → after.started = some s
  completed : ∀ s, before.completed = some s → after.completed = some s
  signals : ∀ s ∈ before.signals, s ∈ after.signals

theorem Advances.refl (c : TaskCard) : Advances c c :=
  ⟨List.forall₂_same.2 fun _ _ h => h, fun _ h => h, fun _ h => h, fun _ h => h, fun _ h => h⟩

/-- Checked boxes stay checked along two steps. -/
theorem forall₂_done_trans {l₁ l₂ l₃ : List Requirement}
    (h₁ : List.Forall₂ (fun r r' => r.done = true → r'.done = true) l₁ l₂)
    (h₂ : List.Forall₂ (fun r r' => r.done = true → r'.done = true) l₂ l₃) :
    List.Forall₂ (fun r r' => r.done = true → r'.done = true) l₁ l₃ := by
  induction h₁ generalizing l₃ with
  | nil => exact h₂
  | cons hab _ ih =>
    cases h₂ with
    | cons hbc h₂' => exact List.Forall₂.cons (fun h => hbc (hab h)) (ih h₂')

theorem Advances.trans {a b c : TaskCard} (hab : Advances a b) (hbc : Advances b c) : Advances a c :=
  ⟨forall₂_done_trans hab.checked hbc.checked, fun s h => hbc.created s (hab.created s h),
    fun s h => hbc.started s (hab.started s h), fun s h => hbc.completed s (hab.completed s h),
    fun s h => hbc.signals s (hab.signals s h)⟩

instance : Trans Advances Advances Advances := ⟨Advances.trans⟩

/-! ### The checks decide the relations -/

/-- A search over numbered entries finds nothing exactly when no entry qualifies. -/
theorem find?_zipIdx_eq_none {α : Type} {l : List α} {p : α → Bool} :
    (l.zipIdx.find? fun x => p x.1) = none ↔ ∀ a ∈ l, p a = false := by
  rw [List.find?_eq_none]
  constructor
  · intro h a ha
    obtain ⟨i, hi, rfl⟩ := List.getElem_of_mem ha
    simpa using h (l[i], i) (List.mem_zipIdx_iff_getElem?.2 (by simp [hi]))
  · intro h x hx
    simpa using h x.1 (List.fst_mem_of_mem_zipIdx hx)

theorem forall₂_text_iff {l₁ l₂ : List Requirement} :
    List.Forall₂ (fun a b => a.text = b.text) l₁ l₂ ↔ l₁.map (·.text) = l₂.map (·.text) := by
  rw [← List.forall₂_eq_eq_eq, List.forall₂_map_left_iff, List.forall₂_map_right_iff]

theorem sameRequirements_eq_ok {created c : TaskCard} :
    created.sameRequirements c = .ok () ↔ SameIdentity created c := by
  unfold sameRequirements
  by_cases hid : c.cardId = created.cardId ∧ c.epicId = created.epicId ∧ c.stage = created.stage
  · obtain ⟨h1, h2, h3⟩ := hid
    simp only [h1, h2, h3, bne_self_eq_false, Bool.or_self, Bool.false_eq_true, ↓reduceIte]
    by_cases hlen : c.requirements.length = created.requirements.length
    · simp only [hlen, bne_self_eq_false, Bool.false_eq_true, ↓reduceIte]
      -- with equal lengths, no pair of texts differs exactly when the text lists agree
      have hfind : ((created.requirements.zip c.requirements).zipIdx.find?
          fun x => x.1.1.text != x.1.2.text) = none ↔
          c.requirements.map (·.text) = created.requirements.map (·.text) := by
        rw [find?_zipIdx_eq_none (p := fun q : Requirement × Requirement => q.1.text != q.2.text),
          eq_comm, ← forall₂_text_iff, List.forall₂_iff_zip]
        simp [hlen]
      cases h : (created.requirements.zip c.requirements).zipIdx.find?
          fun x => x.1.1.text != x.1.2.text with
      | none => exact iff_of_true rfl ⟨h1, h2, h3, hfind.1 h⟩
      | some x =>
        refine iff_of_false (by simp) fun hs => ?_
        rw [hfind.2 hs.texts] at h
        cases h
    · have hne : (c.requirements.length != created.requirements.length) = true := by simpa using hlen
      exact iff_of_false (by simp [hne]) fun hs => hlen hs.length
  · have hne : (c.cardId != created.cardId || c.epicId != created.epicId ||
        c.stage != created.stage) = true := by
      simp only [Bool.or_eq_true, bne_iff_ne]
      tauto
    exact iff_of_false (by simp [hne]) fun hs => hid ⟨hs.cardId, hs.epicId, hs.stage⟩

theorem keptStamp_eq_ok {name : String} {x y : Option String} :
    keptStamp name x y = .ok () ↔ ∀ s, x = some s → y = some s := by
  cases x with
  | none => simp [keptStamp]
  | some p =>
    cases y with
    | none => simp [keptStamp]
    | some n => by_cases h : n = p <;> simp [keptStamp, h]

theorem except_seq_eq_ok {ε : Type} {x : Except ε Unit} {y : Unit → Except ε Unit} :
    (x >>= y) = .ok () ↔ x = .ok () ∧ y () = .ok () := by
  cases x <;> simp [bind, Except.bind]

/-- Between cards with as many requirements, `forward` passes exactly when the second advances
from the first. -/
theorem forward_eq_ok {before after : TaskCard}
    (hlen : after.requirements.length = before.requirements.length) :
    before.forward after = .ok () ↔ Advances before after := by
  -- no checked requirement is unchecked: with equal lengths, the checked relation
  have hpairs : ((before.requirements.zip after.requirements).zipIdx.find?
      fun x => x.1.1.done && !x.1.2.done) = none ↔
      List.Forall₂ (fun r r' => r.done = true → r'.done = true) before.requirements
        after.requirements := by
    rw [find?_zipIdx_eq_none (p := fun q : Requirement × Requirement => q.1.done && !q.2.done),
      List.forall₂_iff_zip]
    simp [hlen]
  have hsig : (before.signals.find? fun s => !after.signals.contains s) = none ↔
      ∀ s ∈ before.signals, s ∈ after.signals := by
    simp [List.find?_eq_none]
  unfold forward
  dsimp only
  split
  · rename_i i heq
    refine iff_of_false (by simp [throw, throwThe, MonadExceptOf.throw, bind, Except.bind])
      fun hadv => ?_
    rw [hpairs.2 hadv.checked] at heq
    cases heq
  · rename_i hnone
    have hchecked := hpairs.1 (Option.eq_none_iff_forall_ne_some.2 fun p hp => hnone p.1 p.2 hp)
    rw [except_seq_eq_ok, except_seq_eq_ok, except_seq_eq_ok, keptStamp_eq_ok, keptStamp_eq_ok,
      keptStamp_eq_ok]
    split
    · rename_i s hs
      refine iff_of_false (by simp [throw, throwThe, MonadExceptOf.throw]) fun h => ?_
      rw [hsig.2 h.signals] at hs
      cases hs
    · rename_i hs
      have hkept := hsig.1 (Option.eq_none_iff_forall_ne_some.2 fun s h => hs s h)
      constructor
      · rintro ⟨hc, hs, hm, -⟩
        exact ⟨hchecked, hc, hs, hm, hkept⟩
      · intro h
        exact ⟨h.created, h.started, h.completed, rfl⟩

end TaskCard

/-- The card a reading checks progress against: the last accepted view, or the card as created
before any. -/
def CardEntry.baseline (e : CardEntry) : TaskCard := (e.lastView.map (·.card)).getD e.card

/-- What a reading checks a copy against: the card as created and the last accepted view. Where
the card was delivered and whether the latest reading gave up are not part of it. -/
def CardEntry.basis (e : CardEntry) : TaskCard × Option CardView := (e.card, e.lastView)

theorem CardEntry.baseline_eq_of_basis {e e' : CardEntry} (h : e'.basis = e.basis) :
    e'.card = e.card ∧ e'.baseline = e.baseline := by
  obtain ⟨hc, hv⟩ : e'.card = e.card ∧ e'.lastView = e.lastView := Prod.ext_iff.1 h
  exact ⟨hc, by simp only [baseline, hc, hv]⟩

/-- A copy a reading refuses for good: malformed, or readable but of another identity than the
card as created, or moving backwards from the baseline. -/
def TaskCard.Refused (created baseline : TaskCard) (content : String) : Prop :=
  (∃ m, TaskCard.parse content = .error (.malformed m)) ∨
    ∃ c, TaskCard.parse content = .ok c ∧
      (¬ TaskCard.SameIdentity created c ∨ ¬ TaskCard.Advances baseline c)

namespace Mailbox

/-- A mailbox whose worker side is a sequence of outcomes: pull number `n` of the conductor
(counted from zero) answers `outcomes n`, a copy of the card or a failure. Delivering changes
nothing: what the worker holds is what the outcomes say. -/
def replay (outcomes : Nat → Except EngineError PulledCard) : Mailbox Eng where
  deliver _ _ := pure ()
  pull _ _ := do
    let n := (← Eng.self).pulls
    Eng.modifySelf fun c => { c with pulls := n + 1 }
    Eng.ofExcept (outcomes n)

theorem replay_pull_apply (outcomes : Nat → Except EngineError PulledCard) (loc : CardLocation)
    (inbox : String) (t : Conductor) (x : Host) :
    (replay outcomes).pull loc inbox t x = .done x { t with pulls := t.pulls + 1 } (outcomes t.pulls) := by
  show Eng.ofExcept (outcomes t.pulls) { t with pulls := t.pulls + 1 } x = _
  cases outcomes t.pulls <;> rfl

end Mailbox

theorem Eng.sleep_bind_apply {α : Type} (ns : Nat) (k : Unit → Eng α) (t : Conductor) (x : Host) :
    (Eng.sleep ns >>= k) t x = .wait x (wakeAfter x.now ns) fun x' => k () t x' := rfl

namespace CardBook

theorem put_entries (b : CardBook) (id : String) (e : CardEntry) :
    (b.put id e).entries = SessionBook.setKey b.entries id e := by
  unfold CardBook.put SessionBook.setKey
  split <;> rfl

/-- After putting an entry, the card has that entry and every other card keeps its own. -/
theorem lookup_put (b : CardBook) (id k : String) (e : CardEntry) :
    (b.put id e).lookup k = if k = id then some e else b.lookup k := by
  have h := SessionBook.getKey_setKey b.entries id k e
  rw [← put_entries] at h
  exact h

section Replay

variable (o : Nat → Except EngineError PulledCard)

/-- One of the pulls numbered from `lo` to before `hi` answered a copy refused for good. -/
def RefusedIn (created baseline : TaskCard) (lo hi : Nat) : Prop :=
  ∃ i, lo ≤ i ∧ i < hi ∧ ∃ p, o i = .ok p ∧ TaskCard.Refused created baseline p.content

variable {o}

theorem RefusedIn.widen {created baseline : TaskCard} {lo hi lo' hi' : Nat}
    (h : RefusedIn o created baseline lo hi) (hlo : lo' ≤ lo) (hhi : hi ≤ hi') :
    RefusedIn o created baseline lo' hi' := by
  obtain ⟨i, hi₁, hi₂, hp⟩ := h
  exact ⟨i, Nat.le_trans hlo hi₁, Nat.lt_of_lt_of_le hi₂ hhi, hp⟩

variable (o)

/-- What a round of attempts from the conductor `t`, with `g` as the failure so far, may end in
at `t'`: a view that keeps the identity of the card and advances from the baseline; giving up,
with the identity flag set only if it was set before or one of the round's pulls answered a
refused copy; or failing as corrupt, only after such a pull. -/
def AttemptsEnd (created baseline : TaskCard) (g : GaveUp) (t t' : Conductor) :
    Except EngineError (Except GaveUp CardView) → Prop
  | .ok (.ok v) => TaskCard.SameIdentity created v.card ∧ TaskCard.Advances baseline v.card ∧
    v.status = v.card.status
  | .ok (.error g') => g'.mismatch = true → g.mismatch = true ∨ RefusedIn o created baseline t.pulls t'.pulls
  | .error err => (∃ m, err = .cardCorruption m) ∧ RefusedIn o created baseline t.pulls t'.pulls

variable {o}

/-- A round that ends as `AttemptsEnd` says from a later conductor, with a later failure whose
identity flag is accounted for, ends so from the earlier one. -/
theorem AttemptsEnd.back {created baseline : TaskCard} {g g₁ : GaveUp} {t t₁ t' : Conductor}
    {r : Except EngineError (Except GaveUp CardView)} (hp : t.pulls ≤ t₁.pulls)
    (hg : g₁.mismatch = true → g.mismatch = true ∨ RefusedIn o created baseline t.pulls t'.pulls)
    (h : AttemptsEnd o created baseline g₁ t₁ t' r) : AttemptsEnd o created baseline g t t' r := by
  match r, h with
  | .ok (.ok _), h => exact h
  | .ok (.error _), h =>
    intro hm
    rcases h hm with h | h
    · exact hg h
    · exact Or.inr (h.widen hp (Nat.le_refl _))
  | .error _, h => exact ⟨h.1, h.2.widen hp (Nat.le_refl _)⟩

/-- A round of attempts through the replay mailbox leaves the cards alone, only counts pulls
up, and ends as `AttemptsEnd` says, when the baseline has as many requirements as the card as
created. -/
theorem attempts_ends (id : String) (created : TaskCard) (previous : Option CardView)
    (loc : CardLocation) (inbox : String)
    (hlen : ((previous.map (·.card)).getD created).requirements.length = created.requirements.length) :
    ∀ n first delay g t x,
      (attempts (Mailbox.replay o) id created previous loc inbox n first delay g t x).Ends StoreKept
        fun _ t' r => t'.cards = t.cards ∧ t.pulls ≤ t'.pulls ∧
          AttemptsEnd o created ((previous.map (·.card)).getD created) g t t' r := by
  intro n
  induction n with
  | zero => exact fun _ _ g t _ => ⟨rfl, Nat.le_refl _, fun h => Or.inl h⟩
  | succ n ih =>
    intro first delay g t x
    unfold attempts
    extract_lets pull
    -- the conductor after this attempt's pull
    let t₂ : Conductor := { t with pulls := t.pulls + 1 }
    have hlt : t.pulls < t₂.pulls := Nat.lt_succ_self _
    -- a later attempt, from one pull further on, ends as this round may
    have hlater : ∀ (g₁ : GaveUp) d x₁,
        (g₁.mismatch = true → g.mismatch = true ∨ ∀ t' : Conductor, t₂.pulls ≤ t'.pulls →
          RefusedIn o created ((previous.map (·.card)).getD created) t.pulls t'.pulls) →
        (attempts (Mailbox.replay o) id created previous loc inbox n false d g₁ t₂ x₁).Ends StoreKept
          fun _ t' r => t'.cards = t.cards ∧ t.pulls ≤ t'.pulls ∧
            AttemptsEnd o created ((previous.map (·.card)).getD created) g t t' r := by
      intro g₁ d x₁ hg
      refine (ih false d g₁ t₂ x₁).mono fun _ t' r h => ⟨h.1, Nat.le_trans hlt.le h.2.1, ?_⟩
      refine AttemptsEnd.back hlt.le (fun hm => ?_) h.2.2
      rcases hg hm with h' | h'
      · exact Or.inl h'
      · exact Or.inr (h' t' h.2.1)
    -- one attempt: a pull, then the checks of the copy it answered
    have hpull : ∀ d x₁, (pull d t x₁).Ends StoreKept
        fun _ t' r => t'.cards = t.cards ∧ t.pulls ≤ t'.pulls ∧
          AttemptsEnd o created ((previous.map (·.card)).getD created) g t t' r := by
      intro d x₁
      simp only [pull]
      rw [Job.ends_attempt_bind, Mailbox.replay_pull_apply, Flow.ends_done]
      cases ho : o t.pulls with
      | error e => exact hlater _ d x₁ fun hm => Or.inl hm
      | ok p =>
        -- a copy refused for good, answered by this attempt's pull
        have hrefused : ∀ t' : Conductor, t₂.pulls ≤ t'.pulls →
            TaskCard.Refused created ((previous.map (·.card)).getD created) p.content →
            RefusedIn o created ((previous.map (·.card)).getD created) t.pulls t'.pulls :=
          fun t' hp h => ⟨t.pulls, Nat.le_refl _, Nat.lt_of_lt_of_le hlt hp, p, ho, h⟩
        dsimp only
        cases hparse : TaskCard.parse p.content with
        | error f =>
          cases f with
          | torn r => exact hlater _ d x₁ fun hm => Or.inl hm
          | malformed r =>
            exact ⟨rfl, hlt.le, ⟨_, rfl⟩, hrefused t₂ (Nat.le_refl _) (Or.inl ⟨r, hparse⟩)⟩
        | ok card =>
          dsimp only
          cases hsame : created.sameRequirements card with
          | error r =>
            -- another identity: tried again, with the flag set by this very copy
            refine hlater _ d x₁ fun _ => Or.inr fun t' hp => hrefused t' hp (Or.inr ⟨card, hparse, ?_⟩)
            refine Or.inl fun hs => ?_
            rw [TaskCard.sameRequirements_eq_ok.2 hs] at hsame
            cases hsame
          | ok u =>
            cases u
            have hs := TaskCard.sameRequirements_eq_ok.1 hsame
            have hl : card.requirements.length =
                ((previous.map (·.card)).getD created).requirements.length := hs.length.trans hlen.symm
            dsimp only
            cases hfwd : ((previous.map (·.card)).getD created).forward card with
            | error r =>
              refine ⟨rfl, hlt.le, ⟨_, rfl⟩, hrefused t₂ (Nat.le_refl _) (Or.inr ⟨card, hparse, ?_⟩)⟩
              refine Or.inr fun hadv => ?_
              rw [(TaskCard.forward_eq_ok hl).2 hadv] at hfwd
              cases hfwd
            | ok u =>
              cases u
              exact ⟨rfl, hlt.le, hs, (TaskCard.forward_eq_ok hl).1 hfwd, rfl⟩
    clear_value pull
    cases first
    · -- a later attempt first sleeps, which leaves the conductor as it was
      rw [if_neg Bool.false_ne_true, Eng.sleep_bind_apply, Flow.ends_wait]
      intro x' _
      exact hpull _ x'
    · rw [if_pos rfl, Job.pure_bind]
      exact hpull _ x

variable (o) in
/-- What one reading of card `id`, from the conductor `t` to `t'`, did when it answered `r`:
a view it accepted keeps the identity of the card, advances from the entry's baseline, carries
the status of its card, and becomes the last view with the unreachable flag cleared; giving up as unreachable sets the flag
and keeps the last view; every other failure changes no card; and a failure as corrupt follows
one of the reading's own pulls answering a copy refused for good. -/
structure ReadOutcome (id : String) (t t' : Conductor) (r : Except EngineError CardView) : Prop where
  accepted : ∀ v, r = .ok v → ∃ e, t.cards.lookup id = some e ∧
    t'.cards = t.cards.put id { e with lastView := some v, unreachable := false } ∧
    TaskCard.SameIdentity e.card v.card ∧ TaskCard.Advances e.baseline v.card ∧
    v.status = v.card.status
  unreachable : ∀ m, r = .error (.cardUnreachable m) → ∃ e, t.cards.lookup id = some e ∧
    t'.cards = t.cards.put id { e with unreachable := true }
  kept : ∀ err, r = .error err → (∀ m, err ≠ .cardUnreachable m) → t'.cards = t.cards
  corrupt : ∀ m, r = .error (.cardCorruption m) → ∃ e, t.cards.lookup id = some e ∧
    RefusedIn o e.card e.baseline t.pulls t'.pulls

/-- A failure that is neither unreachable nor corrupt, with the cards as they were. -/
theorem ReadOutcome.of_failure {id : String} {t t' : Conductor} {err : EngineError}
    (hc : t'.cards = t.cards) (hu : ∀ m, err ≠ .cardUnreachable m) (hk : ∀ m, err ≠ .cardCorruption m) :
    ReadOutcome o id t t' (.error err) where
  accepted _ h := by cases h
  unreachable m h := absurd (Except.error.inj h) (hu m)
  kept _ _ _ := hc
  corrupt m h := absurd (Except.error.inj h) (hk m)

theorem get_bind {α : Type} (k : CardBook → Eng α) (t : Conductor) (x : Host) :
    (CardBook.get >>= k) t x = k t.cards t x := rfl

theorem modify_bind {α : Type} (f : CardBook → CardBook) (k : Unit → Eng α) (t : Conductor)
    (x : Host) : (CardBook.modify f >>= k) t x = k () { t with cards := f t.cards } x := rfl

/-- One reading through the replay mailbox does what `ReadOutcome` says, whatever the host does
at its waits, when the entry's baseline has as many requirements as its card. -/
theorem pullAndRead_outcome (id : String) (t : Conductor) (x : Host)
    (hlen : ∀ e, t.cards.lookup id = some e →
      e.baseline.requirements.length = e.card.requirements.length) :
    (pullAndRead (Mailbox.replay o) id t x).Ends StoreKept fun _ t' r => ReadOutcome o id t t' r := by
  unfold pullAndRead
  rw [get_bind]
  cases he : t.cards.lookup id with
  | none => exact ReadOutcome.of_failure rfl (fun _ h => by cases h) fun _ h => by cases h
  | some e =>
    dsimp only
    cases hloc : e.location with
    | none => exact ReadOutcome.of_failure rfl (fun _ h => by cases h) fun _ h => by cases h
    | some loc =>
      dsimp only
      rw [Job.bind_apply]
      refine Flow.Ends.bind (attempts_ends id e.card e.lastView loc _ (hlen e he) _ true _ _ t x)
        (fun r t' x' h => ?_) fun err t' x' h => ?_
      · obtain ⟨hc, -, hend⟩ := h
        cases r with
        | ok v =>
          -- accepted: the view becomes the last one, the flag is cleared
          dsimp only
          rw [modify_bind]
          simp only [hc, he, Job.pure_apply, Flow.ends_done]
          refine ⟨fun v' hv => ?_, (fun _ h => by cases h), (fun _ h => by cases h), (fun _ h => by cases h)⟩
          cases hv
          exact ⟨e, he, rfl, hend⟩
        | error g =>
          dsimp only
          cases hm : g.mismatch with
          | true =>
            -- the flag was not set at the start, so a pull of this reading answered a refused copy
            have hrefused := (hend hm).resolve_left Bool.false_ne_true
            rw [if_pos rfl]
            exact ⟨(fun _ h => by cases h), (fun _ h => by cases h), fun _ _ _ => hc, fun _ _ => ⟨e, he, hrefused⟩⟩
          | false =>
            rw [if_neg Bool.false_ne_true, modify_bind]
            simp only [hc, he, Eng.fail, Job.throw_apply, Flow.ends_done]
            exact ⟨(fun _ h => by cases h), fun _ _ => ⟨e, he, rfl⟩, fun _ h hu => absurd (Except.error.inj h).symm (hu _),
              (fun _ h => by cases h)⟩
      · obtain ⟨hc, -, ⟨m, rfl⟩, hrefused⟩ := h
        exact ⟨(fun _ h => by cases h), (fun _ h => by cases h), fun _ _ _ => hc, fun _ _ => ⟨e, he, hrefused⟩⟩

theorem ReadOutcome.lookup_of_ok {id : String} {t t' : Conductor} {v : CardView}
    (h : ReadOutcome o id t t' (.ok v)) :
    ∃ e, t.cards.lookup id = some e ∧
      t'.cards.lookup id = some { e with lastView := some v, unreachable := false } ∧
      TaskCard.SameIdentity e.card v.card ∧ TaskCard.Advances e.baseline v.card ∧
      v.status = v.card.status := by
  obtain ⟨e, he, hc, hrest⟩ := h.accepted v rfl
  exact ⟨e, he, by rw [hc, lookup_put, if_pos rfl], hrest⟩

/-- A reading that fails leaves the card as created and its last view as they were: giving up as
unreachable only sets the flag, and every other failure changes no card. -/
theorem ReadOutcome.basis_of_error {id : String} {t t' : Conductor} {err : EngineError}
    (h : ReadOutcome o id t t' (.error err)) :
    (t'.cards.lookup id).map CardEntry.basis = (t.cards.lookup id).map CardEntry.basis := by
  by_cases hu : ∃ m, err = .cardUnreachable m
  · obtain ⟨m, rfl⟩ := hu
    obtain ⟨e, he, hc⟩ := h.unreachable m rfl
    rw [hc, lookup_put, if_pos rfl, he]
    rfl
  · rw [h.kept err rfl fun m hm => hu ⟨m, hm⟩]

/-- After an accepted view, the card's status is the status of the view's card. -/
theorem ReadOutcome.status_of_ok {id : String} {t t' : Conductor} {v : CardView}
    (h : ReadOutcome o id t t' (.ok v)) : t'.cards.status id = v.card.status := by
  obtain ⟨e, -, hnext, -, -, hs⟩ := h.lookup_of_ok
  simp [status, hnext, hs]

/-- After giving up as unreachable, the card's status is unknown. -/
theorem ReadOutcome.status_of_unreachable {id : String} {t t' : Conductor} {m : String}
    (h : ReadOutcome o id t t' (.error (.cardUnreachable m))) : t'.cards.status id = .unknown := by
  obtain ⟨e, -, hc⟩ := h.unreachable m rfl
  simp [status, hc, lookup_put]

end Replay

/-- One reading of a card: the host and conductor it started from, the conductor it left, and
what it answered. -/
structure Reading where
  host : Host
  before : Conductor
  after : Conductor
  result : Except EngineError CardView

/-- A run of readings of card `id` through `mb`, the first of which finds the entry `e` (or none).
Each reading runs its course, whatever the host does at its waits; between two readings anything
may happen that leaves the card as created and its last view alone. -/
inductive ReadRun (mb : Mailbox Eng) (id : String) : Option CardEntry → List Reading → Prop
  | nil {e : Option CardEntry} : ReadRun mb id e []
  | call {e : Option CardEntry} {c : Reading} {rest : List Reading} :
      (c.before.cards.lookup id).map CardEntry.basis = e.map CardEntry.basis →
      (∃ x, (pullAndRead mb id c.before c.host).Reaches StoreKept x c.after c.result) →
      ReadRun mb id (c.after.cards.lookup id) rest → ReadRun mb id e (c :: rest)

/-- The cards of the views the readings of a run accepted, in order. -/
def acceptedCards : List Reading → List TaskCard
  | [] => []
  | c :: rest =>
    match c.result with
    | .ok v => v.card :: acceptedCards rest
    | .error _ => acceptedCards rest

section Replay

variable {o : Nat → Except EngineError PulledCard}

/-- Along a run of readings from an entry whose card is `created` and whose baseline keeps that
identity, every reading does what one reading does, and the accepted views keep the identity and
advance one after another from the baseline. -/
theorem ReadRun.chain {id : String} {created : TaskCard} {idx : Option CardEntry}
    {calls : List Reading} (hrun : ReadRun (Mailbox.replay o) id idx calls) :
    ∀ e, idx = some e → e.card = created → TaskCard.SameIdentity created e.baseline →
      (∀ c ∈ calls, ReadOutcome o id c.before c.after c.result) ∧
      List.IsChain TaskCard.Advances (e.baseline :: acceptedCards calls) ∧
      ∀ v ∈ acceptedCards calls, TaskCard.SameIdentity created v := by
  -- the invariant: the entry the next reading finds has the card as created, and a baseline
  -- of that identity from which every later accepted view advances
  induction hrun with
  | nil =>
    intro e _ _ _
    simp only [acceptedCards, List.not_mem_nil, IsEmpty.forall_iff, implies_true,
      List.isChain_singleton, and_self]
  | @call idx c rest hbasis hreach _ ih =>
    intro e hidx hcard hid
    subst hidx
    -- the entry the reading finds has the card and the baseline of `e`
    obtain ⟨e₀, he₀, hb₀⟩ := Option.map_eq_some_iff.1 hbasis
    obtain ⟨hcard₀, hbase₀⟩ := CardEntry.baseline_eq_of_basis hb₀
    obtain ⟨x, hx⟩ := hreach
    have hout : ReadOutcome o id c.before c.after c.result := by
      refine (pullAndRead_outcome id c.before c.host fun e₁ he₁ => ?_).reaches hx
      obtain rfl : e₁ = e₀ := Option.some.inj (he₁.symm.trans he₀)
      rw [hbase₀, hcard₀, hcard]
      exact hid.length
    cases hr : c.result with
    | ok v =>
      rw [hr] at hout
      obtain ⟨e₁, he₁, hnext, hsame, hadv, -⟩ := hout.lookup_of_ok
      obtain rfl : e₁ = e₀ := Option.some.inj (he₁.symm.trans he₀)
      have hv : TaskCard.SameIdentity created v.card := by rwa [hcard₀, hcard] at hsame
      obtain ⟨hrest, hchain, hids⟩ := ih _ hnext (hcard₀.trans hcard) hv
      refine ⟨?_, ?_, ?_⟩
      · exact List.forall_mem_cons.2 ⟨by rwa [hr], hrest⟩
      · simp only [acceptedCards, hr, List.isChain_cons_cons]
        exact ⟨hbase₀ ▸ hadv, hchain⟩
      · simp only [acceptedCards, hr, List.forall_mem_cons]
        exact ⟨hv, hids⟩
    | error err =>
      rw [hr] at hout
      -- a failure keeps the basis, so the next reading checks against the same baseline
      obtain ⟨e₁, he₁, hb₁⟩ := Option.map_eq_some_iff.1 ((hout.basis_of_error.trans hbasis))
      obtain ⟨hcard₁, hbase₁⟩ := CardEntry.baseline_eq_of_basis hb₁
      obtain ⟨hrest, hchain, hids⟩ := ih e₁ he₁ (hcard₁.trans hcard) (hbase₁ ▸ hid)
      refine ⟨?_, ?_, ?_⟩
      · exact List.forall_mem_cons.2 ⟨by rwa [hr], hrest⟩
      · simpa only [acceptedCards, hr, hbase₁] using hchain
      · simpa only [acceptedCards, hr] using hids

/-- Along a run of readings of a card whose baseline is the card as created (just published, or
just taken over): every reading does what one reading does; every view a reading returns keeps
the identity of the card; the accepted views, after the card as created, advance pairwise, so a
box checked in one stays checked in every later one, a timestamp keeps its value and signals are
only added; and after each reading the card's status is that of the view it returned, or unknown
when it gave up as unreachable. -/
theorem readings_chain {id : String} {e : CardEntry} {calls : List Reading}
    (hrun : ReadRun (Mailbox.replay o) id (some e) calls) (hbase : e.baseline = e.card) :
    (∀ c ∈ calls, ReadOutcome o id c.before c.after c.result) ∧
    (∀ v ∈ acceptedCards calls, TaskCard.SameIdentity e.card v) ∧
    List.Pairwise TaskCard.Advances (e.card :: acceptedCards calls) ∧
    ∀ c ∈ calls, (∀ v, c.result = .ok v → c.after.cards.status id = v.card.status) ∧
      ∀ m, c.result = .error (.cardUnreachable m) → c.after.cards.status id = .unknown := by
  obtain ⟨hout, hchain, hids⟩ :=
    hrun.chain e rfl rfl (hbase ▸ TaskCard.SameIdentity.refl e.card)
  rw [hbase] at hchain
  refine ⟨hout, hids, List.isChain_iff_pairwise.1 hchain, fun c hc => ⟨fun v hv => ?_, fun m hm => ?_⟩⟩
  · exact (hv ▸ hout c hc).status_of_ok
  · exact (hm ▸ hout c hc).status_of_unreachable

/-- A card handed out where no pull reaches it, read with no retries: the one reading gives up
as unreachable and the card's status is unknown. -/
theorem lost_card_status_unknown :
    let e : CardEntry :=
      { card := fresh "card-1" "epic-1" ⟨"BUILD"⟩ "Ship it" ["Tests pass"] "" "now"
        location := some ⟨"/work", "card.md", none⟩ }
    let t : Conductor := { cards := { entries := [("card-1", e)], retries := 0 } }
    let c : Reading :=
      ⟨{}, t, { t with pulls := 1, cards := t.cards.put "card-1" { e with unreachable := true } },
        .error (.cardUnreachable "card-1 unreadable after 1 attempts: Task card unreachable: gone")⟩
    ReadRun (Mailbox.replay fun _ => .error (.cardUnreachable "gone")) "card-1" (some e) [c] ∧
      c.after.cards.status "card-1" = .unknown := by
  intro e t c
  have hrun : ReadRun (Mailbox.replay fun _ => .error (.cardUnreachable "gone")) "card-1" (some e) [c] := by
    refine .call rfl ⟨{}, ?_⟩ .nil
    -- with no retries the reading never waits: it is done once its one pull fails
    simp only [c, t, e]
    exact Flow.Reaches.of_eq_done rfl
  exact ⟨hrun, ((readings_chain hrun rfl).2.2.2 c (List.mem_singleton_self c)).2 _ rfl⟩

end Replay

end CardBook

end EpicFlow
