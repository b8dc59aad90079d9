import EpicFlow.Proofs.CardReading

/-!
# Taking over a card

After a restart the conductor takes over the cards that an earlier process handed out
(`CardBook.reattach`): it pulls the worker's copy and, if the copy reads as the requested card,
makes it the card's entry. That copy is then both the card as created and the last accepted view,
so every later reading checks identity and progress against it.

Unlike a reading, a take-over pulls once and never waits. Whatever its one pull gives decides
the answer (`TakeOver`): a failed pull fails the take-over with the pull's own error; a copy that
does not read, whether torn or malformed, and a copy of another card fail it as corrupt; and a
failure changes no card. Through the replay mailbox of `Proofs.CardReading` this holds for every
sequence of copies the worker side gives (`reattach_takeOver`), and the run of readings after an
accepted take-over chains from the copy taken over (`reattach_once`).

Main statements:

* `CardBook.reattach_takeOver`: one take-over, as one pull and what it gave.
* `CardBook.reattach_once`: a take-over is final on its one pull, and a copy taken over is the
  baseline of every later reading.
-/

set_option autoImplicit false

namespace EpicFlow

namespace CardBook

section Replay

/-- What a take-over of card `id` at `loc` answers for what its one pull gave: the pull's own
error; corruption with the reader's message for a copy that does not read, torn or malformed;
corruption that names the other card for a copy of another card; and the copy's view for a copy
of the card. -/
inductive TakeOverAnswer (id : String) (loc : CardLocation) :
    Except EngineError PulledCard → Except EngineError CardView → Prop
  | pullFailed (err : EngineError) : TakeOverAnswer id loc (.error err) (.error err)
  | unread {p : PulledCard} {f : CardFault} : TaskCard.parse p.content = .error f →
      TakeOverAnswer id loc (.ok p) (.error (.cardCorruption (id ++ ": " ++ f.message)))
  | otherCard {p : PulledCard} {c : TaskCard} : TaskCard.parse p.content = .ok c → c.cardId ≠ id →
      TakeOverAnswer id loc (.ok p) (.error (.cardCorruption (loc.hostPath ++ " holds card " ++ c.cardId)))
  | accepted {p : PulledCard} {c : TaskCard} : TaskCard.parse p.content = .ok c → c.cardId = id →
      TakeOverAnswer id loc (.ok p) (.ok (CardView.ofCard c p.modified))

/-- The entry a take-over makes of a view it accepts: the view's card is the card as created and
the view is the last one. -/
def takenOver (loc : CardLocation) (v : CardView) : CardEntry :=
  { card := v.card, location := some loc, lastView := some v }

/-- The entry a take-over makes has the copy as its baseline. -/
theorem baseline_takenOver (loc : CardLocation) (v : CardView) : (takenOver loc v).baseline = v.card :=
  rfl

variable (o : Nat → Except EngineError PulledCard)

/-- What one take-over of card `id` at `loc`, from the conductor `t` to `t'`, did when it answered
`r`: one pull, an answer decided by what that pull gave, an accepted view made the card's entry,
and no card changed by a failure. -/
structure TakeOver (id : String) (loc : CardLocation) (t t' : Conductor)
    (r : Except EngineError CardView) : Prop where
  pulls : t'.pulls = t.pulls + 1
  answer : TakeOverAnswer id loc (o t.pulls) r
  accepted : ∀ v, r = .ok v → t'.cards = t.cards.put id (takenOver loc v)
  kept : ∀ err, r = .error err → t'.cards = t.cards

variable {o}

/-- A take-over that failed, with the cards as they were. -/
theorem TakeOver.of_failure {id : String} {loc : CardLocation} {t : Conductor} {err : EngineError}
    (h : TakeOverAnswer id loc (o t.pulls) (.error err)) :
    TakeOver o id loc t { t with pulls := t.pulls + 1 } (.error err) :=
  ⟨rfl, h, (fun _ h => by cases h), fun _ _ => rfl⟩

/-- One take-over through the replay mailbox: it is done on the host it started on, without a
wait, and does what `TakeOver` says. -/
theorem reattach_takeOver (id : String) (loc : CardLocation) (t : Conductor) (x : Host) :
    ∃ t' r, reattach (Mailbox.replay o) id loc t x = .done x t' r ∧ TakeOver o id loc t t' r := by
  unfold reattach
  rw [get_bind, Job.bind_apply, Mailbox.replay_pull_apply]
  cases hp : o t.pulls with
  | error err => exact ⟨_, _, rfl, .of_failure (hp ▸ .pullFailed err)⟩
  | ok p =>
    simp only [Flow.bind]
    cases hc : TaskCard.parse p.content with
    | error f => exact ⟨_, _, rfl, .of_failure (hp ▸ .unread hc)⟩
    | ok c =>
      dsimp only
      by_cases hid : c.cardId = id
      · -- a copy of the card: it becomes the entry
        rw [if_neg (by simp [hid]), modify_bind]
        exact ⟨_, _, rfl, rfl, hp ▸ .accepted hc hid, (fun v hv => by cases hv; rfl), (fun _ h => by cases h)⟩
      · -- a copy of another card is corrupt
        rw [if_pos (by simp [hid])]
        exact ⟨_, _, rfl, .of_failure (hp ▸ .otherCard hc hid)⟩

/-- Taking over a card pulls the worker's copy once and never waits, so its answer is final on
that one pull: a failed pull fails it with the pull's error, a copy that does not read, torn as
well as malformed, or a copy of another card fails it as corrupt, and a failure changes no card.
It answers a view only for a copy of the requested card, and that copy becomes the baseline of
every later reading: along any run of readings after it, each accepted view keeps the copy's
identity and the accepted views advance from it one after another. -/
theorem reattach_once (id : String) (loc : CardLocation) (t : Conductor) (x : Host) :
    ∃ t' r, reattach (Mailbox.replay o) id loc t x = .done x t' r ∧ TakeOver o id loc t t' r ∧
      ∀ v, r = .ok v → v.card.cardId = id ∧
        ∀ calls, ReadRun (Mailbox.replay o) id (t'.cards.lookup id) calls →
          (∀ w ∈ acceptedCards calls, TaskCard.SameIdentity v.card w) ∧
          List.Pairwise TaskCard.Advances (v.card :: acceptedCards calls) := by
  obtain ⟨t', r, hrun, htake⟩ := reattach_takeOver id loc t x
  refine ⟨t', r, hrun, htake, fun v hv => ⟨?_, fun calls hcalls => ?_⟩⟩
  · -- only a copy of the card is answered
    have hanswer := htake.answer
    rw [hv] at hanswer
    generalize o t.pulls = pulled at hanswer
    cases hanswer with
    | accepted _ hid => exact hid
  · -- the entry the readings start from is the one the take-over made
    rw [htake.accepted v hv, lookup_put, if_pos rfl] at hcalls
    obtain ⟨-, hids, hchain, -⟩ := readings_chain hcalls (baseline_takenOver loc v)
    exact ⟨hids, hchain⟩

/-- A take-over whose one pull gives an empty copy, which reads as torn: it fails at once as
corrupt, after one pull and no wait, where a reading would pull again. -/
theorem torn_copy_taken_as_corrupt :
    TaskCard.parse "" = .error (.torn "frontmatter is not closed") ∧
      reattach (Mailbox.replay fun _ => .ok ⟨"", none⟩) "card-1" ⟨"/work", "card.md", none⟩ {} {} =
        .done {} { pulls := 1 } (.error (.cardCorruption "card-1: torn card: frontmatter is not closed")) :=
  ⟨rfl, rfl⟩

end Replay

end CardBook

end EpicFlow
