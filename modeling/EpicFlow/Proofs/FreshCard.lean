import EpicFlow.Proofs.CardText
import EpicFlow.Proofs.CardReading

/-!
# A fresh card reads back

A stage of an epic starts with a card: the conductor creates it with every requirement open
(`CardBook.createCard`), delivers its text into the worker's workspace (`CardBook.publish`) and
later reads the worker's copy back (`CardBook.pullAndRead`). Before the worker edits it, the
copy is the card's own text, and the first reading accepts it as the card itself, provided the
card is in the form its text keeps (`TaskCard.Canonical`, so that `TaskCard.parse_render`
applies).

That proviso is not automatic. The engine trims the requirement texts and the notes it is
given but does not check them: a requirement text that still holds a line break writes two
lines under the checklist, and a notes line that starts with `## ` opens a section. Then the
card's own text reads back as another card, and the reading refuses it. `fresh_canonical` says
what suffices: requirement texts without line breaks once trimmed, and notes without carriage
returns or heading lines once trimmed.

Main statements:

* `CardBook.fresh_canonical`: when a fresh card is in form.
* `CardBook.pullAndRead_own_copy`: a published card not read before, whose pull answers the
  card's own text, is read back as itself.
* `CardBook.fresh_card_reads_back`: a card created and published through the in-memory mailbox
  is read back by the next reading as the card created (`CardBook.createPublishRead`).
* `CardBook.multiline_requirement_cut`: a requirement text with a line break is not.
-/

set_option autoImplicit false

namespace EpicFlow

/-- The id the next card of a host gets: counted from one in eight digits, or spread over the
range when ids are scattered. -/
def Host.nextCardId (x : Host) : String :=
  let n := x.cardSeq + 1
  if x.scatteredIds then "card-" ++ Eng.scatter n 1013904223
  else "card-" ++ String.ofList (List.replicate (8 - (Text.natText n).length) '0') ++ Text.natText n

theorem Eng.freshCardId_apply (t : Conductor) (x : Host) :
    Eng.freshCardId t x = .done { x with cardSeq := x.cardSeq + 1 } t (.ok x.nextCardId) := by
  rcases x with ⟨_, _, _, _, _, _, _, _, _ | _⟩ <;> rfl

namespace ScriptedWorld

/-- A file reads as what was last written to it. -/
theorem file?_write (w : ScriptedWorld) (path content : String) :
    (w.write path content).file? path = some ⟨content, w.clock + 1⟩ := by
  unfold write file?
  split
  · rename_i hany
    -- the first file at the path is the one replaced
    obtain ⟨q, hq⟩ : ∃ q, w.files.find? (·.1 == path) = some q :=
      Option.isSome_iff_exists.1 (List.find?_isSome.2 (List.any_eq_true.1 hany))
    have hkey : q.1 = path := by simpa using List.find?_some hq
    simp [List.find?_map, Function.comp_def, apply_ite, hq, hkey]
  · rename_i hnone
    have hfind : w.files.find? (·.1 == path) = none :=
      List.find?_eq_none.2 fun q hq hkey => hnone (List.any_eq_true.2 ⟨q, hq, hkey⟩)
    simp [List.find?_append, hfind]

end ScriptedWorld

/-- A pull through the in-memory mailbox that does not drop reads the file at the card's path. -/
theorem Mailbox.memory_pull_apply (loc : CardLocation) (inbox : String) (t : Conductor) (x : Host)
    {content : String} {version : Nat} (hdrop : t.dropPulls = 0)
    (hf : t.world.file? loc.hostPath = some ⟨content, version⟩) :
    Mailbox.memory.pull loc inbox t x =
      .done x { t with pulls := t.pulls + 1 } (.ok ⟨content, some version⟩) := by
  have hkept : ¬ t.dropPulls > 0 := by omega
  show (if t.dropPulls > 0 then ?a else ?b : Eng PulledCard) { t with pulls := t.pulls + 1 } x = _
  rw [if_neg hkept, hf]
  rfl

namespace CardBook

theorem createCard_apply (epicId : String) (stage : StageName) (objective : String)
    (reqs : List String) (notes : String) (t : Conductor) (x : Host) :
    createCard epicId stage objective reqs notes t x =
      .done { x with cardSeq := x.cardSeq + 1 }
        { t with cards := t.cards.create (fresh x.nextCardId epicId stage objective reqs notes x.stamp) }
        (.ok x.nextCardId) := by
  unfold createCard
  rw [Job.bind_apply, Eng.freshCardId_apply]
  rfl

theorem lookup_put_self (b : CardBook) (id : String) (e : CardEntry) :
    (b.put id e).lookup id = some e := by
  rw [lookup_put, if_pos rfl]

theorem lookup_create (b : CardBook) (c : TaskCard) :
    (b.create c).lookup c.cardId = some { card := c } :=
  lookup_put_self _ _ _

theorem publish_memory_apply {id : String} {e : CardEntry} (loc : CardLocation) (t : Conductor)
    (x : Host) (he : t.cards.lookup id = some e) :
    publish Mailbox.memory id loc t x =
      .done x { t with
        world := t.world.write loc.hostPath e.card.render
        cards := t.cards.put id { e with location := some loc } } (.ok loc.workerPath) := by
  unfold publish
  rw [get_bind, he]
  rfl

/-- A fresh card is in form when its requirement texts have no line break once trimmed, it has
fewer requirements than a 64-bit count holds, its notes once trimmed have no carriage return
and no heading line, and it is stamped with a trimmed text. -/
theorem fresh_canonical {id epicId objective notes now : String} {stage : StageName}
    {reqs : List String} (hstage : StageName.parse stage.val = .ok stage)
    (hreqs : ∀ r ∈ reqs, '\n' ∉ (Text.trim r).toList) (hcount : reqs.length < Nat.pow 2 64)
    (hreturn : '\r' ∉ (Text.trim notes).toList)
    (hheading : ∀ l ∈ Text.lines (Text.trim notes), ¬ ['#', '#', ' '] <+: (Text.trim l).toList)
    (hnow : Text.trim now = now) (hnow' : now ≠ "") :
    (fresh id epicId stage objective reqs notes now).Canonical where
  stage := hstage
  texts := by
    simp only [fresh, List.mem_map]
    rintro _ ⟨r, hr, rfl⟩
    exact ⟨Text.trim_trim r, hreqs r hr⟩
  count := by simpa [fresh] using hcount
  notes := ⟨Text.trim_trim notes, hreturn, hheading⟩
  created := fun s h => by
    cases h
    exact ⟨hnow, hnow'⟩
  started := fun _ h => nomatch h
  completed := fun _ h => nomatch h
  signalsNodup := List.nodup_nil
  signals := fun _ h => nomatch h

/-- Without the condition on requirement texts the card is not in form: a text with a line
break writes a second line under the checklist, and the checklist of the card's text reads back
with the requirement cut at the break, so the reading refuses the card's own text as another
card's. -/
theorem multiline_requirement_cut :
    ((Text.lines ("\n".intercalate (fresh "card-00000001" "epic-1" ⟨"BUILD"⟩ "add feature X"
        ["Implementation complete\nsecond line"] "" "now").bodyLines)).foldl
      TaskCard.Body.step {}).requirements = [⟨"Implementation complete", false⟩] := by
  decide

/-- A round of attempts on a card not read before, whose first pull answers the card's own
text, ends with the card as the view, when the card is in form. -/
theorem attempts_own_copy (mb : Mailbox Eng) {id inbox : String} {c : TaskCard}
    {loc : CardLocation} {m : Option Nat} (hc : c.Canonical)
    (hyaml : Yaml.Node.readsAs c.matterText c.matterNode = true) (n delay : Nat) (g : GaveUp)
    {t t' : Conductor} {x : Host} (hpull : mb.pull loc inbox t x = .done x t' (.ok ⟨c.render, m⟩)) :
    (attempts mb id c none loc inbox (n + 1) true delay g t x).Ends StoreKept
      fun _ _ r => r = .ok (.ok (CardView.ofCard c m)) := by
  unfold attempts
  extract_lets pull
  rw [if_pos rfl, Job.pure_bind]
  simp only [pull]
  rw [Job.ends_attempt_bind, hpull, Flow.ends_done]
  dsimp only
  -- the copy parses as the card, keeps its identity, and advances from it as the baseline
  rw [TaskCard.parse_render c hc hyaml]
  dsimp only
  rw [TaskCard.sameRequirements_eq_ok.2 (TaskCard.SameIdentity.refl c)]
  dsimp only
  rw [Option.map_none, Option.getD_none, (TaskCard.forward_eq_ok rfl).2 (TaskCard.Advances.refl c)]
  rfl

/-- A published card not read before, whose pull answers the card's own text, is read back as
itself when it is in form. -/
theorem pullAndRead_own_copy (mb : Mailbox Eng) {id : String} {c : TaskCard} {loc : CardLocation}
    {u : Bool} {m : Option Nat} {t t' : Conductor} {x : Host}
    (he : t.cards.lookup id = some ⟨c, some loc, none, u⟩) (hc : c.Canonical)
    (hyaml : Yaml.Node.readsAs c.matterText c.matterNode = true)
    (hpull : mb.pull loc (t.cards.inboxPath id) t x = .done x t' (.ok ⟨c.render, m⟩)) :
    (pullAndRead mb id t x).Ends StoreKept fun _ _ r => r = .ok (CardView.ofCard c m) := by
  unfold pullAndRead
  rw [get_bind, he]
  dsimp only
  rw [Job.bind_apply]
  refine Flow.Ends.bind (attempts_own_copy mb hc hyaml _ _ _ hpull) (fun r t'' x'' h => ?_)
    fun _ _ _ h => nomatch h
  cases h
  dsimp only
  rw [modify_bind]
  exact (Flow.ends_done _ _ _ _).2 rfl

/-- Create a card, deliver it into the worker's workspace at the place `loc` gives for its id,
and read it back: the first reading of a stage's card, before its worker has touched it.
Irreducible, so that a run of it on given states is reasoned about through its steps rather
than evaluated whole by the elaborator. -/
@[irreducible]
def createPublishRead (mb : Mailbox Eng) (loc : String → CardLocation) (epicId : String)
    (stage : StageName) (objective : String) (reqs : List String) (notes : String) :
    Eng CardView := do
  let id ← createCard epicId stage objective reqs notes
  let _ ← publish mb id (loc id)
  pullAndRead mb id

/-- A card created and published through the in-memory mailbox is read back by the next
reading as the card created, with its status, counts and the version of its copy, when the
card is in form and its front matter reads back, and the mailbox drops no pull. -/
theorem fresh_card_reads_back {epicId objective notes id : String} {stage : StageName}
    {reqs : List String} (loc : String → CardLocation) (t : Conductor) (x : Host)
    (hid : x.nextCardId = id) (hstage : StageName.parse stage.val = .ok stage)
    (hreqs : ∀ r ∈ reqs, '\n' ∉ (Text.trim r).toList) (hcount : reqs.length < Nat.pow 2 64)
    (hreturn : '\r' ∉ (Text.trim notes).toList)
    (hheading : ∀ l ∈ Text.lines (Text.trim notes), ¬ ['#', '#', ' '] <+: (Text.trim l).toList)
    (hstamp : Text.trim x.stamp = x.stamp) (hstamp' : x.stamp ≠ "")
    (hyaml : Yaml.Node.readsAs (fresh id epicId stage objective reqs notes x.stamp).matterText
      (fresh id epicId stage objective reqs notes x.stamp).matterNode = true)
    (hdrop : t.dropPulls = 0) :
    (createPublishRead Mailbox.memory loc epicId stage objective reqs notes t x).Ends StoreKept
      fun _ _ r =>
        r = .ok (CardView.ofCard (fresh id epicId stage objective reqs notes x.stamp)
          (some (t.world.clock + 1))) := by
  subst hid
  unfold createPublishRead
  rw [Job.bind_apply_of_done (createCard_apply ..),
    Job.bind_apply_of_done (publish_memory_apply _ _ _ (lookup_create _ _))]
  exact pullAndRead_own_copy Mailbox.memory (lookup_put_self _ _ _)
    (fresh_canonical hstage hreqs hcount hreturn hheading hstamp hstamp') hyaml
    (Mailbox.memory_pull_apply _ _ _ _ hdrop (ScriptedWorld.file?_write _ _ _))

/-- The card of a build stage with two requirements and a pattern's note, created on a fresh
host, is read back as itself. -/
theorem build_card_reads_back :
    (createPublishRead Mailbox.memory (CardLocation.inWorkspace "/ws") "epic-1" ⟨"BUILD"⟩
        "add feature X" ["Implementation complete", "Tests pass"]
        "- **tdd** (0.90): write the test first" {} {}).Ends StoreKept fun _ _ r =>
      r = .ok (CardView.ofCard
        (fresh "card-00000001" "epic-1" ⟨"BUILD"⟩ "add feature X"
          ["Implementation complete", "Tests pass"] "- **tdd** (0.90): write the test first"
          ({} : Host).stamp) (some 1)) :=
  fresh_card_reads_back _ {} {} (by decide) (by decide) (by decide) (by decide) (by decide)
    (by decide) (by decide) (by decide) (by decide +kernel) rfl

end CardBook

end EpicFlow
