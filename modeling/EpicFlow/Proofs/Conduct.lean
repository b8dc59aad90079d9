import EpicFlow.Proofs.Operations
import EpicFlow.Proofs.JobLogic
import EpicFlow.Conductor.Drive
import EpicFlow.Worker.Scripted

/-!
# What a conductor's work does to the store and to its sessions

A conductor writes the store in few places: a run's state (`updateRun`, through the monitor and
`Crew.record`), an epic's move by a decision (`advance`, through `Crew.apply`), the resume flag
(`clearResume`) and escalations (`escalate`). Starting a run (`insertRun`) is the last one, and
is treated where the stages are driven. Of its own state, a conductor changes the session
handles only where it hands a session out or takes one over. Everything else it does touches
its cards, its leases, the clock, the machine or the id counters, and leaves the store and the
handles alone (`Confined`).

This module proves, once for any relation between states (the host and the conductor) that
those writes keep (`Allows`), that each piece of the conductor's work, from a status poll to
`Crew.conclude`, keeps the relation from the state it starts in to every state it reaches
(`Job.Keeps`). In between, at its waits, the host may change in any way that leaves the store
alone (`StoreKept`). The workers and mailboxes are assumed to keep the relation too
(`Worker.Keeps`, `Mailbox.Keeps`); the real ones leave the store alone, since they reach only
the worker's machine and files. Routing a decision also answers the epic it moved, read from its
stored row (`MovedFrom`), and so does every piece that ends by routing one.

The relation that `Proofs.Reachable` uses is `HostLawful p`: the store moves lawfully under the
policy `p` (`Lawful`).

Main statements:

* `Eng.keeps_onStore`: a write of the store keeps a relation that holds of the write.
* `Monitor.keeps_watch`, `Crew.keeps_conclude`: the monitor and the end of a stage keep every
  allowed relation.
* `Crew.apply_answers`, `Crew.conclude_answers`, `Crew.takeOver_answers`: routing a decision,
  ending a stage and taking over a run answer the epic they moved.
* `HostLawful.allows`: lawful change of the store is allowed.
* `Crew.apply_ends_of`: the ways routing a decision can go; every proof about routing takes
  its cases from here.
* `Crew.drive_ends_of`: the stage loop, by induction on its fuel, ends as its rounds do; the
  later modules prove what one stage does and take the loop from here.
-/

set_option autoImplicit false

namespace EpicFlow

/-- A change of the host that leaves the store as it was. -/
def StoreKept (h h' : Host) : Prop := h'.store = h.store

/-- A change of host and conductor that leaves the store as it was. -/
def SameStore (a b : Host × Conductor) : Prop := b.1.store = a.1.store

/-- A change of host and conductor that leaves the store and the session handles as they were. -/
def Confined (a b : Host × Conductor) : Prop :=
  b.1.store = a.1.store ∧ b.2.sessions.handles = a.2.sessions.handles

/-- A change of the host outside the store and of the conductor's cards, and of nothing else:
what a conductor's work does between the writes of its store, its sessions and its count of
escalations. -/
def Bookkeeping (a b : Host × Conductor) : Prop :=
  b.1.store = a.1.store ∧ b.2 = { a.2 with cards := b.2.cards }

/-- The store moves lawfully under the policy. -/
def HostLawful (p : EpicPolicy) (a b : Host × Conductor) : Prop := Lawful p a.1.store b.1.store

/-- A relation that every confined change is a step of, and that composes. -/
structure Blind (rel : Host × Conductor → Host × Conductor → Prop) : Prop where
  confined : ∀ {a b}, Confined a b → rel a b
  trans : ∀ {a b c}, rel a b → rel b c → rel a c

theorem Blind.guarantee {rel : Host × Conductor → Host × Conductor → Prop} (hb : Blind rel) :
    Job.Guarantee StoreKept rel :=
  ⟨fun _ => hb.confined ⟨rfl, rfl⟩, hb.trans, fun _ h => hb.confined ⟨h, rfl⟩⟩

/-- A relation that every change of bookkeeping is a step of, and that composes. Unlike a blind
relation, it may look at the sessions, the worker's world and the escalation count. -/
structure Tidy (rel : Host × Conductor → Host × Conductor → Prop) : Prop where
  bookkeeping : ∀ {a b}, Bookkeeping a b → rel a b
  trans : ∀ {a b c}, rel a b → rel b c → rel a c

theorem Tidy.guarantee {rel : Host × Conductor → Host × Conductor → Prop} (ht : Tidy rel) :
    Job.Guarantee StoreKept rel :=
  ⟨fun _ => ht.bookkeeping ⟨rfl, rfl⟩, ht.trans, fun _ h => ht.bookkeeping ⟨h, rfl⟩⟩

theorem Blind.tidy {rel : Host × Conductor → Host × Conductor → Prop} (hb : Blind rel) : Tidy rel :=
  ⟨fun h => hb.confined ⟨h.1, by rw [h.2]⟩, hb.trans⟩

/-- Bookkeeping is itself tidy: work that only keeps books leaves the store and all of the
conductor but its cards. -/
theorem Bookkeeping.tidy : Tidy Bookkeeping where
  bookkeeping h := h
  trans {a b d} h₁ h₂ := by
    refine ⟨h₂.1.trans h₁.1, ?_⟩
    have hcards : d.2 = { b.2 with cards := d.2.cards } := h₂.2
    rw [hcards, h₁.2]

theorem Confined.blind : Blind Confined :=
  ⟨id, fun h₁ h₂ => ⟨h₂.1.trans h₁.1, h₂.2.trans h₁.2⟩⟩

theorem SameStore.blind : Blind SameStore :=
  ⟨fun h => h.1, fun h₁ h₂ => h₂.trans h₁⟩


/-- A worker whose every call keeps `rel`. -/
structure Worker.Keeps (rel : Host × Conductor → Host × Conductor → Prop) (w : Worker Eng) : Prop where
  invoke : ∀ i, Job.Keeps StoreKept rel (w.invoke i)
  status : ∀ id, Job.Keeps StoreKept rel (w.status id)
  terminate : ∀ id force, Job.Keeps StoreKept rel (w.terminate id force)
  release : ∀ id, Job.Keeps StoreKept rel (w.release id)

/-- A worker whose calls about a run already started (status queries, requests to stop, releases)
keep `rel`. These are all the calls that watching a run and tearing its session down make. -/
structure Worker.Stops (rel : Host × Conductor → Host × Conductor → Prop) (w : Worker Eng) : Prop where
  status : ∀ id, Job.Keeps StoreKept rel (w.status id)
  terminate : ∀ id force, Job.Keeps StoreKept rel (w.terminate id force)
  release : ∀ id, Job.Keeps StoreKept rel (w.release id)

theorem Worker.Keeps.stops {rel : Host × Conductor → Host × Conductor → Prop} {w : Worker Eng}
    (hw : w.Keeps rel) : w.Stops rel :=
  ⟨hw.status, hw.terminate, hw.release⟩

/-- A mailbox whose every call keeps `rel`. -/
structure Mailbox.Keeps (rel : Host × Conductor → Host × Conductor → Prop) (mb : Mailbox Eng) : Prop where
  deliver : ∀ loc content, Job.Keeps StoreKept rel (mb.deliver loc content)
  pull : ∀ loc inbox, Job.Keeps StoreKept rel (mb.pull loc inbox)

section Mono

variable {rel rel' : Host × Conductor → Host × Conductor → Prop}

theorem Worker.Keeps.mono {w : Worker Eng} (hw : w.Keeps rel) (h : ∀ a b, rel a b → rel' a b) :
    w.Keeps rel' :=
  ⟨fun i => (hw.invoke i).mono h, fun id => (hw.status id).mono h,
    fun id force => (hw.terminate id force).mono h, fun id => (hw.release id).mono h⟩

theorem Mailbox.Keeps.mono {mb : Mailbox Eng} (hmb : mb.Keeps rel) (h : ∀ a b, rel a b → rel' a b) :
    mb.Keeps rel' :=
  ⟨fun loc content => (hmb.deliver loc content).mono h, fun loc inbox => (hmb.pull loc inbox).mono h⟩

end Mono

/-- A relation that the conductor's writes other than moves and session changes keep: it holds
from a state to the same state with its escalation count changed, or with its store rewritten by
any successful write of a run's state, clearing of a resume flag, or escalation. -/
structure Writes (p : EpicPolicy) (rel : Host × Conductor → Host × Conductor → Prop) : Prop
    extends Tidy rel where
  count : ∀ x t n, rel (x, t) (x, { t with logged := n })
  updateRun : ∀ x t r s, x.store.updateRun r = .ok s → rel (x, t) ({ x with store := s }, t)
  clearResume : ∀ x t id now s, EpicPolicy.clearResume x.store id now = .ok s →
    rel (x, t) ({ x with store := s }, t)
  escalate : ∀ x t e d home now s n, p.escalate x.store e d home now = .ok (s, n) →
    rel (x, t) ({ x with store := s }, t)

/-- A relation that the conductor's own writes of the store keep: its other writes, and the move
of an epic by any decision. -/
structure Allows (p : EpicPolicy) (rel : Host × Conductor → Host × Conductor → Prop) : Prop
    extends Writes p rel where
  advance : ∀ x t id d now s e, p.advance x.store id d now = .ok (s, e) →
    rel (x, t) ({ x with store := s }, t)

theorem Writes.guarantee {p : EpicPolicy} {rel : Host × Conductor → Host × Conductor → Prop}
    (hW : Writes p rel) : Job.Guarantee StoreKept rel :=
  hW.toTidy.guarantee

theorem Allows.guarantee {p : EpicPolicy} {rel : Host × Conductor → Host × Conductor → Prop}
    (hR : Allows p rel) : Job.Guarantee StoreKept rel :=
  hR.toTidy.guarantee

/-- A change that leaves the store alone is lawful. -/
theorem HostLawful.of_sameStore {p : EpicPolicy} {a b : Host × Conductor} (h : SameStore a b) :
    HostLawful p a b := by
  unfold HostLawful
  rw [h]
  exact Lawful.refl a.1.store

theorem HostLawful.blind (p : EpicPolicy) : Blind (HostLawful p) :=
  ⟨fun h => HostLawful.of_sameStore h.1, fun h₁ h₂ => Lawful.trans h₁ h₂⟩

theorem HostLawful.allows (p : EpicPolicy) : Allows p (HostLawful p) where
  toTidy := (HostLawful.blind p).tidy
  count _ _ _ := HostLawful.of_sameStore rfl
  updateRun _ _ _ _ h := Lawful.updateRun h
  advance _ _ _ _ _ _ _ h := Lawful.advance h
  clearResume _ _ _ _ _ h := Lawful.clearResume h
  escalate _ _ _ _ _ _ _ _ h := Lawful.escalate h

/-- The epic a move of epic `id` answers, read from a stored row: it has the id it was asked for,
and the attempt floor of the row of `id` in a state that `rel` reaches from `a`. -/
def MovedFrom (rel : Host × Conductor → Host × Conductor → Prop) (a : Host × Conductor) (id : String)
    (e : Epic) : Prop :=
  e.id = id ∧ ∃ b row, rel a b ∧ b.1.store.row? id = some row ∧ e.attemptFloor = row.attemptFloor

/-- An answer read in a state reached from `b` was read in one reached from an earlier `a`. -/
theorem MovedFrom.back {rel : Host × Conductor → Host × Conductor → Prop} (ht : Tidy rel)
    {a b : Host × Conductor} {id : String} {e : Epic} (hab : rel a b) (h : MovedFrom rel b id e) :
    MovedFrom rel a id e := by
  obtain ⟨hid, c, row, hbc, hrow, hfloor⟩ := h
  exact ⟨hid, c, row, ht.trans hab hbc, hrow, hfloor⟩

/-- The decision for a finished run is for the epic it was asked for. -/
theorem routeRun_epicId (reg : Registry) (epicId : String) (run : Run) (now : String) :
    (routeRun reg epicId run now).epicId = epicId := by
  unfold routeRun routeByTable
  dsimp only
  split
  · rfl
  · split
    · rfl
    · split
      · rfl
      · split
        · split <;> rfl
        · rfl

/-- The budget keeps the epic of a decision. -/
theorem EpicPolicy.enforceBudget_epicId (p : EpicPolicy) (s : Store) (d : Decision) (now : String) :
    (p.enforceBudget s d now).epicId = d.epicId := by
  unfold EpicPolicy.enforceBudget
  split
  · rfl
  · split <;> rfl

namespace Eng

/-! ### Reading and changing the state -/

@[simp] theorem host_bind {α : Type} (k : Host → Eng α) (t : Conductor) (h : Host) :
    (Eng.host >>= k) t h = k h t h := rfl

@[simp] theorem store_bind {α : Type} (k : Store → Eng α) (t : Conductor) (h : Host) :
    (Eng.store >>= k) t h = k h.store t h := rfl

@[simp] theorem stamp_bind {α : Type} (k : String → Eng α) (t : Conductor) (h : Host) :
    (Eng.stamp >>= k) t h = k h.stamp t h := rfl

@[simp] theorem self_bind {α : Type} (k : Conductor → Eng α) (t : Conductor) (h : Host) :
    (Eng.self >>= k) t h = k t t h := rfl

@[simp] theorem cancelled_bind {α : Type} (k : Bool → Eng α) (t : Conductor) (h : Host) :
    (Eng.cancelled >>= k) t h = k (h.cancelAt.any (· ≤ h.now)) t h := rfl

@[simp] theorem modifyHost_bind {α : Type} (f : Host → Host) (k : Unit → Eng α) (t : Conductor)
    (h : Host) : (Eng.modifyHost f >>= k) t h = k () t (f h) := rfl

@[simp] theorem ofExcept_ok_bind {α β : Type} (a : α) (k : α → Eng β) (t : Conductor) (h : Host) :
    (Eng.ofExcept (.ok a) >>= k) t h = k a t h := rfl

@[simp] theorem ofExcept_error_bind {α β : Type} (e : EngineError) (k : α → Eng β) (t : Conductor)
    (h : Host) : (Eng.ofExcept (.error e) >>= k) t h = .done h t (.error e) := rfl

/-! ### The pieces that leave the store and the handles alone -/

section Tidy

variable {rel : Host × Conductor → Host × Conductor → Prop} (hb : Tidy rel)
include hb

/-- Reading the host and answering from it changes nothing. -/
theorem keeps_read {α : Type} (f : Host → α) :
    Job.Keeps StoreKept rel (do return f (← Eng.host) : Eng α) :=
  Job.Keeps.bind hb.guarantee (Job.Keeps.world hb.guarantee) fun _ => Job.Keeps.pure hb.guarantee _

theorem keeps_modifyHost {f : Host → Host} (hf : ∀ x, (f x).store = x.store) :
    Job.Keeps StoreKept rel (Eng.modifyHost f) :=
  Job.Keeps.modifyWorld fun x _ => hb.bookkeeping ⟨hf x, rfl⟩

theorem keeps_stamp : Job.Keeps StoreKept rel Eng.stamp := keeps_read hb _

theorem keeps_now : Job.Keeps StoreKept rel Eng.now := keeps_read hb _

theorem keeps_store : Job.Keeps StoreKept rel Eng.store := keeps_read hb _

theorem keeps_cancelled : Job.Keeps StoreKept rel Eng.cancelled := keeps_read hb _

theorem keeps_self : Job.Keeps StoreKept rel Eng.self := Job.Keeps.own hb.guarantee

theorem keeps_modifyCards (f : CardBook → CardBook) :
    Job.Keeps StoreKept rel (Eng.modifySelf fun t => { t with cards := f t.cards }) :=
  Job.Keeps.modifyOwn fun _ _ => hb.bookkeeping ⟨rfl, rfl⟩

theorem keeps_fail {α : Type} (e : EngineError) : Job.Keeps StoreKept rel (Eng.fail e : Eng α) :=
  Job.Keeps.throw hb.guarantee e

theorem keeps_ofExcept {α : Type} (x : Except EngineError α) :
    Job.Keeps StoreKept rel (Eng.ofExcept x) := by
  cases x with
  | ok a => exact Job.Keeps.pure hb.guarantee a
  | error e => exact Job.Keeps.throw hb.guarantee e

theorem keeps_sleep (ns : Nat) : Job.Keeps StoreKept rel (Eng.sleep ns) :=
  Job.Keeps.bind hb.guarantee (keeps_now hb) fun _ => Job.Keeps.waitUntil hb.guarantee _

theorem keeps_sleepOrCancel (ns : Nat) : Job.Keeps StoreKept rel (Eng.sleepOrCancel ns) := by
  have hg := hb.guarantee
  refine Job.Keeps.bind hg (Job.Keeps.world hg) fun h => ?_
  -- every branch waits at most once, then answers
  dsimp only
  split
  · split
    · exact Job.Keeps.pure hg _
    · split
      · exact Job.Keeps.bind hg (Job.Keeps.waitUntil hg _) fun _ => Job.Keeps.pure hg _
      · exact Job.Keeps.bind hg (Job.Keeps.waitUntil hg _) fun _ => Job.Keeps.pure hg _
  · exact Job.Keeps.bind hg (Job.Keeps.waitUntil hg _) fun _ => Job.Keeps.pure hg _

theorem keeps_freshCardId : Job.Keeps StoreKept rel Eng.freshCardId := by
  have hg := hb.guarantee
  refine Job.Keeps.bind hg (Job.Keeps.world hg) fun h => ?_
  refine Job.Keeps.bind hg (keeps_modifyHost hb fun _ => rfl) fun _ => ?_
  split
  · exact Job.Keeps.pure hg _
  · exact Job.Keeps.pure hg _

end Tidy

/-- A change of the conductor that keeps its session handles keeps every blind relation. -/
theorem keeps_modifySelf {rel : Host × Conductor → Host × Conductor → Prop} (hb : Blind rel)
    {f : Conductor → Conductor} (hf : ∀ t, (f t).sessions.handles = t.sessions.handles) :
    Job.Keeps StoreKept rel (Eng.modifySelf f) :=
  Job.Keeps.modifyOwn fun _ t => hb.confined ⟨rfl, hf t⟩

/-! ### Writing the store -/

section Write

variable {rel : Host × Conductor → Host × Conductor → Prop} (hg : Job.Guarantee StoreKept rel)
include hg

/-- A write of the store keeps a relation that holds of every successful write: the store is
read and written back with no wait in between. -/
theorem keeps_onStore {α : Type} {f : Store → Except EngineError (Store × α)}
    (hf : ∀ x t s a, f x.store = .ok (s, a) → rel (x, t) ({ x with store := s }, t)) :
    Job.Keeps StoreKept rel (Eng.onStore f) := by
  refine ⟨fun t x => ?_⟩
  unfold Eng.onStore
  rw [store_bind]
  cases hfx : f x.store with
  | error e => exact hg.refl (x, t)
  | ok r => exact hf x t r.1 r.2 hfx

theorem keeps_updateStore {f : Store → Except EngineError Store}
    (hf : ∀ x t s, f x.store = .ok s → rel (x, t) ({ x with store := s }, t)) :
    Job.Keeps StoreKept rel (Eng.updateStore f) := by
  refine keeps_onStore hg fun x t s a h => hf x t s ?_
  cases hfx : f x.store with
  | error e => rw [hfx] at h; cases h
  | ok s' =>
    rw [hfx] at h
    cases h
    rfl

end Write

end Eng

/-! ### Cards and sessions -/

/-- The view a reading answers is the view of the card it read: its status and counts are the
card's. -/
def CardView.Faithful (v : CardView) : Prop := v = CardView.ofCard v.card v.modified

namespace CardBook

section

variable {rel : Host × Conductor → Host × Conductor → Prop} (hb : Tidy rel) {mb : Mailbox Eng}
  (hmb : mb.Keeps rel)
include hb

theorem keeps_get : Job.Keeps StoreKept rel CardBook.get :=
  Job.Keeps.bind hb.guarantee (Job.Keeps.own hb.guarantee) fun _ => Job.Keeps.pure hb.guarantee _

theorem keeps_modify (f : CardBook → CardBook) : Job.Keeps StoreKept rel (CardBook.modify f) :=
  Eng.keeps_modifyCards hb f

theorem keeps_createCard (epicId : String) (stage : StageName) (objective : String)
    (reqs : List String) (notes : String) :
    Job.Keeps StoreKept rel (createCard epicId stage objective reqs notes) := by
  have hg := hb.guarantee
  unfold createCard
  refine Job.Keeps.bind hg (Eng.keeps_freshCardId hb) fun id => ?_
  refine Job.Keeps.bind hg (Eng.keeps_stamp hb) fun now => ?_
  exact Job.Keeps.bind hg (keeps_modify hb _) fun _ => Job.Keeps.pure hg _

include hmb

theorem keeps_publish (id : String) (loc : CardLocation) :
    Job.Keeps StoreKept rel (publish mb id loc) := by
  have hg := hb.guarantee
  unfold publish
  refine Job.Keeps.bind hg (keeps_get hb) fun b => ?_
  split
  · refine Job.Keeps.bind hg (hmb.deliver _ _) fun _ => ?_
    exact Job.Keeps.bind hg (keeps_modify hb _) fun _ => Job.Keeps.pure hg _
  · exact Eng.keeps_fail hb _

theorem keeps_reattach (id : String) (loc : CardLocation) :
    Job.Keeps StoreKept rel (reattach mb id loc) := by
  have hg := hb.guarantee
  unfold reattach
  refine Job.Keeps.bind hg (keeps_get hb) fun b => ?_
  refine Job.Keeps.bind hg (hmb.pull _ _) fun pulled => ?_
  split
  · exact Eng.keeps_fail hb _
  · split
    · exact Eng.keeps_fail hb _
    · exact Job.Keeps.bind hg (keeps_modify hb _) fun _ => Job.Keeps.pure hg _

theorem answers_attempts (id : String) (created : TaskCard) (previous : Option CardView)
    (loc : CardLocation) (inbox : String) (n : Nat) :
    ∀ first delay g, Job.Answers StoreKept rel (fun _ r => ∀ v, r = .ok v → v.Faithful)
      (attempts mb id created previous loc inbox n first delay g) := by
  have hg := hb.guarantee
  have hQ : ∀ {a b : Host × Conductor} {r : Except GaveUp CardView}, rel a b →
      (∀ v, r = .ok v → v.Faithful) → ∀ v, r = .ok v → v.Faithful := fun _ h => h
  -- each attempt pulls once, after a sleep unless it is the first
  induction n with
  | zero => exact fun _ _ _ => Job.Answers.pure hg fun _ => error_eq_ok_elim
  | succ n ih =>
    intro first delay g
    unfold attempts
    -- the pull and what follows it are shared by both ways in
    extract_lets pull
    have hpull : ∀ d, Job.Answers StoreKept rel (fun _ r => ∀ v, r = .ok v → v.Faithful) (pull d) := by
      intro d
      refine Job.Answers.bind hg hQ (Job.Keeps.attempt (hmb.pull _ _)) fun r => ?_
      split
      · exact ih _ _ _
      · split
        · exact ih _ _ _
        · exact Job.Answers.throw hg _
        · split
          · exact ih _ _ _
          · split
            · exact Job.Answers.throw hg _
            · exact Job.Answers.pure hg fun _ _ hv => by cases hv; rfl
    clear_value pull
    split
    · exact Job.Answers.bind hg hQ (Job.Keeps.pure hg _) fun _ => hpull _
    · refine Job.Answers.bind hg hQ (Eng.keeps_sleep hb _) fun _ => ?_
      exact Job.Answers.bind hg hQ (Job.Keeps.pure hg _) fun _ => hpull _

theorem keeps_attempts (id : String) (created : TaskCard) (previous : Option CardView)
    (loc : CardLocation) (inbox : String) (n : Nat) (first : Bool) (delay : Nat) (g : GaveUp) :
    Job.Keeps StoreKept rel (attempts mb id created previous loc inbox n first delay g) :=
  (answers_attempts hb hmb id created previous loc inbox n first delay g).keeps

/-- A reading answers the view of the card it read. -/
theorem answers_pullAndRead (id : String) :
    Job.Answers StoreKept rel (fun _ v => v.Faithful) (pullAndRead mb id) := by
  have hg := hb.guarantee
  have hQ : ∀ {a b : Host × Conductor} {v : CardView}, rel a b → v.Faithful → v.Faithful :=
    fun _ h => h
  unfold pullAndRead
  refine Job.Answers.bind hg hQ (keeps_get hb) fun b => ?_
  split
  · split
    · refine Job.Answers.bind_of hg hQ (answers_attempts hb hmb _ _ _ _ _ _ _ _ _) fun r hr => ?_
      split
      · exact Job.Answers.bind hg hQ (keeps_modify hb _) fun _ =>
          Job.Answers.pure hg fun _ => hr _ rfl
      · split
        · exact Job.Answers.throw hg _
        · exact Job.Answers.bind hg hQ (keeps_modify hb _) fun _ => Job.Answers.throw hg _
    · exact Job.Answers.throw hg _
  · exact Job.Answers.throw hg _

theorem keeps_pullAndRead (id : String) : Job.Keeps StoreKept rel (pullAndRead mb id) :=
  (answers_pullAndRead hb hmb id).keeps

end

end CardBook

/-- `r'` is the run `r` with the usage a worker reported since folded in: only its turns and
cost may differ. -/
def Run.Tallied (r r' : Run) : Prop := ∃ turns cost, r' = { r with turns := turns, cost := cost }

theorem Run.Tallied.refl (r : Run) : r.Tallied r := ⟨r.turns, r.cost, rfl⟩

theorem Run.Tallied.trans {r r' r'' : Run} (h : r.Tallied r') (h' : r'.Tallied r'') : r.Tallied r'' := by
  obtain ⟨n, c, rfl⟩ := h
  obtain ⟨n', c', rfl⟩ := h'
  exact ⟨n', c', rfl⟩

theorem Run.tallied_recordUsage (r : Run) (turns : Nat) (cost : Float) :
    r.Tallied (r.recordUsage turns cost).1 :=
  ⟨_, _, rfl⟩

namespace SessionBook

@[simp] theorem get_bind {α : Type} (k : SessionBook → Eng α) (t : Conductor) (h : Host) :
    (SessionBook.get >>= k) t h = k t.sessions t h := rfl

@[simp] theorem modify_bind {α : Type} (f : SessionBook → SessionBook) (k : Unit → Eng α)
    (t : Conductor) (h : Host) :
    (SessionBook.modify f >>= k) t h = k () { t with sessions := f t.sessions } h := rfl

/-! Only handing a session out and taking one over change the handles. -/

theorem unleaseIfHeld_handles (b : SessionBook) (h : SessionHandle) :
    (b.unleaseIfHeld h).handles = b.handles := by
  unfold unleaseIfHeld
  split <;> rfl

theorem acquire_handles {b b' : SessionBook} {h : SessionHandle} (hb : b.acquire h = .ok b') :
    b'.handles = b.handles := by
  unfold acquire at hb
  split at hb
  · split at hb
    · cases hb
    · cases hb
      rfl
  · cases hb
    rfl

theorem takeResume_handles (b : SessionBook) (id : String) :
    (b.takeResume id).1.handles = b.handles := by
  unfold takeResume
  split <;> rfl

/-- Seeding writes the seeded iterations and nothing else of the book. -/
theorem seed_eq (b : SessionBook) (ids : List String) :
    b.seed ids = { b with seeded := (b.seed ids).seeded } := by
  unfold seed
  -- every session id read leaves the rest of the book alone, whether it splits or not
  induction ids generalizing b with
  | nil => rfl
  | cons sid rest ih =>
    rw [List.foldl_cons, ih]
    split <;> rfl

theorem seed_handles (b : SessionBook) (ids : List String) : (b.seed ids).handles = b.handles := by
  rw [seed_eq]

/-- A session taken over is the run's: it keeps the run's epic and stage, under the base name
its session id splits into. -/
theorem adopt_eq_ok {b b' : SessionBook} {run : Run} {ws : String} {n : Nat} {h : SessionHandle}
    (had : b.adopt run ws n = .ok (b', h)) :
    h.epicId = run.epicId ∧ h.stage = run.stage ∧
      ∃ base i, Session.splitId run.sessionId = some (base, i) ∧
        b'.handles = setKey b.handles base h := by
  unfold adopt at had
  split at had
  · rename_i base i hsplit
    obtain ⟨b₁, hacq, had⟩ := except_bind_eq_ok had
    cases had
    exact ⟨rfl, rfl, base, i, hsplit, by rw [acquire_handles hacq]⟩
  · cases had

section

variable {rel : Host × Conductor → Host × Conductor → Prop} (hb : Blind rel) {w : Worker Eng}
  (hw : w.Keeps rel)
include hb

theorem keeps_get : Job.Keeps StoreKept rel SessionBook.get :=
  Job.Keeps.bind hb.guarantee (Job.Keeps.own hb.guarantee) fun _ => Job.Keeps.pure hb.guarantee _

theorem keeps_modify {f : SessionBook → SessionBook} (hf : ∀ b, (f b).handles = b.handles) :
    Job.Keeps StoreKept rel (SessionBook.modify f) :=
  Eng.keeps_modifySelf hb fun t => hf t.sessions

/-- Giving a lease up leaves the handles alone, so a blind relation allows it. -/
theorem blind_unleaseIfHeld (x : Host) (t : Conductor) (h : SessionHandle) :
    rel (x, t) (x, { t with sessions := t.sessions.unleaseIfHeld h }) :=
  hb.confined ⟨rfl, unleaseIfHeld_handles t.sessions h⟩

end

/-! A stopping run is polled by status queries and sleeps alone, so the polls keep every relation
that the status queries and the conductor's bookkeeping keep. -/

section Poll

variable {rel : Host × Conductor → Host × Conductor → Prop} (hb : Tidy rel) {w : Worker Eng}
  (hw : ∀ id, Job.Keeps StoreKept rel (w.status id))
include hb hw

theorem answers_observe (run : Run) :
    Job.Answers StoreKept rel (fun _ x => run.Tallied x.1) (observe w run) := by
  have hg := hb.guarantee
  unfold observe
  refine Job.Answers.bind hg (fun _ h => h) (Job.Keeps.attempt (hw _)) fun r => ?_
  split
  · exact Job.Answers.pure hg fun _ => Run.tallied_recordUsage _ _ _
  · exact Job.Answers.pure hg fun _ => Run.Tallied.refl _

theorem keeps_observe (run : Run) : Job.Keeps StoreKept rel (observe w run) :=
  (answers_observe hb hw run).keeps

theorem answers_awaitStop (grace : Nat) (fuel : Nat) :
    ∀ run alive waited, Job.Answers StoreKept rel (fun _ x => run.Tallied x.1)
      (awaitStop w grace fuel run alive waited) := by
  have hg := hb.guarantee
  -- one sleep and one status query per poll, each folding in the usage it reports
  induction fuel with
  | zero => exact fun run _ _ => Job.Answers.pure hg fun _ => Run.Tallied.refl run
  | succ fuel ih =>
    intro run alive waited
    unfold awaitStop
    split
    · refine Job.Answers.bind hg (fun _ h => h) (Eng.keeps_sleep hb _) fun _ => ?_
      refine Job.Answers.bind_of hg (fun _ h => h) (answers_observe hb hw _) fun x hx => ?_
      exact (ih _ _ _).mono fun _ _ h => hx.trans h
    · exact Job.Answers.pure hg fun _ => Run.Tallied.refl run

theorem keeps_awaitStop (grace : Nat) (fuel : Nat) (run : Run) (alive : Bool) (waited : Nat) :
    Job.Keeps StoreKept rel (awaitStop w grace fuel run alive waited) :=
  (answers_awaitStop hb hw grace fuel run alive waited).keeps

end Poll

section

variable {rel : Host × Conductor → Host × Conductor → Prop} (ht : Tidy rel) {w : Worker Eng}
  (hw : w.Stops rel)
  (hlease : ∀ x t h, rel (x, t) (x, { t with sessions := t.sessions.unleaseIfHeld h }))
include ht hw hlease

/-- A teardown answers the run with the usage reported while it wound down, for every relation
that the worker's calls about the run, the conductor's bookkeeping and the release of the lease
keep. -/
theorem answers_teardown_of (h : SessionHandle) (run : Run) (grace : Nat) :
    Job.Answers StoreKept rel (fun _ x => run.Tallied x.1) (teardown w h run grace) := by
  have hg := ht.guarantee
  have hQ : ∀ {a b : Host × Conductor} {x : Run × Except EngineError Unit}, rel a b →
      run.Tallied x.1 → run.Tallied x.1 := fun _ h => h
  unfold teardown
  refine Job.Answers.bind hg hQ (Job.Keeps.attempt (hw.terminate _ _)) fun _ => ?_
  refine Job.Answers.bind_of hg hQ (answers_observe ht hw.status _) fun x hx => ?_
  obtain ⟨run₁, alive₁⟩ := x
  refine Job.Answers.bind_of hg hQ (answers_awaitStop ht hw.status _ _ _ _ _) fun y hy => ?_
  obtain ⟨run₂, alive₂, waited⟩ := y
  dsimp -zeta only
  -- the release is shared by the forced and the unforced stop
  extract_lets finish
  have hfinish : ∀ forced, Job.Answers StoreKept rel (fun _ x => run.Tallied x.1) (finish forced) := by
    intro forced
    refine Job.Answers.bind hg hQ (Job.Keeps.attempt (hw.release _)) fun _ => ?_
    exact Job.Answers.bind hg hQ (Job.Keeps.modifyOwn fun x t => hlease x t h) fun _ =>
      Job.Answers.pure hg fun _ => hx.trans hy
  clear_value finish
  split
  · exact Job.Answers.bind hg hQ (Job.Keeps.attempt (hw.terminate _ _)) hfinish
  · exact Job.Answers.bind hg hQ (Job.Keeps.pure hg _) hfinish

end

section

variable {rel : Host × Conductor → Host × Conductor → Prop} (hb : Blind rel) {w : Worker Eng}
  (hw : w.Keeps rel)
include hb hw

/-- A teardown answers the run with the usage reported while it wound down. -/
theorem answers_teardown (h : SessionHandle) (run : Run) (grace : Nat) :
    Job.Answers StoreKept rel (fun _ x => run.Tallied x.1) (teardown w h run grace) :=
  answers_teardown_of hb.tidy hw.stops (blind_unleaseIfHeld hb) h run grace

theorem keeps_teardown (h : SessionHandle) (run : Run) (grace : Nat) :
    Job.Keeps StoreKept rel (teardown w h run grace) :=
  (answers_teardown hb hw h run grace).keeps

end

section

variable {pre rel : Host × Conductor → Host × Conductor → Prop} (hp : Blind pre) {w : Worker Eng}
  (hw : w.Keeps pre)
include hp hw

/-- Starting a run for a handle, from the state `a`. Until the run is recorded, only the worker
and the session lease move, by steps of `pre`. So a start that fails ends in a state related to
`a` by `rel` when `pre` is part of `rel` from `a`; and a start that succeeds answers the run it
recorded, right after the record, in a state that `fin` relates to `a` and the run when every such
record in a state that `pre` reaches from `a` is a step of `fin` from `a` with the run it
records. -/
theorem startRun_records (reg : Registry) (h : SessionHandle) (cardId cardPath objective : String)
    {fin : Host × Conductor → Run → Host × Conductor → Prop} {a : Host × Conductor}
    (hrel : ∀ b, pre a b → rel a b)
    (hins : ∀ x t r s, pre a (x, t) → r.epicId = h.epicId → r.stage = h.stage →
      x.store.insertRun r = .ok s → fin a r ({ x with store := s }, t)) :
    (startRun w reg h cardId cardPath objective a.2 a.1).Ends StoreKept
      (fun x' t' r => (∀ run, r = .ok run → fin a run (x', t')) ∧ (∀ e, r = .error e → rel a (x', t'))) := by
  have hg := hp.guarantee
  have herr : ∀ (e : EngineError) t x, pre a (x, t) →
      (∀ run, (.error e : Except EngineError Run) = .ok run → fin a run (x, t)) ∧
        (∀ e', (.error e : Except EngineError Run) = .error e' → rel a (x, t)) :=
    fun _ _ _ h => ⟨error_eq_ok_elim, fun _ _ => hrel _ h⟩
  unfold startRun
  cases hd : reg.get? h.stage with
  | none => exact herr _ a.2 a.1 (hg.refl a)
  | some d =>
    dsimp -zeta only
    refine Job.Keeps.ends_bind_from hg (Eng.keeps_store hp.tidy) (hg.refl a) (fun st t x hpre => ?_) herr
    dsimp -zeta only
    -- two join points: the record of the started run, and the start after the running check
    extract_lets record start
    have hrecord : ∀ runId t x, pre a (x, t) → (record runId t x).Ends StoreKept
        (fun x' t' r => (∀ run, r = .ok run → fin a run (x', t')) ∧ (∀ e, r = .error e → rel a (x', t'))) := by
      intro runId t x hpre
      dsimp -zeta only [record]
      refine Job.Keeps.ends_bind_from hg (Eng.keeps_stamp hp.tidy) hpre (fun now t x hpre => ?_) herr
      -- the run is recorded in the store that is read, with no wait in between
      rw [Eng.store_bind]
      cases hins' : x.store.insertRun
          ((Run.pending h.epicId h.stage h.sessionId h.iteration cardId).start runId now) with
      | ok s =>
        dsimp -zeta only
        rw [Eng.modifyHost_bind]
        exact ⟨fun _ hrun => by cases hrun; exact hins x t _ s hpre rfl rfl hins', nofun⟩
      | error e =>
        dsimp -zeta only
        refine Job.Keeps.ends_bind_from hg (Job.Keeps.attempt (hw.terminate _ _)) hpre
          (fun _ t x hpre => ?_) herr
        refine Job.Keeps.ends_bind_from hg (Job.Keeps.attempt (hw.release _)) hpre
          (fun _ t x hpre => ?_) herr
        exact Job.Keeps.ends_bind_from hg (keeps_modify hp fun _ => rfl) hpre
          (fun _ t x hpre => herr _ t x hpre) herr
    clear_value record
    have hstart : ∀ u t x, pre a (x, t) → (start u t x).Ends StoreKept
        (fun x' t' r => (∀ run, r = .ok run → fin a run (x', t')) ∧ (∀ e, r = .error e → rel a (x', t'))) := by
      intro u t x hpre
      dsimp -zeta only [start]
      rw [get_bind]
      cases hacq : t.sessions.acquire h with
      | error e => exact herr _ t x hpre
      | ok b =>
        rw [Eng.ofExcept_ok_bind]
        cases htake : b.takeResume h.sessionId with
        | mk b' resumed =>
          dsimp only
          rw [modify_bind]
          -- the lease is taken in the session book that is read, so the handles stay
          have hhandles : b'.handles = t.sessions.handles := by
            rw [← acquire_handles hacq, ← takeResume_handles b h.sessionId, htake]
          have hheld : pre a (x, { t with sessions := b' }) :=
            hp.trans hpre (hp.confined ⟨rfl, hhandles⟩)
          refine Job.Keeps.ends_bind_from hg (Job.Keeps.attempt (hw.invoke _)) hheld
            (fun r t x hpre => ?_) herr
          cases r with
          | ok runId => exact Job.Keeps.ends_bind_from hg (Job.Keeps.pure hg _) hpre hrecord herr
          | error e =>
            refine Job.Keeps.ends_bind_from hg (keeps_modify hp fun _ => rfl) hpre
              (fun _ t x hpre => ?_) herr
            exact Job.Keeps.ends_bind_from hg (Eng.keeps_fail hp.tidy _) hpre hrecord herr
    clear_value start
    cases st.runningRun? h.epicId with
    | some r => exact Job.Keeps.ends_bind_from hg (Eng.keeps_fail hp.tidy _) hpre hstart herr
    | none => exact hstart _ t x hpre

/-- Starting a run, as `startRun_records` says, for a relation `fin` that does not look at the
run. -/
theorem startRun_ends (reg : Registry) (h : SessionHandle) (cardId cardPath objective : String)
    {fin : Host × Conductor → Host × Conductor → Prop} {a : Host × Conductor}
    (hrel : ∀ b, pre a b → rel a b)
    (hins : ∀ x t r s, pre a (x, t) → r.epicId = h.epicId → r.stage = h.stage →
      x.store.insertRun r = .ok s → fin a ({ x with store := s }, t)) :
    (startRun w reg h cardId cardPath objective a.2 a.1).Ends StoreKept
      (fun x' t' r => (∀ run, r = .ok run → fin a (x', t')) ∧ (∀ e, r = .error e → rel a (x', t'))) :=
  @startRun_records pre rel hp w hw reg h cardId cardPath objective (fun a _ b => fin a b) a hrel hins

end

/-- Starting a run keeps a relation that holds of every successful record of a started run. -/
theorem keeps_startRun {rel : Host × Conductor → Host × Conductor → Prop} (hb : Blind rel)
    {w : Worker Eng} (hw : w.Keeps rel)
    (hins : ∀ x t r s, x.store.insertRun r = .ok s → rel (x, t) ({ x with store := s }, t))
    (reg : Registry) (h : SessionHandle) (cardId cardPath objective : String) :
    Job.Keeps StoreKept rel (startRun w reg h cardId cardPath objective) := by
  refine ⟨fun t x => ?_⟩
  refine (startRun_ends hb hw reg h cardId cardPath objective (a := (x, t)) (fun _ h => h)
    fun _ _ r s hpre _ _ hs => hb.trans hpre (hins _ _ r s hs)).mono fun x' t' r h => ?_
  cases r with
  | ok run => exact h.1 run rfl
  | error e => exact h.2 e rfl

end SessionBook

/-! ### The monitor -/

/-- Two records of one run: the same run id, epic and stage. -/
def Run.SameRun (r r' : Run) : Prop := r'.runId = r.runId ∧ r'.epicId = r.epicId ∧ r'.stage = r.stage

theorem Run.SameRun.refl (r : Run) : r.SameRun r := ⟨rfl, rfl, rfl⟩

theorem Run.SameRun.trans {r r' r'' : Run} (h : r.SameRun r') (h' : r'.SameRun r'') : r.SameRun r'' :=
  ⟨h'.1.trans h.1, h'.2.1.trans h.2.1, h'.2.2.trans h.2.2⟩

theorem Run.sameRun_recordSignals (r : Run) (ss : List Signal) : r.SameRun (r.recordSignals ss) :=
  ⟨rfl, rfl, rfl⟩

theorem Run.Tallied.same {r r' : Run} (h : r.Tallied r') : r.SameRun r' := by
  obtain ⟨n, c, rfl⟩ := h
  exact Run.SameRun.refl r

/-- Recording signals keeps the ones recorded and adds the declared ones. -/
theorem Run.mem_addSignals {acc ss : List Signal} {s : Signal} (h : s ∈ acc ∨ s ∈ ss) :
    s ∈ Run.addSignals acc ss := by
  induction ss generalizing acc with
  | nil => simpa [Run.addSignals] using h
  | cons x rest ih =>
    apply ih
    rcases h with h | h
    · left
      split
      · exact h
      · exact List.mem_append_left _ h
    · rcases List.mem_cons.1 h with rfl | h
      · left
        split
        · rename_i hx
          exact List.contains_iff_mem.1 hx
        · exact List.mem_append_right _ (List.mem_singleton_self _)
      · exact Or.inr h

/-- The monitor completed the run on a reading of its card with at least one requirement, every
one checked, and a completion time: the run's last card status is the summary of that reading,
and the run recorded the card's signals. -/
def Run.CompletedOnCard (run : Run) : Prop :=
  ∃ (c : TaskCard) (m : Option Nat), c.requirements ≠ [] ∧ (∀ r ∈ c.requirements, r.done = true) ∧
    c.completed ≠ none ∧ run.lastCardStatus = some (CardView.ofCard c m).summary ∧
    ∀ s ∈ c.signals, s ∈ run.signals

namespace Monitor

/-- What a watch answers about the run it watched: the same run, no longer running, completed
only on a complete reading of its card, and never stopped for the reason the router gives a
routed decision. -/
structure Watched (run run' : Run) : Prop where
  same : run.SameRun run'
  completed : run'.status = .completed → run'.CompletedOnCard
  reason : run'.stopReason ≠ some .routed
  ended : run'.status ≠ .running

/-- A run ended by the monitor for a reason, with another status than completed. -/
theorem watched_finish {run run' : Run} (hs : run.SameRun run') {st : RunStatus} {x : Rationale}
    (hst : st ≠ .completed) (hx : x ≠ .routed) (hrun : st ≠ .running) (now : String) :
    Watched run (run'.finish st (some x) now) :=
  ⟨hs, fun h => absurd h hst, fun h => hx (Option.some.inj h), hrun⟩

/-- A run completed on a reading of its card that is complete. -/
theorem watched_complete {run run' : Run} (hs : run.SameRun run') {v : CardView} (hv : v.Faithful)
    (hc : v.status = .complete) (hl : run'.lastCardStatus = some v.summary) (now : String) :
    Watched run ((run'.recordSignals v.card.signals).finish .completed none now) := by
  refine ⟨hs, fun _ => ?_, nofun, nofun⟩
  rw [hv] at hc hl
  -- a complete card has requirements, all checked, and a completion time
  have hst : v.card.status = .complete := hc
  unfold TaskCard.status at hst
  split at hst
  · cases hst
  rename_i hne
  split at hst
  · rename_i hall
    simp only [Bool.and_eq_true, List.all_eq_true, Option.isSome_iff_ne_none] at hall
    refine ⟨v.card, v.modified, fun h => hne (by simp [h]), fun r hr => hall.1 r hr, hall.2, hl,
      fun s hs => Run.mem_addSignals (Or.inr hs)⟩
  · cases hst

section

variable {rel : Host × Conductor → Host × Conductor → Prop} (hb : Tidy rel) {run₀ : Run}
  (hup : ∀ x t r s, r.runId = run₀.runId → x.store.updateRun r = .ok s →
    rel (x, t) ({ x with store := s }, t))
include hb hup

theorem answers_finish (run : Run) (st : RunStatus) (reason : Option Rationale)
    (hid : run.runId = run₀.runId) :
    Job.Answers StoreKept rel (fun _ r => ∃ now, r = run.finish st reason now) (finish run st reason) := by
  have hg := hb.guarantee
  unfold finish
  refine Job.Answers.bind hg (fun _ h => h) (Eng.keeps_stamp hb) fun now => ?_
  refine Job.Answers.bind hg (fun _ h => h)
    (Eng.keeps_updateStore hg fun x t s h => hup x t (run.finish st reason now) s hid h) fun _ => ?_
  exact Job.Answers.pure hg fun _ => ⟨now, rfl⟩

/-- Ending a run of the watch for a reason, with another status than completed. -/
theorem answers_stop {run : Run} (hs : run₀.SameRun run) {st : RunStatus} {x : Rationale}
    (hst : st ≠ .completed) (hx : x ≠ .routed) (hrun : st ≠ .running) :
    Job.Answers StoreKept rel (fun _ r => Watched run₀ r) (finish run st (some x)) :=
  (answers_finish hb hup run st (some x) hs.1).mono fun _ _ ⟨now, h⟩ =>
    h ▸ watched_finish hs hst hx hrun now

variable {w : Worker Eng} {mb : Mailbox Eng} (hw : ∀ id, Job.Keeps StoreKept rel (w.status id))
  (hmb : mb.Keeps rel)
include hw hmb

/-- Every poll of the monitor writes only the row of its run, and a watch answers its run as
`Watched` says. -/
theorem answers_loop (cfg : MonitorConfig) (fuel : Nat) :
    ∀ s : Watch, run₀.SameRun s.run →
      Job.Answers StoreKept rel (fun _ r => Watched run₀ r) (loop w mb cfg fuel s) := by
  have hg := hb.guarantee
  have hQ : ∀ {a b : Host × Conductor} {r : Run}, rel a b → Watched run₀ r → Watched run₀ r :=
    fun _ h => h
  induction fuel with
  | zero => exact fun s hs => answers_stop hb hup hs (by decide) (by decide) (by decide)
  | succ fuel ih =>
    intro s hs
    unfold loop
    refine Job.Answers.bind hg hQ (Eng.keeps_sleepOrCancel hb _) fun cancelled => ?_
    split
    · exact answers_stop hb hup hs (by decide) (by decide) (by decide)
    refine Job.Answers.bind hg hQ (Job.Keeps.attempt (hw _)) fun r => ?_
    split
    case h_2 => exact answers_stop hb hup hs (by decide) (by decide) (by decide)
    refine Job.Answers.bind hg hQ (Job.Keeps.pure hg _) fun status => ?_
    split
    split
    rename_i run₁ _ hrun₁
    -- the usage folded in keeps the run's identity
    have hs₁ : run₀.SameRun run₁ := by
      have h := Run.tallied_recordUsage s.run status.turns status.cost
      rw [hrun₁] at h
      exact hs.trans h.same
    -- the end of a poll is shared by the card's outcomes: check the worker, then the
    -- progress, then write the run if it changed and poll again
    extract_lets s₁ progressed changed tail
    have htail : ∀ u s p c, run₀.SameRun s.run →
        Job.Answers StoreKept rel (fun _ r => Watched run₀ r) (tail u s p c) := by
      intro u s p c hs
      dsimp -zeta only [tail]
      split
      · exact answers_stop hb hup hs (by decide) (by decide) (by decide)
      refine Job.Answers.bind hg hQ (Eng.keeps_now hb) fun now => ?_
      extract_lets again
      have hagain : ∀ u s, run₀.SameRun s.run →
          Job.Answers StoreKept rel (fun _ r => Watched run₀ r) (again u s) := by
        intro u s hs
        dsimp -zeta only [again]
        extract_lets next
        have hnext : ∀ u, Job.Answers StoreKept rel (fun _ r => Watched run₀ r) (next u) :=
          fun _ => ih _ hs
        clear_value next
        split
        · exact Job.Answers.bind hg hQ
            (Eng.keeps_updateStore hg fun x t s' h => hup x t _ s' hs.1 h) hnext
        · exact hnext _
      clear_value again
      split
      · exact hagain _ _ hs
      · split
        · exact answers_stop hb hup hs (by decide) (by decide) (by decide)
        · exact hagain _ _ hs
    clear_value tail
    refine Job.Answers.bind_of hg hQ (Job.Answers.attempt (CardBook.answers_pullAndRead hb hmb _))
      fun r hr => ?_
    split
    · -- a card was read
      rename_i v
      split
      extract_lets progressed' s₂ read
      have hread : ∀ u s c, run₀.SameRun s.run → s.run.lastCardStatus = some v.summary →
          Job.Answers StoreKept rel (fun _ r => Watched run₀ r) (read u s c) := by
        intro u s c hs hl
        dsimp -zeta only [read]
        split
        · -- a complete card completes the run, with the summary of this reading
          rename_i hcomplete
          have hdone := answers_finish hb hup (s.run.recordSignals v.card.signals) .completed none hs.1
          refine hdone.mono fun _ r hr' => ?_
          obtain ⟨now, rfl⟩ := hr'
          exact watched_complete hs (hr v rfl) (beq_iff_eq.1 hcomplete) hl now
        · split
          · -- a completed card without requirements ends the run for an operator
            exact answers_stop hb hup (hs.trans (Run.sameRun_recordSignals _ _)) (by decide) (by decide)
              (by decide)
          · exact htail _ _ _ _ hs
      clear_value read
      split
      · exact hread _ _ _ hs₁ rfl
      · rename_i hsame
        exact hread _ _ _ hs₁ (by simpa using hsame)
    · -- an unreachable card counts towards its limit
      split
      · exact answers_stop hb hup hs₁ (by decide) (by decide) (by decide)
      · exact htail _ _ _ _ hs₁
    · exact answers_stop hb hup hs₁ (by decide) (by decide) (by decide)
    · exact Job.Answers.bind hg hQ (Job.Keeps.throw hg _) fun _ => htail _ _ _ _ hs₁

/-- A watch answers its run as `Watched` says. -/
theorem answers_watch (cfg : MonitorConfig) :
    Job.Answers StoreKept rel (fun _ r => Watched run₀ r) (watch w mb cfg run₀) :=
  Job.Answers.bind hb.guarantee (fun _ h => h) (Eng.keeps_now hb) fun _ =>
    answers_loop hb hup hw hmb cfg _ _ (Run.SameRun.refl _)

end

section

variable {p : EpicPolicy} {rel : Host × Conductor → Host × Conductor → Prop} (hR : Allows p rel)
  {w : Worker Eng} {mb : Mailbox Eng} (hw : ∀ id, Job.Keeps StoreKept rel (w.status id))
  (hmb : mb.Keeps rel)
include hR

theorem keeps_finish (run : Run) (st : RunStatus) (reason : Option Rationale) :
    Job.Keeps StoreKept rel (finish run st reason) :=
  (@answers_finish _ hR.toTidy run (fun x t _ s _ h => hR.updateRun x t _ s h) run st reason rfl).keeps

include hw hmb

/-- Every poll of the monitor keeps an allowed relation: it writes the run at most once, and
only its state. -/
theorem keeps_loop (cfg : MonitorConfig) (fuel : Nat) (s : Watch) :
    Job.Keeps StoreKept rel (loop w mb cfg fuel s) :=
  (@answers_loop _ hR.toTidy s.run (fun x t _ s _ h => hR.updateRun x t _ s h) _ _ hw hmb cfg fuel s
    (Run.SameRun.refl _)).keeps

theorem keeps_watch (cfg : MonitorConfig) (run : Run) : Job.Keeps StoreKept rel (watch w mb cfg run) :=
  (@answers_watch _ hR.toTidy run (fun x t _ s _ h => hR.updateRun x t _ s h) _ _ hw hmb cfg).keeps

end

end Monitor

/-! ### Routing and the end of a stage -/

/-- A crew whose worker and mailbox keep `rel`. -/
structure Crew.Keeps (rel : Host × Conductor → Host × Conductor → Prop) (c : Crew) : Prop where
  worker : c.worker.Keeps rel
  mailbox : c.mailbox.Keeps rel

theorem Crew.Keeps.mono {rel rel' : Host × Conductor → Host × Conductor → Prop} {c : Crew}
    (hc : c.Keeps rel) (h : ∀ a b, rel a b → rel' a b) : c.Keeps rel' :=
  ⟨hc.worker.mono h, hc.mailbox.mono h⟩

namespace Crew

/-- Reading the notes of matching patterns keeps every relation that confined changes keep. -/
theorem keeps_patternNotes {c : Crew} {rel : Host × Conductor → Host × Conductor → Prop}
    (hb : Tidy rel) (e : Epic) (d : StageDescriptor) :
    Job.Keeps StoreKept rel (c.patternNotes e d) := by
  have hg := hb.guarantee
  unfold patternNotes
  split
  · exact Job.Keeps.pure hg _
  · exact Job.Keeps.bind hg (Eng.keeps_store hb) fun _ => Job.Keeps.pure hg _

section Writes

variable {c : Crew} {rel : Host × Conductor → Host × Conductor → Prop} (hW : Writes c.policy rel)
include hW

theorem keeps_record (run : Run) : Job.Keeps StoreKept rel (record run) :=
  Eng.keeps_updateStore hW.guarantee fun x t s h => hW.updateRun x t _ s h

theorem keeps_escalate (e : Epic) (d : Decision) : Job.Keeps StoreKept rel (c.escalate e d) := by
  have hg := hW.guarantee
  unfold escalate
  split
  · refine Job.Keeps.bind hg (Eng.keeps_stamp hW.toTidy) fun now => ?_
    exact Eng.keeps_onStore hg fun x t s n h => hW.escalate x t _ _ _ _ s n h
  · -- escalations only numbered are counted by the conductor itself
    refine Job.Keeps.bind hg (Eng.keeps_self hW.toTidy) fun _ => ?_
    exact Job.Keeps.bind hg (Job.Keeps.modifyOwn fun x t => hW.count x t _) fun _ =>
      Job.Keeps.pure hg _

/-- After a move, escalating and answering the moved epic keeps the relation. -/
theorem escalate_then_answers (e : Epic) (d : Decision) :
    Job.Answers StoreKept rel (fun _ e' => e' = e) (do let _ ← c.escalate e d; pure e) :=
  Job.Answers.bind hW.guarantee (fun _ h => h) (keeps_escalate hW e d) fun _ =>
    Job.Answers.pure hW.guarantee fun _ => rfl

variable {id : String} {d : Decision} {now : String}
  (hadv : ∀ x t s e, c.policy.advance x.store id d now = .ok (s, e) →
    rel (x, t) ({ x with store := s }, t))
include hadv

/-- Moving an epic in the store that is read answers its stored row, moved, when the relation
takes the move. -/
theorem onStore_advance_answers :
    Job.Answers StoreKept rel
      (fun a e => MovedFrom rel a id e ∧ (d.target = .human → e.status = .blocked))
      (Eng.onStore fun s => c.policy.advance s id d now) := by
  have hg := hW.guarantee
  refine ⟨fun t x => ?_⟩
  unfold Eng.onStore
  rw [Eng.store_bind]
  dsimp only
  cases hmove : c.policy.advance x.store id d now with
  | error e => exact And.intro (hg.refl (x, t)) error_eq_ok_elim
  | ok r =>
    obtain ⟨s, e⟩ := r
    obtain ⟨hid, ⟨row, hrow, hfloor⟩, hhuman⟩ := EpicPolicy.advance_answer hmove
    refine And.intro (hadv x t s e hmove) fun e' he' => ?_
    cases he'
    exact ⟨⟨hid, (x, t), row, hg.refl _, hrow, hfloor⟩, hhuman⟩

/-- An operator's decision, applied to the store that is read and then escalated, answers its
epic blocked. -/
theorem handOver_answers (hd : d.target = .human) :
    Job.Answers StoreKept rel (fun a e => MovedFrom rel a id e ∧ e.status = .blocked)
      (do let e ← Eng.onStore fun s => c.policy.advance s id d now; let _ ← c.escalate e d; pure e) :=
  Job.Answers.bind_same hW.guarantee
    ((onStore_advance_answers hW hadv).mono fun _ _ h => ⟨h.1, h.2 hd⟩)
    fun e => escalate_then_answers hW e d

end Writes

section Stop

variable {c : Crew} {rel : Host × Conductor → Host × Conductor → Prop}

/-- Tearing a session down answers its run with the usage reported on the way out, for every
relation that the worker's calls about the run, the bookkeeping and the release of the lease
keep. -/
theorem stop_answers_of (ht : Tidy rel) (hw : c.worker.Stops rel)
    (hlease : ∀ x t h, rel (x, t) (x, { t with sessions := t.sessions.unleaseIfHeld h }))
    (h : SessionHandle) (run : Run) :
    Job.Answers StoreKept rel (fun _ r => run.Tallied r) (c.stop h run) := by
  unfold stop
  refine Job.Answers.bind_of ht.guarantee (fun _ h => h)
    (SessionBook.answers_teardown_of ht hw hlease h run c.grace) fun x hx => ?_
  obtain ⟨r, _⟩ := x
  exact Job.Answers.pure ht.guarantee fun _ => hx

variable (hb : Blind rel) (hw : c.worker.Keeps rel)
include hb hw

/-- Tearing a session down answers its run with the usage reported on the way out. -/
theorem stop_answers (h : SessionHandle) (run : Run) :
    Job.Answers StoreKept rel (fun _ r => run.Tallied r) (c.stop h run) :=
  stop_answers_of hb.tidy hw.stops (SessionBook.blind_unleaseIfHeld hb) h run

theorem keeps_stop (h : SessionHandle) (run : Run) : Job.Keeps StoreKept rel (c.stop h run) :=
  (stop_answers hb hw h run).keeps

end Stop

/-- Routing a decision, by its cases. The decision either moves the epic, and an operator's
decision is then escalated; or the epic refuses it and has not ended, and an operator's decision
(`human`) moves it instead and is escalated; or nothing changes and the routing fails. The proofs
about routing take its cases from here and never unfold it. -/
theorem apply_ends_of {c : Crew} {d : Decision} {t : Conductor} {x : Host}
    {P : Host → Conductor → Except EngineError Epic → Prop}
    (fail : ∀ err, P x t (.error err))
    (moved : ∀ s e, c.policy.advance x.store d.epicId d x.stamp = .ok (s, e) →
      ((if (d.target == .human) = true then do let _ ← c.escalate e d; pure e else pure e : Eng Epic)
        t { x with store := s }).Ends StoreKept P)
    (refused : ∀ reason cur human,
      c.policy.advance x.store d.epicId d x.stamp = .error (.invalidTransition reason) →
      EpicPolicy.get x.store d.epicId = .ok cur → cur.id = d.epicId → cur.status.isTerminal = false →
      human = Decision.human cur.id d.runId d.source .high .invalidTransition
        [reason, "router wanted " ++ d.target.name] x.stamp →
      ((do
          let e ← Eng.onStore fun s => c.policy.advance s cur.id human x.stamp
          let _ ← c.escalate e human
          pure e : Eng Epic) t x).Ends StoreKept P) :
    (c.apply d t x).Ends StoreKept P := by
  unfold apply
  rw [Eng.stamp_bind, Eng.store_bind]
  -- the store is read and the moved epic written back with no wait in between
  cases hadv : c.policy.advance x.store d.epicId d x.stamp with
  | ok r =>
    obtain ⟨s, e⟩ := r
    dsimp -zeta only
    rw [Eng.modifyHost_bind]
    exact moved s e hadv
  | error err =>
    cases err with
    | invalidTransition reason =>
      dsimp -zeta only
      rw [Eng.store_bind]
      cases hget : EpicPolicy.get x.store d.epicId with
      | error err => exact fail err
      | ok cur =>
        rw [Eng.ofExcept_ok_bind]
        have hcur : cur.id = d.epicId := by
          obtain ⟨row, hrow, rfl⟩ := EpicPolicy.get_eq_ok hget
          exact (Store.row?_spec hrow).2
        split
        · exact fail _
        · -- an epic that has not ended is handed to an operator instead
          rename_i hterm
          exact refused reason cur _ hadv hget hcur (by simpa using hterm) rfl
    | _ => exact fail _

section Apply

variable {c : Crew} {rel : Host × Conductor → Host × Conductor → Prop} (hW : Writes c.policy rel)
  (hrefused : ∀ x t id (d : Decision) now s e, d.target = .human → d.rationale = .invalidTransition →
    c.policy.advance x.store id d now = .ok (s, e) → rel (x, t) ({ x with store := s }, t))
include hW hrefused

/-- Routing a decision, from a host in whose store the relation takes the decision's move, keeps
the relation and answers the epic it moved: the epic of the decision, read from its stored row,
and blocked when the decision is an operator's. A decision that the epic refuses is replaced by
an operator's decision, unless the epic has ended; the relation takes those moves in any store. -/
theorem apply_ends (d : Decision) (t : Conductor) (x : Host)
    (hd : ∀ s e, c.policy.advance x.store d.epicId d x.stamp = .ok (s, e) →
      rel (x, t) ({ x with store := s }, t)) :
    (c.apply d t x).Ends StoreKept (fun x' t' r => rel (x, t) (x', t') ∧
      ∀ e, r = .ok e → MovedFrom rel (x, t) d.epicId e ∧ (d.target = .human → e.status = .blocked)) := by
  have hg := hW.guarantee
  refine apply_ends_of (fun _ => ⟨hg.refl (x, t), error_eq_ok_elim⟩) (fun s e hadv => ?_)
    fun reason cur human _ _ hcur _ hhuman => ?_
  · obtain ⟨hid, ⟨row, hrow, hfloor⟩, hhuman⟩ := EpicPolicy.advance_answer hadv
    have hmoved : rel (x, t) ({ x with store := s }, t) := hd s e hadv
    -- an operator's decision is escalated; the answer is the moved epic either way
    have hrest : Job.Answers StoreKept rel (fun _ e' => e' = e)
        (if (d.target == .human) = true then do let _ ← c.escalate e d; pure e else pure e) :=
      Job.Answers.ite (escalate_then_answers hW e d) (Job.Answers.pure hg fun _ => rfl)
    refine (hrest.ends t _).mono fun x' t' r h => ⟨hg.trans hmoved h.1, fun e' he' => ?_⟩
    rw [h.2 e' he']
    exact ⟨⟨hid, (x, t), row, hg.refl _, hrow, hfloor⟩, hhuman⟩
  · -- a refused decision: an operator is asked instead
    subst hhuman
    refine ((handOver_answers hW (fun x t s e h => hrefused x t _ _ _ s e (by rfl) (by rfl) h)
      (by rfl)).ends t x).mono fun _ _ _ h => ⟨h.1, fun e he => ?_⟩
    obtain ⟨hmoved, hblocked⟩ := h.2 e he
    rw [hcur] at hmoved
    exact ⟨hmoved, fun _ => hblocked⟩

/-- Routing a decision that the relation takes in every store keeps it, and answers as
`apply_ends` says. -/
theorem apply_answers_of (d : Decision)
    (hd : ∀ x t s e, c.policy.advance x.store d.epicId d x.stamp = .ok (s, e) →
      rel (x, t) ({ x with store := s }, t)) :
    Job.Answers StoreKept rel
      (fun a e => MovedFrom rel a d.epicId e ∧ (d.target = .human → e.status = .blocked))
      (c.apply d) :=
  ⟨fun t x => apply_ends hW hrefused d t x (hd x t)⟩

end Apply

section

variable {c : Crew} {rel : Host × Conductor → Host × Conductor → Prop} (hR : Allows c.policy rel)
include hR

/-- Routing a decision keeps an allowed relation and answers the epic it moved. -/
theorem apply_answers (d : Decision) :
    Job.Answers StoreKept rel
      (fun a e => MovedFrom rel a d.epicId e ∧ (d.target = .human → e.status = .blocked))
      (c.apply d) :=
  apply_answers_of hR.toWrites (fun x t _ _ _ s e _ _ h => hR.advance x t _ _ _ s e h) d
    fun x t s e h => hR.advance x t _ _ _ s e h

theorem keeps_apply (d : Decision) : Job.Keeps StoreKept rel (c.apply d) :=
  (apply_answers hR d).keeps

/-- A stage that never started is escalated: the answer is its epic, blocked. -/
theorem reject_answers (e : Epic) (r : Rationale) (reason : String) :
    Job.Answers StoreKept rel (fun a e' => MovedFrom rel a e.id e' ∧ e'.status = .blocked)
      (c.reject e r reason) := by
  unfold reject
  refine Job.Answers.bind hR.guarantee (fun hab h => ⟨h.1.back hR.toTidy hab, h.2⟩)
    (Eng.keeps_stamp hR.toTidy) fun now => ?_
  exact (apply_answers hR _).mono fun _ _ h => ⟨h.1, h.2 rfl⟩

theorem keeps_reject (e : Epic) (r : Rationale) (reason : String) :
    Job.Keeps StoreKept rel (c.reject e r reason) :=
  (reject_answers hR e r reason).keeps

/-- A run whose worker is gone is closed and its epic routed: the answer is that epic. -/
theorem interrupted_answers (e : Epic) (run : Run) (status : RunStatus) (reason : Rationale) :
    Job.Answers StoreKept rel (fun a e' => MovedFrom rel a e.id e')
      (c.interrupted e run status reason) := by
  have hg := hR.guarantee
  have hQ : ∀ {a b : Host × Conductor} {v : Epic}, rel a b → MovedFrom rel b e.id v →
      MovedFrom rel a e.id v :=
    fun hab h => h.back hR.toTidy hab
  unfold interrupted
  refine Job.Answers.bind hg hQ (Eng.keeps_stamp hR.toTidy) fun _ => ?_
  refine Job.Answers.bind hg hQ (keeps_record hR.toWrites _) fun _ => ?_
  refine Job.Answers.bind hg hQ (Eng.keeps_stamp hR.toTidy) fun _ => ?_
  refine (apply_answers hR _).mono fun _ _ h => ?_
  rw [routeRun_epicId] at h
  exact h.1

theorem keeps_interrupted (e : Epic) (run : Run) (status : RunStatus) (reason : Rationale) :
    Job.Keeps StoreKept rel (c.interrupted e run status reason) :=
  (interrupted_answers hR e run status reason).keeps

/-- The end of a stage keeps an allowed relation and answers the epic of the session: the run is
watched to its end, its session torn down, the run stored and the router's decision applied. The
relation need only be kept by the worker's calls about the run, by the mailbox and by the
release of the lease. -/
theorem conclude_answers_of (hw : c.worker.Stops rel) (hmb : c.mailbox.Keeps rel)
    (hlease : ∀ x t h, rel (x, t) (x, { t with sessions := t.sessions.unleaseIfHeld h }))
    (h : SessionHandle) (run : Run) :
    Job.Answers StoreKept rel (fun a e => MovedFrom rel a h.epicId e) (c.conclude h run) := by
  have hg := hR.guarantee
  have hQ : ∀ {a b : Host × Conductor} {v : Epic}, rel a b → MovedFrom rel b h.epicId v →
      MovedFrom rel a h.epicId v :=
    fun hab hv => hv.back hR.toTidy hab
  have hstop : ∀ run, Job.Keeps StoreKept rel (c.stop h run) :=
    fun run => (stop_answers_of hR.toTidy hw hlease h run).keeps
  unfold conclude
  refine Job.Answers.bind hg hQ
    (Job.Keeps.attempt (Monitor.keeps_watch hR hw.status hmb _ _)) fun r => ?_
  split
  · refine Job.Answers.bind hg hQ (hstop _) fun _ => ?_
    exact Job.Answers.bind hg hQ (CardBook.keeps_modify hR.toTidy _) fun _ =>
      Job.Answers.throw hg _
  · refine Job.Answers.bind hg hQ (hstop _) fun run => ?_
    refine Job.Answers.bind hg hQ (CardBook.keeps_modify hR.toTidy _) fun _ => ?_
    refine Job.Answers.bind hg hQ (keeps_record hR.toWrites _) fun _ => ?_
    refine Job.Answers.bind hg hQ (Eng.keeps_stamp hR.toTidy) fun now => ?_
    refine Job.Answers.bind hg hQ (Eng.keeps_store hR.toTidy) fun s => ?_
    -- the router's decision, as the budget lets it stand, is for the session's epic
    refine (apply_answers hR _).mono fun _ _ hv => ?_
    rw [EpicPolicy.enforceBudget_epicId, routeRun_epicId] at hv
    exact hv.1

/-- Taking over a run left running keeps an allowed relation, when adopting the run's session
is allowed, and answers the epic it was given or the run's epic. The relation need only be kept
by the worker's calls about the run, by the mailbox and by the release of the lease. -/
theorem takeOver_answers_of (hw : c.worker.Stops rel) (hmb : c.mailbox.Keeps rel)
    (hlease : ∀ x t h, rel (x, t) (x, { t with sessions := t.sessions.unleaseIfHeld h }))
    (e : Epic) (run : Run)
    (hadopt : ∀ x t ws n b h, t.sessions.adopt run ws n = .ok (b, h) →
      rel (x, t) (x, { t with sessions := b })) :
    Job.Answers StoreKept rel (fun a e' => MovedFrom rel a e.id e' ∨ MovedFrom rel a run.epicId e')
      (c.takeOver e run) := by
  have hg := hR.guarantee
  have hQ : ∀ {a b : Host × Conductor} {v : Epic}, rel a b →
      (MovedFrom rel b e.id v ∨ MovedFrom rel b run.epicId v) →
      (MovedFrom rel a e.id v ∨ MovedFrom rel a run.epicId v) := by
    intro a b v hab hv
    rcases hv with hv | hv
    · exact Or.inl (hv.back hR.toTidy hab)
    · exact Or.inr (hv.back hR.toTidy hab)
  unfold takeOver
  refine Job.Answers.bind hg hQ (hw.status _) fun st => ?_
  split
  · exact (interrupted_answers hR _ _ _ _).mono fun _ _ hv => Or.inl hv
  -- the session is adopted in the book that is read, with no wait in between
  refine ⟨fun t x => ?_⟩
  rw [SessionBook.get_bind]
  cases hadp : t.sessions.adopt run e.workspace.path
      (((c.registry.get? run.stage).map (·.turnBudget)).getD 1) with
  | error err => exact ⟨hg.refl (x, t), error_eq_ok_elim⟩
  | ok r =>
    obtain ⟨b, h⟩ := r
    rw [Eng.ofExcept_ok_bind]
    dsimp only
    rw [SessionBook.modify_bind]
    have hheld : rel (x, t) (x, { t with sessions := b }) := hadopt x t _ _ b h hadp
    -- the adopted session is the run's, so its epic is the run's
    have hhid : h.epicId = run.epicId := (SessionBook.adopt_eq_ok hadp).1
    refine Job.Answers.ends_after hg (fun a e' => MovedFrom rel a e.id e' ∨ MovedFrom rel a run.epicId e')
      hQ ?_ hheld
    refine Job.Answers.bind hg hQ
      (Job.Keeps.attempt (CardBook.keeps_reattach hR.toTidy hmb _ _)) fun r => ?_
    split
    · exact Job.Answers.bind hg hQ (stop_answers_of hR.toTidy hw hlease _ _).keeps fun _ =>
        (interrupted_answers hR _ _ _ _).mono fun _ _ hv => Or.inl hv
    · exact (conclude_answers_of hR hw hmb hlease _ _).mono fun _ _ hv => Or.inr (hhid ▸ hv)

variable (hb : Blind rel) (hc : c.Keeps rel)
include hb hc

theorem conclude_answers (h : SessionHandle) (run : Run) :
    Job.Answers StoreKept rel (fun a e => MovedFrom rel a h.epicId e) (c.conclude h run) :=
  conclude_answers_of hR hc.worker.stops hc.mailbox (SessionBook.blind_unleaseIfHeld hb) h run

theorem keeps_conclude (h : SessionHandle) (run : Run) : Job.Keeps StoreKept rel (c.conclude h run) :=
  (conclude_answers hR hb hc h run).keeps

theorem takeOver_answers (e : Epic) (run : Run)
    (hadopt : ∀ x t ws n b h, t.sessions.adopt run ws n = .ok (b, h) →
      rel (x, t) (x, { t with sessions := b })) :
    Job.Answers StoreKept rel (fun a e' => MovedFrom rel a e.id e' ∨ MovedFrom rel a run.epicId e')
      (c.takeOver e run) :=
  takeOver_answers_of hR hc.worker.stops hc.mailbox (SessionBook.blind_unleaseIfHeld hb) e run hadopt

theorem keeps_takeOver (e : Epic) (run : Run)
    (hadopt : ∀ x t ws n b h, t.sessions.adopt run ws n = .ok (b, h) →
      rel (x, t) (x, { t with sessions := b })) :
    Job.Keeps StoreKept rel (c.takeOver e run) :=
  (takeOver_answers hR hb hc e run hadopt).keeps

end

/-! ### The stage loop -/

/-- The stage loop, by induction on its fuel. `I n e a` is what holds when a round with fuel `n`
begins with the epic `e` in the state `a`. A round that answers the epic as it is (out of fuel,
the epic not active, or the work cancelled) relates its state to itself by `R` and owes `Q` at
once. A stage run from an active epic, with the work not cancelled, ends related by `R` to where
it began; if it fails it owes `Q`, and otherwise the next round begins as `I` says. Then the
whole loop ends related by `R` to its first state, owing `Q`. -/
theorem drive_ends_of {c : Crew} {I : Nat → Epic → Host × Conductor → Prop}
    {R : Host × Conductor → Host × Conductor → Prop}
    {Q : Host × Conductor → Except EngineError Epic → Prop}
    (trans : ∀ {a b d}, R a b → R b d → R a d)
    (stay : ∀ n e a, I n e a →
      (n = 0 ∨ e.status ≠ .active ∨ a.1.cancelAt.any (· ≤ a.1.now) = true) → R a a ∧ Q a (.ok e))
    (stage : ∀ n e t x, I (n + 1) e (x, t) → e.status = .active →
      x.cancelAt.any (· ≤ x.now) = false →
      (c.step e t x).Ends StoreKept fun x' t' r => R (x, t) (x', t') ∧
        (∀ err, r = .error err → Q (x', t') r) ∧ ∀ e', r = .ok e' → I n e' (x', t')) :
    ∀ n e t x, I n e (x, t) →
      (c.drive n e t x).Ends StoreKept fun x' t' r => R (x, t) (x', t') ∧ Q (x', t') r := by
  intro n
  induction n with
  | zero => exact fun e t x h => stay 0 e (x, t) h (.inl rfl)
  | succ n ih =>
    intro e t x h
    by_cases hactive : e.status = .active
    · unfold drive
      rw [if_neg (by simp [hactive]), Eng.cancelled_bind]
      cases hcan : x.cancelAt.any (· ≤ x.now)
      · -- not cancelled: one stage, then the rest of the loop from where it ended
        rw [if_neg Bool.false_ne_true, Job.bind_apply]
        refine (stage n e t x h hactive hcan).bind (fun e' t' x' h' => ?_)
          fun err _ _ h' => ⟨h'.1, h'.2.1 err rfl⟩
        exact (ih e' t' x' (h'.2.2 e' rfl)).mono fun _ _ _ h'' => ⟨trans h'.1 h''.1, h''.2⟩
      · rw [if_pos rfl]
        exact stay (n + 1) e (x, t) h (.inr (.inr hcan))
    · rw [drive_inactive c n e hactive]
      exact stay (n + 1) e (x, t) h (.inr (.inl hactive))

end Crew

/-! ### The workers and mailboxes of the scripted world -/

section Scripted

/-- The scripted worker lives in the conductor's own world. -/
theorem Worker.scripted_keeps (sc : Script) (reg : Registry) :
    (Worker.scripted sc reg).Keeps Confined := by
  have hb := Confined.blind
  have hg := hb.guarantee
  refine ⟨fun inv => ?_, fun id => ?_, fun id force => ?_, fun id => ?_⟩
  · refine Job.Keeps.bind hg (Eng.keeps_self hb.tidy) fun c => ?_
    exact Job.Keeps.bind hg (Eng.keeps_modifySelf hb fun _ => rfl) fun _ => Job.Keeps.pure hg _
  · refine Job.Keeps.bind hg (Eng.keeps_stamp hb.tidy) fun now => ?_
    refine Job.Keeps.bind hg (Eng.keeps_self hb.tidy) fun c => ?_
    exact Job.Keeps.bind hg (Eng.keeps_modifySelf hb fun _ => rfl) fun _ => Job.Keeps.pure hg _
  · exact Eng.keeps_modifySelf hb fun _ => rfl
  · exact Eng.keeps_modifySelf hb fun _ => rfl

/-- The recorded worker answers from the conductor's own replies. -/
theorem Worker.recorded_keeps : Worker.recorded.Keeps Confined := by
  have hb := Confined.blind
  have hg := hb.guarantee
  refine ⟨fun _ => Job.Keeps.pure hg _, fun id => ?_, fun _ _ => Job.Keeps.pure hg _,
    fun _ => Job.Keeps.pure hg _⟩
  refine Job.Keeps.bind hg (Eng.keeps_self hb.tidy) fun c => ?_
  exact Job.Keeps.bind hg (Eng.keeps_modifySelf hb fun _ => rfl) fun _ =>
    Job.Keeps.ite (Eng.keeps_fail hb.tidy _) (Job.Keeps.pure hg _)

theorem Mailbox.scripted_keeps : Mailbox.scripted.Keeps Confined := by
  have hb := Confined.blind
  have hg := hb.guarantee
  refine ⟨fun _ _ => Eng.keeps_modifySelf hb fun _ => rfl, fun loc _ => ?_⟩
  refine Job.Keeps.bind hg (Eng.keeps_self hb.tidy) fun c => ?_
  split
  · exact Job.Keeps.pure hg _
  · exact Eng.keeps_fail hb.tidy _

theorem Mailbox.memory_keeps : Mailbox.memory.Keeps Confined := by
  have hb := Confined.blind
  have hg := hb.guarantee
  refine ⟨fun _ _ => Eng.keeps_modifySelf hb fun _ => rfl, fun loc _ => ?_⟩
  refine Job.Keeps.bind hg (Eng.keeps_self hb.tidy) fun c => ?_
  refine Job.Keeps.bind hg (Eng.keeps_modifySelf hb fun _ => rfl) fun _ => ?_
  split
  · exact Job.Keeps.bind hg (Eng.keeps_modifySelf hb fun _ => rfl) fun _ => Eng.keeps_fail hb.tidy _
  · split
    · exact Job.Keeps.pure hg _
    · exact Eng.keeps_fail hb.tidy _

end Scripted

end EpicFlow
