import EpicFlow.Proofs.Cleanup
import EpicFlow.Proofs.SessionNumbers

/-!
# Which starts resume a session

An operator who answers an escalation with a resume sets the epic's one-shot resume flag
(`Epic.resumeNext`). The next stage asks the conductor's sessions for a session of its base name
with that flag, clears the flag once the session is handed out, and starts the session's run:
the worker is told the session and whether to resume it.

What the worker is told is fixed by the sessions as the stage began (`SessionBook.spawn_start`).
It resumes exactly when the flag was set and the base has a session to go on from: a handle the
conductor gave out, or an iteration seeded from the runs of an earlier process
(`SessionBook.resumes`). The session it resumes is that of the base's handle, and only without a
handle that of the highest seeded iteration (`SessionBook.resumedId`), so a handle wins over a
later seeded run. Any other start is of the next session of its base (`SessionBook.freshId`).

Resume requests are queued in the book between the spawn and the start, and a start refused in
between leaves its request queued. A queued request must never reach a fresh session, and the
book's numbering rules that out (`SessionBook.Numbered`): every queued session is no newer than
the last handle of its base, and every fresh session is newer.

Main statements:

* `SessionBook.spawn_start`: the session and the resume flag of the start of a spawned session.
* `SessionBook.Numbered.spawn`: spawns keep the numbering that the rule relies on.
* `Crew.ListsStarts.runEpic_starts_follow_rule`: every start of a drive follows the rule.
* `resume_passes_over_seeded`: a resumed stage goes on from its handle, even when the runs
  seeded a later session.
-/

set_option autoImplicit false

namespace EpicFlow

/-! ### The session a spawn hands out -/

namespace SessionBook

open Session

variable {b b' : SessionBook} {reg : Registry} {r : SpawnRequest} {h : SessionHandle}

/-- Whether a spawn of the base `base`, asked to resume or not (`resume`), resumes a session: it
does when asked and the base has a session to go on from, a handle or a seeded iteration. -/
def resumes (b : SessionBook) (base : String) (resume : Bool) : Bool :=
  resume && (b.previousIteration base).isSome

/-- The session a resuming spawn of `base` hands out: that of the last handle of the base, or
else that of the highest iteration seeded for it. -/
def resumedId (b : SessionBook) (base : String) : String :=
  match getKey b.handles base with
  | some h => h.sessionId
  | none => sessionId base ((getKey b.seeded base).getD 0)

/-- The session a spawn of `base` that does not resume hands out: the next iteration. -/
def freshId (b : SessionBook) (base : String) : String :=
  sessionId base ((b.previousIteration base).getD 0 + 1)

/-- A book that spawns can number from. Every handle's session id, read as a numbered session,
is numbered by the handle's own base and iteration. Every session queued to resume, read so, is
no newer than the last handle of its base. -/
structure Numbered (b : SessionBook) : Prop where
  ids : ∀ base h, getKey b.handles base = some h → ∀ base' k, h.sessionId = sessionId base' k →
    base' = base ∧ k = h.iteration
  queued : ∀ sid ∈ b.resuming, ∀ base k, sid = sessionId base k →
    ∃ h, getKey b.handles base = some h ∧ k ≤ h.iteration

/-- A conductor starts with a numbered book. -/
theorem numbered_empty : ({} : SessionBook).Numbered where
  ids _ _ hget := by simp [getKey] at hget
  queued _ hsid := by simp at hsid

/-- A session newer than every handle of its base is not queued to resume. -/
theorem Numbered.not_queued (hb : b.Numbered) {base : String} {k : Nat}
    (hk : ∀ h, getKey b.handles base = some h → h.iteration < k) : sessionId base k ∉ b.resuming := by
  intro hmem
  obtain ⟨h, hget, hle⟩ := hb.queued _ hmem base k rfl
  exact absurd (hk h hget) (by omega)

/-- A change that keeps the handles and the queue keeps the numbering. -/
theorem Numbered.of_eq (hb : b.Numbered) (hh : b'.handles = b.handles) (hr : b'.resuming = b.resuming) :
    b'.Numbered := by
  refine ⟨fun base h hget => hb.ids base h (hh ▸ hget), fun sid hsid base k hk => ?_⟩
  rw [hh]
  exact hb.queued sid (hr ▸ hsid) base k hk

theorem takeResume_snd (b : SessionBook) (sid : String) :
    (b.takeResume sid).2 = b.resuming.contains sid := by
  unfold takeResume
  split <;> simp_all

/-- Taking a resume request leaves the rest of the queue. -/
theorem Numbered.takeResume (hb : b.Numbered) (sid : String) : (b.takeResume sid).1.Numbered := by
  unfold SessionBook.takeResume
  split
  · exact ⟨hb.ids, fun s hs => hb.queued s (List.mem_of_mem_filter hs)⟩
  · exact hb

theorem previousIteration_of_handle {base : String} {h₀ : SessionHandle}
    (hget : getKey b.handles base = some h₀) : b.previousIteration base = some h₀.iteration := by
  simp [previousIteration, hget]

/-- A new handle of a base that had one is numbered past it. -/
theorem spawn_past {h₀ : SessionHandle} (hnew : r.resume = false ∨ getKey b.handles r.sessionName = none)
    (hit : (h.iteration, h.resume) = nextIteration (b.previousIteration r.sessionName) r.resume)
    (hget : getKey b.handles r.sessionName = some h₀) : h₀.iteration < h.iteration := by
  rcases hnew with hres | hnone
  · have hfst := congrArg Prod.fst hit
    rw [previousIteration_of_handle hget, hres] at hfst
    simp only [nextIteration] at hfst
    omega
  · rw [hnone] at hget
    cases hget

/-- A spawn keeps the numbering: a new handle is numbered past the handle it replaces, and a
handle handed back is queued under its own number. -/
theorem Numbered.spawn (hb : b.Numbered) (hs : b.spawn reg r = .ok (b', h)) : b'.Numbered := by
  rcases spawn_book hs with ⟨-, hkey, rfl⟩ | ⟨hnew, -, hit, hid, rfl⟩
  · -- the handle handed back joins the queue
    refine ⟨hb.ids, fun sid hsid base k hk => ?_⟩
    have hsid' : sid ∈ b.resuming ∨ sid = h.sessionId := by
      dsimp only at hsid
      split at hsid
      · exact Or.inl hsid
      · simpa using hsid
    rcases hsid' with hsid' | rfl
    · exact hb.queued sid hsid' base k hk
    · obtain ⟨rfl, rfl⟩ := hb.ids _ h hkey base k hk
      exact ⟨h, hkey, le_refl _⟩
  · -- the new handle is the last of its base
    refine ⟨fun base h' hget base' k hk => ?_, fun sid hsid base k hk => ?_⟩
    · rw [getKey_setKey] at hget
      split at hget
      · rename_i hbase
        cases hget
        rw [hid] at hk
        obtain ⟨h₁, h₂⟩ := Session.sessionId_inj hk
        exact ⟨h₁.symm.trans hbase.symm, h₂.symm⟩
      · exact hb.ids base h' hget base' k hk
    · obtain ⟨h₀, hget, hle⟩ := hb.queued sid hsid base k hk
      rw [getKey_setKey]
      split
      · rename_i hbase
        subst hbase
        exact ⟨h, rfl, le_of_lt (lt_of_le_of_lt hle (spawn_past hnew hit hget))⟩
      · exact ⟨h₀, hget, hle⟩

/-- What the worker is told when a spawned session starts: it resumes exactly when the spawn
resumes, and its session is then the resumed one and otherwise the next of its base. The start
reads a book `b₂` whose queue is the one the spawn left. -/
theorem spawn_start (hb : b.Numbered) (hs : b.spawn reg r = .ok (b', h)) {b₂ : SessionBook}
    (hq : b₂.resuming = b'.resuming) :
    ((b₂.takeResume h.sessionId).2 || h.resume) = b.resumes r.sessionName r.resume ∧
      h.sessionId = if b.resumes r.sessionName r.resume then b.resumedId r.sessionName
        else b.freshId r.sessionName := by
  rw [takeResume_snd, hq]
  rcases spawn_book hs with ⟨hres, hkey, rfl⟩ | ⟨hnew, -, hit, hid, rfl⟩
  · -- the last handle of the base, handed back and queued
    have hresumes : b.resumes r.sessionName r.resume = true := by
      simp [resumes, hres, previousIteration_of_handle hkey]
    have hqueued : (if b.resuming.contains h.sessionId then b.resuming
        else b.resuming ++ [h.sessionId]).contains h.sessionId = true := by
      split <;> simp_all
    rw [hresumes]
    exact ⟨by rw [hqueued, Bool.true_or], by simp [resumedId, hkey]⟩
  · -- a new session, which no request is queued for
    have hnot : b.resuming.contains h.sessionId = false := by
      have hfresh : h.sessionId ∉ b.resuming := by
        rw [hid]
        exact hb.not_queued fun h₀ hget => spawn_past hnew hit hget
      simpa using hfresh
    dsimp only
    rw [hnot, Bool.false_or]
    -- the flag and the iteration are those `nextIteration` gives
    cases hprev : b.previousIteration r.sessionName with
    | none =>
      rw [hprev] at hit
      simp only [nextIteration, Prod.mk.injEq] at hit
      simp [resumes, freshId, hprev, hit, hid]
    | some p =>
      rw [hprev] at hit
      cases hres : r.resume with
      | false =>
        simp only [hres, nextIteration, Prod.mk.injEq] at hit
        simp [resumes, freshId, hprev, hit, hid]
      | true =>
        -- a resume without a handle: the base was seeded, and its session keeps its key
        have hnone : getKey b.handles r.sessionName = none := by
          rcases hnew with h' | h'
          · rw [hres] at h'
            cases h'
          · exact h'
        have hseed : getKey b.seeded r.sessionName = some p := by
          simpa [previousIteration, hnone] using hprev
        simp only [hres, nextIteration, Prod.mk.injEq] at hit
        simp [resumes, resumedId, hprev, hit, hid, hnone, hseed]

end SessionBook


/-! ### The resume flag in the store -/

namespace Store

/-- The epic `id` has its resume flag off in the store. -/
def ResumeOff (s : Store) (id : String) : Prop := ∀ row, s.row? id = some row → row.resumeNext = false

variable {s s' : Store} {id : String}

theorem ResumeOff.of_epics (hoff : s.ResumeOff id) (h : s'.epics = s.epics) : s'.ResumeOff id := by
  intro row hrow
  unfold row? at hrow
  rw [h] at hrow
  exact hoff row hrow

/-- Rewriting the rows of an epic keeps the flag of `id` off, when the written flag is off or the
epic is another. -/
theorem ResumeOff.rewrite {e : Epic} {f : Epic → Epic} (hoff : s.ResumeOff id) (hf : Rewrites e f)
    (he : e.id = id → e.resumeNext = false) (hs' : s'.epics = s.epics.map f) : s'.ResumeOff id := by
  intro row hrow
  rw [row?_of_map hf.id hs'] at hrow
  obtain ⟨x, hx, rfl⟩ := Option.map_eq_some_iff.1 hrow
  have hxid : x.id = id := (row?_spec hx).2
  by_cases hid : x.id = e.id
  · rw [hf.resumeNext x hid]
    exact he (hid.symm.trans hxid)
  · rw [hf.other x hid]
    exact hoff x hx

/-- Writing the rows of the epic `id` with its flag off leaves the flag off. -/
theorem ResumeOff.written {e : Epic} {f : Epic → Epic} (hf : Rewrites e f) (hid : e.id = id)
    (he : e.resumeNext = false) (hs' : s'.epics = s.epics.map f) : s'.ResumeOff id := by
  intro row hrow
  rw [row?_of_map hf.id hs'] at hrow
  obtain ⟨x, hx, rfl⟩ := Option.map_eq_some_iff.1 hrow
  rw [hf.resumeNext x ((row?_spec hx).2.trans hid.symm)]
  exact he

theorem ResumeOff.updateRun {r : Run} (hoff : s.ResumeOff id) (h : s.updateRun r = .ok s') :
    s'.ResumeOff id := by
  obtain ⟨-, f, -, -, -, rfl⟩ := updateRun_eq_ok h
  exact hoff.of_epics rfl

theorem ResumeOff.insertRun {r : Run} (hoff : s.ResumeOff id) (h : s.insertRun r = .ok s') :
    s'.ResumeOff id := by
  obtain ⟨-, -, rfl⟩ := insertRun_eq_ok h
  exact hoff.of_epics rfl

end Store

namespace EpicPolicy

variable {p : EpicPolicy} {s s' : Store} {id id' now : String}

/-- A move keeps a resume flag that is off. -/
theorem moved_resumeNext {e : Epic} {d : Decision} (h : e.resumeNext = false) :
    (p.moved e d now).resumeNext = false := by
  unfold moved
  split <;> simp [h]

theorem resumeOff_clearResume (hoff : s.ResumeOff id) (h : clearResume s id' now = .ok s') :
    s'.ResumeOff id := by
  obtain ⟨x, -, rfl | hup⟩ := clearResume_eq_ok h
  · exact hoff
  · obtain ⟨f, hf, rfl⟩ := Store.updateEpic_eq_ok hup
    exact hoff.rewrite hf (fun _ => rfl) rfl

/-- Clearing the flag of an epic leaves it off. -/
theorem clearResume_resumeOff (h : clearResume s id now = .ok s') : s'.ResumeOff id := by
  unfold clearResume at h
  obtain ⟨e, he, h⟩ := except_bind_eq_ok h
  obtain ⟨x, hx, rfl⟩ := get_eq_ok he
  have hxid : x.id = id := (Store.row?_spec hx).2
  split at h
  · -- the flag was on, and the row is written with it off
    obtain ⟨f, hf, rfl⟩ := Store.updateEpic_eq_ok h
    exact Store.ResumeOff.written hf hxid rfl rfl
  · -- the flag was off already, and nothing is written
    rename_i hoff
    cases h
    intro row hrow
    rw [hx] at hrow
    cases hrow
    simpa using hoff

theorem resumeOff_advance {d : Decision} {e : Epic} (hoff : s.ResumeOff id)
    (h : p.advance s id' d now = .ok (s', e)) : s'.ResumeOff id := by
  obtain ⟨x, hx, -, -, rfl, f, hf, rfl⟩ := advance_eq_ok h
  -- only the row of `id'` is rewritten, by a move of that row, which keeps its flag
  refine hoff.rewrite hf (fun hid => moved_resumeNext (hoff x ?_)) rfl
  have hxid : x.id = id' := (Store.row?_spec hx).2
  have hid' : id' = id := hxid.symm.trans (by simpa using hid)
  rw [← hid']
  exact hx

theorem resumeOff_escalate {e : Epic} {d : Decision} {home : Option String} {n : Nat}
    (hoff : s.ResumeOff id) (h : p.escalate s e d home now = .ok (s', n)) : s'.ResumeOff id := by
  rcases escalate_eq_ok h with rfl | ⟨m, hm⟩
  · exact hoff
  · exact hoff.of_epics (Store.insertEscalation_eq_ok hm).1

end EpicPolicy


/-! ### Work that starts no run -/

namespace SessionBook

variable {b b' : SessionBook}

/-- Taking a resume request reads only the queue. -/
theorem takeResume_congr (hq : b'.resuming = b.resuming) (sid : String) :
    (b'.takeResume sid).1.resuming = (b.takeResume sid).1.resuming ∧
      (b'.takeResume sid).2 = (b.takeResume sid).2 := by
  unfold takeResume
  rw [hq]
  split
  · exact ⟨rfl, rfl⟩
  · exact ⟨hq, rfl⟩

theorem unleaseIfHeld_resuming (b : SessionBook) (h : SessionHandle) :
    (b.unleaseIfHeld h).resuming = b.resuming := by
  unfold unleaseIfHeld
  split <;> rfl

end SessionBook

/-- What a part of a stage that starts no run does, with the log of starts `log`, for the epic
`id`: the log, the handles and the resume queue stay, and the epic's resume flag, when off,
stays off. -/
structure Unstarted (log : Conductor → List Invocation) (id : String) (a b : Host × Conductor) :
    Prop where
  log : log b.2 = log a.2
  handles : b.2.sessions.handles = a.2.sessions.handles
  queue : b.2.sessions.resuming = a.2.sessions.resuming
  flag : a.1.store.ResumeOff id → b.1.store.ResumeOff id

namespace Unstarted

variable {log : Conductor → List Invocation} {id : String} {a b d : Host × Conductor}

theorem refl (a : Host × Conductor) : Unstarted log id a a := ⟨rfl, rfl, rfl, fun h => h⟩

theorem trans (h₁ : Unstarted log id a b) (h₂ : Unstarted log id b d) : Unstarted log id a d :=
  ⟨h₂.log.trans h₁.log, h₂.handles.trans h₁.handles, h₂.queue.trans h₁.queue,
    fun h => h₂.flag (h₁.flag h)⟩

/-- What the worker or the mailbox does in its own world starts nothing, when it leaves the log
alone. -/
theorem of_own (h : Own a b) (hlog : log b.2 = log a.2) : Unstarted log id a b :=
  ⟨hlog, by rw [h.2.1], by rw [h.2.1], fun hoff => hoff.of_epics (by rw [h.1])⟩

/-- The conductor's own writes of the store start nothing, and keep a resume flag that is off,
when the log is kept apart from the conductor's cards, sessions and count of escalations. -/
theorem allows (hbooks : ∀ t cards sessions logged,
      log { t with cards := cards, sessions := sessions, logged := logged } = log t)
    (p : EpicPolicy) : Allows p (Unstarted log id) where
  bookkeeping {a b} h := by
    obtain ⟨hstore, hbook⟩ := h
    refine ⟨?_, by rw [hbook], by rw [hbook], fun hoff => hstore ▸ hoff⟩
    rw [hbook]
    exact hbooks a.2 b.2.cards a.2.sessions a.2.logged
  trans := trans
  count _ t n := ⟨hbooks t t.cards t.sessions n, rfl, rfl, fun h => h⟩
  updateRun _ _ _ _ hs := ⟨rfl, rfl, rfl, fun hoff => hoff.updateRun hs⟩
  clearResume _ _ _ _ _ hs := ⟨rfl, rfl, rfl, fun hoff => EpicPolicy.resumeOff_clearResume hoff hs⟩
  escalate _ _ _ _ _ _ _ _ hs := ⟨rfl, rfl, rfl, fun hoff => EpicPolicy.resumeOff_escalate hoff hs⟩
  advance _ _ _ _ _ _ _ hs := ⟨rfl, rfl, rfl, fun hoff => EpicPolicy.resumeOff_advance hoff hs⟩

end Unstarted

/-- A worker that notes in a log, read off the conductor, every run it is asked to start with
what it is told, whatever it answers; and notes nothing for its calls about runs started. -/
structure Worker.ListsStarts (log : Conductor → List Invocation) (w : Worker Eng) : Prop where
  invoke : ∀ i t x, (w.invoke i t x).Ends StoreKept fun _ t' _ => log t' = log t ++ [i]
  stops : w.Stops fun a b => log b.2 = log a.2

/-- A crew whose worker lists its starts, whose mailbox leaves the list alone, both of which stay
in their own world, and whose list is kept apart from the conductor's cards, sessions and count
of escalations. -/
structure Crew.ListsStarts (log : Conductor → List Invocation) (c : Crew) : Prop where
  calls : c.worker.ListsStarts log
  mailbox : c.mailbox.Keeps fun a b => log b.2 = log a.2
  own : c.Keeps Own
  books : ∀ t cards sessions logged,
    log { t with cards := cards, sessions := sessions, logged := logged } = log t

namespace Crew.ListsStarts

variable {log : Conductor → List Invocation} {c : Crew} (hc : c.ListsStarts log) (id : String)
include hc

section Own

variable {rel : Host × Conductor → Host × Conductor → Prop}
  (hrel : ∀ a b, Own a b → log b.2 = log a.2 → rel a b)
include hrel

/-- The worker's calls about runs started keep a relation that every change of the worker's own
world keeps, when it leaves the log alone. -/
theorem stops_of : c.worker.Stops rel :=
  ⟨fun i => ((hc.own.worker.status i).and (hc.calls.stops.status i)).mono
      fun _ _ h => hrel _ _ h.1 h.2,
    fun i force => ((hc.own.worker.terminate i force).and (hc.calls.stops.terminate i force)).mono
      fun _ _ h => hrel _ _ h.1 h.2,
    fun i => ((hc.own.worker.release i).and (hc.calls.stops.release i)).mono
      fun _ _ h => hrel _ _ h.1 h.2⟩

theorem mailbox_of : c.mailbox.Keeps rel :=
  ⟨fun loc content => ((hc.own.mailbox.deliver loc content).and (hc.mailbox.deliver loc content)).mono
      fun _ _ h => hrel _ _ h.1 h.2,
    fun loc inbox => ((hc.own.mailbox.pull loc inbox).and (hc.mailbox.pull loc inbox)).mono
      fun _ _ h => hrel _ _ h.1 h.2⟩

end Own

/-- The worker's calls about runs started start nothing. -/
theorem stops : c.worker.Stops (Unstarted log id) :=
  hc.stops_of fun _ _ => Unstarted.of_own

theorem mailbox_unstarted : c.mailbox.Keeps (Unstarted log id) :=
  hc.mailbox_of fun _ _ => Unstarted.of_own

/-- Giving a lease up starts nothing. -/
theorem lease (x : Host) (t : Conductor) (h : SessionHandle) :
    Unstarted log id (x, t) (x, { t with sessions := t.sessions.unleaseIfHeld h }) :=
  ⟨hc.books t t.cards _ t.logged, SessionBook.unleaseIfHeld_handles _ _,
    SessionBook.unleaseIfHeld_resuming _ _, fun hoff => hoff⟩

/-- The end of a stage starts no run. -/
theorem keeps_conclude (h : SessionHandle) (run : Run) :
    Job.Keeps StoreKept (Unstarted log id) (c.conclude h run) :=
  (Crew.conclude_answers_of (Unstarted.allows hc.books c.policy) (hc.stops id)
    (hc.mailbox_unstarted id) (hc.lease id) h run).keeps

end Crew.ListsStarts

/-! ### One start -/

/-- How a start for the handle `h` leaves the state `b`, from `a`, with the log of starts `log`,
for the epic `id`. It asked the worker for at most one run, telling it the session of `h`, and to
resume when a resume request of the session was queued or `h` resumes. It took the request when
it got that far. The handles stay, and so does the epic's resume flag when it was off. -/
structure StartedOnce (log : Conductor → List Invocation) (id : String) (h : SessionHandle)
    (a b : Host × Conductor) : Prop where
  log : log b.2 = log a.2 ∨ ∃ inv, log b.2 = log a.2 ++ [inv] ∧ inv.sessionName = h.sessionId ∧
    inv.resume = ((a.2.sessions.takeResume h.sessionId).2 || h.resume)
  handles : b.2.sessions.handles = a.2.sessions.handles
  queue : b.2.sessions.resuming = a.2.sessions.resuming ∨
    b.2.sessions.resuming = (a.2.sessions.takeResume h.sessionId).1.resuming
  flag : a.1.store.ResumeOff id → b.1.store.ResumeOff id

namespace Crew.ListsStarts

variable {log : Conductor → List Invocation} {c : Crew} (hc : c.ListsStarts log) (id : String)
include hc

/-- A start asks the worker for one run at most, as `StartedOnce` says. -/
theorem startRun_once (reg : Registry) (h : SessionHandle) (cardId cardPath objective : String)
    (t : Conductor) (x : Host) :
    (SessionBook.startRun c.worker reg h cardId cardPath objective t x).Ends StoreKept
      fun x' t' _ => StartedOnce log id h (x, t) (x', t') := by
  -- a start refused before the worker is asked changes nothing
  have hrefused : StartedOnce log id h (x, t) (x, t) := ⟨Or.inl rfl, rfl, Or.inl rfl, fun h => h⟩
  unfold SessionBook.startRun
  cases hd : reg.get? h.stage with
  | none => exact hrefused
  | some d =>
    dsimp -zeta only
    rw [Eng.store_bind]
    cases hrr : x.store.runningRun? h.epicId with
    | some r => exact hrefused
    | none =>
      dsimp -zeta only
      rw [SessionBook.get_bind]
      cases hacq : t.sessions.acquire h with
      | error e => exact hrefused
      | ok b =>
        rw [Eng.ofExcept_ok_bind]
        rw [SessionBook.modify_bind]
        -- the lease taken leaves the queue, so the request taken is the one queued at the start
        have hq : b.resuming = t.sessions.resuming := by
          rw [(SessionBook.acquire_eq_ok.1 hacq).2]
        obtain ⟨hqueue, hflag⟩ := SessionBook.takeResume_congr hq h.sessionId
        have hhandles : (b.takeResume h.sessionId).1.handles = t.sessions.handles := by
          rw [SessionBook.takeResume_handles, SessionBook.acquire_handles hacq]
        have hlog₀ : log { t with sessions := (b.takeResume h.sessionId).1 } = log t :=
          hc.books t t.cards _ t.logged
        dsimp only
        rw [Job.ends_attempt_bind]
        refine (((hc.own.worker.invoke _).ends _ x).and (hc.calls.invoke _ _ x)).mono
          fun x₁ t₁ r ⟨⟨hst₁, hses₁, _⟩, hlog₁⟩ => ?_
        rw [hlog₀] at hlog₁
        -- from here on nothing else is started, and the sessions only give the lease back
        have hafter : ∀ t₂ x₂, log t₂ = log t₁ → t₂.sessions.handles = t₁.sessions.handles →
            t₂.sessions.resuming = t₁.sessions.resuming → x₂.store.epics = x.store.epics →
            StartedOnce log id h (x, t) (x₂, t₂) := by
          intro t₂ x₂ hl hh hr he
          refine ⟨Or.inr ⟨_, hl.trans hlog₁, rfl, ?_⟩, by rw [hh, hses₁, hhandles],
            Or.inr (by rw [hr, hses₁, hqueue]), fun hoff => hoff.of_epics he⟩
          dsimp only
          rw [hflag]
        cases r with
        | error e =>
          -- the worker refused the start: the lease is given back
          dsimp only
          rw [SessionBook.modify_bind]
          exact hafter _ _ (hc.books t₁ t₁.cards _ t₁.logged) rfl rfl (by rw [hst₁])
        | ok rid =>
          dsimp only
          rw [Job.pure_bind, Eng.stamp_bind, Eng.store_bind]
          cases hins : x₁.store.insertRun
              ((Run.pending h.epicId h.stage h.sessionId h.iteration cardId).start rid x₁.stamp) with
          | ok s =>
            dsimp only
            rw [Eng.modifyHost_bind]
            obtain ⟨-, -, rfl⟩ := Store.insertRun_eq_ok hins
            exact hafter _ _ rfl rfl rfl (by rw [hst₁])
          | error err =>
            -- the store refused the run: it is stopped by force and released, and the lease given back
            dsimp only
            rw [Job.ends_attempt_bind]
            refine (((hc.own.worker.terminate rid true).ends _ _).and
              ((hc.calls.stops.terminate rid true).ends _ _)).mono
              fun x₂ t₂ _ ⟨⟨hst₂, hses₂, _⟩, hlog₂⟩ => ?_
            rw [Job.ends_attempt_bind]
            refine (((hc.own.worker.release rid).ends _ _).and ((hc.calls.stops.release rid).ends _ _)).mono
              fun x₃ t₃ _ ⟨⟨hst₃, hses₃, _⟩, hlog₃⟩ => ?_
            rw [SessionBook.modify_bind]
            exact hafter _ _ ((hc.books t₃ t₃.cards _ t₃.logged).trans (hlog₃.trans hlog₂))
              (by rw [← hses₂, ← hses₃]; rfl) (by rw [← hses₂, ← hses₃]; rfl)
              (by rw [hst₃, hst₂, hst₁])

end Crew.ListsStarts


/-! ### The epic a stage answers -/

namespace Store

/-- The store holds the epic `e` as it is: the epic's row has its stage and its resume flag. -/
def Holds (s : Store) (e : Epic) : Prop :=
  ∃ row, s.row? e.id = some row ∧ row.stage = e.stage ∧ row.resumeNext = e.resumeNext

/-- An answer that, when it is an epic, is the epic `id` as the store `s` holds it. -/
def HoldsAnswer (s : Store) (id : String) (r : Except EngineError Epic) : Prop :=
  ∀ e, r = .ok e → e.id = id ∧ s.Holds e

variable {s s' : Store} {e : Epic}

theorem Holds.of_epics (h : s.Holds e) (he : s'.epics = s.epics) : s'.Holds e := by
  obtain ⟨row, hrow, hst, hres⟩ := h
  refine ⟨row, ?_, hst, hres⟩
  unfold row? at hrow ⊢
  rw [he]
  exact hrow

/-- An epic read from its row is held, whatever history it is read with. -/
theorem holds_of_row? {id : String} {y : Epic} (hy : s.row? id = some y) (history : List String) :
    s.Holds { y with history := history } := by
  have hyid : y.id = id := (row?_spec hy).2
  exact ⟨y, by rw [hyid]; exact hy, rfl, rfl⟩

/-- An epic held with its flag off has it off in the store. -/
theorem Holds.resumeOff (h : s.Holds e) (hres : e.resumeNext = false) : s.ResumeOff e.id := by
  intro row hrow
  obtain ⟨row', hrow', -, hr⟩ := h
  rw [hrow'] at hrow
  cases hrow
  rw [hr]
  exact hres

end Store

namespace EpicPolicy

variable {p : EpicPolicy} {s s' : Store} {id now : String}

/-- The epic a move answers is the one the store holds after it. -/
theorem advance_holds {d : Decision} {e : Epic} (h : p.advance s id d now = .ok (s', e)) :
    e.id = id ∧ s'.Holds e := by
  obtain ⟨x, hx, -, -, rfl, f, hf, rfl⟩ := advance_eq_ok h
  have hxid : x.id = id := (Store.row?_spec hx).2
  have hid : (p.moved { x with history := s.history id } d now).id = x.id := moved_id
  refine ⟨hid.trans hxid, f x, ?_, hf.stage x hid.symm, hf.resumeNext x hid.symm⟩
  rw [Store.row?_of_map hf.id rfl, hid, hxid, hx]
  rfl

end EpicPolicy

namespace Crew

variable {c : Crew}

/-- An escalation leaves the epics alone, on either channel. -/
theorem escalate_epics (e : Epic) (d : Decision) (t : Conductor) (x : Host) :
    (c.escalate e d t x).Ends StoreKept fun x' _ _ => x'.store.epics = x.store.epics := by
  unfold escalate
  cases hsink : c.sink with
  | store =>
    dsimp only
    rw [Eng.stamp_bind]
    unfold Eng.onStore
    rw [Eng.store_bind]
    dsimp only
    cases hesc : c.policy.escalate x.store e d c.home x.stamp with
    | error err => exact rfl
    | ok r =>
      obtain ⟨s', k⟩ := r
      dsimp only
      rw [Eng.modifyHost_bind]
      rcases EpicPolicy.escalate_eq_ok hesc with rfl | ⟨m, hm⟩
      · exact rfl
      · exact (Store.insertEscalation_eq_ok hm).1
  | log => exact rfl

/-- A moved epic, escalated, is still held by the store. -/
theorem handOver_holds {e : Epic} {id : String} (d : Decision) (t : Conductor) (x : Host)
    (hid : e.id = id) (hs : x.store.Holds e) :
    ((do let _ ← c.escalate e d; pure e : Eng Epic) t x).Ends StoreKept fun x' _ r =>
      x'.store.HoldsAnswer id r := by
  rw [Job.bind_apply]
  refine (escalate_epics e d t x).bind (fun _ _ _ hep => ?_) fun _ _ _ _ => error_eq_ok_elim
  intro e' he'
  cases he'
  exact ⟨hid, hs.of_epics hep⟩

/-- Routing a decision answers the decision's epic as the store holds it after the move. -/
theorem apply_holds (d : Decision) (t : Conductor) (x : Host) :
    (c.apply d t x).Ends StoreKept fun x' _ r => x'.store.HoldsAnswer d.epicId r := by
  refine apply_ends_of (fun _ => error_eq_ok_elim) (fun s e hadv => ?_)
    fun reason cur human _ _ hcur _ _ => ?_
  · obtain ⟨hid, hs⟩ := EpicPolicy.advance_holds hadv
    split
    · exact handOver_holds d t _ hid hs
    · intro e' he'
      cases he'
      exact ⟨hid, hs⟩
  · -- the refused decision becomes an operator's decision on the epic, moved and escalated
    rw [Job.bind_apply]
    unfold Eng.onStore
    rw [Eng.store_bind]
    dsimp only
    cases hadv' : c.policy.advance x.store cur.id human x.stamp with
    | error err => exact error_eq_ok_elim
    | ok r =>
      obtain ⟨s, e⟩ := r
      obtain ⟨hid, hs⟩ := EpicPolicy.advance_holds hadv'
      dsimp only
      rw [Eng.modifyHost_bind, Job.pure_apply]
      exact handOver_holds _ t _ (hid.trans hcur) hs

/-- A stage that never started answers its epic as the store holds it. -/
theorem reject_holds (e : Epic) (r : Rationale) (reason : String) (t : Conductor) (x : Host) :
    (c.reject e r reason t x).Ends StoreKept fun x' _ r => x'.store.HoldsAnswer e.id r := by
  unfold reject
  rw [Eng.stamp_bind]
  exact apply_holds (Decision.human e.id none e.stage .high r [reason] x.stamp) t x

/-- A run whose worker is gone is closed, and its epic answered as the store holds it. -/
theorem interrupted_holds (e : Epic) (run : Run) (status : RunStatus) (reason : Rationale)
    (t : Conductor) (x : Host) :
    (c.interrupted e run status reason t x).Ends StoreKept fun x' _ r => x'.store.HoldsAnswer e.id r := by
  unfold interrupted record
  rw [Eng.stamp_bind, Job.bind_apply]
  refine Flow.Ends.bind_any (fun _ t₁ x₁ => ?_) fun _ _ _ => error_eq_ok_elim
  rw [Eng.stamp_bind]
  have h := apply_holds (c := c) (routeRun c.registry e.id
    (run.finish status (some reason) x.stamp) x₁.stamp) t₁ x₁
  rw [routeRun_epicId] at h
  exact h

/-- The end of a stage answers the session's epic as the store holds it. -/
theorem conclude_holds (h : SessionHandle) (run : Run) (t : Conductor) (x : Host) :
    (c.conclude h run t x).Ends StoreKept fun x' _ r => x'.store.HoldsAnswer h.epicId r := by
  unfold conclude
  rw [Job.bind_apply]
  refine Flow.Ends.bind_any (fun r t₁ x₁ => ?_) fun _ _ _ => error_eq_ok_elim
  cases r with
  | error err =>
    dsimp only
    rw [Job.bind_apply]
    refine Flow.Ends.bind_any (fun _ t₂ x₂ => ?_) fun _ _ _ => error_eq_ok_elim
    rw [CardBook.modify_bind]
    exact error_eq_ok_elim
  | ok run₀ =>
    -- the run is stored, and the router's decision, as the budget lets it stand, applied
    dsimp only
    rw [Job.bind_apply]
    refine Flow.Ends.bind_any (fun run₁ t₂ x₂ => ?_) fun _ _ _ => error_eq_ok_elim
    rw [CardBook.modify_bind]
    unfold record
    rw [Job.bind_apply]
    refine Flow.Ends.bind_any (fun _ t₃ x₃ => ?_) fun _ _ _ => error_eq_ok_elim
    rw [Eng.stamp_bind, Eng.store_bind]
    have hd := apply_holds (c := c) (c.policy.enforceBudget x₃.store
      (routeRun c.registry h.epicId run₁ x₃.stamp) x₃.stamp) t₃ x₃
    rw [EpicPolicy.enforceBudget_epicId, routeRun_epicId] at hd
    exact hd

end Crew


namespace Crew

variable {c : Crew}

/-- Taking over a run of the epic answers the epic as the store holds it. -/
theorem takeOver_holds (e : Epic) (run : Run) (he : run.epicId = e.id) (t : Conductor) (x : Host) :
    (c.takeOver e run t x).Ends StoreKept fun x' _ r => x'.store.HoldsAnswer e.id r := by
  unfold takeOver
  rw [Job.bind_apply]
  refine Flow.Ends.bind_any (fun st t₁ x₁ => ?_) fun _ _ _ => error_eq_ok_elim
  split
  · exact interrupted_holds e run _ _ t₁ x₁
  rw [SessionBook.get_bind]
  cases hadp : t₁.sessions.adopt run e.workspace.path
      (((c.registry.get? run.stage).map (·.turnBudget)).getD 1) with
  | error err => exact error_eq_ok_elim
  | ok bh =>
    obtain ⟨b, h⟩ := bh
    rw [Eng.ofExcept_ok_bind]
    dsimp only
    rw [SessionBook.modify_bind, Job.bind_apply]
    -- the adopted session is the run's, so its epic is the epic taken over
    have hhid : h.epicId = e.id := (SessionBook.adopt_eq_ok hadp).1.trans he
    refine Flow.Ends.bind_any (fun r t₂ x₂ => ?_) fun _ _ _ => error_eq_ok_elim
    split
    · rw [Job.bind_apply]
      exact Flow.Ends.bind_any (fun run' t₃ x₃ => interrupted_holds e run' _ _ t₃ x₃) fun _ _ _ => error_eq_ok_elim
    · have hcon := conclude_holds (c := c) h run t₂ x₂
      rw [hhid] at hcon
      exact hcon

end Crew

/-! ### One stage -/

/-- The base name of the sessions of the epic's current stage. -/
def Epic.sessionBase (e : Epic) : String := e.id ++ "_" ++ e.stage.val

/-- The rule a start of a stage of the epic `e` keeps, in the book `b` that the stage began
with. The worker is told to resume exactly when the epic's resume flag is set and the stage has
a session to go on from; it is then told the session resumed, and otherwise the next session of
the stage. -/
structure StartRule (e : Epic) (b : SessionBook) (inv : Invocation) : Prop where
  resume : inv.resume = b.resumes e.sessionBase e.resumeNext
  session : inv.sessionName =
    if b.resumes e.sessionBase e.resumeNext then b.resumedId e.sessionBase else b.freshId e.sessionBase

/-- Where a stage of the epic `e`, begun with the conductor `t`, stands in `(x', t')`, with the log
of starts `log`. It has started at most one run, by the rule, and the epic's resume flag is off
after a start; the session names of the epic fit, and the book is numbered. -/
structure Staged (log : Conductor → List Invocation) (e : Epic) (t : Conductor) (x' : Host)
    (t' : Conductor) : Prop where
  start : log t' = log t ∨
    ∃ inv, log t' = log t ++ [inv] ∧ StartRule e t.sessions inv ∧ x'.store.ResumeOff e.id
  fit : HandlesFit e.id t'.sessions.handles
  numbered : t'.sessions.Numbered

/-- A state of a stage of the epic `e`, begun with the conductor `t`, between the spawn that left
the book `b` and the start of its session: the log is as the stage began, the spawn's handles and
queue are in place, and the epic's resume flag is off. -/
structure Launching (log : Conductor → List Invocation) (e : Epic) (t : Conductor) (b : SessionBook)
    (x' : Host) (t' : Conductor) : Prop where
  log : log t' = log t
  handles : t'.sessions.handles = b.handles
  queue : t'.sessions.resuming = b.resuming
  flag : x'.store.ResumeOff e.id

section Stage

variable {log : Conductor → List Invocation} {e : Epic} {t t₁ t₂ : Conductor} {x₁ x₂ : Host}
  {b : SessionBook}

theorem Staged.unstarted (h : Staged log e t x₁ t₁) (hu : Unstarted log e.id (x₁, t₁) (x₂, t₂)) :
    Staged log e t x₂ t₂ where
  start := by
    rcases h.start with hl | ⟨inv, hl, hrule, hoff⟩
    · exact Or.inl (hu.log.trans hl)
    · exact Or.inr ⟨inv, hu.log.trans hl, hrule, hu.flag hoff⟩
  fit := by
    rw [hu.handles]
    exact h.fit
  numbered := h.numbered.of_eq hu.handles hu.queue

/-- Work that starts nothing, and answers the epic as the store holds it, ends a stage where it
stood. -/
theorem Staged.finish {j : Eng Epic} (h : Staged log e t x₁ t₁)
    (hj : Job.Keeps StoreKept (Unstarted log e.id) j)
    (hans : (j t₁ x₁).Ends StoreKept fun x' _ r => x'.store.HoldsAnswer e.id r) :
    (j t₁ x₁).Ends StoreKept fun x' t' r => Staged log e t x' t' ∧ x'.store.HoldsAnswer e.id r :=
  ((hj.ends t₁ x₁).and hans).mono fun _ _ _ h' => ⟨h.unstarted h'.1, h'.2⟩

theorem Launching.unstarted (h : Launching log e t b x₁ t₁)
    (hu : Unstarted log e.id (x₁, t₁) (x₂, t₂)) : Launching log e t b x₂ t₂ :=
  ⟨hu.log.trans h.log, hu.handles.trans h.handles, hu.queue.trans h.queue, hu.flag h.flag⟩

/-- Before its start, a stage stands where it began, with the spawn's book. -/
theorem Launching.staged (h : Launching log e t b x₁ t₁) (hfit : HandlesFit e.id b.handles)
    (hnum : b.Numbered) : Staged log e t x₁ t₁ :=
  ⟨Or.inl h.log, by rw [h.handles]; exact hfit, hnum.of_eq h.handles h.queue⟩

/-- The start of the session that a stage's spawn handed out keeps the rule: what the worker is
told is what `SessionBook.spawn_start` says, read for the epic's stage and flag. -/
theorem Launching.start {reg : Registry} {r : SpawnRequest} {h : SessionHandle}
    (hnum : t.sessions.Numbered) (hsp : t.sessions.spawn reg r = .ok (b, h))
    (hbase : r.sessionName = e.sessionBase) (hres : r.resume = e.resumeNext)
    (hfit : HandlesFit e.id b.handles) (hl : Launching log e t b x₁ t₁)
    (hs : StartedOnce log e.id h (x₁, t₁) (x₂, t₂)) : Staged log e t x₂ t₂ := by
  have hnum₁ : t₁.sessions.Numbered := (hnum.spawn hsp).of_eq hl.handles hl.queue
  obtain ⟨hresume, hsid⟩ := SessionBook.spawn_start hnum hsp hl.queue
  rw [hbase, hres] at hresume hsid
  refine ⟨?_, ?_, ?_⟩
  · rcases hs.log with hlog | ⟨inv, hlog, hname, hinv⟩
    · exact Or.inl (hlog.trans hl.log)
    · exact Or.inr ⟨inv, by rw [hlog, hl.log], ⟨hinv.trans hresume, hname.trans hsid⟩, hs.flag hl.flag⟩
  · rw [hs.handles, hl.handles]
    exact hfit
  · -- the start takes the session's resume request, if one is queued
    rcases hs.queue with hq | hq
    · exact hnum₁.of_eq hs.handles hq
    · exact (hnum₁.takeResume h.sessionId).of_eq
        (hs.handles.trans (SessionBook.takeResume_handles _ _).symm) hq

end Stage

namespace Crew.ListsStarts

variable {log : Conductor → List Invocation} {c : Crew} (hc : c.ListsStarts log)
include hc

/-- One stage of the epic `e`, begun in `(x, t)` where the store holds the epic, the session names
of the epic fit and the book is numbered. Each of its ends stands as `Staged` says, and answers
the epic as the store holds it. -/
theorem step_stage (hname : ∀ d ∈ c.registry.stages, StageName.parse d.name.val = .ok d.name)
    (e : Epic) (t : Conductor) (x : Host) (hheld : x.store.Holds e)
    (hfit : HandlesFit e.id t.sessions.handles) (hnum : t.sessions.Numbered) :
    (c.step e t x).Ends StoreKept fun x' t' r => Staged log e t x' t' ∧ x'.store.HoldsAnswer e.id r := by
  have hR : Allows c.policy (Unstarted log e.id) := Unstarted.allows hc.books c.policy
  have hg := hR.guarantee
  have hbk := Bookkeeping.tidy
  have hstay : Staged log e t x t := ⟨Or.inl rfl, hfit, hnum⟩
  -- a stage that never starts forgets its card and hands its epic to an operator
  have hreject : ∀ (why : Rationale) reason cardId t₁ x₁, Staged log e t x₁ t₁ →
      ((CardBook.modify (·.forget cardId) >>= fun _ => c.reject e why reason) t₁ x₁).Ends StoreKept
        fun x' t' r => Staged log e t x' t' ∧ x'.store.HoldsAnswer e.id r := by
    intro why reason cardId t₁ x₁ hs
    rw [CardBook.modify_bind]
    have hs' : Staged log e t x₁ { t₁ with cards := t₁.cards.forget cardId } :=
      hs.unstarted (hR.bookkeeping ⟨rfl, rfl⟩)
    exact hs'.finish (Crew.keeps_reject hR e why reason) (Crew.reject_holds e why reason _ _)
  unfold step
  rw [Eng.stamp_bind, Eng.store_bind]
  cases hgate : c.policy.spawnGate x.store e x.stamp with
  | some d =>
    -- out of budget or attempts: the gate's decision is routed
    dsimp -zeta only
    have hd : d.epicId = e.id := (EpicPolicy.spawnGate_eq_some hgate).1
    have happly := Crew.apply_holds (c := c) d t x
    rw [hd] at happly
    exact hstay.finish (Crew.keeps_apply hR d) happly
  | none =>
    dsimp -zeta only
    cases hdesc : c.registry.get? e.stage with
    | none =>
      dsimp -zeta only
      exact ⟨hstay, error_eq_ok_elim⟩
    | some desc =>
      dsimp -zeta only
      obtain ⟨hdmem, hdname⟩ := Registry.get?_spec hdesc
      -- the card is written, and nothing but the cards changes
      have hquiet : ∀ t₁ x₁, Bookkeeping (x, t) (x₁, t₁) → Staged log e t x₁ t₁ :=
        fun _ _ h => hstay.unstarted (hR.bookkeeping h)
      refine Job.Keeps.ends_bind_from hbk.guarantee (keeps_patternNotes hbk _ _) (hbk.guarantee.refl _)
        (fun notes t₁ x₁ h₁ => ?_) fun _ _ _ h => ⟨hquiet _ _ h, error_eq_ok_elim⟩
      refine Job.Keeps.ends_bind_from hbk.guarantee (CardBook.keeps_createCard hbk _ _ _ _ _) h₁
        (fun cardId t₂ x₂ h₂ => ?_) fun _ _ _ h => ⟨hquiet _ _ h, error_eq_ok_elim⟩
      have hses₂ : t₂.sessions = t.sessions := (congrArg Conductor.sessions h₂.2 :)
      rw [SessionBook.get_bind]
      cases hsp : t₂.sessions.spawn c.registry
          { stage := desc.name.val, epicId := e.id, cardRef := cardId,
            sessionName := e.id ++ "_" ++ desc.name.val, turnBudget := desc.turnBudget,
            resume := e.resumeNext, workspace := e.workspace.path } with
      | error err =>
        cases err
        case spawnRejected reason => exact hreject _ reason cardId t₂ x₂ (hquiet _ _ h₂)
        all_goals exact ⟨hquiet _ _ h₂, error_eq_ok_elim⟩
      | ok bh =>
        obtain ⟨b, h⟩ := bh
        dsimp -zeta only
        extract_lets launch
        rw [SessionBook.modify_bind]
        rw [hses₂] at hsp
        -- the session handed out is one of the epic's, and the book stays numbered
        obtain ⟨hfitb, hhid, -⟩ := HandlesFit.spawn hfit hdesc (hname desc hdmem) rfl rfl rfl hsp
        have hnumb : b.Numbered := hnum.spawn hsp
        have hbase : e.id ++ "_" ++ desc.name.val = e.sessionBase := by
          rw [hdname]
          rfl
        have hlaunch : ∀ u t₄ x₄, Launching log e t b x₄ t₄ →
            (launch u t₄ x₄).Ends StoreKept
              fun x' t' r => Staged log e t x' t' ∧ x'.store.HoldsAnswer e.id r := by
          intro u t₄ x₄ hl₄
          dsimp -zeta only [launch]
          refine Job.Keeps.ends_bind_from hg
            (CardBook.keeps_publish hR.toTidy (hc.mailbox_unstarted e.id) _ _) (hg.refl _)
            (fun path t₅ x₅ h₅ => ?_) fun _ _ _ h => ⟨(hl₄.unstarted h).staged hfitb hnumb, error_eq_ok_elim⟩
          have hl₅ := hl₄.unstarted h₅
          refine (Job.ends_attempt_bind _ _ _ _ _).2 ((hc.startRun_once e.id c.registry h cardId path
            e.objective t₅ x₅).mono fun x₆ t₆ r h₆ => ?_)
          have hs₆ : Staged log e t x₆ t₆ := hl₅.start hnum hsp hbase rfl hfitb h₆
          cases r with
          | ok run =>
            -- the run started is watched to its end
            dsimp only
            have hcon := Crew.conclude_holds (c := c) h run t₆ x₆
            rw [hhid] at hcon
            exact hs₆.finish (hc.keeps_conclude e.id h run) hcon
          | error err =>
            cases err
            case spawnRejected reason => exact hreject _ reason cardId t₆ x₆ hs₆
            case worker reason => exact hreject _ reason cardId t₆ x₆ hs₆
            all_goals exact ⟨hs₆, error_eq_ok_elim⟩
        clear_value launch
        have hlog₃ : log { t₂ with sessions := b } = log t :=
          (hc.books t₂ t₂.cards b t₂.logged).trans (hR.bookkeeping h₂).log
        -- the run starts after the resume flag is cleared, if it was set
        by_cases hres : e.resumeNext = true
        · rw [if_pos hres]
          cases hcl : EpicPolicy.clearResume x₂.store e.id x.stamp with
          | error err =>
            rw [Eng.updateStore_bind_error _ _ _ hcl]
            exact ⟨⟨Or.inl hlog₃, hfitb, hnumb⟩, error_eq_ok_elim⟩
          | ok s =>
            rw [Eng.updateStore_bind_ok _ _ _ hcl]
            exact hlaunch _ _ _ ⟨hlog₃, rfl, rfl, EpicPolicy.clearResume_resumeOff hcl⟩
        · -- the flag was off in the store already
          rw [if_neg hres]
          have hoff : x₂.store.ResumeOff e.id :=
            (hheld.resumeOff (eq_false_of_ne_true hres)).of_epics (by rw [h₂.1])
          exact hlaunch _ _ _ ⟨hlog₃, rfl, rfl, hoff⟩

end Crew.ListsStarts


/-! ### Before the stage loop -/

namespace SessionBook

open Session

variable {b b' : SessionBook} {id : String} {run : Run} {ws : String} {n : Nat} {h : SessionHandle}

theorem seed_resuming (b : SessionBook) (ids : List String) : (b.seed ids).resuming = b.resuming := by
  rw [seed_eq]

/-- A take-over hands out the run's session, numbered as its id reads, as the last handle of its
base, and leaves the queue. -/
theorem adopt_book (had : b.adopt run ws n = .ok (b', h)) :
    ∃ base, splitId run.sessionId = some (base, h.iteration) ∧ h.sessionId = run.sessionId ∧
      b'.handles = setKey b.handles base h ∧ b'.resuming = b.resuming := by
  unfold adopt at had
  split at had
  · rename_i base i hsplit
    obtain ⟨b₁, hacq, had⟩ := except_bind_eq_ok had
    cases had
    exact ⟨base, hsplit, rfl, by rw [acquire_handles hacq], by rw [(acquire_eq_ok.1 hacq).2]⟩
  · cases had

/-- A take-over keeps the numbering when the base's last handle is no newer than the run's
session: every request queued for the base is then no newer than the session taken over. -/
theorem Numbered.adopt (hb : b.Numbered) (had : b.adopt run ws n = .ok (b', h))
    (hle : ∀ base i, splitId run.sessionId = some (base, i) →
      ∀ h₀, getKey b.handles base = some h₀ → h₀.iteration ≤ i) : b'.Numbered := by
  obtain ⟨base, hsplit, hsid, hh, hr⟩ := adopt_book had
  refine ⟨fun base' h' hget base'' k hk => ?_, fun sid hsid' base' k hk => ?_⟩
  · rw [hh, getKey_setKey] at hget
    split at hget
    · -- the session taken over is numbered as its id reads
      rename_i hbase
      cases hget
      rw [← hsid, hk] at hsplit
      obtain ⟨h₁, h₂⟩ := splitId_sessionId_eq hsplit
      exact ⟨h₁.symm.trans hbase.symm, h₂.symm⟩
    · exact hb.ids base' h' hget base'' k hk
  · obtain ⟨h₀, hget, hk'⟩ := hb.queued sid (hr ▸ hsid') base' k hk
    rw [hh, getKey_setKey]
    split
    · rename_i hbase
      subst hbase
      exact ⟨h, rfl, le_trans hk' (hle base' h.iteration hsplit h₀ hget)⟩
    · exact ⟨h₀, hget, hk'⟩

/-- A book ready to take over the run `run` of the epic `id`: the session names of the epic fit,
the book is numbered, and the last handle of the run's base is no newer than the run's
session. -/
structure AdoptReady (id : String) (run : Run) (b : SessionBook) : Prop where
  fit : HandlesFit id b.handles
  numbered : b.Numbered
  older : ∀ base i, splitId run.sessionId = some (base, i) →
    ∀ h, getKey b.handles base = some h → h.iteration ≤ i

theorem AdoptReady.of_eq (hb : b.AdoptReady id run) (hh : b'.handles = b.handles)
    (hr : b'.resuming = b.resuming) : b'.AdoptReady id run :=
  ⟨by rw [hh]; exact hb.fit, hb.numbered.of_eq hh hr,
    fun base i hs h hget => hb.older base i hs h (hh ▸ hget)⟩

/-- Taking the run's session over keeps the book ready: the base's handle is then the run's. -/
theorem AdoptReady.adopt (hb : b.AdoptReady id run) (hrun : run.epicId = id)
    (hsplit : ∀ base i, splitId run.sessionId = some (base, i) → base = id ++ "_" ++ run.stage.val)
    (had : b.adopt run ws n = .ok (b', h)) : b'.AdoptReady id run := by
  obtain ⟨base, hs, -, hh, -⟩ := adopt_book had
  refine ⟨HandlesFit.adopt hb.fit hrun hsplit had, hb.numbered.adopt had hb.older,
    fun base' i hs' h' hget => ?_⟩
  rw [hs] at hs'
  cases hs'
  rw [hh, getKey_setKey, if_pos rfl] at hget
  cases hget
  exact le_refl _

end SessionBook

/-- What a take-over of the run `run` of the epic `id` keeps, with the log of starts `log`: the
log, and a book ready for the take-over. -/
def TakeOverKept (log : Conductor → List Invocation) (id : String) (run : Run)
    (a b : Host × Conductor) : Prop :=
  log b.2 = log a.2 ∧ (a.2.sessions.AdoptReady id run → b.2.sessions.AdoptReady id run)

namespace TakeOverKept

variable {log : Conductor → List Invocation} {id : String} {run : Run} {a b : Host × Conductor}

theorem of_own (h : Own a b) (hlog : log b.2 = log a.2) : TakeOverKept log id run a b :=
  ⟨hlog, fun hr => by rw [h.2.1]; exact hr⟩

/-- The conductor's own writes of the store keep the log and the book, when the log is kept apart
from the conductor's cards, sessions and count of escalations. -/
theorem allows (hbooks : ∀ t cards sessions logged,
      log { t with cards := cards, sessions := sessions, logged := logged } = log t)
    (p : EpicPolicy) : Allows p (TakeOverKept log id run) where
  bookkeeping {a b} h := by
    obtain ⟨-, hbook⟩ := h
    refine ⟨?_, by rw [hbook]; exact fun hr => hr⟩
    rw [hbook]
    exact hbooks a.2 b.2.cards a.2.sessions a.2.logged
  trans h₁ h₂ := ⟨h₂.1.trans h₁.1, fun hr => h₂.2 (h₁.2 hr)⟩
  count _ t n := ⟨hbooks t t.cards t.sessions n, fun hr => hr⟩
  updateRun _ _ _ _ _ := ⟨rfl, fun hr => hr⟩
  clearResume _ _ _ _ _ _ := ⟨rfl, fun hr => hr⟩
  escalate _ _ _ _ _ _ _ _ _ := ⟨rfl, fun hr => hr⟩
  advance _ _ _ _ _ _ _ _ := ⟨rfl, fun hr => hr⟩

end TakeOverKept

namespace Crew

/-- What a drive of the epic `id` does before its stage loop: the book is seeded from the epic's
recorded runs, the epic read, and a run it left running taken over. -/
def prepare (c : Crew) (id : String) : Eng Epic := do
  let s ← Eng.store
  SessionBook.modify (·.seed ((s.runsOf id).map (·.sessionId)))
  let e ← Eng.ofExcept (EpicPolicy.get s id)
  match s.runningRun? id with
  | some run => c.takeOver e run
  | none => pure e

/-- A drive is its preparation followed by the stage loop. -/
theorem runEpic_eq_prepare (c : Crew) (id : String) :
    c.runEpic id = c.prepare id >>= c.drive c.maxStages := by
  funext t x
  unfold runEpic prepare
  conv_rhs => rw [Job.bind_apply]
  rw [Eng.store_bind, Eng.store_bind, SessionBook.modify_bind, SessionBook.modify_bind]
  cases EpicPolicy.get x.store id with
  | error err => rfl
  | ok e =>
    -- the stage loop joins either way the preparation ends
    cases x.store.runningRun? id with
    | none => rfl
    | some run => rfl

end Crew

namespace Crew.ListsStarts

variable {log : Conductor → List Invocation} {c : Crew} (hc : c.ListsStarts log) (id : String)
include hc

/-- Taking over a run of the epic `id` starts nothing and keeps a book ready for it. -/
theorem keeps_takeOver (e : Epic) (run : Run) (hrun : run.epicId = id)
    (hsplit : ∀ base i, Session.splitId run.sessionId = some (base, i) → base = id ++ "_" ++ run.stage.val) :
    Job.Keeps StoreKept (TakeOverKept log id run) (c.takeOver e run) :=
  (Crew.takeOver_answers_of (TakeOverKept.allows hc.books c.policy)
    (hc.stops_of fun _ _ => TakeOverKept.of_own) (hc.mailbox_of fun _ _ => TakeOverKept.of_own)
    (fun _ t _ => ⟨hc.books t t.cards _ t.logged, fun hr =>
      hr.of_eq (SessionBook.unleaseIfHeld_handles _ _) (SessionBook.unleaseIfHeld_resuming _ _)⟩)
    e run fun _ t _ _ _ _ had => ⟨hc.books t t.cards _ t.logged, fun hr => hr.adopt hrun hsplit had⟩).keeps

/-- Before its stage loop, a drive of the epic `id` starts nothing. It answers the epic as the
store holds it, with the session names of the epic fitting and the book numbered, when they did
at the start and the run left running, if any, has a session named after its stage that is no
older than the last one of the stage handed out. -/
theorem prepare_fits (t : Conductor) (x : Host) (hfit : HandlesFit id t.sessions.handles)
    (hnum : t.sessions.Numbered)
    (hrun : ∀ run, x.store.runningRun? id = some run → ∀ base i,
      Session.splitId run.sessionId = some (base, i) → base = id ++ "_" ++ run.stage.val ∧
        ∀ h, SessionBook.getKey t.sessions.handles base = some h → h.iteration ≤ i) :
    (c.prepare id t x).Ends StoreKept fun x' t' r => log t' = log t ∧
      HandlesFit id t'.sessions.handles ∧ t'.sessions.Numbered ∧ x'.store.HoldsAnswer id r := by
  unfold Crew.prepare
  rw [Eng.store_bind, SessionBook.modify_bind]
  -- seeding reads the epic's recorded runs into the book, and leaves the handles and the queue
  generalize ht₁ : ({ t with sessions := t.sessions.seed ((x.store.runsOf id).map (·.sessionId)) } :
    Conductor) = t₁
  have hlog₁ : log t₁ = log t := by
    rw [← ht₁]
    exact hc.books t t.cards _ t.logged
  have hh₁ : t₁.sessions.handles = t.sessions.handles := by
    rw [← ht₁]
    exact SessionBook.seed_handles _ _
  have hr₁ : t₁.sessions.resuming = t.sessions.resuming := by
    rw [← ht₁]
    exact SessionBook.seed_resuming _ _
  have hfit₁ : HandlesFit id t₁.sessions.handles := by
    rw [hh₁]
    exact hfit
  have hnum₁ : t₁.sessions.Numbered := hnum.of_eq hh₁ hr₁
  cases hget : EpicPolicy.get x.store id with
  | error err =>
    rw [Eng.ofExcept_error_bind]
    exact ⟨hlog₁, hfit₁, hnum₁, error_eq_ok_elim⟩
  | ok e =>
    rw [Eng.ofExcept_ok_bind]
    obtain ⟨y, hy, rfl⟩ := EpicPolicy.get_eq_ok hget
    have heid : ({ y with history := x.store.history id } : Epic).id = id := (Store.row?_spec hy).2
    cases hrr : x.store.runningRun? id with
    | none =>
      dsimp only
      exact ⟨hlog₁, hfit₁, hnum₁, fun e' he' => by cases he'; exact ⟨heid, Store.holds_of_row? hy _⟩⟩
    | some run =>
      -- the run left running is taken over, from a book ready for it
      dsimp only
      have hrunid : run.epicId = id := (Store.runningRun?_spec hrr).2.1
      have hready : t₁.sessions.AdoptReady id run :=
        ⟨hfit₁, hnum₁, fun base i hs h hget => (hrun run hrr base i hs).2 h (hh₁ ▸ hget)⟩
      have hheld := (Crew.takeOver_holds (c := c) { y with history := x.store.history id } run
        (hrunid.trans heid.symm) t₁ x).mono fun x' _ r h =>
          show x'.store.HoldsAnswer id r from heid ▸ h
      refine (((hc.keeps_takeOver id _ run hrunid fun base i hs => (hrun run hrr base i hs).1).ends
        t₁ x).and hheld).mono fun x' t' r h => ?_
      obtain ⟨⟨hlog', hready'⟩, hans⟩ := h
      obtain ⟨hfit', hnum', -⟩ := hready' hready
      exact ⟨hlog'.trans hlog₁, hfit', hnum', hans⟩

end Crew.ListsStarts

/-! ### The stage loop -/

/-- One stage of the epic `id`, run by the crew from `a` to `b`, with the log of starts `log`: a
run of the stage of the epic as the store held it at `a`, which started at most one run, by the
rule for the book it began with, and left the epic's resume flag off after a start. -/
def Crew.StageRun (c : Crew) (log : Conductor → List Invocation) (id : String)
    (a b : Host × Conductor) : Prop :=
  ∃ e r, e.id = id ∧ a.1.store.Holds e ∧ (c.step e a.2 a.1).Reaches StoreKept b.1 b.2 r ∧
    (log b.2 = log a.2 ∨
      ∃ inv, log b.2 = log a.2 ++ [inv] ∧ StartRule e a.2.sessions inv ∧ b.1.store.ResumeOff id)

namespace Crew.ListsStarts

variable {log : Conductor → List Invocation} {c : Crew} (hc : c.ListsStarts log)
  (hname : ∀ d ∈ c.registry.stages, StageName.parse d.name.val = .ok d.name)
include hc hname

/-- The stage loop, from a state where the store holds the epic, the session names of the epic fit
and the book is numbered: it runs stages one after another, each a `Crew.StageRun`, leaves the
names fitting and the book numbered, and answers the epic as the store holds it. -/
theorem drive_stages (n : Nat) : ∀ (e : Epic) (t : Conductor) (x : Host), x.store.Holds e →
    HandlesFit e.id t.sessions.handles → t.sessions.Numbered →
    (c.drive n e t x).Ends StoreKept fun x' t' r =>
      Relation.ReflTransGen (c.StageRun log e.id) (x, t) (x', t') ∧
        HandlesFit e.id t'.sessions.handles ∧ t'.sessions.Numbered ∧ x'.store.HoldsAnswer e.id r := by
  intro e t x hheld hfit hnum
  generalize hid : e.id = id at hfit ⊢
  -- one stage per round, each a run of the step from the state it began in
  refine drive_ends_of (I := fun _ e a => e.id = id ∧ a.1.store.Holds e ∧
      HandlesFit id a.2.sessions.handles ∧ a.2.sessions.Numbered)
    (R := Relation.ReflTransGen (c.StageRun log id))
    (Q := fun a r => HandlesFit id a.2.sessions.handles ∧ a.2.sessions.Numbered ∧
      a.1.store.HoldsAnswer id r)
    Relation.ReflTransGen.trans ?stay ?stage n e t x ⟨hid, hheld, hfit, hnum⟩
  case stay =>
    -- an epic answered as it is leaves everything as it was
    rintro _ e a ⟨rfl, hheld, hfit, hnum⟩ -
    exact ⟨.refl, hfit, hnum, fun e' he' => by cases he'; exact ⟨rfl, hheld⟩⟩
  case stage =>
    rintro _ e t x ⟨rfl, hheld, hfit, hnum⟩ - -
    refine ((hc.step_stage hname e t x hheld hfit hnum).and (Flow.ends_reaches _)).mono
      fun x' t' r ⟨⟨hs, hans⟩, hreach⟩ => ⟨.single ⟨e, r, rfl, hheld, hreach, hs.start⟩,
        fun _ _ => ⟨hs.fit, hs.numbered, hans⟩, fun e' he' => ?_⟩
    obtain ⟨hid', hheld'⟩ := hans e' he'
    exact ⟨hid', hheld', hs.fit, hs.numbered⟩

end Crew.ListsStarts


/-! ### A drive -/

namespace Crew.ListsStarts

variable {log : Conductor → List Invocation} {c : Crew} (hc : c.ListsStarts log)
  (hname : ∀ d ∈ c.registry.stages, StageName.parse d.name.val = .ok d.name)
include hc hname

/-- Every start that a drive of the epic `id` makes follows the rule. The drive first prepares
(`Crew.prepare`): it seeds the book from the epic's recorded runs and takes over a run left
running, and starts nothing. From the state the preparation reached it runs stages one after
another, each a run of the stage of the epic as the store held it, each starting at most one
run (`Crew.StageRun`). The worker is told to resume exactly when the epic's resume flag was set
and the stage had a session to go on from, a handle or a seeded iteration; it is told that
session, the base's handle before any seeded iteration, and otherwise the next session of the
stage; and after a start the flag is off. The book ends numbered, with the session names of the
epic fitting. -/
theorem runEpic_starts_follow_rule (id : String) (t : Conductor) (x : Host)
    (hfit : HandlesFit id t.sessions.handles) (hnum : t.sessions.Numbered)
    (hrun : ∀ run, x.store.runningRun? id = some run → ∀ base i,
      Session.splitId run.sessionId = some (base, i) → base = id ++ "_" ++ run.stage.val ∧
        ∀ h, SessionBook.getKey t.sessions.handles base = some h → h.iteration ≤ i) :
    (c.runEpic id t x).Ends StoreKept fun x' t' _ =>
      ∃ m r, (c.prepare id t x).Reaches StoreKept m.1 m.2 r ∧ log m.2 = log t ∧
        Relation.ReflTransGen (c.StageRun log id) m (x', t') ∧
        HandlesFit id t'.sessions.handles ∧ t'.sessions.Numbered := by
  rw [Crew.runEpic_eq_prepare, Job.bind_apply]
  refine ((Flow.ends_reaches _).and (hc.prepare_fits id t x hfit hnum hrun)).bind
    (fun e t' x' h => ?_) fun _ t' x' h => ⟨(x', t'), _, h.1, h.2.1, .refl, h.2.2.1, h.2.2.2.1⟩
  obtain ⟨hreach, hlog, hfit', hnum', hans⟩ := h
  obtain ⟨hid, hheld⟩ := hans e rfl
  -- the stage loop goes on from where the preparation ended, with the epic it answered
  refine (hc.drive_stages hname c.maxStages e t' x' hheld (hid ▸ hfit') hnum').mono
    fun x'' t'' r h' => ?_
  rw [hid] at h'
  exact ⟨(x', t'), _, hreach, hlog, h'.1, h'.2.1, h'.2.2.1⟩

end Crew.ListsStarts

/-! ### The scripted crew lists its starts -/

namespace ScriptedWorld

theorem editCard_invocations (w : ScriptedWorld) (path : String) (f : TaskCard → Option TaskCard) :
    (w.editCard path f).1.invocations = w.invocations := by
  unfold editCard
  split
  · rfl
  · split
    · rfl
    · split <;> rfl

theorem invocations_of_editCard {w w' : ScriptedWorld} {path : String}
    {f : TaskCard → Option TaskCard} {changed : Bool} (h : w.editCard path f = (w', changed)) :
    w'.invocations = w.invocations := by
  rw [← editCard_invocations w path f, h]

/-- A poll of a run writes the run and its card, and never the invocations. -/
theorem tick_invocations (w : ScriptedWorld) (id now : String) :
    (w.tick id now).1.invocations = w.invocations := by
  unfold tick
  split
  · rfl
  · extract_lets clock alive run1 w₁ polls path
    split
    rename_i w₂ worked exited heq
    show w₂.invocations = w.invocations
    -- each behaviour leaves the polled world or edits its card
    repeat' (split at heq)
    all_goals
      simp only [Prod.mk.injEq] at heq
      obtain ⟨rfl, -⟩ := heq
    all_goals first
      | rfl
      | exact editCard_invocations _ _ _
      | exact invocations_of_editCard (w := w₁) ‹_›
      | skip
    -- a regressing run's card takes one of three edits, or none
    rename_i hreg
    split at hreg
    · exact invocations_of_editCard (w := w₁) hreg
    · split at hreg
      · exact invocations_of_editCard (w := w₁) hreg
      · split at hreg
        · exact invocations_of_editCard (w := w₁) hreg
        · cases hreg
          rfl

theorem terminate_invocations (w : ScriptedWorld) (id : String) (force : Bool) :
    (w.terminate id force).invocations = w.invocations := by
  unfold terminate
  extract_lets w₁
  split
  · split <;> rfl
  · rfl

theorem release_invocations (w : ScriptedWorld) (id : String) :
    (w.release id).invocations = w.invocations := by
  unfold release
  split <;> rfl

end ScriptedWorld

namespace Crew

/-- The scripted crew lists in its world every run it is asked to start. -/
theorem scripted_listsStarts : scripted.ListsStarts fun t => t.world.invocations where
  calls := ⟨fun _ _ _ => rfl,
    ⟨fun _ => ⟨fun t x => (ScriptedWorld.tick_invocations t.world _ x.stamp :)⟩,
      fun _ _ => ⟨fun t _ => ScriptedWorld.terminate_invocations t.world _ _⟩,
      fun _ => ⟨fun t _ => ScriptedWorld.release_invocations t.world _⟩⟩⟩
  mailbox := ⟨fun _ _ => ⟨fun _ _ => rfl⟩, fun loc _ => ⟨fun t _ => by
    dsimp only [scripted, Mailbox.scripted]
    rw [Eng.self_bind]
    cases t.world.file? loc.hostPath <;> rfl⟩⟩
  own := ⟨⟨fun _ => ⟨fun _ _ => ⟨rfl, rfl, rfl⟩⟩, fun _ => ⟨fun _ _ => ⟨rfl, rfl, rfl⟩⟩,
      fun _ _ => ⟨fun _ _ => ⟨rfl, rfl, rfl⟩⟩, fun _ => ⟨fun _ _ => ⟨rfl, rfl, rfl⟩⟩⟩,
    Mailbox.scripted_calm.mono fun _ _ h => ⟨h.runs.symm, h.sessions, h.logged⟩⟩
  books _ _ _ _ := rfl

/-- A host whose store holds one fresh epic and nothing else. -/
def freshEpicHost : Host := { store := { epics := [Epic.fresh "/work" "epic-1" "Ship it" ⟨"DESIGN"⟩ "now"] } }

/-- A drive of a fresh epic by the scripted crew, from a conductor that holds no sessions yet,
starts every run by the rule. -/
theorem scripted_starts_follow_rule :
    scripted.ListsStarts (fun t => t.world.invocations) ∧
      (∀ d ∈ scripted.registry.stages, StageName.parse d.name.val = .ok d.name) ∧
      HandlesFit "epic-1" ({} : Conductor).sessions.handles ∧ ({} : Conductor).sessions.Numbered ∧
      (∀ run, freshEpicHost.store.runningRun? "epic-1" = some run → ∀ base i,
        Session.splitId run.sessionId = some (base, i) → base = "epic-1" ++ "_" ++ run.stage.val ∧
          ∀ h, SessionBook.getKey ({} : Conductor).sessions.handles base = some h → h.iteration ≤ i) ∧
      (scripted.runEpic "epic-1" {} freshEpicHost).Ends StoreKept fun x' t' _ =>
        ∃ m r, (scripted.prepare "epic-1" {} freshEpicHost).Reaches StoreKept m.1 m.2 r ∧
          m.2.world.invocations = ({} : Conductor).world.invocations ∧
          Relation.ReflTransGen (scripted.StageRun (fun t => t.world.invocations) "epic-1") m (x', t') ∧
          HandlesFit "epic-1" t'.sessions.handles ∧ t'.sessions.Numbered := by
  have hname : ∀ d ∈ scripted.registry.stages, StageName.parse d.name.val = .ok d.name := by decide
  have hfit : HandlesFit "epic-1" ({} : Conductor).sessions.handles := fun _ _ hh => by
    simp [SessionBook.getKey] at hh
  -- the store holds no run, so none is left running
  have hrun : ∀ run, freshEpicHost.store.runningRun? "epic-1" = some run → ∀ base i,
      Session.splitId run.sessionId = some (base, i) → base = "epic-1" ++ "_" ++ run.stage.val ∧
        ∀ h, SessionBook.getKey ({} : Conductor).sessions.handles base = some h → h.iteration ≤ i :=
    fun _ hh => by simp [freshEpicHost, Store.runningRun?] at hh
  have h := @Crew.ListsStarts.runEpic_starts_follow_rule (fun t => t.world.invocations) scripted
    scripted_listsStarts hname "epic-1" {} freshEpicHost hfit SessionBook.numbered_empty hrun
  -- the flows are named apart: unifying the postconditions through their text would run them
  generalize scripted.runEpic "epic-1" {} freshEpicHost = drive at h ⊢
  generalize scripted.prepare "epic-1" {} freshEpicHost = prep at h ⊢
  exact ⟨scripted_listsStarts, hname, hfit, SessionBook.numbered_empty, hrun, h⟩

end Crew

/-- A handle wins over a session seeded after it: once `epic-1_BUILD_1` was handed out and the
runs seeded `epic-1_BUILD_5`, a stage that resumes goes on from `epic-1_BUILD_1`, not from the
latest session of the stage. -/
theorem resume_passes_over_seeded :
    Session.splitId "epic-1_BUILD_5" = some ("epic-1_BUILD", 5) ∧
      SessionBook.getKey (NumberingTrail.run Registry.builtin
        [.spawn buildRequest, .seed ["epic-1_BUILD_5"]]).book.seeded "epic-1_BUILD" = some 5 ∧
      (NumberingTrail.run Registry.builtin [.spawn buildRequest, .seed ["epic-1_BUILD_5"]]).book.resumes
        "epic-1_BUILD" true = true ∧
      (NumberingTrail.run Registry.builtin [.spawn buildRequest, .seed ["epic-1_BUILD_5"]]).book.resumedId
        "epic-1_BUILD" = "epic-1_BUILD_1" ∧
      ∃ b' h, (NumberingTrail.run Registry.builtin [.spawn buildRequest, .seed ["epic-1_BUILD_5"]]).book.spawn
          Registry.builtin { buildRequest with resume := true } = .ok (b', h) ∧ h.sessionId = "epic-1_BUILD_1" :=
  ⟨by decide, rfl, rfl, rfl, _, _, rfl, rfl⟩

end EpicFlow
