import EpicFlow.Flow

/-!
# Reasoning about jobs

A job runs until it finishes or waits, and after a wait it goes on from whatever world it is
handed. So what a job does can only be said relative to what the world may do meanwhile.
`Flow.Ends env post` says that the outcome of a flow satisfies `post`, for every world that
`env` allows at each wait. It is a weakest precondition: the definition folds over the waits
of the flow, and `Flow.ends_bind` and `Flow.ends_handle` push it through the two ways
flows are joined. `Flow.Ends.solo` reads it back for a job run alone, where only the
clock moves at a wait.

Most of what the engine's jobs do is said by one relation between the state a job starts
from (the world and its own state) and every state it leaves. `Job.Keeps env rel j` says
that every state `j` leaves is related by `rel` to its first one. When `rel` is a
`Guarantee` (it is reflexive and transitive, and every step of the environment, which moves
the world only, is one of its steps), `Keeps` passes through `pure`, `bind`, `throw` and
`tryCatch`, so a job keeps `rel` when each of its steps does. `Job.Keeps.ends_bind` is the
frame rule for the other proofs: after a step that keeps `rel`, the rest of the job is only
known to start from a state related by `rel`.

Main statements:

* `Flow.ends_bind`: the outcome of a joined flow, through the outcome of its first part.
* `Flow.Ends.solo`: a job run alone ends as `Ends` says.
* `Flow.Ends.reaches`: what `Ends` says holds at every end a run of the flow reaches.
* `Job.Keeps.bind`: a job keeps a guarantee when each of its steps does.
* `Job.Keeps.ends_bind`: the frame rule.
-/

set_option autoImplicit false

namespace EpicFlow

/-- A failure has no answer, so whatever is said of every answer holds of it. A lemma rather
than `nofun`, which would build a pattern match over the whole postcondition of the job. -/
theorem error_eq_ok_elim {ε α : Type} {e : ε} {P : α → Prop} (a : α)
    (h : (Except.error e : Except ε α) = .ok a) : P a := by
  cases h

namespace Flow

variable {σ τ ε α β : Type}

/-- The outcome of a flow satisfies `post`, for every world that `env` allows at each of its
waits. -/
def Ends (env : σ → σ → Prop) (post : σ → τ → Except ε α → Prop) : Flow σ τ ε α → Prop
  | done s t r => post s t r
  | wait s _ k => ∀ s', env s s' → Ends env post (k s')

variable {env : σ → σ → Prop}

@[simp]
theorem ends_done (post : σ → τ → Except ε α → Prop) (s : σ) (t : τ) (r : Except ε α) :
    (done s t r).Ends env post ↔ post s t r := Iff.rfl

@[simp]
theorem ends_wait (post : σ → τ → Except ε α → Prop) (s : σ) (w : Nat) (k : σ → Flow σ τ ε α) :
    (wait s w k).Ends env post ↔ ∀ s', env s s' → (k s').Ends env post := Iff.rfl

/-- A weaker postcondition follows from a stronger one. -/
theorem Ends.mono {post post' : σ → τ → Except ε α → Prop} {f : Flow σ τ ε α}
    (h : f.Ends env post) (hpost : ∀ s t r, post s t r → post' s t r) : f.Ends env post' := by
  induction f with
  | done s t r => exact hpost s t r h
  | wait s w k ih => exact fun s' hs' => ih s' (h s' hs')

/-- Two postconditions of one flow hold together. -/
theorem Ends.and {post post' : σ → τ → Except ε α → Prop} {f : Flow σ τ ε α}
    (h : f.Ends env post) (h' : f.Ends env post') :
    f.Ends env (fun s t r => post s t r ∧ post' s t r) := by
  induction f with
  | done s t r => exact ⟨h, h'⟩
  | wait s w k ih => exact fun s' hs' => ih s' (h s' hs') (h' s' hs')

/-- The outcome of a flow joined to `g` is the outcome of `g` after a value, and the
failure itself after a failure. -/
theorem ends_bind (f : Flow σ τ ε α) (g : α → τ → σ → Flow σ τ ε β)
    (post : σ → τ → Except ε β → Prop) :
    (f.bind g).Ends env post ↔ f.Ends env (fun s t r => match r with
      | .ok a => (g a t s).Ends env post
      | .error e => post s t (.error e)) := by
  induction f with
  | done s t r => cases r <;> rfl
  | wait s w k ih => exact forall_congr' fun s' => imp_congr_right fun _ => ih s'

/-- The outcome of a flow whose failures go to `h`. -/
theorem ends_handle (f : Flow σ τ ε α) (h : ε → τ → σ → Flow σ τ ε α)
    (post : σ → τ → Except ε α → Prop) :
    (f.handle h).Ends env post ↔ f.Ends env (fun s t r => match r with
      | .ok a => post s t (.ok a)
      | .error e => (h e t s).Ends env post) := by
  induction f with
  | done s t r => cases r <;> rfl
  | wait s w k ih => exact forall_congr' fun s' => imp_congr_right fun _ => ih s'

/-- Sequencing: a joined flow ends as `post` says when its first part ends in `mid`, and `mid`
leads to `post` through the rest after a value, and at once after a failure. -/
theorem Ends.bind {β : Type} {mid : σ → τ → Except ε α → Prop} {post : σ → τ → Except ε β → Prop}
    {f : Flow σ τ ε α} {g : α → τ → σ → Flow σ τ ε β} (hf : f.Ends env mid)
    (hg : ∀ a t s, mid s t (.ok a) → (g a t s).Ends env post)
    (herr : ∀ e t s, mid s t (.error e) → post s t (.error e)) : (f.bind g).Ends env post := by
  refine (ends_bind f g post).2 (hf.mono fun s t r h => ?_)
  cases r with
  | ok a => exact hg a t s h
  | error e => exact herr e t s h

/-- A postcondition that holds of every end holds at the ends of every flow. -/
theorem Ends.of_forall {post : σ → τ → Except ε α → Prop} (f : Flow σ τ ε α)
    (h : ∀ s t r, post s t r) : f.Ends env post := by
  induction f with
  | done s t r => exact h s t r
  | wait s w k ih => exact fun s' _ => ih s'

/-- A flow that always ends with a value goes on into `g` at each of its ends. -/
theorem Ends.bind_ok {f : Flow σ τ ε α} {g : α → τ → σ → Flow σ τ ε β}
    {post : σ → τ → Except ε β → Prop} (hf : f.Ends env (fun _ _ r => ∃ a, r = .ok a))
    (hg : ∀ a t s, (g a t s).Ends env post) : (f.bind g).Ends env post :=
  hf.bind (fun a t s _ => hg a t s) fun _ _ _ ⟨_, h⟩ => nomatch h

/-- A joined flow ends as `post` says when the rest does after every value and `post` holds of
every failure. -/
theorem Ends.bind_any {f : Flow σ τ ε α} {g : α → τ → σ → Flow σ τ ε β} {post : σ → τ → Except ε β → Prop}
    (hg : ∀ a t s, (g a t s).Ends env post) (herr : ∀ e t s, post s t (.error e)) :
    (f.bind g).Ends env post :=
  (Ends.of_forall f fun _ _ _ => (trivial : True)).bind (fun a t s _ => hg a t s)
    fun e t s _ => herr e t s

/-- A flow can end with the world `s`, its own state `t` and the outcome `r`, when at each of its
waits the world moves as `env` allows: one run of it among others. -/
inductive Reaches (env : σ → σ → Prop) : Flow σ τ ε α → σ → τ → Except ε α → Prop
  | done (s : σ) (t : τ) (r : Except ε α) : Reaches env (.done s t r) s t r
  | wait {s s' s'' : σ} {w : Nat} {k : σ → Flow σ τ ε α} {t : τ} {r : Except ε α} :
      env s s' → Reaches env (k s') s'' t r → Reaches env (.wait s w k) s'' t r

/-- A flow that is already done reaches its end, whatever `env` allows. -/
theorem Reaches.of_eq_done {f : Flow σ τ ε α} {s : σ} {t : τ} {r : Except ε α}
    (h : f = .done s t r) : f.Reaches env s t r :=
  h ▸ .done s t r

/-- What holds at every end of a flow holds at each end one of its runs reaches. -/
theorem Ends.reaches {post : σ → τ → Except ε α → Prop} {f : Flow σ τ ε α} {s : σ} {t : τ}
    {r : Except ε α} (h : f.Ends env post) (hr : f.Reaches env s t r) : post s t r := by
  induction hr with
  | done => exact h
  | wait henv _ ih => exact ih (h _ henv)

/-- Every end of a flow is reached by one of its runs, so a postcondition may name the run that
led to it. -/
theorem ends_reaches (f : Flow σ τ ε α) : f.Ends env fun s t r => f.Reaches env s t r := by
  induction f with
  | done s t r => exact .done s t r
  | wait s w k ih => exact fun s' hs' => (ih s').mono fun _ _ _ h => .wait hs' h

/-- A job run alone ends as `Ends` says, when `env` lets the clock move forward. -/
theorem Ends.solo [Clocked σ] {post : σ → τ → Except ε α → Prop} {f : Flow σ τ ε α}
    (h : f.Ends env post) (hclock : ∀ s w, env s (Clocked.setNow s (max (Clocked.now s) w))) :
    post f.solo.1 f.solo.2.1 f.solo.2.2 := by
  induction f with
  | done s t r => exact h
  | wait s w k ih => exact ih _ (h _ (hclock s w))

end Flow

namespace Job

variable {σ τ ε α β : Type}

@[simp]
theorem pure_apply (a : α) (t : τ) (s : σ) : (pure a : Job σ τ ε α) t s = .done s t (.ok a) := rfl

@[simp]
theorem bind_apply (m : Job σ τ ε α) (f : α → Job σ τ ε β) (t : τ) (s : σ) :
    (m >>= f) t s = (m t s).bind f := rfl

/-- A job that is done at once hands its answer and its states on to the next one. -/
theorem bind_apply_of_done {m : Job σ τ ε α} {f : α → Job σ τ ε β} {t t' : τ} {s s' : σ} {a : α}
    (h : m t s = .done s' t' (.ok a)) : (m >>= f) t s = f a t' s' := by
  rw [bind_apply, h]
  rfl

@[simp]
theorem pure_bind (a : α) (f : α → Job σ τ ε β) : (pure a >>= f : Job σ τ ε β) = f a := rfl

@[simp]
theorem throw_apply (e : ε) (t : τ) (s : σ) : (throw e : Job σ τ ε α) t s = .done s t (.error e) :=
  rfl

@[simp]
theorem throwThe_apply (e : ε) (t : τ) (s : σ) :
    (throwThe ε e : Job σ τ ε α) t s = .done s t (.error e) := rfl

@[simp]
theorem tryCatch_apply (m : Job σ τ ε α) (h : ε → Job σ τ ε α) (t : τ) (s : σ) :
    (tryCatch m h : Job σ τ ε α) t s = (m t s).handle h := rfl

@[simp]
theorem world_apply (t : τ) (s : σ) : (world : Job σ τ ε σ) t s = .done s t (.ok s) := rfl

@[simp]
theorem own_apply (t : τ) (s : σ) : (own : Job σ τ ε τ) t s = .done s t (.ok t) := rfl

@[simp]
theorem modifyWorld_apply (f : σ → σ) (t : τ) (s : σ) :
    (modifyWorld f : Job σ τ ε Unit) t s = .done (f s) t (.ok ()) := rfl

@[simp]
theorem modifyOwn_apply (f : τ → τ) (t : τ) (s : σ) :
    (modifyOwn f : Job σ τ ε Unit) t s = .done s (f t) (.ok ()) := rfl

@[simp]
theorem waitUntil_apply (w : Nat) (t : τ) (s : σ) :
    (waitUntil w : Job σ τ ε Unit) t s = .wait s w fun s' => .done s' t (.ok ()) := rfl

variable {env : σ → σ → Prop}

/-- The outcome of `attempt j` is the outcome of `j`, caught as a value. -/
theorem ends_attempt (j : Job σ τ ε α) (t : τ) (s : σ) (post : σ → τ → Except ε (Except ε α) → Prop) :
    (attempt j t s).Ends env post ↔ (j t s).Ends env (fun s t r => post s t (.ok r)) := by
  -- `attempt` joins `j` to `pure (.ok a)` and handles a failure with `pure (.error e)`.
  have hflow : attempt j t s = ((j t s).bind fun a => (Pure.pure (.ok a) : Job σ τ ε (Except ε α))).handle
      fun e => (Pure.pure (.error e) : Job σ τ ε (Except ε α)) := rfl
  rw [hflow]
  refine (Flow.ends_handle _ _ _).trans ((Flow.ends_bind _ _ _).trans ?_)
  constructor
  · intro h
    refine h.mono fun s t r hr => ?_
    cases r <;> exact hr
  · intro h
    refine h.mono fun s t r hr => ?_
    cases r <;> exact hr

/-- What follows a caught job starts from every outcome of the job, a failure included. -/
theorem ends_attempt_bind {β : Type} (j : Job σ τ ε α) (f : Except ε α → Job σ τ ε β) (t : τ) (s : σ)
    (post : σ → τ → Except ε β → Prop) :
    ((attempt j >>= f) t s).Ends env post ↔ (j t s).Ends env (fun s t r => (f r t s).Ends env post) := by
  rw [bind_apply]
  exact (Flow.ends_bind _ _ _).trans (ends_attempt j t s _)

/-- A relation between states (the world and the job's own state) that jobs can keep step
by step: it is reflexive and transitive, and every step of the environment, which moves the
world and leaves the own state alone, is one of its steps. -/
structure Guarantee (env : σ → σ → Prop) (rel : σ × τ → σ × τ → Prop) : Prop where
  refl : ∀ a, rel a a
  trans : ∀ {a b c}, rel a b → rel b c → rel a c
  env : ∀ {a b} (t : τ), env a b → rel (a, t) (b, t)

/-- Every state `j` leaves, at its waits or at its end, is related by `rel` to the state it
started from. A structure rather than a definition, so that it is never unfolded into the
flow of the job: proofs go through its rules. -/
structure Keeps (env : σ → σ → Prop) (rel : σ × τ → σ × τ → Prop) (j : Job σ τ ε α) : Prop where
  ends : ∀ t s, (j t s).Ends env (fun s' t' _ => rel (s, t) (s', t'))

variable {rel : σ × τ → σ × τ → Prop}

/-- A flow that keeps `rel` from a later state keeps it from an earlier one. -/
theorem Guarantee.ends_from (hg : Guarantee env rel) {a b : σ × τ} {f : Flow σ τ ε α}
    (h0 : rel a b) (h : f.Ends env (fun s' t' _ => rel b (s', t'))) :
    f.Ends env (fun s' t' _ => rel a (s', t')) :=
  h.mono fun _ _ _ h' => hg.trans h0 h'

namespace Keeps

/-- A weaker relation is kept when a stronger one is. -/
theorem mono {rel' : σ × τ → σ × τ → Prop} {j : Job σ τ ε α} (h : Keeps env rel j)
    (hrel : ∀ a b, rel a b → rel' a b) : Keeps env rel' j :=
  ⟨fun t s => (h.ends t s).mono fun _ _ _ h' => hrel _ _ h'⟩

/-- Two relations kept by one job are kept together. -/
theorem and {rel' : σ × τ → σ × τ → Prop} {j : Job σ τ ε α} (h : Keeps env rel j)
    (h' : Keeps env rel' j) : Keeps env (fun a b => rel a b ∧ rel' a b) j :=
  ⟨fun t s => (h.ends t s).and (h'.ends t s)⟩

theorem pure (hg : Guarantee env rel) (a : α) : Keeps env rel (Pure.pure a : Job σ τ ε α) :=
  ⟨fun t s => hg.refl (s, t)⟩

theorem throw (hg : Guarantee env rel) (e : ε) : Keeps env rel (MonadExcept.throw e : Job σ τ ε α) :=
  ⟨fun t s => hg.refl (s, t)⟩

theorem world (hg : Guarantee env rel) : Keeps env rel (Job.world : Job σ τ ε σ) :=
  ⟨fun t s => hg.refl (s, t)⟩

theorem own (hg : Guarantee env rel) : Keeps env rel (Job.own : Job σ τ ε τ) :=
  ⟨fun t s => hg.refl (s, t)⟩

theorem modifyOwn {f : τ → τ} (hf : ∀ s t, rel (s, t) (s, f t)) :
    Keeps env rel (Job.modifyOwn f : Job σ τ ε Unit) :=
  ⟨fun t s => hf s t⟩

theorem modifyWorld {f : σ → σ} (hf : ∀ s t, rel (s, t) (f s, t)) :
    Keeps env rel (Job.modifyWorld f : Job σ τ ε Unit) :=
  ⟨fun t s => hf s t⟩

theorem waitUntil (hg : Guarantee env rel) (w : Nat) : Keeps env rel (Job.waitUntil w : Job σ τ ε Unit) :=
  ⟨fun t _ _ hs' => hg.env t hs'⟩

/-- Either branch of a choice keeps what both branches keep. -/
theorem ite {c : Prop} [Decidable c] {a b : Job σ τ ε α} (ha : Keeps env rel a) (hb : Keeps env rel b) :
    Keeps env rel (if c then a else b) := by
  split
  · exact ha
  · exact hb

/-- A job keeps a guarantee when each of its steps does. -/
theorem bind (hg : Guarantee env rel) {m : Job σ τ ε α} {f : α → Job σ τ ε β} (hm : Keeps env rel m)
    (hf : ∀ a, Keeps env rel (f a)) : Keeps env rel (m >>= f) := by
  refine ⟨fun t s => ?_⟩
  refine (Flow.ends_bind (m t s) f _).2 ((hm.ends t s).mono fun s' t' r h => ?_)
  cases r with
  | ok a => exact hg.ends_from h ((hf a).ends t' s')
  | error e => exact h

/-- Handling a failure keeps a guarantee when the job and the handler do. -/
theorem tryCatch (hg : Guarantee env rel) {m : Job σ τ ε α} {h : ε → Job σ τ ε α}
    (hm : Keeps env rel m) (hh : ∀ e, Keeps env rel (h e)) : Keeps env rel (tryCatch m h) := by
  refine ⟨fun t s => ?_⟩
  refine (Flow.ends_handle (m t s) h _).2 ((hm.ends t s).mono fun s' t' r hr => ?_)
  cases r with
  | ok a => exact hr
  | error e => exact hg.ends_from hr ((hh e).ends t' s')

/-- Catching a job's failure as a value keeps what the job keeps. -/
theorem attempt {j : Job σ τ ε α} (h : Keeps env rel j) :
    Keeps env rel (Job.attempt j) := by
  refine ⟨fun t s => ?_⟩
  exact (ends_attempt j t s _).2 ((h.ends t s).mono fun _ _ _ h' => h')

/-- The frame rule: after a step that keeps `rel`, the rest of the job is only known to
start from a state related by `rel` to the first. -/
theorem ends_bind {m : Job σ τ ε α} {f : α → Job σ τ ε β} {post : σ → τ → Except ε β → Prop}
    {t : τ} {s : σ} (hm : Keeps env rel m)
    (hf : ∀ a t' s', rel (s, t) (s', t') → (f a t' s').Ends env post)
    (herr : ∀ e t' s', rel (s, t) (s', t') → post s' t' (.error e)) : ((m >>= f) t s).Ends env post := by
  refine (Flow.ends_bind (m t s) f post).2 ((hm.ends t s).mono fun s' t' r h => ?_)
  cases r with
  | ok a => exact hf a t' s' h
  | error e => exact herr e t' s' h

/-- The frame rule from a fixed state `a`: a job started in a state that `rel` reaches from
`a` goes on, after a step that keeps `rel`, from another such state. -/
theorem ends_bind_from (hg : Guarantee env rel) {m : Job σ τ ε α} {f : α → Job σ τ ε β}
    {post : σ → τ → Except ε β → Prop} {a : σ × τ} {t : τ} {s : σ} (hm : Keeps env rel m)
    (hab : rel a (s, t)) (hf : ∀ v t' s', rel a (s', t') → (f v t' s').Ends env post)
    (herr : ∀ e t' s', rel a (s', t') → post s' t' (.error e)) : ((m >>= f) t s).Ends env post :=
  hm.ends_bind (fun v t' s' h => hf v t' s' (hg.trans hab h)) fun e t' s' h => herr e t' s' (hg.trans hab h)

end Keeps

/-- `j` keeps `rel`, and every value it answers satisfies `Q` together with the state it
started from. -/
structure Answers (env : σ → σ → Prop) (rel : σ × τ → σ × τ → Prop) (Q : σ × τ → α → Prop)
    (j : Job σ τ ε α) : Prop where
  ends : ∀ t s, (j t s).Ends env (fun s' t' r => rel (s, t) (s', t') ∧ ∀ a, r = .ok a → Q (s, t) a)

namespace Answers

variable {Q Q' : σ × τ → α → Prop}

theorem keeps {j : Job σ τ ε α} (h : Answers env rel Q j) : Keeps env rel j :=
  ⟨fun t s => (h.ends t s).mono fun _ _ _ h' => h'.1⟩

theorem mono {j : Job σ τ ε α} (h : Answers env rel Q j) (hq : ∀ x a, Q x a → Q' x a) :
    Answers env rel Q' j :=
  ⟨fun t s => (h.ends t s).mono fun _ _ _ h' => ⟨h'.1, fun a ha => hq _ a (h'.2 a ha)⟩⟩

theorem pure (hg : Guarantee env rel) {a : α} (hq : ∀ x, Q x a) :
    Answers env rel Q (Pure.pure a : Job σ τ ε α) :=
  ⟨fun t s => ⟨hg.refl (s, t), fun _ ha => by cases ha; exact hq (s, t)⟩⟩

theorem throw (hg : Guarantee env rel) (e : ε) : Answers env rel Q (MonadExcept.throw e : Job σ τ ε α) :=
  ⟨fun t s => ⟨hg.refl (s, t), nofun⟩⟩

/-- Either branch of a choice answers what both branches answer. -/
theorem ite {c : Prop} [Decidable c] {a b : Job σ τ ε α} (ha : Answers env rel Q a)
    (hb : Answers env rel Q b) : Answers env rel Q (if c then a else b) := by
  split
  · exact ha
  · exact hb

/-- A job answers what its last step answers, after steps that keep `rel`, when `Q` carries
back along `rel`. -/
theorem bind (hg : Guarantee env rel) {m : Job σ τ ε α} {f : α → Job σ τ ε β}
    {Q : σ × τ → β → Prop} (hQ : ∀ {a b : σ × τ} {v : β}, rel a b → Q b v → Q a v)
    (hm : Keeps env rel m) (hf : ∀ a, Answers env rel Q (f a)) : Answers env rel Q (m >>= f) := by
  refine ⟨fun t s => Keeps.ends_bind hm (fun a t' s' h => ?_) fun _ _ _ h => ⟨h, nofun⟩⟩
  refine ((hf a).ends t' s').mono fun _ _ _ h' => ⟨hg.trans h h'.1, fun v hv => hQ h (h'.2 v hv)⟩

/-- A job that answers `Q`, started in a state that `rel` reaches from `a`, ends in states that
`rel` reaches from `a`, with answers that satisfy `Q` with `a`, when `Q` carries back along
`rel`. -/
theorem ends_after (hg : Guarantee env rel) (Q : σ × τ → α → Prop)
    (hQ : ∀ {a b : σ × τ} {v : α}, rel a b → Q b v → Q a v) {j : Job σ τ ε α}
    (h : Answers env rel Q j) {a : σ × τ} {s : σ} {t : τ} (hab : rel a (s, t)) :
    (j t s).Ends env (fun s' t' r => rel a (s', t') ∧ ∀ v, r = .ok v → Q a v) :=
  (h.ends t s).mono fun _ _ _ h' => ⟨hg.trans hab h'.1, fun v hv => hQ hab (h'.2 v hv)⟩

/-- A job answers what its first step answers when the rest keeps `rel` and answers the same
value. -/
theorem bind_same (hg : Guarantee env rel) {m : Job σ τ ε α} {f : α → Job σ τ ε α}
    (hm : Answers env rel Q m) (hf : ∀ a, Answers env rel (fun _ b => b = a) (f a)) :
    Answers env rel Q (m >>= f) := by
  refine ⟨fun t s => (Flow.ends_bind (m t s) f _).2 ((hm.ends t s).mono fun s' t' r h => ?_)⟩
  cases r with
  | ok a =>
    refine ((hf a).ends t' s').mono fun _ _ _ h' => ⟨hg.trans h.1 h'.1, fun b hb => ?_⟩
    rw [h'.2 b hb]
    exact h.2 a rfl
  | error e => exact ⟨h.1, nofun⟩

/-- A job answers what its last step answers, when that step is only known to start from a value
of the first step that satisfies `P`. -/
theorem bind_of (hg : Guarantee env rel) {m : Job σ τ ε α} {f : α → Job σ τ ε β} {P : α → Prop}
    {Q : σ × τ → β → Prop} (hQ : ∀ {a b : σ × τ} {v : β}, rel a b → Q b v → Q a v)
    (hm : Answers env rel (fun _ a => P a) m) (hf : ∀ a, P a → Answers env rel Q (f a)) :
    Answers env rel Q (m >>= f) := by
  refine ⟨fun t s => (Flow.ends_bind (m t s) f _).2 ((hm.ends t s).mono fun s' t' r h => ?_)⟩
  cases r with
  | ok a =>
    exact ((hf a (h.2 a rfl)).ends t' s').mono fun _ _ _ h' =>
      ⟨hg.trans h.1 h'.1, fun v hv => hQ h.1 (h'.2 v hv)⟩
  | error e => exact ⟨h.1, nofun⟩

/-- Catching a job's failure as a value answers, for a value, what the job answers. -/
theorem attempt {P : α → Prop} {j : Job σ τ ε α} (h : Answers env rel (fun _ a => P a) j) :
    Answers env rel (fun _ r => ∀ a, r = .ok a → P a) (Job.attempt j) :=
  ⟨fun t s => (ends_attempt j t s _).2 ((h.ends t s).mono fun _ _ _ h' =>
    ⟨h'.1, fun _ hv => by cases hv; exact h'.2⟩)⟩

end Answers

end Job

end EpicFlow
