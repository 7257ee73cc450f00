import Herald.Engine
/-!
Who works for an engine, while any number of calls start and stop its pool side by side. Workers are
hired once at most, and not at all after somebody has come to wait for them; who comes first waits
for all of them, and whoever comes later does not.
-/

set_option autoImplicit false

namespace Herald

variable {S σ α : Type}

section

variable {τ : Type} {xs : List τ} {x y z : τ} {i j : Nat}

theorem getElem?_set_place (place : xs[i]? = some x) : (xs.set i y)[i]? = some y :=
  List.getElem?_set_self (List.getElem?_eq_some_iff.1 place).1

theorem getElem?_set_cases (hj : (xs.set i y)[j]? = some z) :
    (j = i ∧ z = y) ∨ (j ≠ i ∧ xs[j]? = some z) := by
  by_cases hij : i = j
  · subst hij
    have hi : i < xs.length := by simpa using (List.getElem?_eq_some_iff.1 hj).1
    exact .inl ⟨rfl, Option.some.inj (hj.symm.trans (List.getElem?_set_self hi))⟩
  · exact .inr ⟨Ne.symm hij, (List.getElem?_set_ne hij).symm.trans hj⟩

theorem getElem?_of_set (hz : z ≠ y) (hj : (xs.set i y)[j]? = some z) : xs[j]? = some z :=
  (getElem?_set_cases hj).elim (fun h => absurd h.2 hz) fun h => h.2

theorem getElem?_set_of_ne (place : xs[i]? = some x) (hz : z ≠ x) (hj : xs[j]? = some z) :
    (xs.set i y)[j]? = some z := by
  have hij : i ≠ j := by
    rintro rfl
    exact hz (Option.some.inj (hj.symm.trans place))
  exact (List.getElem?_set_ne hij).trans hj

end

namespace Call

def Discreet : Call S σ α → Prop
  | .once f | .stopping _ f => ∀ h, (f h).2.shift = h.shift
  | _ => True

def HasReturned : Call S σ α → Prop
  | .stopping .returned _ | .over _ => True
  | _ => False

def IsApart : Call S σ α → Prop
  | .telling .. | .delivery _ | .over _ => True
  | _ => False

def IsFree : Call S σ α → Prop
  | .starting .returned _ | .stopping .returned _ => True
  | .starting .. | .stopping .. => False
  | _ => True

/-- What a step of a call does to the shift, to the workers and to the call. -/
inductive Turn (count : Nat) (sh : Shift) (ws : List (Worker S σ)) :
    Call S σ α → Shift → List (Worker S σ) → Call S σ α → Prop where
  | aside {c d : Call S σ α} (free : c.IsFree) (apart : d.IsApart) :
    Turn count sh ws c sh ws d
  | declined {f : Hall S σ → α} (cancelled : sh.cancelled = true) :
    Turn count sh ws (.starting .asking f) sh ws (.starting .returned f)
  | admitted {f : Hall S σ → α} :
  Turn count sh ws (.starting .asking f) sh ws (.starting .claiming f)
  | outrun {f : Hall S σ → α} (started : sh.started = true) :
    Turn count sh ws (.starting .claiming f) sh ws (.starting .returned f)
  | claimed {f : Hall S σ → α} (idle : sh.started = false) :
    Turn count sh ws (.starting .claiming f) { sh with started := true } ws (.starting .hiring f)
  | shut {f : Hall S σ → α} (joined : sh.joined = true) :
    Turn count sh ws (.starting .hiring f) sh ws (.starting .returned f)
  | hired {f : Hall S σ → α} (free : sh.joined = false) :
    Turn count sh ws (.starting .hiring f) sh (ws ++ List.replicate count .turning)
      (.starting .returned f)
  | cancelled {f : Hall S σ → α × Hall S σ} :
    Turn count sh ws (.stopping .cancelling f) { sh with cancelled := true } ws
      (.stopping .joining f)
  | missed {f : Hall S σ → α × Hall S σ} (joined : sh.joined = true) :
    Turn count sh ws (.stopping .joining f) { sh with joined := true } ws (.stopping .returned f)
  | joined {f : Hall S σ → α × Hall S σ} (free : sh.joined = false) :
    Turn count sh ws (.stopping .joining f) { sh with joined := true } ws
      (.stopping (.waiting ws.length) f)
  | waits {n : Nat} {f : Hall S σ → α × Hall S σ} :
    Turn count sh ws (.stopping (.waiting n) f) sh ws (.stopping (.waiting n) f)
  | done {n : Nat} {f : Hall S σ → α × Hall S σ}
    (stopped : (ws.take n).all Worker.isStopped = true) :
    Turn count sh ws (.stopping (.waiting n) f) sh ws (.stopping .returned f)

end Call

structure Pool (S σ α : Type) where
  shift : Shift
  workers : List (Worker S σ)
  calls : List (Call S σ α)

/-- What an event does to a pool that hires so many workers. -/
inductive Pool.Stirred (count : Nat) (p : Pool S σ α) : Pool S σ α → Prop where
  | idle : Stirred count p p
  | worked {i : Nat} {w v : Worker S σ} (place : p.workers[i]? = some w)
      (stays : w.isStopped = true → v.isStopped = true) :
    Stirred count p { p with workers := p.workers.set i v }
  | cancelled : Stirred count p { p with shift.cancelled := true }
  | called {i : Nat} {c d : Call S σ α} {sh : Shift} {ws : List (Worker S σ)}
    (place : p.calls[i]? = some c) (turn : c.Turn count p.shift p.workers sh ws d) :
    Stirred count p ⟨sh, ws, p.calls.set i d⟩

namespace Engine

/-- What can happen to an engine: a task takes a step, its end is asked for from outside, or a
worker has waited for so long that it looks by itself. -/
inductive Event where
  | step (t : Task)
  | cancel
  | timeUp (place : Nat)
  deriving DecidableEq, Repr

variable [Store S]

def happen (e : Engine S σ α) : Event → Engine S σ α
  | .step t => e.step t
  | .cancel => { e with hall.shift.cancelled := true }
  | .timeUp i =>
    match e.workers[i]? with
    | some .waiting =>
      { e with workers := e.workers.set i .turning, hall.bell := e.hall.bell.leave i }
    | _ => e

def after (e : Engine S σ α) (events : List Event) : Engine S σ α := events.foldl happen e

def pool (e : Engine S σ α) : Pool S σ α := ⟨e.hall.shift, e.workers, e.calls⟩

variable {e : Engine S σ α}

theorem turn_stepCall (e : Engine S σ α) (i : Nat) {c : Call S σ α} (hc : c.Discreet) :
    e.stepCall i c = e ∨
    ∃ d, c.Turn e.hall.workerCount e.hall.shift e.workers (e.stepCall i c).hall.shift
      (e.stepCall i c).workers d ∧ (e.stepCall i c).calls = e.calls.set i d := by
  have called {e' : Engine S σ α} {d : Call S σ α} (hcs : e'.calls = e.calls.set i d)
      (turn : c.Turn e.hall.workerCount e.hall.shift e.workers e'.hall.shift e'.workers d) :
      e' = e ∨ ∃ d, c.Turn e.hall.workerCount e.hall.shift e.workers e'.hall.shift e'.workers d ∧
        e'.calls = e.calls.set i d := .inr ⟨d, turn, hcs⟩
  have aside {e' : Engine S σ α} {d : Call S σ α} (hs : e'.hall.shift = e.hall.shift)
      (hw : e'.workers = e.workers) (hcs : e'.calls = e.calls.set i d) (free : c.IsFree)
        (apart : d.IsApart) :
      e' = e ∨ ∃ d, c.Turn e.hall.workerCount e.hall.shift e.workers e'.hall.shift e'.workers d ∧
        e'.calls = e.calls.set i d :=
    called hcs (by rw [hs, hw]; exact .aside free apart)
  cases c with
  | once f => exact aside (hc e.hall) rfl rfl trivial trivial
  | keeping source f =>
    simp only [stepCall, Hall.onStore]
    split
    · exact aside rfl rfl rfl trivial trivial
    · split
      · next he =>
        obtain ⟨_, rfl⟩ := Prod.mk.inj he
        exact aside rfl rfl rfl trivial trivial
      · next he =>
        obtain ⟨_, rfl⟩ := Prod.mk.inj he
        exact aside rfl rfl rfl trivial trivial
  | telling n a => exact aside rfl rfl rfl trivial trivial
  | delivery d => exact aside rfl rfl rfl trivial trivial
  | starting s f =>
    cases s with
    | asking =>
      simp only [stepCall, StartCall.step, setCall]
      split
      · next h => exact called rfl (.declined h)
      · exact called rfl .admitted
    | claiming =>
      simp only [stepCall, StartCall.step, setCall]
      split
      · next h => exact called rfl (.outrun h)
      · next h => exact called rfl (.claimed (Bool.eq_false_iff.2 h))
    | hiring =>
      simp only [stepCall, StartCall.step, setCall]
      split
      · next h => exact called rfl (.shut h)
      · next h => exact called rfl (.hired (Bool.eq_false_iff.2 h))
    | returned => exact aside rfl rfl rfl trivial trivial
  | stopping s f =>
    cases s with
    | cancelling => exact called rfl .cancelled
    | joining =>
      simp only [stepCall, StopCall.step, setCall]
      split
      · next h => exact called rfl (.missed h)
      · next h => exact called rfl (.joined (Bool.eq_false_iff.2 h))
    | waiting n =>
      simp only [stepCall, StopCall.step, setCall]
      split
      · next h => exact called rfl (.done h)
      · exact called rfl .waits
    | returned => exact aside (hc e.hall) rfl rfl trivial trivial
  | _ => exact .inl rfl

theorem stirred (hc : ∀ c ∈ e.calls, c.Discreet) (x : Event) :
    e.pool.Stirred e.hall.workerCount (e.happen x).pool := by
  cases x with
  | step t =>
    cases t with
    | worker i =>
      simp only [happen, step]
      split
      · exact .idle
      · next w hi =>
        refine .worked hi fun hs => ?_
        cases w with
        | stopped => rfl
        | _ => cases hs
    | call i =>
      simp only [happen, step]
      split
      · exact .idle
      · next c hi =>
        rcases turn_stepCall e i (hc c (List.mem_of_getElem? hi)) with he | ⟨d, turn, hcs⟩
        · rw [he]
          exact .idle
        · simp only [pool, hcs]
          exact .called hi turn
  | cancel => exact .cancelled
  | timeUp i =>
    simp only [happen]
    split
    · next hi => exact .worked hi nofun
    · exact .idle

end Engine

namespace Pool

variable {p q : Pool S σ α} {count : Nat}

def IsAwaited (p : Pool S σ α) : Prop :=
  ∃ (i n : Nat) (f : Hall S σ → α × Hall S σ), p.calls[i]? = some (.stopping (.waiting n) f)

/-- What holds of the pool between any two events. -/
structure Managed (p : Pool S σ α) : Prop where
  discreet : ∀ c ∈ p.calls, c.Discreet
  started : p.workers ≠ [] → p.shift.started = true
  hiring : ∀ (i : Nat) (f : Hall S σ → α), p.calls[i]? = some (.starting .hiring f) →
    p.shift.started = true ∧ p.workers = [] ∧
      ∀ (j : Nat) (g : Hall S σ → α), p.calls[j]? = some (.starting .hiring g) → j = i
  joining : ∀ (i : Nat) (f : Hall S σ → α × Hall S σ), p.calls[i]? = some (.stopping .joining f) →
    p.shift.cancelled = true
  cancelled : p.shift.joined = true → p.shift.cancelled = true
  waiting : ∀ (i n : Nat) (f : Hall S σ → α × Hall S σ),
    p.calls[i]? = some (.stopping (.waiting n) f) →
    p.shift.joined = true ∧ n = p.workers.length
  awaited : p.shift.joined = true → (∀ w ∈ p.workers, w.isStopped = true) ∨ p.IsAwaited

theorem isStopped_set {i : Nat} {w v : Worker S σ} (place : p.workers[i]? = some w)
    (stays : w.isStopped = true → v.isStopped = true) (hp : ∀ u ∈ p.workers, u.isStopped = true) :
    ∀ u ∈ p.workers.set i v, u.isStopped = true := by
  intro u hu
  rcases List.mem_or_eq_of_mem_set hu with hu | rfl
  · exact hp u hu
  · exact stays (hp w (List.mem_of_getElem? place))

theorem Managed.isStopped_of_take {i n : Nat} {f : Hall S σ → α × Hall S σ} (h : p.Managed)
    (place : p.calls[i]? = some (.stopping (.waiting n) f))
    (stopped : (p.workers.take n).all Worker.isStopped = true) :
    ∀ w ∈ p.workers, w.isStopped = true := by
  obtain ⟨_, rfl⟩ := h.waiting i n f place
  rwa [List.take_length, List.all_eq_true] at stopped

theorem discreet_of_turn {sh : Shift} {ws : List (Worker S σ)} {c d : Call S σ α} (hc : c.Discreet)
    (turn : c.Turn count p.shift p.workers sh ws d) : d.Discreet := by
  cases turn with
  | @aside c d _ apart =>
    cases d with
    | once | keeping | starting | stopping => exact apart.elim
    | _ => trivial
  | cancelled | missed | joined | waits | done => exact hc
  | _ => trivial

namespace Managed

variable {i j n : Nat} {c d : Call S σ α} {sh : Shift} {ws : List (Worker S σ)}

theorem discreet_set (h : p.Managed) (hd : d.Discreet) : ∀ b ∈ p.calls.set i d, b.Discreet := by
  intro b hb
  rcases List.mem_or_eq_of_mem_set hb with hb | rfl
  · exact h.discreet b hb
  · exact hd

theorem hiring_set (h : p.Managed) (hd : ∀ f, d ≠ .starting .hiring f) (j : Nat) (f : Hall S σ → α)
    (hj : (p.calls.set i d)[j]? = some (.starting .hiring f)) :
    p.shift.started = true ∧ p.workers = [] ∧ ∀ (k : Nat) (g : Hall S σ → α),
      (p.calls.set i d)[k]? = some (.starting .hiring g) → k = j := by
  obtain ⟨started, unhired, only⟩ := h.hiring j f (getElem?_of_set (hd f).symm hj)
  exact ⟨started, unhired, fun k g hk => only k g (getElem?_of_set (hd g).symm hk)⟩

theorem joining_set (h : p.Managed) (hd : ∀ f, d ≠ .stopping .joining f) (j : Nat)
    (f : Hall S σ → α × Hall S σ) (hj : (p.calls.set i d)[j]? = some (.stopping .joining f)) :
    p.shift.cancelled = true :=
  h.joining j f (getElem?_of_set (hd f).symm hj)

theorem waiting_set (h : p.Managed) (hd : ∀ n f, d ≠ .stopping (.waiting n) f) (j n : Nat)
    (f : Hall S σ → α × Hall S σ) (hj : (p.calls.set i d)[j]? = some (.stopping (.waiting n) f)) :
    p.shift.joined = true ∧ n = p.workers.length :=
  h.waiting j n f (getElem?_of_set (hd n f).symm hj)

theorem awaited_set (h : p.Managed) (place : p.calls[i]? = some c)
    (hc : ∀ n f, c ≠ .stopping (.waiting n) f) (joined : p.shift.joined = true) :
    (∀ w ∈ p.workers, w.isStopped = true) ∨ (Pool.mk sh ws (p.calls.set i d)).IsAwaited := by
  refine (h.awaited joined).imp_right ?_
  rintro ⟨j, n, f, hj⟩
  exact ⟨j, n, f, getElem?_set_of_ne place (hc n f).symm hj⟩

/-- A call that neither waited nor comes to hire, to join or to wait changes nothing for the
pool. -/
theorem set (h : p.Managed) (place : p.calls[i]? = some c) (hd : d.Discreet)
    (hc : ∀ n f, c ≠ .stopping (.waiting n) f) (hiring : ∀ f, d ≠ .starting .hiring f)
    (joining : ∀ f, d ≠ .stopping .joining f) (waiting : ∀ n f, d ≠ .stopping (.waiting n) f) :
    (Pool.mk p.shift p.workers (p.calls.set i d)).Managed where
  discreet := h.discreet_set hd
  started := h.started
  hiring := h.hiring_set hiring
  joining := h.joining_set joining
  cancelled := h.cancelled
  waiting := h.waiting_set waiting
  awaited := h.awaited_set place hc

theorem claimed {f : Hall S σ → α} (h : p.Managed)
    (place : p.calls[i]? = some (.starting .claiming f))
    (idle : p.shift.started = false) :
    (Pool.mk { p.shift with started := true } p.workers
      (p.calls.set i (.starting .hiring f))).Managed := by
  have unhired : p.workers = [] :=
    Classical.byContradiction fun hn => by simp [h.started hn] at idle
  -- nobody else is about to hire, since nobody has started the pool
  have only {k : Nat} {g : Hall S σ → α}
      (hk : (p.calls.set i (.starting .hiring f))[k]? = some (.starting .hiring g)) : k = i := by
    rcases getElem?_set_cases hk with ⟨rfl, _⟩ | ⟨_, hk⟩
    · rfl
    · exact absurd ((h.hiring k g hk).1.symm.trans idle) (by decide)
  exact {
    discreet := h.discreet_set trivial
    started := fun _ => rfl
    hiring := fun j g hj => ⟨rfl, unhired, fun k g' hk => (only hk).trans (only hj).symm⟩
    joining := h.joining_set nofun
    cancelled := h.cancelled
    waiting := h.waiting_set nofun
    awaited := h.awaited_set place nofun }

theorem hired {f : Hall S σ → α} (h : p.Managed) (place : p.calls[i]? = some (.starting .hiring f))
    (free : p.shift.joined = false) :
    (Pool.mk p.shift ws (p.calls.set i (.starting .returned f))).Managed := by
  obtain ⟨started, _, only⟩ := h.hiring i f place
  have unjoined : p.shift.joined ≠ true := by simp [free]
  refine ⟨h.discreet_set trivial, fun _ => started, fun j g hj => ?_, h.joining_set nofun,
    h.cancelled, fun j n g hj => absurd (h.waiting_set (by nofun) j n g hj).1 unjoined,
    fun hj => absurd hj unjoined⟩
  rcases getElem?_set_cases hj with ⟨_, he⟩ | ⟨hji, hj⟩
  · cases he
  · exact absurd (only j g hj) hji

theorem joined {f : Hall S σ → α × Hall S σ} (h : p.Managed)
    (place : p.calls[i]? = some (.stopping .joining f))
    (hf : Call.Discreet (.stopping .joining f)) : (Pool.mk { p.shift with joined := true } p.workers
      (p.calls.set i (.stopping (.waiting p.workers.length) f))).Managed := by
  refine ⟨h.discreet_set hf, h.started, h.hiring_set nofun, h.joining_set nofun,
    fun _ => h.joining i f place, fun j n g hj => ⟨rfl, ?_⟩,
    fun _ => .inr ⟨i, _, f, getElem?_set_place place⟩⟩
  rcases getElem?_set_cases hj with ⟨_, he⟩ | ⟨_, hj⟩
  · cases he
    rfl
  · exact (h.waiting j n g hj).2

theorem waits {f : Hall S σ → α × Hall S σ} (h : p.Managed)
    (place : p.calls[i]? = some (.stopping (.waiting n) f))
    (hf : Call.Discreet (.stopping (.waiting n) f)) :
    (Pool.mk p.shift p.workers (p.calls.set i (.stopping (.waiting n) f))).Managed := by
  refine ⟨h.discreet_set hf, h.started, h.hiring_set nofun, h.joining_set nofun,
    h.cancelled, fun j m g hj => ?_, fun _ => .inr ⟨i, n, f, getElem?_set_place place⟩⟩
  rcases getElem?_set_cases hj with ⟨_, he⟩ | ⟨_, hj⟩
  · cases he
    exact h.waiting i n f place
  · exact h.waiting j m g hj

theorem worked {w v : Worker S σ} (h : p.Managed) (place : p.workers[i]? = some w)
    (stays : w.isStopped = true → v.isStopped = true) :
    (Pool.mk p.shift (p.workers.set i v) p.calls).Managed where
  discreet := h.discreet
  started := by simpa using h.started
  hiring := by simpa using h.hiring
  joining := h.joining
  cancelled := h.cancelled
  waiting := by simpa using h.waiting
  awaited hj := (h.awaited hj).imp_left (isStopped_set place stays)

theorem turned (h : p.Managed) (place : p.calls[i]? = some c)
    (turn : c.Turn count p.shift p.workers sh ws d) :
    (Pool.mk sh ws (p.calls.set i d)).Managed := by
  have hd : d.Discreet := discreet_of_turn (h.discreet c (List.mem_of_getElem? place)) turn
  cases turn with
  | aside free apart =>
    refine h.set place hd ?_ ?_ ?_ ?_
    · rintro n f rfl
      exact free
    all_goals
      intros
      rintro rfl
      exact apart
  | declined | admitted | outrun | shut => exact h.set place hd nofun nofun nofun nofun
  | claimed idle => exact h.claimed place idle
  | hired free => exact h.hired place free
  | cancelled =>
    exact ⟨h.discreet_set hd, h.started, h.hiring_set nofun, fun _ _ _ => rfl, fun _ => rfl,
      h.waiting_set nofun, h.awaited_set place nofun⟩
  | missed joined =>
    exact ⟨h.discreet_set hd, h.started, h.hiring_set nofun, h.joining_set nofun,
      fun _ => h.cancelled joined, fun j n f hj => ⟨rfl, (h.waiting_set (by nofun) j n f hj).2⟩,
      fun _ => h.awaited_set place nofun joined⟩
  | joined => exact h.joined place hd
  | waits => exact h.waits place hd
  | done stopped =>
    exact ⟨h.discreet_set hd, h.started, h.hiring_set nofun, h.joining_set nofun,
      h.cancelled, h.waiting_set nofun, fun _ => .inl (h.isStopped_of_take place stopped)⟩

end Managed

theorem managed_of_stirred (h : p.Managed) (hs : p.Stirred count q) : q.Managed := by
  cases hs with
  | idle => exact h
  | worked place stays => exact h.worked place stays
  | cancelled =>
    exact ⟨h.discreet, h.started, h.hiring, fun _ _ _ => rfl, fun _ => rfl, h.waiting, h.awaited⟩
  | called place turn => exact h.turned place turn

theorem length_of_stirred (h : p.Managed) (hs : p.Stirred count q)
    (hn : p.workers ≠ [] ∨ p.shift.joined = true) :
    q.workers.length = p.workers.length ∧ (q.workers ≠ [] ∨ q.shift.joined = true) := by
  cases hs with
  | idle | cancelled => exact ⟨rfl, hn⟩
  | worked => exact ⟨List.length_set, by simpa using hn⟩
  | called place turn =>
    cases turn with
    | hired free =>
      exact absurd (hn.resolve_left fun hw => hw (h.hiring _ _ place).2.1) (by simp [free])
    | missed | joined => exact ⟨rfl, .inr rfl⟩
    | _ => exact ⟨rfl, hn⟩

def IsClosed (p : Pool S σ α) : Prop := p.shift.joined = true ∧ ∀ w ∈ p.workers, w.isStopped = true

theorem isClosed_of_stirred (h : p.IsClosed) (hs : p.Stirred count q) : q.IsClosed := by
  obtain ⟨joined, stopped⟩ := h
  cases hs with
  | idle | cancelled => exact ⟨joined, stopped⟩
  | worked place stays => exact ⟨joined, isStopped_set place stays stopped⟩
  | called place turn =>
    cases turn with
    | hired free => exact absurd (joined.symm.trans free) (by decide)
    | missed | joined => exact ⟨rfl, stopped⟩
    | _ => exact ⟨joined, stopped⟩

def HasCome (i : Nat) (p : Pool S σ α) : Prop :=
  p.shift.joined = true ∨ ∃ f : Hall S σ → α × Hall S σ,
    p.calls[i]? = some (.stopping .cancelling f) ∨ p.calls[i]? = some (.stopping .joining f)

theorem hasCome_of_stirred {i : Nat} (h : p.HasCome i) (hs : p.Stirred count q) : q.HasCome i := by
  cases hs with
  | idle => exact h
  | worked | cancelled => exact h
  | @called j c d sh ws place turn =>
    by_cases hij : i = j
    · subst hij
      have self : (p.calls.set i d)[i]? = some d := getElem?_set_place place
      cases turn with
      | cancelled => exact .inr ⟨_, .inr self⟩
      | missed | joined => exact .inl rfl
      | aside free =>
        refine .inl (h.resolve_right ?_)
        rintro ⟨f, hf | hf⟩
        all_goals
          cases place.symm.trans hf
          exact free
      | _ =>
        refine .inl (h.resolve_right ?_)
        rintro ⟨f, hf | hf⟩
        all_goals cases place.symm.trans hf
    · have other : (p.calls.set j d)[i]? = p.calls[i]? := List.getElem?_set_ne (Ne.symm hij)
      rcases h with joined | ⟨f, hf⟩
      · refine .inl ?_
        cases turn with
        | missed | joined => rfl
        | _ => exact joined
      · exact .inr ⟨f, by rw [other]; exact hf⟩

def Waits (i : Nat) (p : Pool S σ α) : Prop :=
  (∃ (n : Nat) (f : Hall S σ → α × Hall S σ), p.calls[i]? = some (.stopping (.waiting n) f)) ∨
    p.IsClosed

theorem waits_of_stirred {i : Nat} (h : p.Managed) (hi : p.Waits i)
    (hs : p.Stirred count q) : q.Waits i := by
  rcases hi with ⟨n, f, hi⟩ | hc
  · cases hs with
    | idle => exact .inl ⟨n, f, hi⟩
    | worked | cancelled => exact .inl ⟨n, f, hi⟩
    | @called j c d sh ws place turn =>
      by_cases hij : i = j
      · subst hij
        obtain rfl : c = .stopping (.waiting n) f := Option.some.inj (place.symm.trans hi)
        cases turn with
        | aside free => exact free.elim
        | waits => exact .inl ⟨n, f, getElem?_set_place hi⟩
        | done stopped => exact .inr ⟨(h.waiting i n f hi).1, h.isStopped_of_take hi stopped⟩
      · exact .inl ⟨n, f, (List.getElem?_set_ne (Ne.symm hij)).trans hi⟩
  · exact .inr (isClosed_of_stirred hc hs)

end Pool

namespace Engine

variable [Store S] {e : Engine S σ α}

theorem pool_after {P : Pool S σ α → Prop}
    (hP : ∀ (count : Nat) (p q : Pool S σ α), p.Managed → P p →
    p.Stirred count q → P q) (h : e.pool.Managed) (he : P e.pool) (xs : List Event) :
    (e.after xs).pool.Managed ∧ P (e.after xs).pool := by
  induction xs generalizing e with
  | nil => exact ⟨h, he⟩
  | cons x xs ih =>
    have hs := stirred h.discreet x
    exact ih (Pool.managed_of_stirred h hs) (hP _ _ _ h he hs)

theorem length_after (h : e.pool.Managed) (hn : e.workers ≠ [] ∨ e.hall.shift.joined = true)
    (xs : List Event) : (e.after xs).workers.length = e.workers.length := by
  have hp := pool_after (P := fun p => p.workers.length = e.workers.length ∧
    (p.workers ≠ [] ∨ p.shift.joined = true)) ?_ h ⟨rfl, hn⟩ xs
  · exact hp.2.1
  · intro count p q hm hp hs
    obtain ⟨hl, hq⟩ := Pool.length_of_stirred hm hs hp.2
    exact ⟨hl.trans hp.1, hq⟩

end Engine

end Herald
