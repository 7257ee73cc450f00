import Herald.KeyLock
import Mathlib.Data.List.Dedup
/-!
Claims on keys, step by step and in any order. A task is one call for a key together with the guard
it ends with: whoever has several calls under way is several tasks here.
-/

set_option autoImplicit false

namespace Herald

variable {τ κ : Type}

namespace Claim

variable [DecidableEq τ]

def moved (task : τ) (source target : Phase) (c : Claim τ κ) : Claim τ κ :=
  if c.task = task && c.phase == source then { c with phase := target } else c

@[simp] theorem task_moved (task : τ) (source target : Phase) (c : Claim τ κ) :
    (c.moved task source target).task = c.task := by
  unfold moved; split <;> rfl

@[simp] theorem key_moved (task : τ) (source target : Phase) (c : Claim τ κ) :
    (c.moved task source target).key = c.key := by
  unfold moved; split <;> rfl

@[simp] theorem handle_moved (task : τ) (source target : Phase) (c : Claim τ κ) :
    (c.moved task source target).handle = c.handle := by
  unfold moved; split <;> rfl

theorem phase_moved (task : τ) (source target : Phase) (c : Claim τ κ) :
    (c.moved task source target).phase =
      if c.task = task ∧ c.phase = source then target else c.phase := by
  simp only [moved, Bool.and_eq_true, decide_eq_true_eq, beq_iff_eq]
  split <;> rfl

end Claim

namespace KeyLock

structure Tidy (l : KeyLock τ κ) : Prop where
  keys : (l.handles.map (·.1)).Nodup
  apart : ∀ e ∈ l.handles, ∀ f ∈ l.handles, e.2 = f.2 → e = f
  made : ∀ e ∈ l.handles, e.2 < l.made

/-- Tasks have one claim each. Whoever waits or holds has the handle of the map, and no entry of the
map is without a claim on its key. -/
structure Sound (l : KeyLock τ κ) : Prop extends Tidy l where
  tasks : ∀ c ∈ l.claims, ∀ d ∈ l.claims, c.task = d.task → c = d
  standing : ∀ c ∈ l.claims, c.phase ≠ .leaving → (c.key, c.handle) ∈ l.handles
  wanted : ∀ e ∈ l.handles, ∃ c ∈ l.claims, c.key = e.1
  single : ∀ c ∈ l.claims, ∀ d ∈ l.claims, c.phase = .holding → d.phase = .holding →
    c.handle = d.handle → c = d

theorem Sound.empty : (KeyLock.empty : KeyLock τ κ).Sound := by
  refine ⟨?_, ?_, ?_, ?_, ?_⟩
  · constructor <;> simp [KeyLock.empty]
  all_goals simp [KeyLock.empty]

variable {l : KeyLock τ κ}

theorem isHeld_eq_false {handle : Nat} :
    l.isHeld handle = false ↔ ∀ c ∈ l.claims, c.handle = handle → c.phase ≠ .holding := by
  simp [isHeld]

theorem isShared_iff {handle : Nat} :
    l.isShared handle = true ↔ ∃ c ∈ l.claims, c.handle = handle ∧ c.phase ≠ .leaving := by
  simp [isShared, Claim.isStanding]

section Tasks

variable [DecidableEq τ]

theorem mem_of_claim? {task : τ} {c : Claim τ κ} (h : l.claim? task = some c) :
    c ∈ l.claims ∧ c.task = task := by
  obtain ⟨hm, ht⟩ := List.mem_of_find?_eq_some h, List.find?_some h
  exact ⟨hm, by simpa using ht⟩

theorem claim?_eq_none {task : τ} : l.claim? task = none ↔ ∀ c ∈ l.claims, c.task ≠ task := by
  simp [claim?]

theorem Sound.claim?_task (h : l.Sound) {c : Claim τ κ} (hc : c ∈ l.claims) :
    l.claim? c.task = some c := by
  cases hf : l.claim? c.task with
  | none => exact absurd rfl (claim?_eq_none.1 hf c hc)
  | some d =>
    obtain ⟨hd, ht⟩ := mem_of_claim? hf
    rw [h.tasks d hd c hc ht]

theorem claims_move (task : τ) (source target : Claim.Phase) :
    (l.move task source target).claims = l.claims.map (·.moved task source target) := rfl

theorem claim?_move (task : τ) (source target : Claim.Phase) (other : τ) :
    (l.move task source target).claim? other =
      (l.claim? other).map (·.moved task source target) := by
  simp only [claim?, claims_move, List.find?_map, Function.comp_def, Claim.task_moved]

theorem claim?_move_self {task : τ} {source target : Claim.Phase} {c : Claim τ κ}
    (hc : l.claim? task = some c) (hp : c.phase = source) :
    (l.move task source target).claim? task = some { c with phase := target } := by
  have ht := (mem_of_claim? hc).2
  rw [claim?_move, hc]
  simp [Claim.moved, ht, hp]

theorem claim?_move_of_ne {task other : τ} (h : other ≠ task) (source target : Claim.Phase) :
    (l.move task source target).claim? other = l.claim? other := by
  rw [claim?_move]
  cases hc : l.claim? other with
  | none => rfl
  | some c =>
    have ht := (mem_of_claim? hc).2
    simp [Claim.moved, ht, h]

theorem enter?_eq_some {m : KeyLock τ κ} {task : τ} (h : l.enter? task = some m) :
    ∃ c, l.claim? task = some c ∧ c.phase = .waiting ∧ l.isHeld c.handle = false ∧
      m = l.move task .waiting .holding := by
  unfold enter? at h
  split at h
  · next c hc =>
    split at h
    · next hp =>
      simp only [Bool.and_eq_true, beq_iff_eq, Bool.not_eq_true'] at hp
      exact ⟨c, hc, hp.1, hp.2, (Option.some.inj h).symm⟩
    · cases h
  · cases h

theorem Sound.move (h : l.Sound) {task : τ} {source target : Claim.Phase}
    (hs : target ≠ .leaving → source ≠ .leaving)
    (hf : target = .holding → ∀ c ∈ l.claims, c.task = task → l.isHeld c.handle = false) :
    (l.move task source target).Sound := by
  refine ⟨⟨h.keys, h.apart, h.made⟩, ?tasks, ?standing, ?wanted, ?single⟩
  case tasks =>
    simp only [claims_move, List.mem_map]
    rintro _ ⟨c, hc, rfl⟩ _ ⟨d, hd, rfl⟩ ht
    rw [h.tasks c hc d hd (by simpa using ht)]
  case standing =>
    simp only [claims_move, List.mem_map]
    rintro _ ⟨c, hc, rfl⟩ hp
    rw [Claim.phase_moved] at hp
    simp only [Claim.key_moved, Claim.handle_moved]
    apply h.standing c hc
    split at hp
    · next hm => exact hm.2 ▸ hs hp
    · exact hp
  case wanted =>
    intro e he
    obtain ⟨c, hc, hk⟩ := h.wanted e he
    exact ⟨_, List.mem_map.2 ⟨c, hc, rfl⟩, (Claim.key_moved ..).trans hk⟩
  case single =>
    simp only [claims_move, List.mem_map]
    rintro _ ⟨c, hc, rfl⟩ _ ⟨d, hd, rfl⟩ hpc hpd hh
    rw [Claim.phase_moved] at hpc hpd
    simp only [Claim.handle_moved] at hh
    split at hpc
    · next hmc =>
      split at hpd
      · next hmd => rw [h.tasks c hc d hd (hmc.1.trans hmd.1.symm)]
      · exact absurd hpd (isHeld_eq_false.1 (hf hpc c hc hmc.1) d hd hh.symm)
    · split at hpd
      · next hmd => exact absurd hpc (isHeld_eq_false.1 (hf hpd d hd hmd.1) c hc hh)
      · rw [h.single c hc d hd hpc hpd hh]

/-- A claim that waits joins the others, and perhaps an entry for its key the map. -/
theorem Sound.append {m : KeyLock τ κ} (h : l.Sound) (ht : m.Tidy) {c : Claim τ κ}
    (hn : l.claim? c.task = none) (hp : c.phase = .waiting) (hc : m.claims = l.claims ++ [c])
    (hm : (c.key, c.handle) ∈ m.handles) (hold : ∀ e ∈ l.handles, e ∈ m.handles)
    (hnew : ∀ e ∈ m.handles, e ∈ l.handles ∨ e.1 = c.key) : m.Sound := by
  have hne := claim?_eq_none.1 hn
  have hmem : ∀ d, d ∈ m.claims ↔ d ∈ l.claims ∨ d = c := by simp [hc]
  refine ⟨ht, ?tasks, ?standing, ?wanted, ?single⟩
  case tasks =>
    intro a ha b hb ht
    rcases (hmem a).1 ha with ha | rfl <;> rcases (hmem b).1 hb with hb | rfl
    · exact h.tasks a ha b hb ht
    · exact absurd ht (hne a ha)
    · exact absurd ht.symm (hne b hb)
    · rfl
  case standing =>
    intro a ha hs
    rcases (hmem a).1 ha with ha | rfl
    · exact hold _ (h.standing a ha hs)
    · exact hm
  case wanted =>
    intro e he
    rcases hnew e he with he | he
    · obtain ⟨d, hd, hk⟩ := h.wanted e he
      exact ⟨d, (hmem d).2 (.inl hd), hk⟩
    · exact ⟨c, (hmem c).2 (.inr rfl), he.symm⟩
  case single =>
    intro a ha b hb hpa hpb hh
    rcases (hmem a).1 ha with ha | rfl <;> rcases (hmem b).1 hb with hb | rfl
    · exact h.single a ha b hb hpa hpb hh
    · rw [hp] at hpb; cases hpb
    · rw [hp] at hpa; cases hpa
    · rfl

end Tasks

section Keys

variable [DecidableEq κ]

theorem handle?_eq_some (h : l.Tidy) {key : κ} {handle : Nat} :
    l.handle? key = some handle ↔ (key, handle) ∈ l.handles := by
  have h := h.keys
  simp only [handle?]
  generalize l.handles = es at h
  induction es with
  | nil => simp
  | cons e es ih =>
    obtain ⟨he, hes⟩ := List.nodup_cons.1 h
    by_cases hk : e.1 = key
    · subst hk
      have hn : (e.1, handle) ∉ es := fun hm => he (List.mem_map.2 ⟨_, hm, rfl⟩)
      simp [hn, Prod.ext_iff, eq_comm]
    · have hk' : ¬ (key, handle) = e := fun h => hk (h ▸ rfl)
      simp [hk, hk', ih hes]

theorem handle?_eq_none {key : κ} : l.handle? key = none ↔ ∀ e ∈ l.handles, e.1 ≠ key := by
  simp [handle?]

theorem Tidy.insert (h : l.Tidy) {key : κ} (hk : l.handle? key = none) (claims : List (Claim τ κ)) :
    (KeyLock.mk (l.handles ++ [(key, l.made)]) claims (l.made + 1)).Tidy := by
  have hk := handle?_eq_none.1 hk
  constructor
  case keys =>
    simp only [List.map_append, List.map_cons, List.map_nil]
    refine List.nodup_append.2 ⟨h.keys, by simp, ?_⟩
    simp only [List.mem_map, List.mem_singleton]
    rintro _ ⟨e, he, rfl⟩ _ rfl
    exact hk e he
  case apart =>
    simp only [List.mem_append, List.mem_singleton]
    rintro e (he | rfl) f (hf | rfl) hh
    · exact h.apart e he f hf hh
    · exact absurd hh (Nat.ne_of_lt (h.made e he))
    · exact absurd hh.symm (Nat.ne_of_lt (h.made f hf))
    · rfl
  case made =>
    simp only [List.mem_append, List.mem_singleton]
    rintro e (he | rfl)
    · exact Nat.lt_succ_of_lt (h.made e he)
    · exact Nat.lt_succ_self _

namespace Sound

theorem handle?_key (h : l.Sound) {c : Claim τ κ} (hc : c ∈ l.claims) (hs : c.phase ≠ .leaving) :
    l.handle? c.key = some c.handle :=
  (handle?_eq_some h.toTidy).2 (h.standing c hc hs)

theorem eq_of_holding (h : l.Sound) {c d : Claim τ κ} (hc : c ∈ l.claims) (hd : d ∈ l.claims)
    (hpc : c.phase = .holding) (hpd : d.phase = .holding) (hk : c.key = d.key) : c = d := by
  have h1 := h.handle?_key hc (by simp [hpc])
  have h2 := h.handle?_key hd (by simp [hpd])
  rw [hk, h2] at h1
  exact h.single c hc d hd hpc hpd (Option.some.inj h1).symm

theorem handle?_isSome_iff (h : l.Sound) {key : κ}
    (hs : ∀ c ∈ l.claims, c.key = key → c.phase ≠ .leaving) :
    (l.handle? key).isSome ↔ ∃ c ∈ l.claims, c.key = key := by
  constructor
  · intro hk
    obtain ⟨handle, hk⟩ := Option.isSome_iff_exists.1 hk
    exact h.wanted _ ((handle?_eq_some h.toTidy).1 hk)
  · rintro ⟨c, hc, rfl⟩
    simp [h.handle?_key hc (hs c hc rfl)]

theorem size_eq (h : l.Sound) (hs : ∀ c ∈ l.claims, c.phase ≠ .leaving) :
    l.size = (l.claims.map (·.key)).dedup.length := by
  have hp : (l.handles.map (·.1)).Perm (l.claims.map (·.key)).dedup := by
    refine (List.perm_ext_iff_of_nodup h.keys (List.nodup_dedup _)).2 fun key => ?_
    simp only [List.mem_dedup, List.mem_map]
    constructor
    · rintro ⟨e, he, rfl⟩
      exact h.wanted e he
    · rintro ⟨c, hc, rfl⟩
      exact ⟨_, h.standing c hc (hs c hc), rfl⟩
  simpa [size] using hp.length_eq

end Sound

end Keys

/-- A step of a task. Each is one access to the handles or to the lock of one handle. -/
inductive Step (τ κ : Type) where
  | fetch (task : τ) (key : κ)
  | enter (task : τ)
  /-- A try that found the key taken, or a wait that was cancelled. -/
  | abandon (task : τ)
  | release (task : τ)
  | evict (task : τ)

variable [DecidableEq τ]

def Step.key? (l : KeyLock τ κ) : Step τ κ → Option κ
  | .fetch _ key => some key
  | .enter task | .abandon task | .release task | .evict task => (l.claim? task).map (·.key)

variable [DecidableEq κ]

def after (l : KeyLock τ κ) : Step τ κ → KeyLock τ κ
  | .fetch task key => if (l.claim? task).isSome then l else l.fetch task key
  | .enter task => (l.enter? task).getD l
  | .abandon task => l.abandon task
  | .release task => l.release task
  | .evict task => l.evict task

def run (l : KeyLock τ κ) (steps : List (Step τ κ)) : KeyLock τ κ := steps.foldl after l

theorem unlock_eq_run (task : τ) : l.unlock task = l.run [.release task, .evict task] := rfl

theorem tryLock_eq_run {task : τ} (h : l.claim? task = none) (key : κ) :
    (l.tryLock task key).2 = l.run (.fetch task key ::
      if (l.tryLock task key).1.isSome then [.enter task] else [.abandon task, .evict task]) := by
  cases he : (l.fetch task key).enter? task with
  | none => simp [tryLock, run, after, h, he]
  | some m => simp [tryLock, run, after, h, he]

namespace Sound

theorem fetch (h : l.Sound) {task : τ} (hn : l.claim? task = none) (key : κ) :
    (l.fetch task key).Sound := by
  unfold KeyLock.fetch
  split
  · next handle hk =>
    have hm := (handle?_eq_some h.toTidy).1 hk
    exact h.append ⟨h.keys, h.apart, h.made⟩ hn rfl rfl hm (fun _ he => he) (fun _ he => .inl he)
  · next hk =>
    refine h.append (h.toTidy.insert hk _) (c := ⟨task, key, l.made, .waiting⟩) hn rfl rfl ?_ ?_ ?_
    · simp
    · exact fun e he => List.mem_append_left _ he
    · simp only [List.mem_append, List.mem_singleton]
      rintro e (he | rfl)
      · exact .inl he
      · exact .inr rfl

/-- The handle goes only when no claim refers to it, and the claim that ends is on its key. -/
theorem evict (h : l.Sound) (task : τ) : (l.evict task).Sound := by
  unfold KeyLock.evict
  split
  · exact h
  · next c hc =>
    have hcm := List.mem_of_find?_eq_some hc
    have hcp := List.find?_some hc
    simp only [Bool.and_eq_true, decide_eq_true_eq, beq_iff_eq] at hcp
    refine ⟨⟨?keys, ?apart, ?made⟩, ?tasks, ?standing, ?wanted, ?single⟩
    case keys => exact h.keys.sublist (List.filter_sublist.map _)
    case apart =>
      intro e he f hf
      exact h.apart e (List.mem_of_mem_filter he) f (List.mem_of_mem_filter hf)
    case made => exact fun e he => h.made e (List.mem_of_mem_filter he)
    case tasks =>
      intro a ha b hb
      exact h.tasks a (List.mem_of_mem_filter ha) b (List.mem_of_mem_filter hb)
    case standing =>
      intro a ha hs
      have ham := List.mem_of_mem_filter ha
      refine List.mem_filter.2 ⟨h.standing a ham hs, ?_⟩
      simp only [Bool.or_eq_true]
      exact .inr (isShared_iff.2 ⟨a, ham, rfl, hs⟩)
    case wanted =>
      -- the key's own entry stays only for a claim that shares it
      intro e he
      obtain ⟨he, hkeep⟩ := List.mem_filter.1 he
      by_cases hk : e.1 = c.key
      · simp only [hk, ne_eq, not_true, decide_false, Bool.false_or] at hkeep
        obtain ⟨d, hd, hh, hs⟩ := isShared_iff.1 hkeep
        have hde := h.apart _ (h.standing d hd hs) e he hh
        exact ⟨d, List.mem_filter.2 ⟨hd, by simp [hs]⟩, congrArg Prod.fst hde⟩
      · obtain ⟨d, hd, hdk⟩ := h.wanted e he
        refine ⟨d, List.mem_filter.2 ⟨hd, ?_⟩, hdk⟩
        have hdt : d.task ≠ task := by
          intro ht
          rw [h.tasks d hd c hcm (ht.trans hcp.1.symm)] at hdk
          exact hk hdk.symm
        simp [hdt]
    case single =>
      intro a ha b hb
      exact h.single a (List.mem_of_mem_filter ha) b (List.mem_of_mem_filter hb)

theorem after (h : l.Sound) (s : Step τ κ) : (l.after s).Sound := by
  cases s with
  | fetch task key =>
    simp only [KeyLock.after]
    split
    · exact h
    · next hn => exact h.fetch (by simpa using hn) key
  | enter task =>
    simp only [KeyLock.after]
    cases he : l.enter? task with
    | none => exact h
    | some m =>
      obtain ⟨c, hc, hp, hf, rfl⟩ := enter?_eq_some he
      refine h.move (by decide) fun _ d hd ht => ?_
      obtain ⟨hcm, hct⟩ := mem_of_claim? hc
      rw [h.tasks d hd c hcm (ht.trans hct.symm)]
      exact hf
  | abandon task => exact h.move (by decide) (by simp)
  | release task => exact h.move (by decide) (by simp)
  | evict task => exact h.evict task

theorem run (h : l.Sound) (steps : List (Step τ κ)) : (l.run steps).Sound := by
  induction steps generalizing l with
  | nil => exact h
  | cons s steps ih => exact ih (h.after s)

end Sound

theorem claim?_fetch_of_ne {task other : τ} (h : other ≠ task) (key : κ) :
    (l.fetch task key).claim? other = l.claim? other := by
  unfold fetch
  split <;> simp [claim?, List.find?_append, Ne.symm h]

theorem claim?_fetch_self {task : τ} (h : l.claim? task = none) (key : κ) :
    ∃ handle, (l.fetch task key).claim? task = some ⟨task, key, handle, .waiting⟩ := by
  rw [claim?_eq_none] at h
  have hn : l.claims.find? (fun c => c.task = task) = none := by simpa using h
  unfold fetch
  split
  · next handle _ => exact ⟨handle, by simp [claim?, List.find?_append, hn]⟩
  · exact ⟨l.made, by simp [claim?, List.find?_append, hn]⟩

theorem claim?_evict_of_ne {task other : τ} (h : other ≠ task) :
    (l.evict task).claim? other = l.claim? other := by
  unfold evict
  split
  · rfl
  · simp only [claim?, List.find?_filter]
    congr 1
    funext c
    by_cases hc : c.task = other
    · simp [hc, h]
    · simp [hc]

theorem claim?_evict_self (h : l.Sound) {task : τ} {c : Claim τ κ} (hc : l.claim? task = some c)
    (hp : c.phase = .leaving) : (l.evict task).claim? task = none := by
  obtain ⟨hcm, hct⟩ := mem_of_claim? hc
  rw [claim?_eq_none]
  intro d hd ht
  unfold evict at hd
  split at hd
  · next hn =>
    have := List.find?_eq_none.1 hn c hcm
    simp [hct, hp] at this
  · obtain ⟨hdm, hd⟩ := List.mem_filter.1 hd
    rw [h.tasks d hdm c hcm (ht.trans hct.symm)] at hd
    simp [hct, hp] at hd

omit [DecidableEq τ] in
theorem handle?_fetch_of_ne (task : τ) {key other : κ} (h : key ≠ other) :
    (l.fetch task key).handle? other = l.handle? other := by
  unfold fetch
  split
  · rfl
  · simp [handle?, List.find?_append, h]

theorem handle?_evict_of_ne {task : τ} {other : κ}
    (h : ∀ c ∈ l.claims, c.task = task → c.key ≠ other) :
    (l.evict task).handle? other = l.handle? other := by
  unfold evict
  split
  · rfl
  · next c hc =>
    have hcm := List.mem_of_find?_eq_some hc
    have hcp := List.find?_some hc
    simp only [Bool.and_eq_true, decide_eq_true_eq, beq_iff_eq] at hcp
    have hk := h c hcm hcp.1
    simp only [handle?, List.find?_filter]
    congr 2
    funext e
    by_cases he : e.1 = other
    · simp [he, hk.symm]
    · simp [he]

theorem handle?_after_of_ne (h : l.Sound) {s : Step τ κ} {other : κ} (hk : s.key? l ≠ some other) :
    (l.after s).handle? other = l.handle? other := by
  cases s with
  | fetch task key =>
    simp only [after]
    split
    · rfl
    · exact handle?_fetch_of_ne task fun e => hk (congrArg some e)
  | enter task =>
    simp only [after]
    cases he : l.enter? task with
    | none => rfl
    | some m =>
      obtain ⟨_, _, _, _, rfl⟩ := enter?_eq_some he
      rfl
  | abandon task => rfl
  | release task => rfl
  | evict task =>
    refine handle?_evict_of_ne fun c hc ht he => hk ?_
    subst ht
    simp [Step.key?, h.claim?_task hc, he]

/-- In every order of steps a key is held by one task at most, all who wait for it or hold it share
the handle of the map, the map forgets a key when the last of them is out, and no step on one key
touches the entry of another. -/
theorem run_exclusive (steps : List (Step τ κ)) :
    let l := (KeyLock.empty : KeyLock τ κ).run steps
    (∀ c ∈ l.claims, ∀ d ∈ l.claims, c.phase = .holding → d.phase = .holding →
      c.key = d.key → c = d) ∧
    (∀ c ∈ l.claims, c.phase ≠ .leaving → l.handle? c.key = some c.handle) ∧
    (∀ key, (∀ c ∈ l.claims, c.key = key → c.phase ≠ .leaving) →
      ((l.handle? key).isSome ↔ ∃ c ∈ l.claims, c.key = key)) ∧
    ((∀ c ∈ l.claims, c.phase ≠ .leaving) →
      l.size = (l.claims.map (·.key)).dedup.length ∧ (l.claims = [] → l.isEmpty = true)) ∧
    (∀ (s : Step τ κ) (other : κ), s.key? l ≠ some other →
      (l.after s).handle? other = l.handle? other) := by
  intro l
  have h : l.Sound := Sound.empty.run steps
  refine ⟨fun c hc d hd hpc hpd hk => h.eq_of_holding hc hd hpc hpd hk,
    fun c hc hs => h.handle?_key hc hs,
    fun key hs => h.handle?_isSome_iff hs, fun hs => ⟨h.size_eq hs, fun hn => ?_⟩,
    fun s other hk => handle?_after_of_ne h hk⟩
  have := h.size_eq hs
  rw [hn] at this
  simpa [size, isEmpty] using this

theorem run_exclusive_handed_over :
    let l := (KeyLock.empty : KeyLock Nat Int).run
      [.fetch 0 7, .enter 0, .fetch 1 7, .release 0, .enter 1, .evict 0, .fetch 2 7]
    l.claims = [⟨1, 7, 0, .holding⟩, ⟨2, 7, 0, .waiting⟩] ∧ l.handle? 7 = some 0 ∧ l.size = 1 :=
  have h := run_exclusive (τ := Nat) (κ := Int)
    [.fetch 0 7, .enter 0, .fetch 1 7, .release 0, .enter 1, .evict 0, .fetch 2 7]
  ⟨by decide, h.2.1 ⟨1, 7, 0, .holding⟩ (by decide) (by decide), (h.2.2.2.1 (by decide)).1⟩

end KeyLock

end Herald
