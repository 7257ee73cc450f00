import Herald.Proofs.FanOut.Reordering
/-!
Channels and listeners in a world with something beside their own, which they leave alone; and one
channel that may know of it, among them.
-/

set_option autoImplicit false

namespace Herald

section Beside

variable {σ τ ε : Type}

def Listener.beside (l : Listener ε σ) : Listener ε (σ × τ) :=
  ⟨fun e s =>
    let (h, t) := l.hear e s.1
    (h, t, s.2)⟩

def PushChannel.beside (c : PushChannel σ) : PushChannel (σ × τ) where
  id := c.id
  accepts := c.accepts
  isConfigured := c.isConfigured
  defaults := c.defaults
  pauses := c.pauses
  start n d s := (c.start n d s.1, s.2)
  finish n d s :=
    let (answer, t) := c.finish n d s.1
    (answer, t, s.2)

theorem Listener.tellAll_beside (ls : List (Listener ε σ)) (e : ε) (s : σ) (x : τ) :
    tellAll (ls.map .beside) e (s, x) = (tellAll ls e s, x) := by
  induction ls generalizing s with
  | nil => rfl
  | cons l ls ih => simp [beside, ih]

namespace FanOut

/-- With the listeners and the content of `f`, and channels that may know what stands beside its
world. -/
def beside (f : FanOut σ) (channels : List (PushChannel (σ × τ))) : FanOut (σ × τ) where
  channels := channels
  produce := f.produce
  listeners := f.listeners.map .beside
  ignoreFrequency := f.ignoreFrequency

variable (f : FanOut σ) (n : Notification) (p : Preferences) (channels : List (PushChannel (σ × τ)))

theorem record_beside {c : PushChannel σ} {c' : PushChannel (σ × τ)} (h : c'.id = c.id)
    (answer : Except PushError Unit) (r : Report) (s : σ) (x : τ) :
    (f.beside channels).record n c' answer r (s, x) =
      (r.add c.id answer, (f.record n c answer r s).2, x) := by
  cases answer with
  | ok u => simp [record, Report.add, h]
  | error e =>
    have ht := Listener.tellAll_beside f.listeners ⟨n, c.id, e⟩ s x
    simp only [record, tell, h, Report.add]
    exact congrArg (r.addError c.id e, ·) ht

theorem visit_beside (c : PushChannel σ) (r : Report) (s : σ) (x : τ) :
    (f.beside channels).visit n p c.beside r (s, x) =
      ((f.visit n p c r s).1, (f.visit n p c r s).2, x) := by
  have hv : (f.beside channels).verdict n p c.beside = f.verdict n p c := rfl
  have hr (answer : Except PushError Unit) (t : σ) :
      (f.beside channels).record n c.beside answer r (t, x) =
        ((f.record n c answer r t).1, (f.record n c answer r t).2, x) := by
    rw [f.record_beside n channels rfl, (f.record_recorded n c answer r t []).1]
  simp only [visit, hv]
  split
  · rfl
  · exact hr _ s
  · exact hr _ _

theorem visitAll_beside (cs : List (PushChannel σ)) (r : Report) (s : σ) (x : τ) :
    (f.beside channels).visitAll n p (cs.map .beside) r (s, x) =
      ((f.visitAll n p cs r s).1, (f.visitAll n p cs r s).2, x) := by
  induction cs generalizing r s with
  | nil => rfl
  | cons c cs ih => simp only [List.map_cons, visitAll, visit_beside, ih]

theorem candidates_beside (cs : List (PushChannel σ)) :
    (f.beside (τ := τ) (cs.map .beside)).candidates n =
      ({ f with channels := cs }.candidates n).map .beside := by
  simp only [candidates]
  cases n.forced? with
  | none => rfl
  | some id =>
    simp [beside, List.find?_map, Function.comp_def, PushChannel.beside, Option.toList_map]

theorem visitAll_append (cs ds : List (PushChannel σ)) (r : Report) (s : σ) :
    f.visitAll n p (cs ++ ds) r s =
      f.visitAll n p ds (f.visitAll n p cs r s).1 (f.visitAll n p cs r s).2 := by
  induction cs generalizing r s with
  | nil => rfl
  | cons c cs ih => simp only [List.cons_append, visitAll, ih]

theorem visitAll_answers (cs : List (PushChannel σ))
    (l : List (String × Except PushError Unit)) (s : σ) :
    ∃ l', (f.visitAll n p cs (.ofAnswers l) s).1 = .ofAnswers (l ++ l') ∧
      l'.map (·.1) = cs.map (·.id) := by
  obtain ⟨fates, rfl, -, h, -⟩ := f.visitAll_recorded n p cs l s []
  exact ⟨answers fates, h, by simp [answers]⟩

/-- The notification comes to the channel of this id behind `before`. -/
def Comes (n : Notification) (before : List (PushChannel σ)) (id : String) : Prop :=
  ∀ forced, n.forced? = some forced → forced = id ∧ ∀ b ∈ before, b.id ≠ id

def alongside {α : Type} (n : Notification) (cs : List α) : List α :=
  if n.forced?.isNone then cs else []

theorem map_alongside {α β : Type} (g : α → β) (n : Notification) (cs : List α) :
    (alongside n cs).map g = alongside n (cs.map g) := by
  unfold alongside
  split <;> rfl

theorem alongside_subset {α : Type} (n : Notification) (cs : List α) : alongside n cs ⊆ cs := by
  unfold alongside
  split <;> simp

variable {f n} {before after : List (PushChannel σ)} {c : PushChannel σ}

theorem comes_beside {id : String} : Comes n (before.map (.beside (τ := τ))) id ↔
    Comes n before id := by
  simp [Comes, PushChannel.beside]

theorem candidates_of_comes (h : f.channels = before ++ c :: after) (comes : Comes n before c.id) :
    f.candidates n = alongside n before ++ c :: alongside n after := by
  cases hn : n.forced? with
  | none => simp [candidates, alongside, hn, h]
  | some id =>
    obtain ⟨rfl, hb⟩ := comes id hn
    have hnone : before.find? (fun b => b.id == c.id) = none := by simpa using hb
    simp [candidates, alongside, hn, h, List.find?_append, hnone]

theorem candidates_of_not_comes (h : f.channels = before ++ c :: after)
    (comes : ¬ Comes n before c.id) :
    f.candidates n = { f with channels := before ++ after }.candidates n := by
  cases hn : n.forced? with
  | none => exact absurd (fun forced hf => by rw [hn] at hf; cases hf) comes
  | some id =>
    by_cases hc : c.id = id
    · have hb : ∃ b ∈ before, b.id = id := by
        by_contra hb
        refine comes fun forced hf => ?_
        cases hn.symm.trans hf
        exact ⟨hc.symm, fun b hm he => hb ⟨b, hm, he.trans hc⟩⟩
      obtain ⟨b, hm, hb⟩ := hb
      have hs : (before.find? fun b => b.id == id).isSome = true := by
        rw [List.find?_isSome]
        exact ⟨b, hm, by simpa using hb⟩
      simp [candidates, hn, h, List.find?_append, Option.or_of_isSome hs]
    · simp [candidates, hn, h, List.find?_append, hc]

end FanOut

end Beside

end Herald
