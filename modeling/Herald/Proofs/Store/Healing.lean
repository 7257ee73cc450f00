import Herald.Proofs.Store.Order
import Herald.Store.Table
import Mathlib.Data.List.Nodup
/-!
A queue of which some rows cannot be read. Whoever asks it for the next notification gives up those
that stand before the first one that can be read, and touches nothing else.
-/

set_option autoImplicit false

namespace Herald

namespace Row

variable {a b r : Row}

/-- The text of its bag can be read, and so can the row. -/
def Readable (r : Row) : Prop := (Bag.read? r.params).isSome

instance : DecidablePred Readable :=
  fun r => inferInstanceAs (Decidable ((Bag.read? r.params).isSome = true))

theorem readable_iff [Objections] : r.Readable ↔ ∃ n, r.notification = .ok n := by
  unfold Readable notification
  cases Bag.read? r.params <;> simp

theorem notification_of_not_readable [Objections] (h : ¬ r.Readable) :
    r.notification = .error (.unread .bag r.params) := by
  unfold Readable at h
  unfold notification
  cases hr : Bag.read? r.params with
  | none => rfl
  | some params => simp [hr] at h

def Earlier (a b : Row) : Prop := a.pushDate < b.pushDate ∨ a.pushDate = b.pushDate ∧ a.id < b.id

instance : DecidableRel Earlier := fun a b =>
  inferInstanceAs (Decidable (a.pushDate < b.pushDate ∨ a.pushDate = b.pushDate ∧ a.id < b.id))

theorem Earlier.asymm (h : a.Earlier b) : ¬ b.Earlier a := by
  unfold Earlier at *
  omega

end Row

namespace Table

variable {t t' : Table} {now : Int}

theorem eq_of_id {a b : Row} (ha : a ∈ t.rows) (hb : b ∈ t.rows) (h : a.id = b.id) : a = b := by
  have hn : (t.rows.map (·.id)).Nodup :=
    (List.pairwise_map.2 t.ascending).imp fun h => Int.ne_of_lt h
  exact List.inj_on_of_nodup_map hn ha hb h

theorem earlier_of_head? {r b : Row} (h : t.head? now = some r) (hb : b ∈ t.due now) (hne : b ≠ r) :
    r.Earlier b := by
  rcases inOrder_iff.1 (inOrder_of_earliestOf h hb) with hlt | ⟨he, hle⟩
  · exact .inl hlt
  · have hid : b.id ≠ r.id := fun hid =>
      hne (eq_of_id (List.mem_filter.1 hb).1 (List.mem_filter.1 (mem_of_earliestOf h)).1 hid)
    exact .inr ⟨he, Int.lt_iff_le_and_ne.2 ⟨hle, hid.symm⟩⟩

def look [Objections] (now : Int) (t : Table) : Option (Option Notification) × Table :=
  match t.head? now with
  | none => (some none, t)
  | some r =>
    match r.notification with
    | .ok n => (some (some n), t)
    | .error f => (none, t.giveUp r.id now f)

def looks [Objections] (now : Int) : Nat → Table → Option (Option Notification × Table)
  | 0, _ => none
  | k + 1, t =>
    match t.look now with
    | (some found, t) => some (found, t)
    | (none, t) => looks now k t

/-- The first of the due rows that can be read, if there is one. -/
def IsFirst (now : Int) (t : Table) : Option Row → Prop
  | none => ∀ r ∈ t.due now, ¬ r.Readable
  | some r => r ∈ t.due now ∧ r.Readable ∧ ∀ b ∈ t.due now, b.Readable → b ≠ r → r.Earlier b

/-- Due and unreadable, before the first that is not. -/
def InFront (now : Int) (first : Option Row) (r : Row) : Prop :=
  r.isDue now ∧ ¬ r.Readable ∧ ∀ b ∈ first, r.Earlier b

instance (now : Int) (first : Option Row) : DecidablePred (InFront now first) := fun r =>
  inferInstanceAs (Decidable (r.isDue now = true ∧ ¬ r.Readable ∧ ∀ b ∈ first, r.Earlier b))

def retire [Objections] (now : Int) (first : Option Row) (rows : List Row) : List Row :=
  rows.map fun r =>
    if InFront now first r then
      { r with
        pushState := .undeliverable
        pushDate := now
        pushErrorMessage := some ("cannot decode notification: " ++
          ("Serialization error: " ++ Objections.words .bag r.params)) }
    else r

section GivenUp

variable {r : Row} (h : t.head? now = some r)

include h

theorem rows_giveUp (f : Fault) : (t.giveUp r.id now f).rows =
    t.rows.map fun a => if a = r then a.giveUp now (unreadableText f) else a := by
  have hr := (List.mem_filter.1 (mem_of_earliestOf h)).1
  refine List.map_congr_left fun a ha => if_congr ⟨eq_of_id ha hr, fun h => h ▸ rfl⟩ rfl rfl

theorem mem_due_giveUp (f : Fault) {b : Row} :
    b ∈ (t.giveUp r.id now f).due now ↔ b ∈ t.due now ∧ b ≠ r := by
  simp only [due, rows_giveUp h, List.mem_filter, List.mem_map]
  constructor
  · rintro ⟨⟨a, ha, rfl⟩, hd⟩
    by_cases har : a = r
    · simp [har] at hd
    · simp only [if_neg har] at hd ⊢
      exact ⟨⟨ha, hd⟩, har⟩
  · rintro ⟨⟨hb, hd⟩, hne⟩
    exact ⟨⟨b, hb, if_neg hne⟩, hd⟩

variable (hr : ¬ r.Readable)

include hr

theorem isFirst_of_giveUp (f : Fault) {first : Option Row}
    (hf : (t.giveUp r.id now f).IsFirst now first) :
    t.IsFirst now first := by
  cases first with
  | none =>
    intro b hb
    by_cases hbr : b = r
    · exact hbr ▸ hr
    · exact hf b ((mem_due_giveUp h f).2 ⟨hb, hbr⟩)
  | some c =>
    obtain ⟨hc, hread, hfirst⟩ := hf
    refine ⟨((mem_due_giveUp h f).1 hc).1, hread, fun b hb hbread hbc => ?_⟩
    exact hfirst b ((mem_due_giveUp h f).2 ⟨hb, fun hbr => hr (hbr ▸ hbread)⟩) hbread hbc

theorem retire_giveUp [Objections] {first : Option Row}
    (hf : (t.giveUp r.id now (.unread .bag r.params)).IsFirst now first) :
    retire now first (t.giveUp r.id now (.unread .bag r.params)).rows =
      retire now first t.rows := by
  have hd := mem_of_earliestOf h
  have hfront : InFront now first r := by
    refine ⟨(List.mem_filter.1 hd).2, hr, fun b hb => ?_⟩
    obtain rfl := Option.mem_def.1 hb
    obtain ⟨hbd, hbr⟩ := (mem_due_giveUp h _).1 hf.1
    exact earlier_of_head? h hbd hbr
  simp only [retire, rows_giveUp h, List.map_map]
  refine List.map_congr_left fun a _ => ?_
  by_cases ha : a = r
  · -- it is not due any more, so that it is not given up a second time
    have hno : ¬ InFront now first
      (r.giveUp now (unreadableText (.unread .bag r.params))) := by simp [InFront]
    simp only [Function.comp_apply, ha, if_true, if_neg hno, if_pos hfront]
    rfl
  · simp only [Function.comp_apply, if_neg ha]

end GivenUp

theorem retire_of_none_in_front [Objections] {first : Option Row} {rows : List Row}
    (h : ∀ r ∈ rows, ¬ InFront now first r) : retire now first rows = rows :=
  (List.map_congr_left fun r hr => if_neg (h r hr)).trans (List.map_id' rows)

/-- What was found in the queue, and what was left of it. -/
structure Healed [Objections] (now : Int) (t : Table) (first : Option Row)
    (found : Option Notification) (t' : Table) : Prop where
  isFirst : t.IsFirst now first
  reads : first.map Row.notification = found.map .ok
  rows : t'.rows = retire now first t.rows
  rest : t'.lastId = t.lastId ∧ t'.preferences = t.preferences
  /-- One look more than there are due rows is enough. -/
  rounds : ∀ k, (t.due now).length < k → t.looks now k = some (found, t')

theorem looks_of_look [Objections] {found : Option Notification} (h : t.look now = (some found, t'))
    {k : Nat} (hk : 0 < k) : t.looks now k = some (found, t') := by
  cases k with
  | zero => cases hk
  | succ k => rw [looks, h]

theorem healed_next [Objections] (now : Int) (t : Table) :
    ∃ first, t.Healed now first (t.next now).1 (t.next now).2 ∧
    (t.next now).2.next now = t.next now := by
  fun_induction next now t with
  | case1 t h =>
    have hd : t.due now = [] := earliestOf_eq_none.1 h
    have hl : t.look now = (some none, t) := by rw [look, h]
    refine ⟨none, ⟨?_, rfl, ?_, ⟨rfl, rfl⟩, fun k hk => looks_of_look hl (Nat.zero_lt_of_lt hk)⟩,
      next_of_head?_none h⟩
    · intro r hr
      rw [hd] at hr
      cases hr
    · refine (retire_of_none_in_front fun r hr hf => ?_).symm
      have hm : r ∈ t.due now := List.mem_filter.2 ⟨hr, hf.1⟩
      rw [hd] at hm
      cases hm
  | case2 t r h n hn =>
    have hr : r.Readable := Row.readable_iff.2 ⟨n, hn⟩
    have hl : t.look now = (some (some n), t) := by simp only [look, h, hn]
    refine ⟨some r, ⟨⟨mem_of_earliestOf h, hr, fun b hb _ hne => earlier_of_head? h hb hne⟩,
      ?_, ?_, ⟨rfl, rfl⟩,
      fun k hk => looks_of_look hl (Nat.zero_lt_of_lt hk)⟩, next_of_head?_some h hn⟩
    · rw [Option.map_some, Option.map_some, hn]
    · refine (retire_of_none_in_front fun b hb hf => ?_).symm
      have hbr : b ≠ r := fun hbr => hf.2.1 (hbr ▸ hr)
      exact (earlier_of_head? h (List.mem_filter.2 ⟨hb, hf.1⟩) hbr).asymm (hf.2.2 r rfl)
  | case3 t r h f hf ih =>
    have hr : ¬ r.Readable := fun hr => by
      obtain ⟨n, hn⟩ := Row.readable_iff.1 hr
      cases hn.symm.trans hf
    obtain rfl : f = .unread .bag r.params := by
      cases hf.symm.trans (Row.notification_of_not_readable hr)
      rfl
    obtain ⟨first, healed, hagain⟩ := ih
    refine ⟨first, ⟨isFirst_of_giveUp h hr _ healed.isFirst, healed.reads, ?_, healed.rest,
      fun k hk => ?_⟩, hagain⟩
    · rw [healed.rows, retire_giveUp h hr healed.isFirst]
    · cases k with
      | zero => cases hk
      | succ k =>
        -- the look is paid for by the row that it takes from those due
        have hlt := length_due_giveUp now t h (.unread .bag r.params)
        have hl : t.look now = (none,
          t.giveUp r.id now (.unread .bag r.params)) := by simp only [look, h, hf]
        rw [looks, hl]
        exact healed.rounds k (by omega)

/-- Whatever is stored, the first row that is due and can be read is found, the unreadable ones
before it are given up and all others stay, so that there is nothing left to do for who asks
again. -/
theorem heals_queue [Objections] (t : Table) (now : Instant) : ∃ first found t',
    Store.getNext now t = (.ok found, t') ∧ t.Healed now.toMillis first found t' ∧
      Store.getNext now t' = (.ok found, t') := by
  obtain ⟨first, healed, hagain⟩ := t.healed_next now.toMillis
  refine ⟨first, _, _, rfl, healed, ?_⟩
  simp only [Store.getNext, hagain]

end Table

end Herald
