import Herald.Proofs.Store.Healing
import Herald.Proofs.Store.Requests
import Herald.Proofs.Store.Retention
/-!
The numbers that stores give, one after another and none twice, and the dates when what they hold
was made: no request changes those.
-/

set_option autoImplicit false

namespace Herald

def Reply.given? : Reply → Option Int
  | .number (.ok id) => some id
  | _ => none

namespace Store

variable {S : Type} [Store S] {next : S → Int}

/-- `next` is the number that the store gives next. -/
structure Counting (S : Type) [Store S] (next : S → Int) : Prop where
  given : ∀ (q : Request) (s : S) id, (q.answer s).1.given? = some id →
    id = next s ∧ next (q.answer s).2 = next s + 1
  kept : ∀ (q : Request) (s : S), (q.answer s).1.given? = none → next (q.answer s).2 = next s

/-- All numbers that were given, in their order. -/
theorem Counting.succession (h : Counting S next) (s : S) (qs : List Request) :
    ∃ k : Nat, next (Request.run s qs) = next s + k ∧
      (replies s qs).filterMap Reply.given? = (List.range k).map fun i : Nat => next s + i := by
  induction qs generalizing s with
  | nil => exact ⟨0, by simp [Request.run], by simp [replies]⟩
  | cons q qs ih =>
    obtain ⟨k, hnext, hnumbers⟩ := ih (q.answer s).2
    cases hg : (q.answer s).1.given? with
    | none =>
      rw [h.kept q s hg] at hnext hnumbers
      exact ⟨k, hnext, by rw [replies, List.filterMap_cons_none hg, hnumbers]⟩
    | some id =>
      obtain ⟨rfl, hs⟩ := h.given q s id hg
      rw [hs] at hnext hnumbers
      refine ⟨k + 1, ?_, ?_⟩
      · rw [Request.run, List.foldl_cons, ← Request.run, hnext]
        omega
      · rw [replies, List.filterMap_cons_some hg, hnumbers, List.range_succ_eq_map]
        simp [Int.add_assoc, Int.add_comm 1]

theorem Counting.lt_next (h : Counting S next) {s : S} {qs : List Request} {id : Int}
    (hid : .number (.ok id) ∈ replies s qs) : id < next (Request.run s qs) := by
  obtain ⟨k, hnext, hnumbers⟩ := h.succession s qs
  have hm : id ∈ (replies s qs).filterMap Reply.given? := List.mem_filterMap.2 ⟨_, hid, rfl⟩
  rw [hnumbers] at hm
  obtain ⟨i, hi, rfl⟩ := List.mem_map.1 hm
  have := List.mem_range.1 hi
  omega

end Store

theorem MemoryStore.counting : Store.Counting MemoryStore nextId where
  given q s id h := by
    cases q with
    | save n =>
      cases h
      exact ⟨rfl, rfl⟩
    | _ => cases h
  kept q s h := by
    cases q with
    | save n => cases h
    | update n =>
      simp only [Request.answer, Store.update]
      split
      · rfl
      · split <;> rfl
    | _ => rfl

namespace Table

variable {t t' : Table} {q : Request} {a : Reply}

def RowsFrom (t t' : Table) : Prop :=
  ∀ r ∈ t'.rows, ∃ a ∈ t.rows, a.id = r.id ∧ a.createdAt = r.createdAt

theorem rowsFrom_change (id : Int) {f : Row → Row} (h : ∀ r, (f r).createdAt = r.createdAt) :
    t.RowsFrom (t.change id f) := by
  intro r hr
  obtain ⟨a, ha, rfl⟩ := List.mem_map.1 hr
  refine ⟨a, ha, ?_⟩
  split <;> simp [renewed, h]

/-- What a request does to a table, by what it is answered with. -/
inductive Step (t : Table) : Request → Reply → Table → Prop where
  | added (n : Notification) :
    Step t (.save n) (.number (.ok t.nextId)) (t.append (.ofNotification t.nextId n))
  | kept {q : Request} {r : Reply} {t' : Table} (none : r.given? = none)
    (lastId : t'.lastId = t.lastId) (rows : t.RowsFrom t') : Step t q r t'

namespace Step

theorem refl (none : a.given? = none) : t.Step q a t := .kept none rfl fun r hr => ⟨r, hr, rfl, rfl⟩

theorem nextId_of_given {id : Int} (h : t.Step q a t') (given : a.given? = some id) :
    id = t.nextId ∧ t'.nextId = t.nextId + 1 := by
  cases h with
  | added n =>
    cases given
    exact ⟨rfl, rfl⟩
  | kept none => cases none.symm.trans given

theorem nextId_eq (h : t.Step q a t') (none : a.given? = none) : t'.nextId = t.nextId := by
  cases h with
  | added n => cases none
  | kept _ lastId => exact congrArg (fun k : Nat => (k : Int) + 1) lastId

theorem createdAt {P : Int → Prop} (h : t.Step q a t') (old : ∀ r ∈ t.rows, P r.createdAt)
    (saved : ∀ n, q = .save n → P n.createdAt.toMillis) : ∀ r ∈ t'.rows, P r.createdAt := by
  intro r hr
  cases h with
  | added n =>
    rcases List.mem_append.1 hr with hr | hr
    · exact old r hr
    · rw [List.mem_singleton.1 hr]
      exact saved n rfl
  | kept _ _ rows =>
    obtain ⟨b, hb, -, hd⟩ := rows r hr
    exact hd ▸ old b hb

end Step

theorem step_answer [Objections] (q : Request) (t : Table) :
    t.Step q (q.answer t).1 (q.answer t).2 := by
  cases q with
  | save n =>
    cases hs : Store.save n t with
    | mk a t' =>
      simp only [Request.answer, hs]
      cases a with
      | error f =>
        simp only [Store.save, insert] at hs
        split at hs <;> cases hs
        exact .refl rfl
      | ok id =>
        obtain ⟨rfl, rfl⟩ := eq_of_save hs
        exact .added n
  | update n =>
    cases hu : Store.update n t with
    | mk a t' =>
      simp only [Request.answer, hu]
      cases a with
      | error f => exact eq_of_update_error hu ▸ .refl rfl
      | ok =>
        cases hn : n.id with
        | none =>
          simp only [Store.update, hn] at hu
          cases hu
        | some id =>
          obtain ⟨old, _, rfl⟩ := eq_of_update hn hu
          exact .kept rfl rfl (rowsFrom_change id fun _ => rfl)
  | delete id => exact .kept rfl rfl fun r hr => ⟨r, (List.mem_filter.1 hr).1, rfl, rfl⟩
  | getNext now =>
    obtain ⟨first, healed, -⟩ := t.healed_next now.toMillis
    refine .kept rfl healed.rest.1 fun r hr => ?_
    simp only [Request.answer, Store.getNext, healed.rows, retire] at hr
    obtain ⟨a, ha, rfl⟩ := List.mem_map.1 hr
    refine ⟨a, ha, ?_⟩
    split <;> simp
  | savePreferences | removePreferences => exact .kept rfl rfl fun r hr => ⟨r, hr, rfl, rfl⟩
  | get | getRecent | getPreferences => exact .refl rfl

theorem counting [Objections] : Store.Counting Table nextId where
  given q t _ h := (step_answer q t).nextId_of_given h
  kept q t h := (step_answer q t).nextId_eq h

theorem createdAt_run [Objections] {P : Int → Prop} {qs : List Request}
    (old : ∀ r ∈ t.rows, P r.createdAt) (saved : ∀ n, .save n ∈ qs → P n.createdAt.toMillis) :
    ∀ r ∈ (Request.run t qs).rows, P r.createdAt := by
  induction qs generalizing t with
  | nil => exact old
  | cons q qs ih =>
    have stepped := (step_answer q t).createdAt old fun n hn => saved n (hn ▸ List.mem_cons_self)
    exact ih stepped fun n hn => saved n (List.mem_cons_of_mem q hn)

end Table

end Herald
