import Mathlib.Data.List.DropRight
import Mathlib.Data.List.Nodup
import Mathlib.Data.List.Perm.Basic
import Herald.Dispatcher
import Herald.Store.Memory
/-!
Channels that are put in the place of others, by calls side by side. What counts is the order in
which the roster was cleared and added to: all that was placed under an id since it was last cleared
stands, and the first of it is found.
-/

set_option autoImplicit false

namespace Herald

def Report.channels (r : Report) : List String :=
  r.succeeded ++ r.temporary.map (·.1) ++ r.persistent.map (·.1)

namespace Report

theorem channels_addSuccess (r : Report) (id : String) :
    (r.addSuccess id).channels.Perm (r.channels ++ [id]) := by
  simp only [channels, addSuccess, List.append_assoc]
  refine List.Perm.append_left r.succeeded ?_
  rw [← List.append_assoc (r.temporary.map _)]
  exact List.perm_append_comm

theorem channels_addError (r : Report) (id : String) (e : PushError) :
    (r.addError id e).channels.Perm (r.channels ++ [id]) := by
  simp only [channels, addError]
  split
  · simp only [List.map_append, List.map_cons, List.map_nil, List.append_assoc]
    exact List.Perm.append_left _ (List.perm_append_comm.append_left _)
  · simp

end Report

namespace FanOut

variable {σ : Type} (f : FanOut σ) (n : Notification) (p : Preferences)

theorem channels_visit (c : PushChannel σ) (r : Report) (s : σ) :
    (f.visit n p c r s).1.channels.Perm (r.channels ++ [c.id]) := by
  have hrecord (answer : Except PushError Unit) (s : σ) :
      (f.record n c answer r s).1.channels.Perm (r.channels ++ [c.id]) := by
    cases answer with
    | ok => exact r.channels_addSuccess c.id
    | error e => exact r.channels_addError c.id e
  simp only [visit]
  split
  · exact r.channels_addError c.id _
  · exact hrecord _ _
  · exact hrecord _ _

theorem channels_visitAll (cs : List (PushChannel σ)) (r : Report) (s : σ) :
    (f.visitAll n p cs r s).1.channels.Perm (r.channels ++ cs.map (·.id)) := by
  induction cs generalizing r s with
  | nil => simp [visitAll]
  | cons c cs ih =>
    have hv : ((f.visit n p c r s).1.channels ++ cs.map (·.id)).Perm
        (r.channels ++ [c.id] ++ cs.map (·.id)) :=
      (f.channels_visit n p c r s).append_right _
    rw [List.append_assoc] at hv
    exact (ih _ _).trans hv

theorem nodup_channels_run (h : (f.channels.map (·.id)).Nodup) (s : σ) :
    (f.run n p s).1.report.channels.Nodup := by
  have hr : (f.run n p s).1.report = (f.visitAll n p (f.candidates n) .empty s).1 := by
    simp only [run, Outcome.ofReport]
    repeat' split
    all_goals rfl
  rw [hr, (f.channels_visitAll n p _ _ s).nodup_iff]
  simpa [Report.channels, Report.empty] using h.sublist ((f.candidates_sublist n).map (·.id))

end FanOut

namespace Roster

variable {σ : Type}

/-- One step of a call, as the roster sees it. -/
inductive Act (σ : Type) where
  | clear (id : String)
  | place (c : PushChannel σ)

namespace Act

def on (l : List (PushChannel σ)) : Act σ → List (PushChannel σ)
  | clear id => l.filter fun c => !(c.id == id)
  | place c => l ++ [c]

def clears (id : String) : Act σ → Bool
  | clear i => i == id
  | place _ => false

def placed? (id : String) : Act σ → Option (PushChannel σ)
  | clear _ => none
  | place c => if c.id == id then some c else none

end Act

/-- The channels that were placed under the id since it was last cleared, in their order. -/
def since (id : String) (acts : List (Act σ)) : List (PushChannel σ) :=
  (acts.rtakeWhile fun a => !a.clears id).filterMap (Act.placed? id)

theorem filter_foldl_on (id : String) (acts : List (Act σ)) :
    (acts.foldl Act.on []).filter (fun c => c.id == id) = since id acts := by
  induction acts using List.reverseRecOn with
  | nil => rfl
  | append_singleton acts a ih =>
    simp only [List.foldl_append, List.foldl_cons, List.foldl_nil, since,
      List.rtakeWhile_concat] at ih ⊢
    cases a with
    | clear i =>
      by_cases hi : i = id
      · subst hi
        simp [Act.on, Act.clears]
      · have hf : ∀ c : PushChannel σ, (c.id == id && !(c.id == i)) = (c.id == id) := by
          intro c
          by_cases hc : c.id = id
          · simpa [hc] using fun e : id = i => hi e.symm
          · simp [hc]
        simp [Act.on, Act.clears, Act.placed?, hi, List.filter_filter, hf, ih]
    | place c =>
      by_cases hc : c.id = id
      · simp [Act.on, Act.clears, Act.placed?, hc, ih]
      · simp [Act.on, Act.clears, Act.placed?, hc, ih]

namespace Board

variable (b : Board σ)

def act? : Step σ → Option (Act σ)
  | .begin c => some (.clear c.id)
  | .complete i => b.pending[i]?.map .place
  | .dismiss id => some (.clear id)

def acts : Board σ → List (Step σ) → List (Act σ)
  | _, [] => []
  | b, s :: ss => (b.act? s).toList ++ acts (b.step s) ss

/-- No call to enlist a channel begins while another of its id is half-way. -/
def Orderly : Board σ → List (Step σ) → Prop
  | _, [] => True
  | b, s :: ss => (∀ c, s = .begin c → c.id ∉ b.pending.map (·.id)) ∧ Orderly (b.step s) ss

theorem toList_step (s : Step σ) :
    (b.step s).roster.toList = (b.act? s).toList.foldl Act.on b.roster.toList := by
  cases s with
  | begin c => simp [step, act?, clear, Registry.toList_removeWhere, Act.on]
  | complete i => cases hi : b.pending[i]? <;> simp [step, act?, hi, place, Act.on]
  | dismiss id => simp [step, act?, clear, Registry.toList_removeWhere, Act.on]

theorem toList_run (steps : List (Step σ)) :
    (b.run steps).roster.toList = (b.acts steps).foldl Act.on b.roster.toList := by
  induction steps generalizing b with
  | nil => rfl
  | cons s ss ih =>
    simp only [acts, List.foldl_append, ← toList_step]
    exact ih (b.step s)

def Tidy : Prop := (b.roster.ids ++ b.pending.map (·.id)).Nodup

theorem ids_clear (r : Roster σ) (id : String) : (r.clear id).ids = r.ids.filter (· != id) := by
  simp [ids, clear, Registry.toList_removeWhere, List.filter_map, Function.comp_def, bne]

variable {b}

theorem tidy_step (h : b.Tidy) {s : Step σ} (hs : ∀ c, s = .begin c → c.id ∉ b.pending.map (·.id)) :
    (b.step s).Tidy := by
  cases s with
  | begin c =>
    have hc : c.id ∉ b.roster.ids.filter (· != c.id) ++ b.pending.map (·.id) := by
      simpa using hs c rfl
    have hsub : (b.roster.ids.filter (· != c.id) ++ b.pending.map (·.id)).Nodup :=
      h.sublist (List.filter_sublist.append_right _)
    simpa [Tidy, step, ids_clear] using List.Nodup.concat hc hsub
  | complete i =>
    cases hi : b.pending[i]? with
    | none => simpa only [step, hi] using h
    | some c =>
      obtain ⟨hlt, rfl⟩ := List.getElem?_eq_some_iff.1 hi
      -- the id only moves, from those to come to those that stand
      have hp := ((b.pending.getElem_cons_eraseIdx_perm hlt).map (·.id)).append_left b.roster.ids
      have hn := hp.nodup_iff.2 h
      simpa [Tidy, step, hi, ids, place] using hn
  | dismiss id =>
    simp only [Tidy, step, ids_clear]
    exact h.sublist (List.filter_sublist.append_right _)

theorem tidy_run {steps : List (Step σ)} (h : b.Tidy) (ho : b.Orderly steps) :
    (b.run steps).Tidy := by
  induction steps generalizing b with
  | nil => exact h
  | cons s ss ih => exact ih (tidy_step h ho.1) ho.2

end Board

theorem nodup_enlistAll {r : Roster σ} (h : r.ids.Nodup) (cs : List (PushChannel σ)) :
    (cs.foldl enlist r).ids.Nodup := by
  induction cs generalizing r with
  | nil => exact h
  | cons c cs ih =>
    have htidy : (Board.mk r []).Tidy := by simpa [Board.Tidy] using h
    have hrun : ((Board.mk r []).run [.begin c, .complete 0]).Tidy :=
      Board.tidy_run htidy (by simp [Board.Orderly, Board.step])
    rw [Board.run_enlist] at hrun
    exact ih (by simpa [Board.Tidy] using hrun)

theorem nodup_ofParts {S : Type} {parts : Dispatcher.Parts S σ} {d : Dispatcher σ} {s : S}
    (h : Dispatcher.ofParts parts = .ok (d, s)) : d.channels.ids.Nodup := by
  simp only [Dispatcher.ofParts] at h
  repeat' split at h
  all_goals cases h
  exact nodup_enlistAll (by simp [ids, Registry.empty, Registry.toList]) parts.channels

theorem filter_run (r : Roster σ) (steps : List (Step σ)) (id : String) :
    ((Board.mk r []).run steps).roster.toList.filter (fun c => c.id == id) =
      since id (r.toList.map .place ++ (Board.mk r []).acts steps) := by
  have hr (l : List (PushChannel σ)) (m : List (PushChannel σ)) :
      (l.map Act.place).foldl Act.on m = m ++ l := by
    induction l generalizing m with
    | nil => simp
    | cons c l ih => simp [Act.on, ih]
  rw [← filter_foldl_on, List.foldl_append, hr, List.nil_append, Board.toList_run]

theorem length_filter_le_one {cs : List (PushChannel σ)} (h : (cs.map (·.id)).Nodup) (id : String) :
    (cs.filter fun c => c.id == id).length ≤ 1 := by
  have hc := List.nodup_iff_count_le_one.1 h id
  rwa [List.count, List.countP_map, List.countP_eq_length_filter] at hc

/-- Of each id all channels stand that were placed since it was last cleared, and the first of them
is found. If no call to enlist begins while another of its id is half-way, then that is one at most,
so it is the last one placed, and an attempt comes to each id once. -/
theorem stands_since_cleared {S : Type} {parts : Dispatcher.Parts S σ} {d : Dispatcher σ} {s : S}
    (built : Dispatcher.ofParts parts = .ok (d, s)) (steps : List (Step σ)) :
    let start : Board σ := ⟨d.channels, []⟩
    let after := start.run steps
    let acts := d.channels.toList.map .place ++ start.acts steps
    (∀ id, after.roster.toList.filter (fun c => c.id == id) = since id acts ∧
      after.roster.find? (fun c => c.id == id) = (since id acts).head?) ∧
    (start.Orderly steps →
      after.roster.ids.Nodup ∧
      (∀ id, after.roster.find? (fun c => c.id == id) = (since id acts).getLast?) ∧
      ∀ (ignoreFrequency : Bool) (n : Notification) (p : Preferences) (outside : σ),
        (({ d with channels := after.roster }.fanOut ignoreFrequency).run n p
          outside).1.report.channels.Nodup) := by
  intro start after acts
  have stands (id : String) : after.roster.toList.filter (fun c => c.id == id) = since id acts :=
    filter_run d.channels steps id
  have found (id : String) : after.roster.find? (fun c => c.id == id) = (since id acts).head? := by
    rw [← stands, List.head?_filter]
    rfl
  refine ⟨fun id => ⟨stands id, found id⟩, fun ho => ?_⟩
  have htidy : start.Tidy := by simpa [Board.Tidy, start] using nodup_ofParts built
  have hn : after.roster.ids.Nodup := (List.nodup_append.1 (Board.tidy_run htidy ho)).1
  refine ⟨hn, fun id => ?_, fun ignoreFrequency n p outside => ?_⟩
  · have hl := length_filter_le_one hn id
    rw [stands] at hl
    rw [found]
    match since id acts, hl with
    | [], _ => rfl
    | [_], _ => rfl
  · exact FanOut.nodup_channels_run _ n p (by simpa [Dispatcher.fanOut, ids] using hn) outside

def clerk (k : Nat) : PushChannel (List Nat) :=
  .immediate "post" (fun _ => true) (fun _ => true) (some {}) fun _ _ s => (.ok (), s ++ [k])

def office : Dispatcher.Parts MemoryStore (List Nat) :=
  ⟨some .empty, true, some fun _ _ _ => .ok ⟨⟨.text, "", ""⟩, .empty⟩, [clerk 1], [], {}⟩

theorem stands_since_cleared_of_two :
    let steps : List (Step (List Nat)) :=
  [.begin (clerk 2), .dismiss "post", .complete 0, .begin (clerk 3), .complete 0]
    ∃ d s, Dispatcher.ofParts office = .ok (d, s) ∧
      let start : Board (List Nat) := ⟨d.channels, []⟩
      start.Orderly steps ∧ (start.run steps).roster.ids.Nodup := by
  intro steps
  have built : Dispatcher.ofParts office = .ok (_, _) := rfl
  refine ⟨_, _, built, ?_⟩
  have ho : (Board.mk ([clerk 1].foldl enlist .empty) []).Orderly steps := by
    simp [Board.Orderly, steps, Board.step]
  exact ⟨ho, ((stands_since_cleared built steps).2 ho).1⟩

/-- Two calls side by side: both clear, and then both place. The first of the two is found, and an
attempt comes to both. -/
theorem replaced_twice_over :
    let n := Notification.create "ann" "news" .epoch
    ∃ d s, Dispatcher.ofParts office = .ok (d, s) ∧
      let after := (Board.mk d.channels []).run [.begin (clerk 2), .begin (clerk 3),
        .complete 0, .complete 0]
      let f := ({ d with channels := after.roster }).fanOut false
      after.pending.length = 0 ∧ after.roster.ids = ["post", "post"] ∧
        (f.run n { user := "ann" } []).2 = [2, 3] ∧
          (f.run (n.force "post") { user := "ann" } []).2 = [2] :=
  ⟨_, _, rfl, rfl, by decide, by decide, by decide⟩

end Roster

end Herald
