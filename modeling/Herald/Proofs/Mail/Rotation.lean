import Herald.Channel.Mail
import Mathlib.Data.Int.CardIntervalMod
import Mathlib.Data.List.Rotate
/-!
Mail clients in rotation. Every mail is first tried by the client whose turn it is and then by those
behind it, once each, until one takes it; so of mails that are taken at once every client gets its
share.
-/

set_option autoImplicit false

namespace Herald.MailClient

structure Try where
  client : Nat
  answer : Except MailError Unit
  deriving DecidableEq

structure Sent where
  tries : List Try
  answer : Except MailError Unit
  deriving DecidableEq

variable {σ : Type} {clients : List (MailClient σ)} {count n k : Nat}
    {temporary : Bool} {last : String}
  {places : List Nat} {tries : List Try} {answer : Except MailError Unit}

def noted (c : MailClient σ) (place : Nat) : MailClient (σ × List Try) :=
  ⟨fun m s =>
    let (answer, t) := c.send m s.1
    (answer, t, s.2 ++ [⟨place, answer⟩])⟩

def notedAll (clients : List (MailClient σ)) : List (MailClient (σ × List Try)) :=
  clients.zipIdx.map fun c => c.1.noted c.2

/-- The clients at these places fail one after another until one takes the mail or none is left. -/
inductive Tried (count : Nat) : Bool → String → List Nat → List Try →
    Except MailError Unit → Prop where
  | exhausted (temporary : Bool) (last : String) :
    Tried count temporary last [] [] (.error (allFailed count temporary last))
  | taken (temporary : Bool) (last : String) (place : Nat) (places : List Nat) :
    Tried count temporary last (place :: places) [⟨place, .ok ()⟩] (.ok ())
  | failed (temporary : Bool) (last : String) (place : Nat) {places : List Nat} {e : MailError}
    {tries : List Try} {answer : Except MailError Unit}
    (rest : Tried count (temporary || e.temporary) e.message places tries answer) :
    Tried count temporary last (place :: places) (⟨place, .error e⟩ :: tries) answer

@[simp] theorem send_beside {τ : Type} (c : MailClient σ) (m : Mail) (x : τ) (s : σ) :
    c.beside.send m (x, s) = ((c.send m s).1, x, (c.send m s).2) := rfl

@[simp] theorem send_noted (c : MailClient σ) (place : Nat) (m : Mail) (s : σ) (log : List Try) :
    (c.noted place).send m (s, log) =
      ((c.send m s).1, (c.send m s).2, log ++ [⟨place, (c.send m s).1⟩]) := rfl

theorem tryEach_of_ok {c : MailClient σ} {m : Mail} {s t : σ} (h : c.send m s = (.ok (), t))
    (count : Nat) (cs : List (MailClient σ)) (temporary : Bool) (last : String) :
    tryEach count m (c :: cs) temporary last s = (.ok (), t) := by
  simp [tryEach, h]

theorem tryEach_of_error {c : MailClient σ} {m : Mail} {s t : σ} {e : MailError}
    (h : c.send m s = (.error e, t))
    (count : Nat) (cs : List (MailClient σ)) (temporary : Bool) (last : String) :
    tryEach count m (c :: cs) temporary last s =
      tryEach count m cs (temporary || e.temporary) e.message t := by
  simp [tryEach, h]

theorem tried_tryEach (count : Nat) (m : Mail) (cs : List (MailClient σ × Nat)) (temporary : Bool)
    (last : String) (k : UInt64) (s : σ) (log : List Try) :
    ∃ tries answer t, Tried count temporary last (cs.map (·.2)) tries answer ∧
      tryEach count m (cs.map fun c => c.1.beside) temporary last (k, s) = (answer, k, t) ∧
      tryEach count m (cs.map fun c => (c.1.noted c.2).beside) temporary last (k, s, log) =
        (answer, k, t, log ++ tries) := by
  induction cs generalizing temporary last s log with
  | nil => exact ⟨[], _, s, .exhausted temporary last, rfl, by simp [tryEach]⟩
  | cons c cs ih =>
    cases hc : c.1.send m s with
    | mk a t =>
      cases a with
      | ok u =>
        refine ⟨[⟨c.2, .ok ()⟩], .ok (), t, .taken temporary last c.2 _, ?_, ?_⟩
        · rw [List.map_cons, tryEach_of_ok (t := (k, t)) (by simp [hc])]
        · rw [List.map_cons, tryEach_of_ok (t := (k, t, log ++ [⟨c.2, .ok ()⟩])) (by simp [hc])]
      | error e =>
        obtain ⟨tries, answer, u, ht, hplain, hnoted⟩ :=
          ih (temporary || e.temporary) e.message t (log ++ [⟨c.2, .error e⟩])
        refine ⟨⟨c.2, .error e⟩ :: tries, answer, u, ht.failed temporary last c.2, ?_, ?_⟩
        · rw [List.map_cons, tryEach_of_error (e := e) (t := (k, t)) (by simp [hc]), hplain]
        · rw [List.map_cons, tryEach_of_error (e := e)
            (t := (k, t, log ++ [⟨c.2, .error e⟩])) (by simp [hc]),
            hnoted]
          simp

theorem rotateLeft_eq_rotate {α : Type} (l : List α) (k : Nat) : l.rotateLeft k = l.rotate k := by
  rw [List.rotate_eq_drop_append_take_mod, List.rotateLeft]
  split
  · next h =>
    cases l with
    | nil => simp
    | cons a l =>
      have hl : l = [] := by simpa using h
      simp [hl, Nat.mod_one]
  · rfl

theorem inTurn_map {α : Type} (f : α → MailClient σ) (l : List α) (k : Nat) :
    inTurn (l.map f) k = (l.rotate k).map f := by
  rw [inTurn, rotateLeft_eq_rotate, List.map_rotate]

def circle (n k : Nat) : List Nat := (List.range n).map fun i => (k + i) % n

theorem circle_eq_rotate (n k : Nat) : circle n k = (List.range n).rotate k := by
  apply List.ext_getElem
  · simp [circle]
  · intro i _ _
    simp [circle, List.getElem_rotate, Nat.add_comm]

theorem map_snd_rotate (clients : List (MailClient σ)) (k : Nat) :
    (clients.zipIdx.rotate k).map (·.2) = circle clients.length k := by
  have h : clients.zipIdx.map Prod.snd = List.range' 0 clients.length :=
    List.zipIdx_map_snd 0 clients
  rw [List.map_rotate, circle_eq_rotate, List.range_eq_range', h]

theorem map_beside_zipIdx (clients : List (MailClient σ)) :
    clients.map (beside (τ := UInt64)) = clients.zipIdx.map fun c => c.1.beside := by
  have h : clients.zipIdx.map Prod.fst = clients := List.zipIdx_map_fst 0 clients
  calc clients.map beside = (clients.zipIdx.map Prod.fst).map beside := by rw [h]
    _ = clients.zipIdx.map fun c => c.1.beside := List.map_map

theorem send_rotation (present : clients ≠ []) (m : Mail) (k : UInt64) (s : σ) (log : List Try) :
    ∃ tries answer t, Tried clients.length false "" (circle clients.length k.toNat) tries answer ∧
      (rotation clients).send m (k, s) = (answer, k + 1, t) ∧
      (rotation (notedAll clients)).send m (k, s, log) = (answer, k + 1, t, log ++ tries) := by
  obtain ⟨tries, answer, t, ht, hplain, hnoted⟩ :=
    tried_tryEach clients.length m (clients.zipIdx.rotate k.toNat) false "" (k + 1) s log
  rw [map_snd_rotate] at ht
  refine ⟨tries, answer, t, ht, ?_, ?_⟩
  · simpa [rotation, roundRobin, nextTurn, present, map_beside_zipIdx, inTurn_map] using hplain
  · simpa [rotation, roundRobin, nextTurn, present, notedAll, inTurn_map,
      Function.comp_def] using hnoted

namespace Tried

theorem inOrder (h : Tried count temporary last places tries answer) :
    tries.map (·.client) = places.take tries.length := by
  induction h with
  | exhausted => rfl
  | taken => simp
  | failed _ _ _ _ ih => simp [ih]

theorem refused (h : Tried count temporary last places tries answer) :
    ∀ t ∈ tries.dropLast, ∃ e, t.answer = .error e := by
  induction h with
  | exhausted => simp
  | taken => simp
  | @failed temporary last place places e tries answer rest ih =>
    cases tries with
    | nil => simp
    | cons t tries =>
      intro u hu
      rcases List.mem_cons.1 hu with hu | hu
      · exact ⟨e, by rw [hu]⟩
      · exact ih u hu

theorem taken_iff (h : Tried count temporary last places tries answer) :
    answer = .ok () ↔ ∃ t ∈ tries, t.answer = .ok () := by
  induction h with
  | exhausted => simp
  | taken => simp
  | failed _ _ _ _ ih => simp [ih]

theorem length_le (h : Tried count temporary last places tries answer) :
    tries.length ≤ places.length := by
  induction h with
  | exhausted => simp
  | taken => simp
  | failed _ _ _ _ ih => simpa using ih

theorem takenOnce (h : Tried count temporary last places tries answer) :
    (tries.filter fun t => t.answer.isOk).length ≤ 1 := by
  induction h with
  | exhausted => simp
  | taken => simp [Except.isOk, Except.toBool]
  | failed _ _ _ _ ih => simpa [Except.isOk, Except.toBool] using ih

/-- After a failure of all of them nobody is left, and of what was said before the tries nothing
counts but that a failure may pass. -/
theorem failure {e : MailError} (h : Tried count temporary last places tries (.error e)) :
    tries.length = places.length ∧
      (e.temporary = true ↔
        temporary = true ∨ ∃ t ∈ tries, ∃ f, t.answer = .error f ∧ f.temporary = true) ∧
      ∃ said, e.message = (allFailed count temporary said).message ∧ (tries = [] → said = last) ∧
        ∀ t ∈ tries.getLast?, ∃ f, t.answer = .error f ∧ f.message = said := by
  generalize ha : (Except.error e : Except MailError Unit) = answer at h
  induction h with
  | exhausted temporary last =>
    cases ha
    exact ⟨rfl, by simp [allFailed], last, rfl, by simp, by simp⟩
  | taken => cases ha
  | @failed temporary last place places f tries answer rest ih =>
    obtain ⟨hlength, htemporary, said, hmessage, hnone, hlast⟩ := ih ha
    refine ⟨by simp [hlength], ?_, said, hmessage, by simp, ?_⟩
    · rw [htemporary]
      simp [or_assoc]
    · cases tries with
      | nil => simp [hnone rfl]
      | cons t tries => simpa using hlast

end Tried

/-- How the `k`-th mail fares among `n` clients. -/
structure Served (n k : Nat) (r : Sent) : Prop where
  turns : r.tries.map (·.client) = (List.range r.tries.length).map fun i => (k + i) % n
  once : (r.tries.map (·.client)).Nodup
  refused : ∀ t ∈ r.tries.dropLast, ∃ e, t.answer = .error e
  taken : r.answer = .ok () ↔ ∃ t ∈ r.tries, t.answer = .ok ()
  takenOnce : (r.tries.filter fun t => t.answer.isOk).length ≤ 1
  failed : ∀ e, r.answer = .error e → (r.tries.map (·.client)).Perm (List.range n) ∧
    (e.temporary = true ↔ ∃ t ∈ r.tries, ∃ f, t.answer = .error f ∧ f.temporary = true) ∧
    ∃ t f, r.tries.getLast? = some t ∧ t.answer = .error f ∧
      e.message = "all " ++ String.ofList (Nat.toDigits 10 n) ++
        " mail clients failed, last error: " ++ f.message

theorem circle_perm (n k : Nat) : (circle n k).Perm (List.range n) := by
  rw [circle_eq_rotate]
  exact List.rotate_perm _ _

theorem take_circle {m : Nat} (h : m ≤ n) (k : Nat) :
    (circle n k).take m = (List.range m).map fun i => (k + i) % n := by
  rw [circle, ← List.map_take, List.take_range, Nat.min_eq_left h]

theorem Tried.served (present : 0 < n) (h : Tried n false "" (circle n k) tries answer) :
    Served n k ⟨tries, answer⟩ := by
  have hlength : (circle n k).length = n := by simp [circle]
  have hle := h.length_le
  refine ⟨?_, ?_, h.refused, h.taken_iff, h.takenOnce, ?_⟩
  · rw [h.inOrder, take_circle (by omega)]
  · rw [h.inOrder]
    exact ((circle_perm n k).nodup_iff.2 List.nodup_range).sublist (List.take_sublist _ _)
  · intro e he
    obtain rfl : answer = .error e := he
    obtain ⟨hall, htemporary, said, hmessage, -, hlast⟩ := h.failure
    have hsome : tries ≠ [] := by
      rintro rfl
      simp at hall
      omega
    obtain ⟨f, hf, hsaid⟩ := hlast _ (List.getLast?_eq_some_getLast hsome)
    refine ⟨?_, by simpa using htemporary, _, f, List.getLast?_eq_some_getLast hsome, hf, ?_⟩
    · rw [h.inOrder, hall, List.take_length]
      exact circle_perm n k
    · rw [hmessage, hsaid, allFailed]

structure Sending (σ : Type) where
  meanwhile : σ → σ
  mail : Mail

def answers (clients : List (MailClient σ)) : List (Sending σ) → UInt64 → σ →
    List (Except MailError Unit)
  | [], _, _ => []
  | d :: ds, k, s =>
    let (answer, k, s) := (rotation clients).send d.mail (k, d.meanwhile s)
    answer :: answers clients ds k s

def sendAll (clients : List (MailClient σ)) : List (Sending σ) → UInt64 → σ → List Sent
  | [], _, _ => []
  | d :: ds, k, s =>
    let (answer, k, s, tries) := (rotation (notedAll clients)).send d.mail (k, d.meanwhile s, [])
    ⟨tries, answer⟩ :: sendAll clients ds k s

theorem answers_eq (present : clients ≠ []) (ds : List (Sending σ)) (k : UInt64) (s : σ) :
    answers clients ds k s = (sendAll clients ds k s).map (·.answer) := by
  induction ds generalizing k s with
  | nil => rfl
  | cons d ds ih =>
    obtain ⟨tries, answer, t, -, hplain, hnoted⟩ :=
      send_rotation present d.mail k (d.meanwhile s) []
    simp only [answers, sendAll, hplain, hnoted, List.map_cons, ih]

theorem served_sendAll (present : clients ≠ []) (ds : List (Sending σ)) (k : UInt64)
    (few : k.toNat + ds.length < 18446744073709551616) (s : σ) (i : Nat) (r : Sent)
    (h : (sendAll clients ds k s)[i]? = some r) : Served clients.length (k.toNat + i) r := by
  induction ds generalizing k s i with
  | nil => simp [sendAll] at h
  | cons d ds ih =>
    obtain ⟨tries, answer, t, ht, -, hnoted⟩ := send_rotation present d.mail k (d.meanwhile s) []
    simp only [sendAll, hnoted, List.nil_append] at h
    simp only [List.length_cons] at few
    cases i with
    | zero =>
      cases h
      exact ht.served (List.length_pos_iff.2 present)
    | succ i =>
      have hk : (k + 1).toNat = k.toNat + 1 := by
        rw [UInt64.toNat_add]
        simp
        omega
      have hserved := ih (k + 1) (by omega) t i h
      rw [hk] at hserved
      rwa [show k.toNat + (i + 1) = k.toNat + 1 + i by omega]

def taken (place : Nat) (l : List Sent) : Nat :=
  l.countP fun r => r.tries.any fun t => t.client = place && t.answer.isOk

/-- A mail that is not refused has one try, by the client whose turn it is. -/
theorem Served.tries_eq {r : Sent} (h : Served n k r) (present : 0 < n)
    (willing : ∀ t ∈ r.tries, t.answer = .ok ()) : r.tries = [⟨k % n, .ok ()⟩] := by
  obtain ⟨tries, answer⟩ := r
  match tries with
  | [] =>
    exfalso
    cases answer with
    | ok u => simpa using h.taken
    | error e =>
      have hnone := (h.failed e rfl).1.length_eq
      simp at hnone
      omega
  | [t] =>
    obtain ⟨place, a⟩ := t
    have hplace : place = k % n := by simpa using h.turns
    have ha : a = .ok () := willing ⟨place, a⟩ (by simp)
    rw [hplace, ha]
  | t :: u :: tries =>
    obtain ⟨e, he⟩ := h.refused t (by simp)
    rw [willing t (by simp)] at he
    cases he

theorem taken_eq_count {l : List Sent} {place first : Nat}
    (h : ∀ (i : Nat) (r : Sent), l[i]? = some r → r.tries = [⟨(first + i) % n, .ok ()⟩]) :
    taken place l = Nat.count (fun i => (first + i) % n = place) l.length := by
  induction l using List.reverseRecOn with
  | nil => rfl
  | append_singleton l r ih =>
    have hr := h l.length r (by simp)
    have hl := ih fun i r hi =>
      h i r (by rw [List.getElem?_append_left (List.getElem?_eq_some_iff.1 hi).1, hi])
    simp only [taken] at hl
    simp only [taken, List.countP_append, hl, List.length_append,
      List.length_singleton, Nat.count_succ, List.countP_singleton, hr]
    simp [Except.isOk, Except.toBool]

/-- Among consecutive numbers no remainder comes up more than once more often than another. -/
theorem count_mod_le (present : 0 < n) (first many : Nat) {a b : Nat} (ha : a < n) (hb : b < n) :
    Nat.count (fun i => (first + i) % n = a) many ≤
      Nat.count (fun i => (first + i) % n = b) many + 1 := by
  have hc : ∀ c < n, Nat.count (fun i => (first + i) % n = c) many + (first / n + if c < first % n
    then 1 else 0) =
      (first + many) / n + if c < (first + many) % n then 1 else 0 := by
    intro c hc
    have hmod : ∀ i, i % n = c ↔ i ≡ c [MOD n] := fun i => by rw [Nat.ModEq, Nat.mod_eq_of_lt hc]
    have hf := Nat.count_modEq_card first present c
    have hm := Nat.count_modEq_card (first + many) present c
    rw [Nat.count_add, Nat.mod_eq_of_lt hc] at hm
    rw [Nat.mod_eq_of_lt hc] at hf
    simp only [hmod]
    omega
  have h1 := hc a ha
  have h2 := hc b hb
  split at h1 <;> split at h1 <;> split at h2 <;> split at h2 <;> omega

/-- The `k`-th mail is tried by the clients from the `k`-th on, around the circle, each one once at
most, until one takes it. If none does it was tried by all; that may pass if one of their failures
may, and what is said is what the last one said. As long as no client refuses, none takes two mails
more than another. -/
theorem takes_turns (present : clients ≠ []) (ds : List (Sending σ))
    (few : ds.length < 18446744073709551616) (s : σ) :
    let sent := sendAll clients ds 0 s
    sent.map (·.answer) = answers clients ds 0 s ∧
      (∀ (k : Nat) (r : Sent), sent[k]? = some r → Served clients.length k r) ∧
      ∀ first many : Nat, let stretch := (sent.drop first).take many
        (∀ r ∈ stretch, ∀ t ∈ r.tries, t.answer = .ok ()) →
          ∀ a < clients.length, ∀ b < clients.length, taken a stretch ≤ taken b stretch + 1 := by
  intro sent
  have hzero : (0 : UInt64).toNat = 0 := rfl
  have hserved : ∀ (k : Nat) (r : Sent), sent[k]? = some r → Served clients.length k r := by
    intro k r hr
    have h := served_sendAll present ds 0 (by omega) s k r hr
    rwa [hzero, Nat.zero_add] at h
  have hn : 0 < clients.length := List.length_pos_iff.2 present
  refine ⟨(answers_eq present ds 0 s).symm, hserved, ?_⟩
  intro first many stretch willing a ha b hb
  have htries : ∀ (i : Nat) (r : Sent),
      stretch[i]? = some r → r.tries = [⟨(first + i) % clients.length, .ok ()⟩] := by
    intro i r hr
    have hm := willing r (List.mem_of_getElem? hr)
    simp only [stretch, List.getElem?_take, List.getElem?_drop] at hr
    split at hr
    · exact (hserved _ r hr).tries_eq hn hm
    · cases hr
  rw [taken_eq_count htries, taken_eq_count htries]
  exact count_mod_le hn first _ ha hb

theorem takes_turns_of_two :
    let busy : MailError := ⟨true, "busy"⟩
    let late : MailClient Nat := ⟨fun _ s => (if s = 0 then .error busy else .ok (), s + 1)⟩
    let ready : MailClient Nat := ⟨fun _ s => (.ok (), s + 1)⟩
    let d : Sending Nat := ⟨id, ⟨"ann@example.org", "news", "none", .text⟩⟩
    let sent := sendAll [late, ready] [d, d, d] 0 0
    let stretch := (sent.drop 1).take 2
    [late, ready] ≠ [] ∧ [d, d, d].length < 18446744073709551616 ∧
      Served 2 0 ⟨[⟨0, .error busy⟩, ⟨1, .ok ()⟩], .ok ()⟩ ∧
      Served 2 1 ⟨[⟨1, .ok ()⟩], .ok ()⟩ ∧
      (∀ r ∈ stretch, ∀ t ∈ r.tries, t.answer = .ok ()) ∧
        taken 0 stretch ≤ taken 1 stretch + 1 := by
  intro busy late ready d sent stretch
  have present : [late, ready] ≠ [] := List.cons_ne_nil _ _
  have few : [d, d, d].length < 18446744073709551616 := by decide
  have willing : ∀ r ∈ stretch, ∀ t ∈ r.tries, t.answer = .ok () := by decide +kernel
  obtain ⟨-, hserved, hshares⟩ := takes_turns present [d, d, d] few 0
  have hsent : sent = [⟨[⟨0, .error busy⟩, ⟨1, .ok ()⟩], .ok ()⟩, ⟨[⟨1, .ok ()⟩], .ok ()⟩,
      ⟨[⟨0, .ok ()⟩], .ok ()⟩] := by decide +kernel
  refine ⟨present, few, hserved 0 _ ?_, hserved 1 _ ?_, willing,
    hshares 1 2 willing 0 (by decide) 1 (by decide)⟩
  · exact congrArg (·[0]?) hsent
  · exact congrArg (·[1]?) hsent

end Herald.MailClient
