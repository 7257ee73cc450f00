import Herald.Proofs.Roster.Replacement
/-!
What becomes of each channel to which a notification is offered. The first gate that is shut
decides, and behind open gates it is the channel's answer. Channels and listeners that write down
their calls show that each is called as often as that asks for, and no other.
-/

set_option autoImplicit false

namespace Herald

namespace Report

def ofAnswers (l : List (String × Except PushError Unit)) : Report where
  succeeded := (l.filter fun x => x.2.isOk).map (·.1)
  temporary := l.filterMap fun x =>
    match x.2 with
    | .error e => if e.isTemporary then some (x.1, e) else none
    | .ok _ => none
  persistent := l.filterMap fun x =>
    match x.2 with
    | .error e => if e.isTemporary then none else some (x.1, e)
    | .ok _ => none

theorem ofAnswers_concat (l : List (String × Except PushError Unit)) (id : String)
    (answer : Except PushError Unit) :
    ofAnswers (l ++ [(id, answer)]) = (ofAnswers l).add id answer := by
  cases answer with
  | ok _ => simp [ofAnswers, add, addSuccess, Except.isOk, Except.toBool]
  | error e =>
    cases he : e.isTemporary <;> simp [ofAnswers, add, addError, he, Except.isOk, Except.toBool]

theorem channels_ofAnswers (l : List (String × Except PushError Unit)) :
    (ofAnswers l).channels.Perm (l.map (·.1)) := by
  induction l using List.reverseRecOn with
  | nil => exact .refl _
  | append_singleton l x ih =>
    obtain ⟨id, answer⟩ := x
    have ha : ((ofAnswers l).add id answer).channels.Perm ((ofAnswers l).channels ++ [id]) := by
      cases answer with
      | ok u => exact channels_addSuccess _ id
      | error e => exact channels_addError _ id e
    rw [ofAnswers_concat, List.map_append]
    exact ha.trans (ih.append_right _)

theorem succeeded_ofAnswers_ne_nil {l : List (String × Except PushError Unit)} :
    (ofAnswers l).succeeded ≠ [] ↔ ∃ x ∈ l, x.2 = .ok () := by
  simp only [ofAnswers, ne_eq, List.map_eq_nil_iff, List.filter_eq_nil_iff, not_forall, not_not]
  constructor
  · rintro ⟨⟨id, answer⟩, hx, hok⟩
    cases answer with
    | ok u => exact ⟨(id, .ok u), hx, rfl⟩
    | error e => simp [Except.isOk, Except.toBool] at hok
  · rintro ⟨x, hx, hok⟩
    exact ⟨x, hx, by rw [hok]; rfl⟩

end Report

namespace Outcome

/-- The text lists these errors in their order, each with its channel, the name of its kind and its
message. -/
inductive Says : List (String × PushError) → String → Prop where
  | last (channel : String) (e : PushError) :
    Says [(channel, e)] (channel ++ ": " ++ Named.name e.kind ++ ": " ++ e.message)
  | next {errors : List (String × PushError)} {text : String} (channel : String) (e : PushError)
    (rest : Says errors text) :
    Says ((channel, e) :: errors) (channel ++ ": " ++ Named.name e.kind ++ ": " ++
      e.message ++ "; " ++ text)

theorem says_summary {errors : List (String × PushError)} (h : errors ≠ []) :
    Says errors (summary errors) := by
  induction errors with
  | nil => exact absurd rfl h
  | cons x errors ih =>
    obtain ⟨channel, e⟩ := x
    cases errors with
    | nil =>
      have hs : summary [(channel, e)] =
          channel ++ ": " ++ Named.name e.kind ++ ": " ++ e.message := by
        simp [summary, PushError.display, String.append_assoc]
      exact hs ▸ .last channel e
    | cons y errors =>
      have hs : summary ((channel, e) :: y :: errors) =
          channel ++ ": " ++ Named.name e.kind ++ ": " ++ e.message ++ "; " ++
            summary (y :: errors) := by
        simp [summary, PushError.display, String.append_assoc]
      exact hs ▸ .next channel e (ih (List.cons_ne_nil y errors))

/-- The outcome that a report comes to, by which of its lists are empty. -/
theorem ofReport_cases (r : Report) :
    let o := ofReport r
    o.report = r ∧ (o.result = .success ↔ r.succeeded ≠ []) ∧
      (o.result = .temporaryError ↔ r.succeeded = [] ∧ (r.temporary ≠ [] ∨ r.channels = [])) ∧
      (o.result = .persistentError ↔ r.succeeded = [] ∧ r.temporary = [] ∧ r.channels ≠ []) ∧
      (o.message = none ↔ o.result = .success) ∧
      (r.channels = [] → o.message = some "no allowed channels available") ∧
      (r.channels ≠ [] → o.result = .temporaryError → ∃ text, o.message = some text ∧
        Says r.temporary text) ∧
      (o.result = .persistentError → ∃ text, o.message = some text ∧ Says r.persistent text) := by
  by_cases hs : r.succeeded = []
  · by_cases ht : r.temporary = []
    · by_cases hp : r.persistent = []
      · simp [ofReport, Report.channels, hs, ht, hp, noChannelText]
      · simp [ofReport, Report.channels, hs, ht, hp, says_summary hp]
    · simp [ofReport, Report.channels, hs, ht, says_summary ht]
  · simp [ofReport, Report.channels, hs]

end Outcome

namespace FanOut

/-- What stands between a notification and the push of a channel, in the order in which it is
tried. -/
inductive Gate where
  /-- The preferences of the user for the channel, or its own. -/
  | preferences
  | audience
  | content
  | configuration
  | frequency
  deriving DecidableEq, Repr

def Gate.all : List Gate := [.preferences, .audience, .content, .configuration, .frequency]

/-- Of which kind the failure is when the gate is shut. -/
def Gate.kind : Gate → PushError.Kind
  | .preferences | .configuration => .configuration
  | .audience => .notApplicable
  | .content => .render
  | .frequency => .frequencyMismatch

/-- A later attempt may find it open. -/
def Gate.mayOpen : Gate → Bool
  | .content | .frequency => true
  | .preferences | .audience | .configuration => false

section Gates

variable {σ : Type} (f : FanOut σ) (n : Notification) (p : Preferences) (c : PushChannel σ)

def made? : Option (Except RenderError Dispatch) :=
  (preferencesFor p c).map fun cp => f.produce n p cp.channel

/-- Why the gate is shut, whether or not one is shut before it. -/
def shut? : Gate → Option PushError
  | .preferences =>
    if (preferencesFor p c).isNone then some ⟨.configuration, "channel not configured for user"⟩
    else none
  | .audience =>
    if c.accepts n.audience then none
    else some
      ⟨.notApplicable, "channel does not accept " ++ Named.name n.audience ++ " notifications"⟩
  | .content =>
    match f.made? n p c with
    | some (.error e) => some ⟨.render, e.message⟩
    | _ => none
  | .configuration =>
    match f.made? n p c with
    | some (.ok d) =>
      if c.isConfigured d.params then none
      else some ⟨.configuration, "channel not configured for user"⟩
    | _ => none
  | .frequency =>
    match preferencesFor p c with
    | some cp => if f.ignoreFrequency || cp.frequency == .instant then none
      else some ⟨.frequencyMismatch, "frequency is " ++ Named.name cp.frequency⟩
    | none => none

def firstShut? : Option (Gate × PushError) :=
  Gate.all.findSome? fun g => (f.shut? n p c g).map (g, ·)

/-- The content that comes to the channel when no gate is shut. -/
def offered? : Option Dispatch :=
  match f.firstShut? n p c, f.made? n p c with
  | none, some (.ok d) => some d
  | _, _ => none

variable {f n p c} in
theorem kind_of_shut? {g : Gate} {e : PushError} (h : f.shut? n p c g = some e) :
    e.kind = g.kind := by
  cases g with
  | preferences | audience | content =>
    simp only [shut?] at h
    split at h <;> cases h
    rfl
  | configuration | frequency =>
    simp only [shut?] at h
    split at h
    · split at h <;> cases h
      rfl
    · cases h

variable {f n p c} in
theorem kind_of_firstShut? {g : Gate} {e : PushError}
    (h : f.firstShut? n p c = some (g, e)) : e.kind = g.kind := by
  obtain ⟨g', -, hg⟩ := List.exists_of_findSome?_eq_some h
  obtain ⟨e', he, heq⟩ := Option.map_eq_some_iff.1 hg
  cases heq
  exact kind_of_shut? he

theorem firstShut?_of_verdict :
    match f.verdict n p c with
    | .offer d => f.firstShut? n p c = none ∧ f.made? n p c = some (.ok d)
    | .unrendered e => f.firstShut? n p c = some (.content, e)
    | .refuse e => ∃ g, g ≠ .content ∧ f.firstShut? n p c = some (g, e) := by
  have refusals : notConfigured = ⟨.configuration, "channel not configured for user"⟩ ∧
      (notAccepted n.audience = ⟨.notApplicable,
        "channel does not accept " ++ Named.name n.audience ++ " notifications"⟩) ∧
      ∀ q, notInstant q = ⟨.frequencyMismatch, "frequency is " ++ Named.name q⟩ :=
    ⟨rfl, rfl, fun _ => rfl⟩
  cases hp : preferencesFor p c with
  | none => simp [refusals, verdict, firstShut?, Gate.all, made?, shut?, hp]
  | some cp =>
    cases ha : c.accepts n.audience with
    | false => simp [refusals, verdict, firstShut?, Gate.all, shut?, hp, ha]
    | true =>
      cases hd : f.produce n p cp.channel with
      | error e => simp [verdict, firstShut?, Gate.all, made?, shut?, hp, ha, hd]
      | ok d =>
        cases hi : c.isConfigured d.params with
        | false => simp [refusals, verdict, firstShut?, Gate.all, made?, shut?, hp, ha, hd, hi]
        | true =>
          by_cases hf : f.ignoreFrequency = true ∨ cp.frequency = .instant
          · have hv : (!f.ignoreFrequency && cp.frequency != .instant) = false := by
              rcases hf with hf | hf <;> simp [hf]
            simp [verdict, firstShut?, Gate.all, made?, shut?, hp, ha, hd, hi, hf, hv]
          · obtain ⟨hf, hq⟩ := not_or.1 hf
            simp [refusals, verdict, firstShut?, Gate.all, made?, shut?, hp, ha, hd, hi, hf, hq]

end Gates

inductive Call where
  | begins (channel : String) (n : Notification) (d : Dispatch)
  | ends (channel : String) (answer : Except PushError Unit)
  | hears (listener : Nat) (failure : ChannelFailure)
  deriving DecidableEq

def Call.push? : Call → Option (String × Notification × Dispatch)
  | .begins channel n d => some (channel, n, d)
  | .ends .. | .hears .. => none

end FanOut

def Listener.noting {ε γ σ : Type} (l : Listener ε σ) (entry : ε → γ) :
    Listener ε (σ × List γ) where
  hear e s :=
    let (h, t) := l.hear e s.1
    (h, t, s.2 ++ [entry e])

theorem Listener.tellAll_noting {ε γ σ : Type} (ls : List (Listener ε σ))
    (entry : Nat → ε → γ) (place : Nat) (e : ε) (s : σ) (log : List γ) :
    tellAll ((ls.zipIdx place).map fun x => x.1.noting (entry x.2)) e (s, log) =
      (tellAll ls e s, log ++ (List.range' place ls.length).map (entry · e)) := by
  induction ls generalizing place s log with
  | nil => simp
  | cons l ls ih =>
    simp only [List.zipIdx_cons, List.map_cons, tellAll_cons, List.length_cons, List.range'_succ]
    rw [ih]
    simp [noting]

section Recorded

open FanOut (Call)

variable {σ : Type}

/-- The channel, which writes down when its pushes begin and how they end. -/
def PushChannel.recorded (c : PushChannel σ) : PushChannel (σ × List Call) where
  id := c.id
  accepts := c.accepts
  isConfigured := c.isConfigured
  defaults := c.defaults
  pauses := c.pauses
  start n d s := (c.start n d s.1, s.2 ++ [.begins c.id n d])
  finish n d s :=
    let (answer, t) := c.finish n d s.1
    (answer, t, s.2 ++ [.ends c.id answer])

def Listener.recorded (l : Listener ChannelFailure σ) (place : Nat) :
    Listener ChannelFailure (σ × List Call) where
  hear e s :=
    let (h, t) := l.hear e s.1
    (h, t, s.2 ++ [.hears place e])

def FanOut.recorded (f : FanOut σ) : FanOut (σ × List Call) where
  channels := f.channels.map .recorded
  produce := f.produce
  listeners := f.listeners.zipIdx.map fun x => x.1.recorded x.2
  ignoreFrequency := f.ignoreFrequency

theorem PushChannel.push_recorded (c : PushChannel σ) (n : Notification) (d : Dispatch) (s : σ)
    (log : List Call) : c.recorded.push n d (s, log) =
      ((c.push n d s).1, (c.push n d s).2,
        log ++ [.begins c.id n d, .ends c.id (c.push n d s).1]) := by
  simp [push, recorded]

theorem Listener.tellAll_recorded (ls : List (Listener ChannelFailure σ)) (place : Nat)
    (e : ChannelFailure) (s : σ) (log : List Call) :
    tellAll ((ls.zipIdx place).map fun x => x.1.recorded x.2) e (s, log) =
      (tellAll ls e s, log ++ (List.range' place ls.length).map (.hears · e)) :=
  tellAll_noting ls Call.hears place e s log

end Recorded

namespace FanOut

/-- What becomes of a channel: it stands behind a gate that is shut, or it is pushed and answers. -/
inductive Fate where
  | shut (g : Gate) (e : PushError)
  | pushed (d : Dispatch) (answer : Except PushError Unit)

def tells (n : Notification) (channel : String) (listeners : Nat) :
    Except PushError Unit → List Call
  | .ok _ => []
  | .error e => (List.range listeners).map (.hears · ⟨n, channel, e⟩)

namespace Fate

def answer : Fate → Except PushError Unit
  | shut _ e => .error e
  | pushed _ a => a

/-- All calls of a visit that comes out so. -/
def calls (n : Notification) (channel : String) (listeners : Nat) : Fate → List Call
  -- that there is no content is nobody's failure but the producer's
  | shut .content _ => []
  | shut _ e => tells n channel listeners (.error e)
  | pushed d a => .begins channel n d :: .ends channel a :: tells n channel listeners a

end Fate

section Runs

variable {σ : Type} (f : FanOut σ) (n : Notification) (p : Preferences) (c : PushChannel σ)

/-- The gates decide on the fate, and behind open ones the channel's own answer to its own
content. -/
def Decides : Fate → Prop
  | .shut g e => f.firstShut? n p c = some (g, e)
  | .pushed d a => f.offered? n p c = some d ∧ ∃ s, (c.push n d s).1 = a

theorem record_recorded (answer : Except PushError Unit) (r : Report) (s : σ) (log : List Call) :
    (f.record n c answer r s).1 = r.add c.id answer ∧
      f.recorded.record n c.recorded answer r (s, log) =
        (r.add c.id answer, (f.record n c answer r s).2,
        log ++ tells n c.id f.listeners.length answer) := by
  cases answer with
  | ok u => exact ⟨rfl, by rw [tells, List.append_nil]; rfl⟩
  | error e =>
    refine ⟨rfl, ?_⟩
    have ht := Listener.tellAll_recorded f.listeners 0 ⟨n, c.id, e⟩ s log
    rw [← List.range_eq_range'] at ht
    exact congrArg (r.addError c.id e, ·) ht

theorem visit_recorded (r : Report) (s : σ) (log : List Call) :
    ∃ x, f.Decides n p c x ∧ (f.visit n p c r s).1 = r.add c.id x.answer ∧
      f.recorded.visit n p c.recorded r (s, log) =
        (r.add c.id x.answer, (f.visit n p c r s).2, log ++ x.calls n c.id f.listeners.length) := by
  have hg := f.firstShut?_of_verdict n p c
  have hr : f.recorded.verdict n p c.recorded = f.verdict n p c := rfl
  cases hv : f.verdict n p c with
  | unrendered e =>
    rw [hv] at hg
    refine ⟨.shut .content e, hg, ?_⟩
    simp only [visit, hr, hv, Fate.calls, List.append_nil]
    exact ⟨rfl, rfl⟩
  | refuse e =>
    rw [hv] at hg
    obtain ⟨g, hne, hg⟩ := hg
    have hc : (Fate.shut g e).calls n c.id f.listeners.length =
        tells n c.id f.listeners.length (.error e) := by
      cases g with
      | content => exact absurd rfl hne
      | preferences | audience | configuration | frequency => rfl
    refine ⟨.shut g e, hg, ?_⟩
    simp only [visit, hr, hv, hc]
    exact f.record_recorded n c (.error e) r s log
  | offer d =>
    rw [hv] at hg
    have ho : f.offered? n p c = some d := by simp only [offered?, hg.1, hg.2]
    refine ⟨.pushed d (c.push n d s).1, ⟨ho, s, rfl⟩, ?_⟩
    have hrec := f.record_recorded n c (c.push n d s).1 r (c.push n d s).2
      (log ++ [.begins c.id n d, .ends c.id (c.push n d s).1])
    simp only [visit, hr, hv, PushChannel.push_recorded, Fate.calls]
    rw [List.append_assoc] at hrec
    exact hrec

def answers (fates : List (PushChannel σ × Fate)) : List (String × Except PushError Unit) :=
  fates.map fun x => (x.1.id, x.2.answer)

theorem visitAll_recorded (cs : List (PushChannel σ))
    (l : List (String × Except PushError Unit)) (s : σ)
    (log : List Call) :
    ∃ fates : List (PushChannel σ × Fate), fates.map (·.1) = cs ∧
      (∀ x ∈ fates, f.Decides n p x.1 x.2) ∧
      (f.visitAll n p cs (.ofAnswers l) s).1 = .ofAnswers (l ++ answers fates) ∧
      f.recorded.visitAll n p (cs.map .recorded) (.ofAnswers l) (s, log) =
        (.ofAnswers (l ++ answers fates), (f.visitAll n p cs (.ofAnswers l) s).2,
          log ++ fates.flatMap fun x => x.2.calls n x.1.id f.listeners.length) := by
  induction cs generalizing l s log with
  | nil => exact ⟨[], rfl, by simp, by simp [visitAll, answers], by simp [visitAll, answers]⟩
  | cons c cs ih =>
    obtain ⟨x, hx, hv, hr⟩ := f.visit_recorded n p c (.ofAnswers l) s log
    obtain ⟨fates, hcs, hall, hfst, hrec⟩ :=
      ih (l ++ [(c.id, x.answer)]) (f.visit n p c (.ofAnswers l) s).2
      (log ++ x.calls n c.id f.listeners.length)
    rw [Report.ofAnswers_concat] at hfst hrec
    refine ⟨(c, x) :: fates, by rw [List.map_cons, hcs], ?_, ?_, ?_⟩
    · exact List.forall_mem_cons.2 ⟨hx, hall⟩
    · simp only [visitAll, hv, hfst, answers, List.map_cons, List.append_assoc,
        List.singleton_append]
    · simp only [List.map_cons, visitAll, hv, hr, hrec, answers, List.append_assoc,
        List.singleton_append, List.flatMap_cons]

theorem candidates_recorded : f.recorded.candidates n = (f.candidates n).map .recorded := by
  simp only [candidates]
  cases n.forced? with
  | none => rfl
  | some id =>
    simp [recorded, List.find?_map, Function.comp_def, PushChannel.recorded, Option.toList_map]

theorem run_recorded (s : σ) :
    ∃ fates : List (PushChannel σ × Fate), fates.map (·.1) = f.candidates n ∧
      (∀ x ∈ fates, f.Decides n p x.1 x.2) ∧
      (f.run n p s).1 = .ofReport (.ofAnswers (answers fates)) ∧
      f.recorded.run n p (s, []) = ((f.run n p s).1, (f.run n p s).2,
        fates.flatMap fun x => x.2.calls n x.1.id f.listeners.length) := by
  obtain ⟨fates, hcs, hall, hfst, hrec⟩ := f.visitAll_recorded n p (f.candidates n) [] s []
  have hnil : Report.ofAnswers [] = .empty := rfl
  rw [hnil, List.nil_append] at hfst hrec
  refine ⟨fates, hcs, hall, by simp only [run, hfst], ?_⟩
  simp only [run, candidates_recorded, hrec, hfst, List.nil_append]

theorem candidates_of_distinct (distinct : (f.channels.map (·.id)).Nodup) :
    f.candidates n = f.channels.filter fun c => n.forced?.all (c.id == ·) := by
  simp only [candidates]
  cases n.forced? with
  | none => simp
  | some id =>
    have hl := Roster.length_filter_le_one distinct id
    simp only [Option.all_some, ← List.head?_filter]
    generalize f.channels.filter (fun c => c.id == id) = l at hl ⊢
    match l, hl with
    | [], _ => rfl
    | [_], _ => rfl

theorem pushes_calls {x : Fate} (h : f.Decides n p c x) (listeners : Nat) :
    (x.calls n c.id listeners).filterMap Call.push? =
      ((f.offered? n p c).map (c.id, n, ·)).toList := by
  have ht (answer : Except PushError Unit) :
      (tells n c.id listeners answer).filterMap Call.push? = [] := by
    cases answer <;> simp [tells, List.filterMap_map, Function.comp_def, Call.push?]
  cases x with
  | shut g e =>
    have hg : f.firstShut? n p c = some (g, e) := h
    have ho : f.offered? n p c = none := by simp only [offered?, hg]
    cases g with
    | content => rw [ho]; rfl
    | preferences | audience | configuration | frequency => rw [ho]; exact ht (.error e)
  | pushed d a =>
    rw [h.1, Fate.calls]
    exact congrArg ((c.id, n, d) :: ·) (ht a)

theorem pushes_flatMap {fates : List (PushChannel σ × Fate)}
    (h : ∀ x ∈ fates, f.Decides n p x.1 x.2)
    (listeners : Nat) : (fates.flatMap fun x => x.2.calls n x.1.id listeners).filterMap Call.push? =
      (fates.map (·.1)).filterMap fun c => (f.offered? n p c).map (c.id, n, ·) := by
  rw [List.filterMap_flatMap, List.filterMap_map, List.filterMap_eq_flatMap_toList]
  exact List.flatMap_congr fun x hx => f.pushes_calls n p x.1 (h x hx) listeners

theorem ends_mem_calls {x : Fate} {channel : String} {listeners : Nat}
    {answer : Except PushError Unit} :
    .ends channel answer ∈ x.calls n c.id listeners ↔
    channel = c.id ∧ ∃ d, x = .pushed d answer := by
  have ht (a : Except PushError Unit) : .ends channel answer ∉ tells n c.id listeners a := by
    cases a <;> simp [tells]
  cases x with
  | shut g e => cases g <;> simp [Fate.calls, ht]
  | pushed d a => simp [Fate.calls, ht, eq_comm]

theorem exists_ok_iff (fates : List (PushChannel σ × Fate)) (listeners : Nat) :
    (∃ x ∈ answers fates, x.2 = .ok ()) ↔
      ∃ channel, .ends channel (.ok ()) ∈ fates.flatMap fun x => x.2.calls n x.1.id listeners := by
  simp only [answers, List.mem_flatMap, ends_mem_calls]
  constructor
  · rintro ⟨_, hm, hok⟩
    obtain ⟨⟨c, x⟩, hx, rfl⟩ := List.mem_map.1 hm
    cases x with
    | shut g e => cases hok
    | pushed d a =>
      obtain rfl : a = .ok () := hok
      exact ⟨c.id, _, hx, rfl, d, rfl⟩
  · rintro ⟨channel, x, hx, -, d, hd⟩
    exact ⟨_, List.mem_map.2 ⟨x, hx, rfl⟩, by rw [hd]; rfl⟩

theorem isTemporary_of_decides {g : Gate} {e : PushError} (h : f.Decides n p c (.shut g e)) :
    e.isTemporary = g.mayOpen := by
  rw [PushError.isTemporary, kind_of_firstShut? h]
  cases g <;> rfl

/-- How a run comes out, with the fates of its candidates and the calls that it makes. -/
structure Account (fates : List (PushChannel σ × Fate)) (log : List Call) (o : Outcome) : Prop where
  /-- All channels in their order, or only the one that the notification names. -/
  candidates : fates.map (·.1) = f.channels.filter fun c => n.forced?.all (c.id == ·)
  decided : ∀ x ∈ fates, f.Decides n p x.1 x.2
  /-- Behind a gate that may open later the failure is temporary, behind any other persistent. -/
  lasting : ∀ x ∈ fates, ∀ g e, x.2 = .shut g e → e.isTemporary = g.mayOpen
  calls : log = fates.flatMap fun x => x.2.calls n x.1.id f.listeners.length
  /-- One push for each channel with open gates, of its own content. -/
  pushes : log.filterMap Call.push? =
    (fates.map (·.1)).filterMap fun c => (f.offered? n p c).map (c.id, n, ·)
  report : o.report = .ofAnswers (answers fates)
  once : o.report.channels.Perm (fates.map (·.1.id)) ∧ o.report.channels.Nodup
  success : o.result = .success ↔ ∃ channel, .ends channel (.ok ()) ∈ log
  temporary : o.result = .temporaryError ↔
    o.report.succeeded = [] ∧ (o.report.temporary ≠ [] ∨ fates = [])
  persistent : o.result = .persistentError ↔
    o.report.succeeded = [] ∧ o.report.temporary = [] ∧ fates ≠ []
  unsaid : o.message = none ↔ o.result = .success
  saidOfNone : fates = [] → o.message = some "no allowed channels available"
  said : fates ≠ [] → o.result ≠ .success → ∃ text, o.message = some text ∧
    Outcome.Says (if o.result = .temporaryError then o.report.temporary
      else o.report.persistent) text

/-- A run visits each of its candidates once, pushes those behind open gates, tells all listeners of
all failures but those to make content, and sums up what came of it. -/
theorem visits_each_once (distinct : (f.channels.map (·.id)).Nodup) (s : σ) :
    ∃ fates log, f.recorded.run n p (s, []) = ((f.run n p s).1, (f.run n p s).2, log) ∧
      f.Account n p fates log (f.run n p s).1 := by
  obtain ⟨fates, hcs, hall, ho, hrec⟩ := f.run_recorded n p s
  obtain ⟨hr, hsucc, htemp, hpers, hun, hnone, htext, hptext⟩ :=
    Outcome.ofReport_cases (.ofAnswers (answers fates))
  rw [← ho] at hr hsucc htemp hpers hun hnone htext hptext
  have hperm : (f.run n p s).1.report.channels.Perm (fates.map (·.1.id)) := by
    have h := Report.channels_ofAnswers (answers fates)
    rwa [← hr, answers, List.map_map] at h
  have hempty : (Report.ofAnswers (answers fates)).channels = [] ↔ fates = [] := by
    rw [← hr, ← List.perm_nil, hperm.congr_left, List.perm_nil, List.map_eq_nil_iff]
  refine ⟨fates, _, hrec, hcs.trans (f.candidates_of_distinct n distinct), hall,
    fun x hx g e hx' => f.isTemporary_of_decides n p x.1 (hx' ▸ hall x hx), rfl, ?_, hr,
    ⟨hperm, f.nodup_channels_run n p distinct s⟩, ?_, ?_, ?_, hun, ?_, ?_⟩
  · exact f.pushes_flatMap n p hall _
  · rw [hsucc, Report.succeeded_ofAnswers_ne_nil, exists_ok_iff]
  · rw [htemp, hr, hempty]
  · rw [hpers, hr, Ne, Ne, hempty]
  · exact fun h => hnone (hempty.2 h)
  · intro h hne
    cases ht : (f.run n p s).1.result with
    | success => exact absurd ht hne
    | temporaryError =>
      rw [if_pos rfl, hr]
      exact htext (mt hempty.1 h) ht
    | persistentError =>
      rw [if_neg nofun, hr]
      exact hptext ht

end Runs

theorem visits_each_once_of_three :
    let post (id : String) (answer : Except PushError Unit) : PushChannel Nat :=
      .immediate id (fun _ => true) (fun _ => true) (some {}) fun _ _ s => (answer, s + 1)
    let f : FanOut Nat :=
      { channels := [post "mail" (.ok ()), post "sms" (.ok ()),
        post "fax" (.error (.rejected "gone"))]
        produce := fun _ _ _ => .ok ⟨⟨.text, "", ""⟩, .empty⟩
        listeners := [⟨fun _ s => (.panicked, s)⟩, ⟨fun _ s => (.done, s)⟩]
        ignoreFrequency := false }
    let n := Notification.create "ann" "news" .epoch
    let p : Preferences :=
      { user := "ann", channels := .ofList [("mail", { frequency := .daily })] }
    let d : Dispatch := ⟨⟨.text, "", ""⟩, .empty⟩
    let late : ChannelFailure := ⟨n, "mail", notInstant .daily⟩
    let gone : ChannelFailure := ⟨n, "fax", .rejected "gone"⟩
    (f.channels.map (·.id)).Nodup ∧ ∃ fates log, f.Account n p fates log (f.run n p 0).1 ∧
      log = [.hears 0 late, .hears 1 late, .begins "sms" n d, .ends "sms" (.ok ()),
        .begins "fax" n d, .ends "fax" (.error (.rejected "gone")), .hears 0 gone, .hears 1 gone] ∧
      (f.run n p 0).1.report = ⟨["sms"], [("mail", notInstant .daily)],
        [("fax", .rejected "gone")]⟩ := by
  intro post f n p d late gone
  have distinct : (f.channels.map (·.id)).Nodup := by decide
  obtain ⟨fates, log, hrun, account⟩ := f.visits_each_once n p distinct 0
  have hlog : log = (f.recorded.run n p (0, [])).2.2 := by rw [hrun]
  exact ⟨distinct, fates, log, account, hlog.trans (by decide +kernel), by decide +kernel⟩

end FanOut

end Herald
