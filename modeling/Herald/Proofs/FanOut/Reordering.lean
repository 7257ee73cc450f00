import Herald.Proofs.FanOut.Account
/-!
What the order of the channels and the regard for their frequency change. Channels that answer the
same in every state make up the same report in any order, but for the order of its lists. Without
regard for their frequency more channels are pushed, and all others come out as they do with it.
-/

set_option autoImplicit false

namespace Herald

namespace Report

def about (r : Report) (channel : String) : Report where
  succeeded := r.succeeded.filter (· == channel)
  temporary := r.temporary.filter (·.1 == channel)
  persistent := r.persistent.filter (·.1 == channel)

/-- The two say the same, each list in an order of its own. -/
structure Reorders (r r' : Report) : Prop where
  succeeded : r.succeeded.Perm r'.succeeded
  temporary : r.temporary.Perm r'.temporary
  persistent : r.persistent.Perm r'.persistent

theorem reorders_ofAnswers {l l' : List (String × Except PushError Unit)} (h : l.Perm l') :
    (ofAnswers l).Reorders (ofAnswers l') where
  succeeded := (h.filter _).map _
  temporary := h.filterMap _
  persistent := h.filterMap _

theorem about_add (r : Report) (id channel : String) (answer : Except PushError Unit) :
    (r.add id answer).about channel =
      if id == channel then (r.about channel).add id answer else r.about channel := by
  cases answer with
  | ok u => cases hid : id == channel <;> simp [about, add, addSuccess, hid]
  | error e =>
    cases hid : id == channel <;> cases ht : e.isTemporary <;> simp [about, add, addError, hid, ht]

theorem about_ofAnswers (l : List (String × Except PushError Unit)) (channel : String) :
    (ofAnswers l).about channel = ofAnswers (l.filter (·.1 == channel)) := by
  induction l using List.reverseRecOn with
  | nil => rfl
  | append_singleton l x ih =>
    rw [ofAnswers_concat, about_add, ih, List.filter_append]
    cases hx : x.1 == channel with
    | true => rw [List.filter_singleton, hx]; exact (ofAnswers_concat _ _ _).symm
    | false => rw [List.filter_singleton, hx]; exact congrArg ofAnswers (List.append_nil _).symm

theorem mem_succeeded_ofAnswers {l : List (String × Except PushError Unit)} {channel : String} :
    channel ∈ (ofAnswers l).succeeded ↔ (channel, .ok ()) ∈ l := by
  simp only [ofAnswers, List.mem_map, List.mem_filter]
  constructor
  · rintro ⟨⟨id, answer⟩, ⟨hx, hok⟩, rfl⟩
    cases answer with
    | ok u => exact hx
    | error e => cases hok
  · exact fun h => ⟨_, ⟨h, rfl⟩, rfl⟩

end Report

theorem Outcome.report_ofReport (r : Report) : (ofReport r).report = r := (ofReport_cases r).1

theorem Outcome.result_ofReport_congr {r r' : Report} (h : r.Reorders r') :
    (ofReport r).result = (ofReport r').result := by
  have hs : r.succeeded = [] ↔ r'.succeeded = [] := by
    rw [← List.perm_nil, h.succeeded.congr_left, List.perm_nil]
  have ht : r.temporary = [] ↔ r'.temporary = [] := by
    rw [← List.perm_nil, h.temporary.congr_left, List.perm_nil]
  have hp : r.persistent = [] ↔ r'.persistent = [] := by
    rw [← List.perm_nil, h.persistent.congr_left, List.perm_nil]
  simp only [ofReport, ne_eq, hs, ht, hp]
  split_ifs <;> rfl

/-- The channel answers the same in every state. -/
def PushChannel.Steady {σ : Type} (c : PushChannel σ) : Prop :=
  ∀ n d s t, (c.push n d s).1 = (c.push n d t).1

namespace FanOut

section Steady

variable {σ : Type} (f : FanOut σ) (n : Notification) (p : Preferences) (c : PushChannel σ)

def reply (s : σ) : Except PushError Unit :=
  match f.verdict n p c with
  | .offer d => (c.push n d s).1
  | .refuse e | .unrendered e => .error e

def pushes (s : σ) : List (String × Notification × Dispatch) :=
  (f.recorded.run n p (s, [])).2.2.filterMap Call.push?

theorem reply_cases (s : σ) :
    (∃ g e, f.firstShut? n p c = some (g, e) ∧ f.reply n p c s = .error e) ∨
      ∃ d, f.firstShut? n p c = none ∧ f.offered? n p c = some d ∧
        f.reply n p c s = (c.push n d s).1 := by
  have hg := f.firstShut?_of_verdict n p c
  unfold reply
  cases hv : f.verdict n p c with
  | offer d =>
    rw [hv] at hg
    exact .inr ⟨d, hg.1, by simp only [offered?, hg.1, hg.2], rfl⟩
  | refuse e =>
    rw [hv] at hg
    obtain ⟨g, -, hg⟩ := hg
    exact .inl ⟨g, e, hg, rfl⟩
  | unrendered e =>
    rw [hv] at hg
    exact .inl ⟨.content, e, hg, rfl⟩

variable {c} in
theorem answer_of_decides (steady : c.Steady) {x : Fate} (h : f.Decides n p c x) (s : σ) :
    x.answer = f.reply n p c s := by
  obtain ⟨g, e, hs, hr⟩ | ⟨d, hs, ho, hr⟩ := f.reply_cases n p c s
  · cases x with
    | shut g' e' =>
      cases hs.symm.trans h
      exact hr.symm
    | pushed d a => simp only [Decides, offered?, hs, reduceCtorEq, false_and] at h
  · cases x with
    | shut g e => cases hs.symm.trans h
    | pushed d' a =>
      obtain ⟨ho', t, rfl⟩ := h
      cases ho.symm.trans ho'
      exact (steady n d t s).trans hr.symm

def replies (s : σ) : List (String × Except PushError Unit) :=
  (f.candidates n).map fun c => (c.id, f.reply n p c s)

variable {f}

/-- Steady channels come out the same in whatever state a run begins. -/
theorem run_of_steady (steady : ∀ c ∈ f.channels, c.Steady) (s t : σ) :
    (f.run n p t).1 = .ofReport (.ofAnswers (f.replies n p s)) ∧
      f.pushes n p t = (f.candidates n).filterMap fun c => (f.offered? n p c).map (c.id, n, ·) := by
  obtain ⟨fates, hcs, hall, ho, hrec⟩ := f.run_recorded n p t
  have ha : answers fates = f.replies n p s := by
    rw [replies, ← hcs, List.map_map]
    refine List.map_congr_left fun x hx => ?_
    have hc : x.1 ∈ f.candidates n := by rw [← hcs]; exact List.mem_map_of_mem hx
    have hs := steady x.1 ((f.candidates_sublist n).subset hc)
    exact congrArg (x.1.id, ·) (f.answer_of_decides n p hs (hall x hx) s)
  refine ⟨by rw [ho, ha], ?_⟩
  rw [pushes, hrec, f.pushes_flatMap n p hall, hcs]

theorem candidates_perm {cs : List (PushChannel σ)} (perm : f.channels.Perm cs)
    (distinct : (f.channels.map (·.id)).Nodup) :
    (f.candidates n).Perm ({ f with channels := cs }.candidates n) := by
  have distinct' : (cs.map (·.id)).Nodup := (perm.map _).nodup_iff.1 distinct
  rw [f.candidates_of_distinct n distinct, candidates_of_distinct _ n distinct']
  exact perm.filter _

end Steady

section Frequency

variable {σ : Type} (f : FanOut σ) (n : Notification) (p : Preferences) (c : PushChannel σ)

def Prompt : Prop := (preferencesFor p c).map (·.frequency) = some .instant

variable {c} in
theorem reply_of_prompt (h : Prompt p c) (b : Bool) (s : σ) :
    { f with ignoreFrequency := b }.reply n p c s = f.reply n p c s := by
  obtain ⟨cp, hp, hf⟩ := Option.map_eq_some_iff.1 h
  have hv : { f with ignoreFrequency := b }.verdict n p c =
    f.verdict n p c := by simp [verdict, hp, hf]
  rw [reply, reply, hv]

variable {f n p c}

theorem prompt_of_open (regarded : f.ignoreFrequency = false) (h : f.firstShut? n p c = none) :
    Prompt p c := by
  have hg := List.findSome?_eq_none_iff.1 h .frequency (by decide)
  have hp := List.findSome?_eq_none_iff.1 h .preferences (by decide)
  cases hc : preferencesFor p c with
  | none => simp [shut?, hc] at hp
  | some cp => simpa [shut?, hc, regarded, Prompt] using hg

theorem prompt_of_reply (regarded : f.ignoreFrequency = false) {s : σ}
    (h : f.reply n p c s = .ok ()) : Prompt p c := by
  obtain ⟨g, e, -, hr⟩ | ⟨d, hs, -⟩ := f.reply_cases n p c s
  · cases hr.symm.trans h
  · exact prompt_of_open regarded hs

theorem nodup_candidates (distinct : (f.channels.map (·.id)).Nodup) (n : Notification) :
    ((f.candidates n).map (·.id)).Nodup :=
  ((f.candidates_sublist n).map _).nodup distinct

theorem about_replies (distinct : (f.channels.map (·.id)).Nodup) (hc : c ∈ f.candidates n) (s : σ) :
    (Report.ofAnswers (f.replies n p s)).about c.id = .ofAnswers [(c.id, f.reply n p c s)] := by
  have hone : (f.candidates n).filter (·.id == c.id) = [c] := by
    have hmem : c ∈ (f.candidates n).filter (·.id == c.id) :=
      List.mem_filter.2 ⟨hc, beq_self_eq_true _⟩
    have hle := Roster.length_filter_le_one (nodup_candidates distinct n) c.id
    generalize (f.candidates n).filter (·.id == c.id) = l at hmem hle
    match l, hle with
    | [c'], _ => rw [List.mem_singleton.1 hmem]
  rw [Report.about_ofAnswers, replies, List.filter_map]
  exact congrArg (fun l => Report.ofAnswers (l.map fun c => (c.id, f.reply n p c s))) hone

theorem mem_succeeded_replies (distinct : (f.channels.map (·.id)).Nodup)
    (hc : c ∈ f.candidates n) (s : σ) :
    c.id ∈ (Report.ofAnswers (f.replies n p s)).succeeded ↔ f.reply n p c s = .ok () := by
  simp only [Report.mem_succeeded_ofAnswers, replies, List.mem_map, Prod.mk.injEq]
  constructor
  · rintro ⟨c', hc', hid, hr⟩
    rwa [← List.inj_on_of_nodup_map (nodup_candidates distinct n) hc' hc hid]
  · exact fun h => ⟨c, hc, rfl, h⟩

theorem success_iff_reply (s : σ) :
    (Outcome.ofReport (.ofAnswers (f.replies n p s))).result = .success ↔
    ∃ c ∈ f.candidates n, f.reply n p c s = .ok () := by
  rw [(Outcome.ofReport_cases _).2.1, Report.succeeded_ofAnswers_ne_nil]
  simp only [replies, List.mem_map, exists_exists_and_eq_and]

end Frequency

section Runs

variable {σ : Type} (f g : FanOut σ) (n : Notification) (p : Preferences) (s t : σ)

/-- The two runs come to the same, whose lists and pushes may be in different orders. -/
structure Reordered : Prop where
  result : (f.run n p s).1.result = (g.run n p t).1.result
  pushes : (f.pushes n p s).Perm (g.pushes n p t)
  report : (f.run n p s).1.report.Reorders (g.run n p t).1.report

/-- The first run regards the frequency of its channels, and the second pushes them all the same. -/
structure Widened : Prop where
  about : ∀ c ∈ f.candidates n, Prompt p c →
    (f.run n p s).1.report.about c.id = (g.run n p t).1.report.about c.id
  succeeded : ∀ c ∈ f.candidates n, c.id ∈ (f.run n p s).1.report.succeeded ↔
    c.id ∈ (g.run n p t).1.report.succeeded ∧ Prompt p c
  result : (f.run n p s).1.result = .success → (g.run n p t).1.result = .success

variable {f}

theorem reordered_of_perm {cs : List (PushChannel σ)} (perm : f.channels.Perm cs)
    (distinct : (f.channels.map (·.id)).Nodup) (steady : ∀ c ∈ f.channels, c.Steady) :
    f.Reordered { f with channels := cs } n p s t := by
  have hc := candidates_perm n perm distinct
  obtain ⟨hf, hfp⟩ := run_of_steady n p steady s s
  obtain ⟨hg, hgp⟩ := run_of_steady n p (f := { f with channels := cs })
    (fun c hc => steady c (perm.mem_iff.2 hc)) s t
  have hr : (Report.ofAnswers (f.replies n p s)).Reorders
      (.ofAnswers ({ f with channels := cs }.replies n p s)) :=
    Report.reorders_ofAnswers (hc.map _)
  refine ⟨?_, ?_, ?_⟩
  · rw [hf, hg]
    exact Outcome.result_ofReport_congr hr
  · rw [hfp, hgp]
    exact hc.filterMap _
  · rw [hf, hg, Outcome.report_ofReport, Outcome.report_ofReport]
    exact hr

theorem widened_of_steady (regarded : f.ignoreFrequency = false)
    (distinct : (f.channels.map (·.id)).Nodup) (steady : ∀ c ∈ f.channels, c.Steady) :
    f.Widened { f with ignoreFrequency := true } n p s t := by
  obtain ⟨g, hg⟩ : ∃ g : FanOut σ, g = { f with ignoreFrequency := true } := ⟨_, rfl⟩
  have hc : g.candidates n = f.candidates n := by rw [hg]; rfl
  have distinct' : (g.channels.map (·.id)).Nodup := by rwa [hg]
  have hrun := (run_of_steady n p steady s s).1
  have hrun' : (g.run n p t).1 = .ofReport (.ofAnswers (g.replies n p s)) :=
    (run_of_steady n p (by rwa [hg]) s t).1
  have hreport := Outcome.report_ofReport
  have hreply (c : PushChannel σ) (h : Prompt p c) : g.reply n p c s = f.reply n p c s := by
    rw [hg, reply_of_prompt f n p h]
  rw [← hg]
  refine ⟨fun c hm hp => ?_, fun c hm => ?_, fun h => ?_⟩
  · rw [hrun, hrun', hreport, hreport, about_replies distinct hm, about_replies distinct' (hc ▸ hm),
      hreply c hp]
  · rw [hrun, hrun', hreport, hreport, mem_succeeded_replies distinct hm,
      mem_succeeded_replies distinct' (hc ▸ hm)]
    constructor
    · intro h
      have hp := prompt_of_reply regarded h
      exact ⟨(hreply c hp).trans h, hp⟩
    · rintro ⟨h, hp⟩
      exact (hreply c hp).symm.trans h
  · rw [hrun, success_iff_reply] at h
    obtain ⟨c, hm, h⟩ := h
    rw [hrun', success_iff_reply]
    exact ⟨c, hc ▸ hm, (hreply c (prompt_of_reply regarded h)).trans h⟩

variable (f) in
/-- For steady channels of distinct ids, another order changes only the order of what comes of them,
and to push them without regard for their frequency changes nothing for those that are to be pushed
at once. -/
theorem reorders_and_widens {cs : List (PushChannel σ)} (perm : f.channels.Perm cs)
    (distinct : (f.channels.map (·.id)).Nodup) (steady : ∀ c ∈ f.channels, c.Steady) :
    f.Reordered { f with channels := cs } n p s t ∧
      { f with ignoreFrequency := false }.Widened { f with ignoreFrequency := true } n p s t :=
  ⟨reordered_of_perm n p s t perm distinct steady,
    widened_of_steady (f := { f with ignoreFrequency := false }) n p s t rfl distinct steady⟩

end Runs

theorem reorders_and_widens_of_three :
    let post (id : String) (answer : Except PushError Unit) : PushChannel Nat :=
      .immediate id (fun _ => true) (fun _ => true) (some {}) fun _ _ s => (answer, s + 1)
    let f : FanOut Nat :=
      { channels := [post "mail" (.ok ()), post "sms" (.ok ()),
        post "fax" (.error (.rejected "gone"))]
        produce := fun _ _ _ => .ok ⟨⟨.text, "", ""⟩, .empty⟩
        listeners := [⟨fun _ s => (.done, s + 10)⟩]
        ignoreFrequency := false }
    let n := Notification.create "ann" "news" .epoch
    let p : Preferences :=
      { user := "ann", channels := .ofList [("mail", { frequency := .daily })] }
    let backwards : FanOut Nat := { f with channels := f.channels.reverse }
    let anyway : FanOut Nat := { f with ignoreFrequency := true }
    (f.channels.map (·.id)).Nodup ∧ f.Reordered backwards n p 0 7 ∧ f.Widened anyway n p 0 7 ∧
      (f.run n p 0).1.report = ⟨["sms"], [("mail", notInstant .daily)],
        [("fax", .rejected "gone")]⟩ ∧
      (anyway.run n p 7).1.report = ⟨["mail", "sms"], [], [("fax", .rejected "gone")]⟩ := by
  intro post f n p backwards anyway
  have distinct : (f.channels.map (·.id)).Nodup := by decide
  have steady : ∀ c ∈ f.channels, c.Steady := by
    simp only [f, List.mem_cons, List.not_mem_nil, or_false]
    rintro c (rfl | rfl | rfl) _ _ _ _ <;> rfl
  obtain ⟨hr, hw⟩ := f.reorders_and_widens n p 0 7 f.channels.reverse_perm.symm distinct steady
  exact ⟨distinct, hr, hw, by decide +kernel, by decide +kernel⟩

end FanOut

end Herald
