import Herald.Proofs.Mail.Address
import Herald.Proofs.FanOut.Frame
/-!
Which mails come to a mail client, whatever users, templates and other channels hold: only
well-formed ones. And what a report says of mail.
-/

set_option autoImplicit false

namespace Herald

structure Posted where
  mail : Mail
  answer : Except MailError Unit
  deriving DecidableEq

section Posting

variable {σ : Type}

def MailClient.posting (c : MailClient σ) : MailClient (σ × List Posted) :=
  ⟨fun m s =>
    let (answer, t) := c.send m s.1
    (answer, t, s.2 ++ [⟨m, answer⟩])⟩

@[simp] theorem MailClient.send_posting (c : MailClient σ) (m : Mail) (s : σ) (log : List Posted) :
    c.posting.send m (s, log) = ((c.send m s).1, (c.send m s).2, log ++ [⟨m, (c.send m s).1⟩]) :=
  rfl

namespace FanOut

open MailChannel

/-- How mail fares: what is posted, and what the report says of it. -/
inductive Fares (f : FanOut σ) (client : MailClient σ) (n : Notification) (p : Preferences) :
    List Posted → Except PushError Unit → Prop where
  | shut {g : Gate} {e : PushError} (h : f.firstShut? n p (channel client) = some (g, e)) :
    Fares f client n p [] (.error e)
  | unfit {d : Dispatch} {e : PushError} (offered : f.offered? n p (channel client) = some d)
      (h : mailFor d = .error e) : Fares f client n p [] (.error e)
  | posted {d : Dispatch} {m : Mail} (offered : f.offered? n p (channel client) = some d)
      (h : mailFor d = .ok m) (answer : Except MailError Unit) :
    Fares f client n p [⟨m, answer⟩] (answer.mapError ofMailError)

def posting (f : FanOut σ) (client : MailClient σ) (before after : List (PushChannel σ)) :
    FanOut (σ × List Posted) :=
  f.beside (before.map .beside ++ channel client.posting :: after.map .beside)

variable (f : FanOut σ) (client : MailClient σ) (n : Notification) (p : Preferences)

theorem push_eq {d : Dispatch} {m : Mail} (h : mailFor d = .ok m) (s : σ) :
    MailChannel.push client d s =
      ((client.send m s).1.mapError ofMailError, (client.send m s).2) := by
  rw [MailChannel.push, h]
  simp only
  split <;> simp_all [Except.mapError]

theorem visit_posting (channels : List (PushChannel (σ × List Posted))) (r : Report) (s : σ)
    (log : List Posted) : ∃ sent answer, f.Fares client n p sent answer ∧
      (f.visit n p (channel client) r s).1 = r.add MailChannel.id answer ∧
      (f.beside channels).visit n p (channel client.posting) r (s, log) =
        (r.add MailChannel.id answer, (f.visit n p (channel client) r s).2, log ++ sent) := by
  have hg := f.firstShut?_of_verdict n p (channel client)
  have hv : (f.beside channels).verdict n p (channel client.posting) =
    f.verdict n p (channel client) := rfl
  have plain (answer : Except PushError Unit) (t : σ) :
      (f.record n (channel client) answer r t).1 = r.add MailChannel.id answer :=
    (f.record_recorded n (channel client) answer r t []).1
  have same : (channel client.posting).id = (channel client).id := rfl
  have noted (answer : Except PushError Unit) (t : σ) (log : List Posted) :=
    f.record_beside n channels same answer r t log
  cases hf : f.verdict n p (channel client) with
  | unrendered e =>
    rw [hf] at hg
    refine ⟨[], .error e, .shut hg, ?_, ?_⟩
    · simp only [visit, hf]
      rfl
    · simp only [visit, hv, hf, List.append_nil]
      rfl
  | refuse e =>
    rw [hf] at hg
    obtain ⟨g, -, hg⟩ := hg
    refine ⟨[], .error e, .shut hg, ?_, ?_⟩
    · simp only [visit, hf, plain]
    · simp only [visit, hv, hf, noted, List.append_nil]
      rfl
  | offer d =>
    rw [hf] at hg
    have ho : f.offered? n p (channel client) = some d := by simp only [offered?, hg.1, hg.2]
    have hp : (channel client).push n d = MailChannel.push client d := rfl
    have hp' : (channel client.posting).push n d = MailChannel.push client.posting d := rfl
    cases hm : mailFor d with
    | error e =>
      refine ⟨[], .error e, .unfit ho hm, ?_, ?_⟩
      · simp only [visit, hf, plain, hp, MailChannel.push, hm]
      · simp only [visit, hv, hf, hp, hp', MailChannel.push, hm, noted, List.append_nil]
        rfl
    | ok m =>
      refine ⟨[⟨m, (client.send m s).1⟩], _, .posted ho hm (client.send m s).1, ?_, ?_⟩
      · simp only [visit, hf, plain, hp, push_eq client hm]
      · simp only [visit, hv, hf, hp, hp', push_eq client hm, push_eq client.posting hm,
          MailClient.send_posting, noted]
        rfl

variable {f} {before after : List (PushChannel σ)}

theorem visitAll_posting (channels : List (PushChannel (σ × List Posted)))
    (front back : List (PushChannel σ))
    (s : σ) : ∃ posted l answer l', f.Fares client n p posted answer ∧
      l.map (·.1) = front.map (·.id) ∧ l'.map (·.1) = back.map (·.id) ∧
      (f.visitAll n p (front ++ channel client :: back) .empty s).1 =
        .ofAnswers (l ++ (MailChannel.id, answer) :: l') ∧
      (f.beside channels).visitAll n p (front.map .beside ++ channel client.posting ::
        back.map .beside)
          .empty (s, []) =
        ((f.visitAll n p (front ++ channel client :: back) .empty s).1,
          (f.visitAll n p (front ++ channel client :: back) .empty s).2, posted) := by
  obtain ⟨l, hl, hfront⟩ := f.visitAll_answers n p front [] s
  obtain ⟨posted, answer, fares, hv, hv'⟩ :=
    f.visit_posting client n p channels (.ofAnswers l) (f.visitAll n p front .empty s).2 []
  obtain ⟨l', hl', hback⟩ := f.visitAll_answers n p back (l ++ [(MailChannel.id, answer)])
    (f.visit n p (channel client) (.ofAnswers l) (f.visitAll n p front .empty s).2).2
  rw [← Report.ofAnswers_concat] at hv hv'
  have hl : (f.visitAll n p front .empty s).1 = .ofAnswers l := hl
  refine ⟨posted, l, answer, l', fares, hfront, hback, ?_, ?_⟩
  · simp only [visitAll_append, visitAll, hl, hv, hl', List.append_assoc, List.singleton_append]
  · simp only [visitAll_append, visitAll, visitAll_beside, hl, hv, hv', List.nil_append]

variable {before after : List (PushChannel σ)}

theorem run_posting (h : f.channels = before ++ channel client :: after) (s : σ) :
    ∃ posted, (f.posting client before after).run n p (s, []) =
      ((f.run n p s).1, (f.run n p s).2, posted) ∧
      (Comes n before MailChannel.id ∧ (∃ l answer l', f.Fares client n p posted answer ∧
          (f.run n p s).1.report = .ofAnswers (l ++ (MailChannel.id, answer) :: l') ∧
          l.map (·.1) = (alongside n before).map (·.id) ∧
          l'.map (·.1) = (alongside n after).map (·.id)) ∨
        ¬ Comes n before MailChannel.id ∧ posted = []) := by
  have hg : (f.posting client before after).channels =
      before.map .beside ++ channel client.posting :: after.map .beside := rfl
  by_cases comes : Comes n before MailChannel.id
  · have hc := candidates_of_comes (c := channel client) h comes
    have hc' := candidates_of_comes (c := channel client.posting) hg (comes_beside.2 comes)
    rw [← map_alongside, ← map_alongside] at hc'
    obtain ⟨posted, l, answer, l', fares, hl, hl', hr, hrun⟩ := f.visitAll_posting client n p
      (f.posting client before after).channels (alongside n before) (alongside n after) s
    rw [← hc] at hr hrun
    refine ⟨posted, ?_, .inl ⟨comes, l, answer, l', fares, ?_, hl, hl'⟩⟩
    · have hrun : (f.posting client before after).visitAll n p _ .empty (s, []) = _ := hrun
      simp only [run, hc', hrun]
    · simp only [run, hr, Outcome.report_ofReport]
  · have hc := candidates_of_not_comes (c := channel client) h comes
    have hc' := candidates_of_not_comes (c := channel client.posting) hg (mt comes_beside.1 comes)
    have hb : (f.posting client before after).candidates n = (f.candidates n).map .beside := by
      rw [hc, hc', ← candidates_beside, List.map_append]
      rfl
    refine ⟨[], ?_, .inr ⟨comes, rfl⟩⟩
    simp only [run, hb]
    rw [posting, visitAll_beside]

end FanOut

end Posting

theorem Report.about_entry {id : String} {answer : Except PushError Unit}
    {l l' : List (String × Except PushError Unit)} (h : id ∉ l.map (·.1)) (h' : id ∉ l'.map (·.1)) :
    (ofAnswers (l ++ (id, answer) :: l')).about id = Report.empty.add id answer := by
  have none {k : List (String × Except PushError Unit)} (hk : id ∉ k.map (·.1)) :
      k.filter (·.1 == id) = [] := by
    refine List.filter_eq_nil_iff.2 fun x hx he => hk (List.mem_map.2 ⟨x, hx, ?_⟩)
    simpa using he
  have hf : (l ++ (id, answer) :: l').filter (·.1 == id) = [] ++ [(id, answer)] := by
    simp [List.filter_append, none h, none h']
  rw [about_ofAnswers, hf, ofAnswers_concat]
  rfl

namespace MailChannel

section Runs

variable {σ : Type} {f : FanOut σ} {client : MailClient σ} {n : Notification}
    {p : Preferences} {d : Dispatch}

/-- What the user has chosen for mail, or else how mail is by itself. -/
def preferences (p : Preferences) : PushPreferences := (p.channel? MailChannel.id).getD {}

theorem preferencesFor_channel (client : MailClient σ) (p : Preferences) :
    FanOut.preferencesFor p (channel client) = some (preferences p) := by
  have hd : (channel client).defaults = some {} := rfl
  have hid : (channel client).id = MailChannel.id := rfl
  rw [FanOut.preferencesFor, hd, hid, preferences]
  cases p.channel? MailChannel.id <;> rfl

/-- Nothing but its address can keep the notification from being posted. -/
structure Wanted (f : FanOut σ) (n : Notification) (p : Preferences) (d : Dispatch) : Prop where
  personal : n.audience = .personal
  made : f.produce n p (preferences p).channel = .ok d
  now : f.ignoreFrequency = true ∨ (preferences p).frequency = .instant

theorem firstShut?_of_wanted (h : Wanted f n p d) (client : MailClient σ) :
    f.firstShut? n p (channel client) =
      if d.params.contains "recipient" then none
      else some (.configuration, ⟨.configuration, "channel not configured for user"⟩) := by
  have ha : (channel client).accepts n.audience = true := by
    rw [h.personal]
    rfl
  have hi : (channel client).isConfigured d.params = d.params.contains "recipient" := rfl
  have hn : (f.ignoreFrequency || (preferences p).frequency == .instant) =
    true := by simpa using h.now
  cases hc : d.params.contains "recipient" <;>
    simp [FanOut.firstShut?, FanOut.Gate.all, FanOut.shut?, FanOut.made?, preferencesFor_channel,
      ha, h.made, hi, hn, hc]

theorem wanted_of_offered (h : f.offered? n p (channel client) = some d) : Wanted f n p d := by
  rw [FanOut.offered?] at h
  split at h
  · next hs hm =>
    cases h
    have hopen := List.findSome?_eq_none_iff.1 hs
    have ha := hopen .audience (by decide)
    have hf := hopen .frequency (by decide)
    simp only [FanOut.shut?, FanOut.made?, preferencesFor_channel, Option.map_some,
      Option.map_eq_none_iff, Option.some.injEq] at ha hf hm
    refine ⟨?_, hm, ?_⟩
    · by_contra hne
      simp [channel, PushChannel.immediate, hne] at ha
    · by_contra hne
      simp [not_or.1 hne] at hf
  · cases h

theorem contains_of_mailFor {m : Mail} (h : mailFor d = .ok m) :
    d.params.contains "recipient" = true := by
  obtain ⟨v, hv, -⟩ := mailFor_eq_ok.1 h
  exact Option.isSome_of_eq_some ((get_recipient d.params v).1 hv)

theorem exists_mailFor_iff {content : ContentService} {c : ChannelPreferences}
    (h : content.produce n p c = .ok d) :
    (∃ m, mailFor d = .ok m) ↔ ∃ r, Names content n p c r ∧ Address r.toList := by
  simp only [names_iff h, mailFor_eq_ok]
  constructor
  · rintro ⟨_, v, hv, ha, rfl⟩
    exact ⟨_, ⟨v, hv, rfl⟩, ha⟩
  · rintro ⟨_, ⟨v, hv, rfl⟩, ha⟩
    exact ⟨_, v, hv, ha, rfl⟩

end Runs

end MailChannel

namespace FanOut.Fares

open MailChannel

variable {σ : Type} {f : FanOut σ} {client : MailClient σ} {n : Notification}
    {p : Preferences} {d : Dispatch} {posted : List Posted} {answer : Except PushError Unit}

theorem length_le (h : f.Fares client n p posted answer) : posted.length ≤ 1 := by
  cases h <;> simp

theorem answered (h : f.Fares client n p posted answer) :
    ∀ x ∈ posted, answer = x.answer.mapError ofMailError := by
  cases h <;> simp

theorem wanted_of_mem (h : f.Fares client n p posted answer) :
    ∀ x ∈ posted, ∃ d, Wanted f n p d ∧ mailFor d = .ok x.mail := by
  cases h with
  | shut | unfit => simp
  | posted offered hm answer => simpa using ⟨_, wanted_of_offered offered, hm⟩

theorem ne_nil (h : f.Fares client n p posted answer) (wanted : Wanted f n p d) {m : Mail}
    (hm : mailFor d = .ok m) : posted ≠ [] := by
  cases h with
  | shut hs =>
    rw [firstShut?_of_wanted wanted, if_pos (contains_of_mailFor hm)] at hs
    cases hs
  | unfit offered he =>
    cases wanted.made.symm.trans (wanted_of_offered offered).made
    cases hm.symm.trans he
  | posted => simp

theorem configuration (h : f.Fares client n p [] answer) (wanted : Wanted f n p d) :
    ∃ e, answer = .error e ∧ e.kind = .configuration := by
  cases h with
  | @shut g e hs =>
    rw [firstShut?_of_wanted wanted] at hs
    split at hs
    · cases hs
    · cases hs
      exact ⟨_, rfl, rfl⟩
  | unfit _ he => exact ⟨_, rfl, configuration_of_mailFor he⟩

end FanOut.Fares

namespace MailChannel

variable {σ : Type}

/-- What mail is answered with when nothing but its address is in the way, and when a client was
asked. -/
structure Answers (content : ContentService) (f : FanOut σ) (n : Notification) (p : Preferences)
    (posted : List Posted) (answer : Except PushError Unit) : Prop where
  refused : (∃ d, Wanted f n p d) →
    (∀ r, Names content n p (preferences p).channel r → ¬ Address r.toList) →
    ∃ e, answer = .error e ∧ e.kind = .configuration ∧ e.isTemporary = false
  failed : ∀ m e, ⟨m, .error e⟩ ∈ posted →
    ∃ e', answer = .error e' ∧ e'.isTemporary = e.temporary ∧ e'.message = e.message
  taken : ∀ m, ⟨m, .ok ()⟩ ∈ posted → answer = .ok ()

/-- What is posted in a run, and what its report says of mail. -/
structure Correspondence (content : ContentService) (f : FanOut σ)
    (before after : List (PushChannel σ))
    (n : Notification) (p : Preferences) (posted : List Posted) (report : Report) : Prop where
  once : posted.length ≤ 1
  wellFormed : ∀ x ∈ posted, WellFormed x.mail ∧
    Names content n p (preferences p).channel x.mail.recipient
  addressed : (∀ r, Names content n p (preferences p).channel r → ¬ Address r.toList) → posted = []
  reached : posted ≠ [] ↔ FanOut.Comes n before MailChannel.id ∧ (∃ d, Wanted f n p d) ∧
    ∃ r, Names content n p (preferences p).channel r ∧ Address r.toList
  /-- The entry of mail stands among those of the other channels as it does among these. -/
  entry : FanOut.Comes n before MailChannel.id →
  ∃ l answer l', Answers content f n p posted answer ∧
    report = .ofAnswers (l ++ (MailChannel.id, answer) :: l') ∧
    l.map (·.1) = (FanOut.alongside n before).map (·.id) ∧
    l'.map (·.1) = (FanOut.alongside n after).map (·.id) ∧
    ((∀ c ∈ before ++ after, c.id ≠ MailChannel.id) →
      report.about MailChannel.id = Report.empty.add MailChannel.id answer)

end MailChannel

namespace FanOut.Fares

open MailChannel

variable {σ : Type} {f : FanOut σ} {client : MailClient σ} {n : Notification} {p : Preferences}
  {posted : List Posted} {answer : Except PushError Unit} {content : ContentService}

theorem wellFormed (h : f.Fares client n p posted answer) (made : f.produce = content.produce) :
    ∀ x ∈ posted, WellFormed x.mail ∧
      Names content n p (preferences p).channel x.mail.recipient := by
  intro x hx
  obtain ⟨d, wanted, hm⟩ := h.wanted_of_mem x hx
  exact wellFormed_of_mailFor (made ▸ wanted.made) hm

theorem addressed (h : f.Fares client n p posted answer) (made : f.produce = content.produce)
    (none : ∀ r, Names content n p (preferences p).channel r → ¬ Address r.toList) :
    posted = [] := by
  refine List.eq_nil_iff_forall_not_mem.2 fun x hx => ?_
  obtain ⟨hw, hn⟩ := h.wellFormed made x hx
  exact none _ hn hw.address

theorem answers (h : f.Fares client n p posted answer) (made : f.produce = content.produce) :
    Answers content f n p posted answer where
  refused := by
    rintro ⟨d, wanted⟩ none
    obtain rfl := h.addressed made none
    obtain ⟨e, rfl, he⟩ := h.configuration wanted
    exact ⟨e, rfl, he, by rw [PushError.isTemporary, he, PushError.Kind.isTemporary]⟩
  failed m e hx := ⟨_, h.answered _ hx, isTemporary_ofMailError e, message_ofMailError e⟩
  taken m hx := h.answered _ hx

theorem reached (h : f.Fares client n p posted answer) (made : f.produce = content.produce) :
    posted ≠ [] ↔ (∃ d, Wanted f n p d) ∧ ∃ r, Names content n p (preferences p).channel r ∧
      Address r.toList := by
  constructor
  · intro hne
    obtain ⟨x, hx⟩ := List.exists_mem_of_ne_nil posted hne
    obtain ⟨d, wanted, -⟩ := h.wanted_of_mem x hx
    obtain ⟨hw, hn⟩ := h.wellFormed made x hx
    exact ⟨⟨d, wanted⟩, _, hn, hw.address⟩
  · rintro ⟨⟨d, wanted⟩, hr⟩
    obtain ⟨m, hm⟩ := (exists_mailFor_iff (made ▸ wanted.made)).2 hr
    exact h.ne_nil wanted hm

end FanOut.Fares

namespace MailChannel

variable {σ : Type}

/-- Whatever the templates, preferences, factories and other channels are, a client is given one
mail at most, and only one that is well formed and goes to the address that the last source of a
recipient names; and it is given that, unless something else keeps mail back. Without such an
address it is given none, and if nothing else is in the way the fault is the user's settings. If the
client fails, mail fails for a time just if the client says so. -/
theorem posts_well_formed (content : ContentService) (client : MailClient σ)
    (before after : List (PushChannel σ))
    (listeners : List (Listener ChannelFailure σ)) (ignoreFrequency : Bool) (n : Notification)
    (p : Preferences) (s : σ) :
    let f : FanOut σ := ⟨before ++ channel client :: after, content.produce, listeners,
      ignoreFrequency⟩
    ∃ posted, (f.posting client before after).run n p (s, []) =
      ((f.run n p s).1, (f.run n p s).2, posted) ∧
      Correspondence content f before after n p posted (f.run n p s).1.report := by
  intro f
  obtain ⟨posted, hrun, ⟨comes, l, answer, l', fares, hr, hl, hl'⟩ | ⟨comes, rfl⟩⟩ :=
    f.run_posting client n p (rfl : f.channels = before ++ channel client :: after) s
  · have about (alone : ∀ c ∈ before ++ after, c.id ≠ MailChannel.id) :
        (f.run n p s).1.report.about MailChannel.id = Report.empty.add MailChannel.id answer := by
      rw [hr]
      refine Report.about_entry (fun h => ?_) fun h => ?_
      · obtain ⟨c, hc, he⟩ := List.mem_map.1 (hl ▸ h)
        exact alone c (List.mem_append_left after (FanOut.alongside_subset n before hc)) he
      · obtain ⟨c, hc, he⟩ := List.mem_map.1 (hl' ▸ h)
        exact alone c (List.mem_append_right before (FanOut.alongside_subset n after hc)) he
    refine ⟨posted, hrun, fares.length_le, fares.wellFormed rfl, fares.addressed rfl, ?_,
      fun _ => ⟨l, answer, l', fares.answers rfl, hr, hl, hl', about⟩⟩
    exact (fares.reached rfl).trans (and_iff_right comes).symm
  · refine ⟨[], hrun, by simp, by simp, fun _ => rfl, ?_, fun h => absurd h comes⟩
    simp [comes]

theorem posts_well_formed_of_two :
    let client : MailClient Unit := ⟨fun _ s => (.error ⟨true, "busy"⟩, s)⟩
    let content : ContentService :=
      ⟨Catalog.empty.register "news" .long ⟨.text, "Subject: Hi\n\nHello"⟩, .empty⟩
    let f : FanOut Unit := ⟨[] ++ [channel client], content.produce, [], false⟩
    let n : Notification := .create "ann" "news" .epoch
    let p (v : Value) : Preferences := { user := "ann", params := .ofList [("recipient", v)] }
    let ann := p (.text " ann@example.org\t")
    let m : Mail := ⟨"ann@example.org", "Hi", "Hello", .text⟩
    (WellFormed m ∧ ((f.posting client [] []).run n ann ((), [])).2.2 =
      [⟨m, .error ⟨true, "busy"⟩⟩] ∧
      ∃ e, e.message = "busy" ∧
        (f.run n ann ()).1.report.about MailChannel.id = ⟨[], [(MailChannel.id, e)], []⟩) ∧
    ∃ e, e.kind = .configuration ∧
      (f.run n (p (.integer 1)) ()).1.report.about MailChannel.id =
        ⟨[], [], [(MailChannel.id, e)]⟩ := by
  intro client content f n p ann m
  have comes : FanOut.Comes n ([] : List (PushChannel Unit)) MailChannel.id := by rintro _ ⟨⟩
  constructor
  · obtain ⟨posted, hrun, h⟩ := posts_well_formed content client [] [] [] false n ann ()
    have hlog : ((f.posting client [] []).run n ann ((), [])).2.2 = posted := by rw [hrun]
    have hp : ((f.posting client [] []).run n ann ((), [])).2.2 =
      [⟨m, .error ⟨true, "busy"⟩⟩] := by decide +kernel
    have hm : ⟨m, .error ⟨true, "busy"⟩⟩ ∈ posted := by
      rw [← hlog, hp]
      exact List.mem_singleton_self _
    obtain ⟨_, _, _, answers, -, -, -, about⟩ := h.entry comes
    obtain ⟨e, rfl, ht, he⟩ := answers.failed m ⟨true, "busy"⟩ hm
    refine ⟨(h.wellFormed _ hm).1, hp, e, he, (about (by simp)).trans ?_⟩
    simp [Report.add, Report.addError, Report.empty, ht]
  · obtain ⟨posted, -, h⟩ := posts_well_formed content client [] [] [] false n (p (.integer 1)) ()
    let d : Dispatch := ⟨⟨.text, "Hi", "Hello"⟩, .ofList [("recipient", .integer 1)]⟩
    have made : content.produce n (p (.integer 1)) {} = .ok d := by decide +kernel
    have wanted : Wanted f n (p (.integer 1)) d := ⟨rfl, made, .inr rfl⟩
    obtain ⟨_, _, _, answers, -, -, -, about⟩ := h.entry comes
    obtain ⟨e, rfl, he, ht⟩ := answers.refused ⟨d, wanted⟩ fun r hr => by
      obtain ⟨v, hv, -⟩ := (names_iff made).1 hr
      have hno : d.params.get recipientKey = none := by decide
      cases hv.symm.trans hno
    refine ⟨e, he, (about (by simp)).trans ?_⟩
    simp [Report.add, Report.addError, Report.empty, ht]

end MailChannel

end Herald
