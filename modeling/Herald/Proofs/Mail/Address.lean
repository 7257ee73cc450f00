import Herald.Channel.Mail
import Herald.Proofs.Message.Normalizing
import Herald.Proofs.Content.Precedence
/-!
Mails for content that was made of templates and parameters: with one address, which the last source
that has a recipient names, a subject of one line and a body.
-/

set_option autoImplicit false

namespace Herald

open Text (isBlank)

namespace MailChannel

variable {s : List Char} {d : Dispatch} {m : Mail} {e : PushError}

def signs : List Char := ['<', '>', '(', ')', '[', ']', ',', ';', ':']

/-- Exactly one `@`, something before and behind it, and neither blanks nor signs. -/
def Address (s : List Char) : Prop :=
  ∃ a b, s = a ++ '@' :: b ∧ a ≠ [] ∧ b ≠ [] ∧ ∀ c ∈ a ++ b, c ≠ '@' ∧ isBlank c = false ∧ c ∉ signs

theorem isAddressChar_iff {c : Char} : isAddressChar c = true ↔
    c ≠ '@' ∧ isBlank c = false ∧ c ∉ signs := by
  simp [isAddressChar, signs, and_left_comm]

theorem isAddress_iff : isAddress s = true ↔ Address s := by
  have hs : s.takeWhile isAddressChar ++ s.dropWhile isAddressChar = s :=
    List.takeWhile_append_dropWhile
  constructor
  · intro h
    rw [isAddress] at h
    split at h
    · next b hb =>
      simp only [Bool.and_eq_true, decide_eq_true_eq, List.all_eq_true] at h
      obtain ⟨⟨ha, hne⟩, hall⟩ := h
      refine ⟨_, b, by rw [← hb, hs], ha, hne, fun c hc => isAddressChar_iff.1 ?_⟩
      rcases List.mem_append.1 hc with hc | hc
      · exact List.mem_takeWhile_imp hc
      · exact hall c hc
    · cases h
  · rintro ⟨a, b, rfl, ha, hb, h⟩
    have hall : ∀ c ∈ a ++ b, isAddressChar c = true := fun c hc => isAddressChar_iff.2 (h c hc)
    have hfront : ∀ c ∈ a, isAddressChar c = true := fun c hc => hall c (List.mem_append_left b hc)
    have hat : ¬ isAddressChar '@' = true := by decide
    have hd : (a ++ '@' :: b).dropWhile isAddressChar = '@' :: b := by
      rw [List.dropWhile_append_of_pos hfront, List.dropWhile_cons_of_neg hat]
    have ht : (a ++ '@' :: b).takeWhile isAddressChar = a := by
      rw [List.takeWhile_append_of_pos hfront, List.takeWhile_cons_of_neg hat, List.append_nil]
    simp only [isAddress, hd, ht]
    simp [ha, hb]
    exact fun c hc => hall c (List.mem_append_right a hc)

structure WellFormed (m : Mail) : Prop where
  address : Address m.recipient.toList
  oneLine : '\n' ∉ m.subject.toList
  trimmed : Text.trimmed m.subject = m.subject
  filled : m.body ≠ ""
  ends : ∀ c ∈ m.body.toList.getLast?, isBlank c = false

theorem mailFor_eq_ok : mailFor d = .ok m ↔ ∃ v, d.params.get recipientKey = some v ∧
    Address (Text.trimmed v).toList ∧
    m = ⟨Text.trimmed v, d.message.subject, d.message.body, d.message.kind⟩ := by
  rw [mailFor]
  cases hv : d.params.get recipientKey with
  | none => simp
  | some v =>
    by_cases ha : isAddress (Text.trimmed v).toList = true
    · simp [ha, isAddress_iff.1 ha, eq_comm]
    · simp [ha, mt isAddress_iff.2 ha]

theorem configuration_of_mailFor (h : mailFor d = .error e) : e.kind = .configuration := by
  rw [mailFor] at h
  split at h
  · cases h
    rfl
  · simp only at h
    split at h
    · cases h
    · cases h
      rfl

theorem isTemporary_ofMailError (e : MailError) : (ofMailError e).isTemporary = e.temporary := by
  rw [ofMailError]
  cases e.temporary <;> rfl

theorem message_ofMailError (e : MailError) : (ofMailError e).message = e.message := by
  rw [ofMailError]
  split <;> rfl

section Content

variable {content : ContentService} {n : Notification} {p : Preferences}
    {c : ChannelPreferences} {d : Dispatch} {m : Mail} {r : String}

/-- Of the sources of parameters the last that has a recipient names this one: those of the user,
the channel, the notification and the factories. -/
def Names (content : ContentService) (n : Notification) (p : Preferences) (c : ChannelPreferences)
    (r : String) : Prop :=
  ∃ given v, ContentService.Give n p content.factories.toList given ∧
    LastWord (·.getValue "recipient") (p.params :: c.params :: n.params :: given) (.text v) ∧
      r = Text.trimmed v

theorem get_recipient (b : Bag) (v : String) :
    b.get recipientKey = some v ↔ b.getValue "recipient" = some (.text v) := by
  rw [Bag.get, Option.bind_eq_some_iff]
  constructor
  · rintro ⟨x, hx, hv⟩
    cases x <;> cases hv
    exact hx
  · exact fun h => ⟨_, h, rfl⟩

theorem names_iff (h : content.produce n p c = .ok d) :
    Names content n p c r ↔ ∃ v, d.params.get recipientKey = some v ∧ r = Text.trimmed v := by
  have hm := (ContentService.produce_eq_ok.1 h).1
  constructor
  · rintro ⟨given, v, hg, hv, rfl⟩
    have merges := Bag.merges_foldl (p.params :: c.params :: n.params :: given)
    have hb := hm.symm.trans (ContentService.mergeParams_eq_ok.2 ⟨given, hg, merges⟩)
    exact ⟨v, (get_recipient _ v).2 (Except.ok.inj hb ▸ (merges.last _ _).2 hv), rfl⟩
  · rintro ⟨v, hv, rfl⟩
    obtain ⟨given, hg, merges⟩ := ContentService.mergeParams_eq_ok.1 hm
    exact ⟨given, v, hg, (merges.last _ _).1 ((get_recipient _ v).1 hv), rfl⟩

theorem normal_of_produce (h : content.produce n p c = .ok d) : d.message.Normal := by
  have hr := (ContentService.produce_eq_ok.1 h).2
  rw [Catalog.render] at hr
  split at hr
  · cases hr
  · rw [Template.render] at hr
    split at hr
    · cases hr
    · split at hr
      · next hp =>
        cases hr
        exact Message.normal_of_parse hp
      · cases hr

theorem wellFormed_of_mailFor (h : content.produce n p c = .ok d) (hm : mailFor d = .ok m) :
    WellFormed m ∧ Names content n p c m.recipient := by
  obtain ⟨v, hv, ha, rfl⟩ := mailFor_eq_ok.1 hm
  have normal := normal_of_produce h
  exact ⟨⟨ha, normal.oneLine, normal.trimmed, normal.filled, normal.ends⟩,
    (names_iff h).2 ⟨v, hv, rfl⟩⟩

end Content

end MailChannel

end Herald
