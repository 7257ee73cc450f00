import Herald.Proofs.Config.Numerals
/-!
The settings of a configuration, each with the variable that may give it: what a variable may say,
what a configuration is after all of them, and which of them keeps it from being read.
-/

set_option autoImplicit false

namespace Herald

open Json Text

section Except

variable {ε α β : Type} {x : Except ε α} {f : α → Except ε β} {b : β} {e : ε}

theorem exceptBind_eq_ok : (x >>= f) = .ok b ↔ ∃ a, x = .ok a ∧ f a = .ok b := by
  cases x with
  | error e => exact iff_of_false (by rintro ⟨⟩) (by rintro ⟨a, ⟨⟩, -⟩)
  | ok a =>
    constructor
    · exact fun h => ⟨a, rfl, h⟩
    · rintro ⟨_, ⟨⟩, h⟩
      exact h

theorem exceptBind_eq_error : (x >>= f) = .error e ↔
    x = .error e ∨ ∃ a, x = .ok a ∧ f a = .error e := by
  cases x with
  | error e' =>
    constructor
    · rintro ⟨⟩
      exact .inl rfl
    · rintro (⟨⟨⟩⟩ | ⟨a, ⟨⟩, -⟩)
      rfl
  | ok a =>
    constructor
    · exact fun h => .inr ⟨a, rfl, h⟩
    · rintro (⟨⟨⟩⟩ | ⟨_, ⟨⟩, h⟩)
      exact h

theorem exceptMap_eq_error {g : α → β} : x.map g = .error e ↔ x = .error e := by
  cases x <;> simp [Except.map]

end Except

namespace Config

namespace Variable

variable {limit : Nat} {name raw : String} {l : List String} {e : Fault}

theorem reason_of_natural (h : natural limit name raw = .error e) :
    ∃ why, e = unreadable name raw why := by
  rw [natural] at h
  split at h
  · cases h
  · cases h
    exact ⟨_, rfl⟩

theorem reason_of_word64 (h : word64 name raw = .error e) : ∃ why, e = unreadable name raw why :=
  reason_of_natural (exceptMap_eq_error.1 h)

theorem reason_of_word32 (h : word32 name raw = .error e) : ∃ why, e = unreadable name raw why :=
  reason_of_natural (exceptMap_eq_error.1 h)

theorem reason_of_wordsOf (h : wordsOf name l = .error e) :
    ∃ p ∈ l, ∃ why, e = unreadable name p why := by
  induction l with
  | nil => cases h
  | cons p l ih =>
    rw [wordsOf] at h
    rcases exceptBind_eq_error.1 h with h | ⟨n, -, h⟩
    · exact ⟨p, List.mem_cons_self, reason_of_word64 h⟩
    · rcases exceptBind_eq_error.1 h with h | ⟨ns, -, ⟨⟩⟩
      obtain ⟨q, hq, why, he⟩ := ih h
      exact ⟨q, List.mem_cons_of_mem p hq, why, he⟩

theorem reason_of_boolean (h : boolean name raw = .error e) :
    ∃ why, e = unreadable name raw why := by
  rw [boolean] at h
  split at h
  · cases h
  · split at h
    · cases h
    · cases h
      exact ⟨_, rfl⟩

end Variable

inductive Setting where
  | workers
  | maxErrors
  | backoff
  | pollInterval
  | databaseUrl
  | logFilter
  | logJson
  deriving DecidableEq, Repr

namespace Setting

abbrev Carrier : Setting → Type
  | .workers => UInt64
  | .maxErrors => UInt32
  | .backoff => List UInt64
  | .pollInterval => UInt64
  | .databaseUrl => String
  | .logFilter => Option String
  | .logJson => Bool

def of (c : Config) : (s : Setting) → s.Carrier
  | .workers => c.workerCount
  | .maxErrors => c.maxErrorCount
  | .backoff => c.backoffSecs
  | .pollInterval => c.pollIntervalSecs
  | .databaseUrl => c.databaseUrl
  | .logFilter => c.logFilter
  | .logJson => c.logJson

def variableName : Setting → String
  | .workers => "NOTIFY_WORKERS"
  | .maxErrors => "NOTIFY_MAX_ERRORS"
  | .backoff => "NOTIFY_BACKOFF_SECS"
  | .pollInterval => "NOTIFY_POLL_INTERVAL_SECS"
  | .databaseUrl => "DATABASE_URL"
  | .logFilter => "NOTIFY_LOG"
  | .logJson => "NOTIFY_LOG_JSON"

def read : (s : Setting) → String → Except Fault s.Carrier
  | .workers => Variable.word64 Variable.workers
  | .maxErrors => Variable.word32 Variable.maxErrors
  | .backoff => Variable.words Variable.backoffSecs
  | .pollInterval => Variable.word64 Variable.pollIntervalSecs
  | .databaseUrl => .ok
  | .logFilter => fun raw => .ok (some raw)
  | .logJson => Variable.boolean Variable.logJson

def field : Setting → String
  | .workers => "worker_count"
  | .maxErrors => "max_error_count"
  | .backoff => "backoff_secs"
  | .pollInterval => "poll_interval_secs"
  | .databaseUrl => "database_url"
  | .logFilter => "log_filter"
  | .logJson => "log_json"

def decode? : (s : Setting) → Doc → Option s.Carrier
  | .workers => Doc.uint64?
  | .maxErrors => Doc.uint32?
  | .backoff => Doc.list? Doc.uint64?
  | .pollInterval => Doc.uint64?
  | .databaseUrl => Doc.text?
  | .logFilter => orNull? Doc.text?
  | .logJson => Doc.bool?

def all : List Setting := [.workers, .maxErrors, .backoff, .pollInterval, .databaseUrl,
    .logFilter, .logJson]

/-- Those that not every text can stand for, in the order in which their variables are read. -/
def checked : List Setting := [.workers, .maxErrors, .backoff, .pollInterval, .logJson]

/-- What is said and what it then stands for, where it stands for anything. -/
def Stands : (s : Setting) → String → s.Carrier → Prop
  | .workers, raw, n => Numeral (trim raw.toList) n.toNat
  | .maxErrors, raw, n => Numeral (trim raw.toList) n.toNat
  | .backoff, raw, ns => List.Forall₂ (fun p n => Numeral (trim p) n.toNat)
      ((splitOnChar ',' raw.toList).filter fun p => !allBlank p) ns
  | .pollInterval, raw, n => Numeral (trim raw.toList) n.toNat
  | .databaseUrl, raw, url => url = raw
  | .logFilter, raw, filter => filter = some raw
  | .logJson, raw, b => String.ofList ((trim raw.toList).map Char.toLower) ∈
      if b then ["1", "true", "yes", "on"] else ["0", "false", "no", "off", ""]

variable {lookup : String → Option String} {s t : Setting} {raw : String}
    {old v : s.Carrier} {e : Fault}

theorem mem_all (s : Setting) : s ∈ all := by cases s <;> decide

theorem variableName_injective (h : s.variableName = t.variableName) : s = t := by
  cases s <;> cases t <;> first | rfl | exact absurd h (by decide)

theorem variableName_ne_configFile (s : Setting) : s.variableName ≠ "NOTIFY_CONFIG" := by
  cases s <;> decide

theorem boolean_eq_ok {name : String} {b : Bool} :
    Variable.boolean name raw = .ok b ↔ Stands .logJson raw b := by
  have disjoint : ∀ w ∈ ["1", "true", "yes", "on"], w ∉ ["0", "false", "no", "off", ""] := by decide
  rw [Variable.boolean, Stands]
  split
  · next h => cases b <;> simp [h, disjoint _ h]
  · next h => split <;> cases b <;> simp_all

theorem read_eq_ok : s.read raw = .ok v ↔ s.Stands raw v := by
  cases s with
  | workers => exact Variable.word64_eq_ok
  | maxErrors => exact Variable.word32_eq_ok
  | backoff => exact Variable.words_eq_ok
  | pollInterval => exact Variable.word64_eq_ok
  | databaseUrl | logFilter =>
    exact ⟨fun h => (Except.ok.inj h).symm, fun h => congrArg Except.ok h.symm⟩
  | logJson => exact boolean_eq_ok

def given (lookup : String → Option String) (s : Setting) (old : s.Carrier) :
    Except Fault s.Carrier :=
  match lookup s.variableName with
  | none => .ok old
  | some raw => s.read raw

def fault? (lookup : String → Option String) (s : Setting) : Option Fault :=
  match (lookup s.variableName).map s.read with
  | some (.error e) => some e
  | _ => none

theorem fault?_eq_some :
    s.fault? lookup = some e ↔ ∃ raw, lookup s.variableName = some raw ∧ s.read raw = .error e := by
  rw [fault?]
  cases lookup s.variableName with
  | none => simp
  | some raw => cases h : s.read raw <;> simp [h]

def Parses (lookup : String → Option String) (s : Setting) : Prop :=
  ∀ raw, lookup s.variableName = some raw → ∃ v, s.Stands raw v

theorem fault?_eq_none : s.fault? lookup = none ↔ s.Parses lookup := by
  simp only [Parses, ← read_eq_ok]
  rw [fault?]
  cases lookup s.variableName with
  | none => simp
  | some raw => cases h : s.read raw <;> simp [h]

theorem given_eq_ok : s.given lookup old = .ok v ↔
    (∃ raw, lookup s.variableName = some raw ∧ s.Stands raw v) ∨
    lookup s.variableName = none ∧ v = old := by
  simp only [given, ← read_eq_ok]
  cases lookup s.variableName with
  | none => simp [eq_comm]
  | some raw => simp

theorem names_of_read_eq_error (h : s.read raw = .error e) :
    ∃ part why, (part = raw ∨ s = .backoff ∧ part ∈ Variable.listParts raw) ∧
      e = Variable.unreadable s.variableName part why := by
  have whole (h : ∃ why, e = Variable.unreadable s.variableName raw why) :
      ∃ part why, (part = raw ∨ s = .backoff ∧ part ∈ Variable.listParts raw) ∧
        e = Variable.unreadable s.variableName part why := by
    obtain ⟨why, rfl⟩ := h
    exact ⟨raw, why, .inl rfl, rfl⟩
  cases s with
  | workers | pollInterval => exact whole (Variable.reason_of_word64 h)
  | maxErrors => exact whole (Variable.reason_of_word32 h)
  | backoff =>
    obtain ⟨part, hpart, why, rfl⟩ := Variable.reason_of_wordsOf h
    exact ⟨part, why, .inr ⟨rfl, hpart⟩, rfl⟩
  | databaseUrl | logFilter => cases h
  | logJson => exact whole (Variable.reason_of_boolean h)

theorem given_eq_error : s.given lookup old = .error e ↔ s.fault? lookup = some e := by
  rw [given, fault?_eq_some]
  cases lookup s.variableName with
  | none => simp
  | some raw => simp

theorem exists_given (h : s.fault? lookup = none) (old : s.Carrier) :
    ∃ v, s.given lookup old = .ok v := by
  cases hg : s.given lookup old with
  | ok v => exact ⟨v, rfl⟩
  | error e =>
    rw [given_eq_error, h] at hg
    cases hg

end Setting

variable {lookup : String → Option String} {c d : Config} {e : Fault}

theorem ext_of (h : ∀ s, Setting.of c s = Setting.of d s) : c = d := by
  obtain ⟨w, m, b, p, u, f, j⟩ := c
  obtain ⟨w', m', b', p', u', f', j'⟩ := d
  cases h .workers
  cases h .maxErrors
  cases h .backoff
  cases h .pollInterval
  cases h .databaseUrl
  cases h .logFilter
  cases h .logJson
  rfl

theorem withVariables_eq (lookup : String → Option String)
    (c : Config) : c.withVariables lookup = (do
    let workerCount ← Setting.workers.given lookup c.workerCount
    let maxErrorCount ← Setting.maxErrors.given lookup c.maxErrorCount
    let backoffSecs ← Setting.backoff.given lookup c.backoffSecs
    let pollIntervalSecs ← Setting.pollInterval.given lookup c.pollIntervalSecs
    let databaseUrl ← Setting.databaseUrl.given lookup c.databaseUrl
    let logFilter ← Setting.logFilter.given lookup c.logFilter
    let logJson ← Setting.logJson.given lookup c.logJson
    return {
      workerCount, maxErrorCount, backoffSecs, pollIntervalSecs, databaseUrl, logFilter,
      logJson }) := by
  have url : Setting.databaseUrl.given lookup c.databaseUrl =
      .ok ((lookup "DATABASE_URL").getD c.databaseUrl) := by
    rw [Setting.given, Setting.variableName]
    cases lookup "DATABASE_URL" <;> rfl
  have filter : Setting.logFilter.given lookup c.logFilter =
      .ok ((lookup "NOTIFY_LOG").or c.logFilter) := by
    rw [Setting.given, Setting.variableName]
    cases lookup "NOTIFY_LOG" <;> rfl
  rw [url, filter]
  rfl

theorem withVariables_eq_ok :
    c.withVariables lookup = .ok d ↔ ∀ s : Setting, s.given lookup (s.of c) = .ok (s.of d) := by
  rw [withVariables_eq]
  simp only [exceptBind_eq_ok]
  constructor
  · rintro ⟨w, hw, m, hm, b, hb, p, hp, u, hu, f, hf, j, hj, ⟨⟩⟩ s
    cases s <;> assumption
  · intro h
    exact ⟨_, h .workers, _, h .maxErrors, _, h .backoff, _, h .pollInterval, _, h .databaseUrl,
      _, h .logFilter, _, h .logJson, rfl⟩

theorem bind_given_eq_error {β : Type} {s : Setting} {old : s.Carrier}
    {f : s.Carrier → Except Fault β}
    {rest : List Setting} (h : ∀ v, f v = .error e ↔ rest.findSome? (·.fault? lookup) = some e) :
    (s.given lookup old >>= f) = .error e ↔ (s :: rest).findSome? (·.fault? lookup) = some e := by
  simp only [exceptBind_eq_error, Setting.given_eq_error, h, List.findSome?_cons]
  cases hs : s.fault? lookup with
  | some e' =>
    refine or_iff_left ?_
    rintro ⟨v, hv, -⟩
    cases hv.symm.trans (Setting.given_eq_error.2 hs)
  | none =>
    obtain ⟨v, hv⟩ := Setting.exists_given hs old
    constructor
    · rintro (⟨⟨⟩⟩ | ⟨-, -, h⟩)
      exact h
    · exact fun h => .inr ⟨v, hv, h⟩

theorem withVariables_eq_error :
    c.withVariables lookup = .error e ↔ Setting.checked.findSome? (·.fault? lookup) = some e := by
  have url : Setting.databaseUrl.fault? lookup = none :=
    Setting.fault?_eq_none.2 fun raw _ => ⟨raw, rfl⟩
  have filter : Setting.logFilter.fault? lookup = none :=
    Setting.fault?_eq_none.2 fun raw _ => ⟨some raw, rfl⟩
  -- Which of them is the first to fail is the same without these two.
  have hall : Setting.checked.findSome? (·.fault? lookup) =
      Setting.all.findSome? (·.fault? lookup) := by
    simp only [Setting.checked, Setting.all, List.findSome?_cons, url, filter]
  rw [withVariables_eq, hall]
  iterate 7 refine bind_given_eq_error fun _ => ?_
  exact iff_of_false (by rintro ⟨⟩) (by rintro ⟨⟩)

theorem exists_withVariables_iff :
    (∃ d, c.withVariables lookup = .ok d) ↔ ∀ s ∈ Setting.checked, s.Parses lookup := by
  simp only [← Setting.fault?_eq_none, ← List.findSome?_eq_none_iff]
  cases h : c.withVariables lookup with
  | ok d =>
    refine iff_of_true ⟨d, rfl⟩ ?_
    cases hf : Setting.checked.findSome? (·.fault? lookup) with
    | none => rfl
    | some e => cases h.symm.trans (withVariables_eq_error.2 hf)
  | error e =>
    rw [withVariables_eq_error.1 h]
    exact iff_of_false (by rintro ⟨d, ⟨⟩⟩) (by rintro ⟨⟩)

end Config

end Herald
