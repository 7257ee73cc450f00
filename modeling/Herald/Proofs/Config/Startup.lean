import Herald.Container
import Herald.Proofs.Retry.Backoff
import Herald.Proofs.Config.Layers
import Herald.Store.Memory
/-!
From the environment to an engine: a configuration is read in layers, checked, and then runs with
just what it says.
-/

set_option autoImplicit false

namespace Herald

namespace Config

variable {c : Config} {t : BackoffTable}

/-- What an engine needs of its configuration. -/
structure Runs (c : Config) : Prop where
  workers : 0 < c.workerCount
  pollInterval : 0 < c.pollIntervalSecs
  any : c.backoffSecs ≠ []
  climbs : c.backoffSecs.Pairwise (· ≤ ·)

theorem backoff?_eq_ok : c.backoff? = .ok t ↔ BackoffTable.ofSecs? c.backoffSecs = .ok t := by
  rw [backoff?]
  cases BackoffTable.ofSecs? c.backoffSecs <;> simp

theorem validate_eq_ok_iff : c.validate = .ok () ↔ c.Runs := by
  have table : (∃ t, c.backoff? = .ok t) ↔ c.backoffSecs ≠ [] ∧ c.backoffSecs.Pairwise (· ≤ ·) := by
    simp only [backoff?_eq_ok, BackoffTable.exists_ofSecs?_iff]
  rw [validate]
  split
  · next h => exact iff_of_false (by rintro ⟨⟩) fun hr => absurd hr.workers (by rw [h]; decide)
  · next hw =>
    split
    · next h =>
      exact iff_of_false (by rintro ⟨⟩) fun hr => absurd hr.pollInterval (by rw [h]; decide)
    · next hp =>
      simp only [exceptBind_eq_ok]
      constructor
      · rintro ⟨t, ht, -⟩
        obtain ⟨any, climbs⟩ := table.1 ⟨t, ht⟩
        exact ⟨UInt64.pos_iff_ne_zero.2 hw, UInt64.pos_iff_ne_zero.2 hp, any, climbs⟩
      · intro hr
        obtain ⟨t, ht⟩ := table.2 ⟨hr.any, hr.climbs⟩
        exact ⟨t, ht, rfl⟩

theorem dispatchConfig_eq_ok {g : DispatchConfig} : c.dispatchConfig = .ok g ↔
    ∃ t, BackoffTable.ofSecs? c.backoffSecs = .ok t ∧
      g = ⟨⟨c.maxErrorCount, t⟩, c.pollInterval⟩ := by
  simp only [dispatchConfig, exceptBind_eq_ok, backoff?_eq_ok]
  exact exists_congr fun t => and_congr_right fun _ => ⟨fun h => (Except.ok.inj h).symm,
    fun h => h ▸ rfl⟩

end Config

namespace Container

variable {S σ α : Type} {c : Config} {s : S} {produce : Producer} {channels : List (PushChannel σ)}
  {listeners : List (Listener ChannelFailure σ)} {standing g : DispatchConfig}
  {now : Instant} {outside : σ}

theorem ofParts_of_channels (any : channels ≠ []) :
    Dispatcher.ofParts ⟨some s, true, some produce, channels, listeners, g⟩ =
      .ok (⟨channels.foldl Roster.enlist .empty, produce, .ofList listeners, g⟩, s) := by
  rw [Dispatcher.ofParts, if_neg (by simpa using any)]
  rfl

/-- It runs with what the configuration says, setting by setting. -/
structure Follows (k : Container S σ α) (c : Config) : Prop where
  config : k.config = c
  workers : k.engine.hall.workerCount = c.workerCount.toNat
  errors : k.engine.hall.dispatcher.config.retry.maxErrorCount = c.maxErrorCount
  delays : k.engine.hall.dispatcher.config.retry.backoff.delays = c.backoffSecs.map Span.ofSecs
  pollInterval : k.engine.hall.dispatcher.config.pollInterval = Span.ofSecs c.pollIntervalSecs

theorem wire_of_dispatchConfig (any : channels ≠ []) (h : c.dispatchConfig = .ok g) :
    ∃ k : Container S σ α, wire c ⟨some s, true, some produce, channels, listeners,
      standing⟩ now outside = .ok k ∧ k.config = c ∧
      k.engine.hall.workerCount = c.workerCount.toNat ∧ k.engine.hall.dispatcher.config = g := by
  simp only [wire, exceptBind_eq_ok, ofParts_of_channels any]
  exact ⟨_, ⟨g, h, _, rfl, rfl⟩, rfl, rfl, rfl⟩

theorem ofStore_of_runs (any : channels ≠ []) (h : c.Runs) : ∃ k : Container S σ α,
    ofStore c ⟨some s, true, some produce, channels, listeners, standing⟩ now outside =
      .ok k ∧ k.Follows c := by
  obtain ⟨t, ht⟩ := BackoffTable.exists_ofSecs?_iff.2 ⟨h.any, h.climbs⟩
  obtain ⟨k, hk, hconfig, hworkers, hg⟩ :=
    wire_of_dispatchConfig any (Config.dispatchConfig_eq_ok.2 ⟨t, ht, rfl⟩)
  refine ⟨k, exceptBind_eq_ok.2 ⟨(), Config.validate_eq_ok_iff.2 h, hk⟩, hconfig, hworkers,
    ?_, ?_, ?_⟩
  · rw [hg]
  · rw [hg]
    exact BackoffTable.ofSpans?_eq_ok.1 ht
  · rw [hg]
    rfl

theorem runs_of_ofStore {p : Dispatcher.Parts S σ} {k : Container S σ α}
    (h : ofStore c p now outside = .ok k) : c.Runs := by
  rw [ofStore, exceptBind_eq_ok] at h
  obtain ⟨⟨⟩, hvalid, -⟩ := h
  exact Config.validate_eq_ok_iff.1 hvalid

/-- With any channel a container that is made follows its configuration. -/
theorem follows_of_ofStore {k : Container S σ α} (any : channels ≠ [])
    (h : ofStore c ⟨some s, true, some produce, channels, listeners, standing⟩ now outside =
      .ok k) : k.Follows c := by
  obtain ⟨k', hk', follows⟩ := ofStore_of_runs any (runs_of_ofStore h)
  cases hk'.symm.trans h
  exact follows

end Container

namespace Config

/-- A configuration is read if and only if the file that is named, if any, holds one and each
variable that is set and has to be parsed parses. Then every setting is what its variable stands for
if that is set, else what the file holds for it if it does, else the default; so no variable changes
any setting but its own. What is reported otherwise is wrong with the file, or with the first
variable in order, which it names. A list that is written in decimal digits between commas is read
back, whatever blanks are around its entries and whatever parts are blank. A configuration passes
its check if and only if an engine can run with it, and with any channel one then does, its delays
just those that are listed. -/
theorem layers_never_interfere [Objections] :
    (∀ (lookup : String → Option String) (read : String → Except FileFault String),
      ((∃ c, ofVariables lookup read = .ok c) ↔
        (∃ file, Opens lookup read file) ∧ ∀ s ∈ Setting.checked, s.Parses lookup) ∧
      (∀ c, ofVariables lookup read = .ok c ↔
        ∃ file, Opens lookup read file ∧ ∀ s : Setting, Decided lookup file s (s.of c)) ∧
      ∀ e, ofVariables lookup read = .error e ↔
        FileFails lookup read e ∨ (∃ file, Opens lookup read file) ∧ FirstFault lookup e) ∧
    (∀ (s : Setting) (lookup lookup' : String → Option String)
      (read : String → Except FileFault String),
      (∀ name, name ≠ s.variableName → lookup' name = lookup name) →
        ∀ c d, ofVariables lookup read = .ok c → ofVariables lookup' read = .ok d →
          ∀ t, t ≠ s → t.of d = t.of c) ∧
    (∀ (s : Setting) (raw : String) (e : Fault), s.read raw = .error e →
      ∃ part why, (part = raw ∨ s = .backoff ∧ part ∈ Variable.listParts raw) ∧
        e = Variable.unreadable s.variableName part why) ∧
    (∀ (ns : List UInt64) (ps : List (List Char)), Spread ns ps →
      ∀ lookup, lookup Variable.backoffSecs = some (.ofList ([','].intercalate ps)) →
        Setting.backoff.Parses lookup ∧ ∀ read c, ofVariables lookup read = .ok c →
        c.backoffSecs = ns) ∧
    ∀ c : Config, (c.validate = .ok () ↔ c.Runs) ∧
      ∀ (S σ α : Type) (s : S) (produce : Producer) (channels : List (PushChannel σ))
        (listeners : List (Listener ChannelFailure σ)) (standing : DispatchConfig)
        (now : Instant) (outside : σ), channels ≠ [] →
          let made : Except Fault (Container S σ α) :=
            Container.ofStore c ⟨some s, true, some produce, channels, listeners,
              standing⟩ now outside
          ((∃ k, made = .ok k) ↔ c.Runs) ∧ ∀ k, made = .ok k → k.config = c ∧
            k.engine.hall.dispatcher.config.retry.backoff.delays =
              c.backoffSecs.map Span.ofSecs := by
  refine ⟨fun lookup read => ⟨exists_ofVariables_iff, fun c => ofVariables_eq_ok,
    fun e => ofVariables_eq_error⟩,
    fun s lookup lookup' read agree c d h h' t => of_eq_of_agree agree h h',
    fun s raw e => Setting.names_of_read_eq_error, fun ns ps spread lookup hset => ?_,
    fun c => ⟨validate_eq_ok_iff,
      fun S σ α s produce channels listeners standing now outside any => ?_⟩⟩
  · have stands : Setting.backoff.Stands (.ofList ([','].intercalate ps)) ns :=
      Setting.read_eq_ok.1 (Variable.words_of_spread spread _)
    refine ⟨fun raw hraw => ?_, fun read c h => ?_⟩
    · cases hset.symm.trans hraw
      exact ⟨ns, stands⟩
    · have hc : Setting.backoff.of c = ns := of_eq_of_stands h hset stands
      exact hc
  · refine ⟨⟨fun ⟨k, hk⟩ => Container.runs_of_ofStore hk, fun h => ?_⟩,
      fun k hk => ?_⟩
    · obtain ⟨k, hk, -⟩ := Container.ofStore_of_runs any h
      exact ⟨k, hk⟩
    · have follows := Container.follows_of_ofStore any hk
      exact ⟨follows.config, follows.delays⟩

theorem layers_never_interfere_of_one :
    let read (path : String) : Except FileFault String :=
      if path = "notify.json" then .ok "\x7b\"worker_count\": 2, \"backoff_secs\": [1, 5]\x7d"
        else .error .missing
    let parts : List (List Char) := [[' ', '5'], [], [' ', '1', '0']]
    let few (name : String) : Option String :=
      if name = Variable.configFile then some "notify.json"
      else if name = Variable.backoffSecs then some (.ofList ([','].intercalate parts))
      else none
    let more (name : String) : Option String :=
      if name = Variable.log then some "debug" else few name
    let post : PushChannel Unit :=
      .immediate "post" (fun _ => true) (fun _ => true) (some {}) fun _ _ s => (.ok (), s)
    let c : Config := { workerCount := 2, backoffSecs := [5, 10] }
    ofVariables few read = .ok c ∧
      ofVariables more read = .ok { c with logFilter := some "debug" } ∧
      (∀ t, t ≠ Setting.logFilter → t.of { c with logFilter := some "debug" } = t.of c) ∧
        c.backoffSecs = [5, 10] ∧
      (∃ part why, Setting.workers.read "many" =
        .error (Variable.unreadable Variable.workers part why)) ∧
      c.validate = .ok () ∧ ∃ k : Container MemoryStore Unit Unit,
        Container.ofStore c ⟨some .empty, true,
          some fun _ _ _ => .ok ⟨⟨.text, "", ""⟩, .empty⟩, [post], [], {}⟩
          .epoch () = .ok k ∧ k.engine.hall.dispatcher.config.retry.backoff.delays =
            [.ofSecs 5, .ofSecs 10] := by
  intro read parts few more post c
  obtain ⟨-, alone, names, reads, checks⟩ := layers_never_interfere
  have hfew : ofVariables few read = .ok c := by decide +kernel
  have hmore : ofVariables more read = .ok { c with logFilter := some "debug" } := by decide +kernel
  have spread : Spread [5, 10] parts :=
    .number (a := [' ']) (b := []) rfl rfl
      (.blank rfl (.number (a := [' ']) (b := []) rfl rfl .nil))
  have runs : c.Runs := ⟨by decide, by decide, by decide, by decide⟩
  have hlookup : few Variable.backoffSecs =
    some (.ofList ([','].intercalate parts)) := by decide +kernel
  obtain ⟨made, agrees⟩ := (checks c).2 MemoryStore Unit Unit .empty _ [post] [] {} .epoch ()
    (List.cons_ne_nil _ _)
  obtain ⟨k, hk⟩ := made.2 runs
  have hmany : Setting.workers.read "many" =
      .error (Variable.unreadable Variable.workers "many"
        "invalid digit found in string") := by decide +kernel
  obtain ⟨part, why, -, he⟩ := names .workers "many" _ hmany
  exact ⟨hfew, hmore, alone .logFilter few more read (fun name h => if_neg h) c _ hfew hmore,
    (reads [5, 10] parts spread few hlookup).2 read c hfew,
      ⟨part, why, hmany.trans (congrArg _ he)⟩,
    (checks c).1.2 runs, k, hk, (agrees k hk).2⟩

end Config

end Herald
