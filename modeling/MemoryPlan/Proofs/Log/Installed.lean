import MemoryPlan.Log.Install
import MemoryPlan.Proofs.History
/-!
# The installation of a log

A process is asked to install the library's subscriber, over and over, each time with other settings, another
environment and other files, while somebody else may install one too. Whatever is asked, the library's subscriber
is installed at most once, by the first call that succeeds, and the library knows whether it was. The place for a
subscriber is in one of three phases (`Phase`), and every turn of a history says what becomes of it. Nothing here
depends on which texts are filters, nor on what they let pass: files and filters are of any kind.
-/

namespace MemoryPlan

/-- A call that may fill a process's place for a subscriber. -/
inductive LogCall where
  /-- Installs the library's subscriber with settings. -/
  | init (config : LogConfig)
  /-- Installs it with the settings of the environment. -/
  | fromEnvironment
  /-- Installs it with the settings of the environment, and only complains of a failure. -/
  | quietly
  /-- Somebody else installs a subscriber. -/
  | foreign
  deriving DecidableEq, Repr

/-- A call with what it finds. -/
structure LogRequest (ω : Type) where
  /-- The call. -/
  call : LogCall
  /-- The environment at this time. -/
  env : LogEnvironment
  /-- The files at this time. -/
  files : ω

/-- What a process answers. -/
inductive LogReply where
  /-- What the installation came to. -/
  | outcome (outcome : Except LogError Unit)
  /-- Nothing. -/
  | silent
  /-- Whether somebody else's subscriber was installed. -/
  | foreign (installed : Bool)

/-- A call in the history of a process. -/
abbrev LogTurn (ω φ : Type) [Inhabited ω] := Turn (LogProcess ω φ) (LogRequest ω) LogReply

/-- The settings with which a call installs the library's subscriber. -/
def LogRequest.config? {ω : Type} (request : LogRequest ω) : Option LogConfig :=
  match request.call with
  | .init config => some config
  | .fromEnvironment | .quietly => some (LogConfig.ofEnvironment request.env).1
  | .foreign => none

namespace Logging

variable {ω φ : Type} [LogFiles ω] [LogFilters φ] {logging : Logging φ} {config : LogConfig}

/-- After a success, every call succeeds and changes nothing. -/
theorem init_of_isInitialized (h : logging.isInitialized = true) (config : LogConfig) (filterText : Option String)
    (files : ω) : logging.init config filterText files = (.ok (), logging, files) := by
  rw [init, if_pos h]

/-- A call that can fill the place does so exactly if the filter can be read and the file can be opened. -/
theorem init_empty (φ : Type) [LogFilters φ] (config : LogConfig) (filterText : Option String) (files : ω) :
    (∃ filter after, LogFilters.choose config.level filterText = .ok filter ∧
      openFileOf config files = (.ok (), after) ∧
      (⟨.none, false⟩ : Logging φ).init config filterText files = (.ok (), ⟨.own ⟨filter, config⟩, true⟩, after)) ∨
    ∃ error after,
      ¬((∃ filter : φ, LogFilters.choose config.level filterText = .ok filter) ∧ (openFileOf config files).1 = .ok ()) ∧
      (⟨.none, false⟩ : Logging φ).init config filterText files = (.error error, ⟨.none, false⟩, after) := by
  cases hfilter : (LogFilters.choose config.level filterText : Except LogError φ) with
  | error error => exact Or.inr ⟨error, files, by simp, by simp [init, install, hfilter]⟩
  | ok filter =>
    rcases hfile : openFileOf config files with ⟨outcome, after⟩
    cases outcome with
    | error error => exact Or.inr ⟨error, after, by simp, by simp [init, install, hfilter, hfile]⟩
    | ok done => exact Or.inl ⟨filter, after, rfl, rfl, by simp [init, install, hfilter, hfile, occupy]⟩

/-- A place that somebody else filled stays as it is. -/
theorem init_foreign (φ : Type) [LogFilters φ] (config : LogConfig) (filterText : Option String) (files : ω) :
    ∃ error after,
      (⟨.foreign, false⟩ : Logging φ).init config filterText files = (.error error, ⟨.foreign, false⟩, after) := by
  cases hfilter : (LogFilters.choose config.level filterText : Except LogError φ) with
  | error error => exact ⟨error, files, by simp [init, install, hfilter]⟩
  | ok filter =>
    rcases hfile : openFileOf config files with ⟨outcome, after⟩
    cases outcome with
    | error error => exact ⟨error, after, by simp [init, install, hfilter, hfile]⟩
    | ok done => exact ⟨.installFailed, after, by simp [init, install, hfilter, hfile, occupy]⟩

end Logging

namespace LogProcess

variable {ω φ : Type} [Inhabited ω] {earlier : List (LogTurn ω φ)} {turn : LogTurn ω φ}

/-- The process with the files that a request finds. -/
def facing (process : LogProcess ω φ) (files : ω) : LogProcess ω φ := { process with files }

/-- A turn installed the library's subscriber. -/
def Installs (turn : LogTurn ω φ) (setup : LogSetup φ) : Prop :=
  turn.before.logging.setup? = none ∧ turn.after.logging.setup? = some setup

/-- Somebody else's subscriber was installed. -/
def IsLost (turn : LogTurn ω φ) : Prop := turn.reply = .foreign true

/-- A turn that leaves the place as it was installed nothing. -/
theorem not_installs (h : turn.after.logging = turn.before.logging) (setup : LogSetup φ) : ¬Installs turn setup := by
  rintro ⟨hnone, hsome⟩
  rw [h, hnone] at hsome
  cases hsome

variable [LogFiles ω] [LogFilters φ]

/-- What an installation comes to, told or not. -/
def outcome? (process : LogProcess ω φ) (request : LogRequest ω) : Option (Except LogError Unit) :=
  match request.call with
  | .init config => some ((process.facing request.files).init request.env config).1
  | .fromEnvironment | .quietly => some ((process.facing request.files).initFromEnvironment request.env).1
  | .foreign => none

/-- What the process answers to a request, and the process after it. -/
def answer (process : LogProcess ω φ) (request : LogRequest ω) : LogReply × LogProcess ω φ :=
  match request.call with
  | .init config =>
    let (outcome, after) := (process.facing request.files).init request.env config
    (.outcome outcome, after)
  | .fromEnvironment =>
    let (outcome, after) := (process.facing request.files).initFromEnvironment request.env
    (.outcome outcome, after)
  | .quietly => (.silent, (process.facing request.files).initQuietly request.env)
  | .foreign =>
    let (installed, after) := (process.facing request.files).installForeign
    (.foreign installed, after)

/-- The turns of several requests to a process that just started and reads filters of a kind. -/
def history (φ : Type) [LogFilters φ] (requests : List (LogRequest ω)) : List (LogTurn ω φ) :=
  Turn.history answer (fun _ => false) {} requests

/-- A failure that is only complained of leaves the place and the files as the failure did. -/
theorem initQuietly_eq (process : LogProcess ω φ) (env : LogEnvironment) :
    (process.initQuietly env).logging = (process.initFromEnvironment env).2.logging ∧
      (process.initQuietly env).files = (process.initFromEnvironment env).2.files := by
  unfold initQuietly
  split
  · next after hmade => simp [hmade]
  · next error after hmade => simp [hmade, complain]

/-- What installing the library's subscriber does to the place and to the files. -/
theorem answer_of_config (process : LogProcess ω φ) {request : LogRequest ω} {config : LogConfig}
    (hconfig : request.config? = some config) :
    process.outcome? request = some (process.logging.init config request.env.filter request.files).1 ∧
      (process.answer request).2.logging =
        (process.logging.init config request.env.filter request.files).2.1 ∧
      (process.answer request).2.files = (process.logging.init config request.env.filter request.files).2.2 ∧
      ∀ installed, (process.answer request).1 ≠ .foreign installed := by
  obtain ⟨call, env, files⟩ := request
  cases call with
  | init chosen =>
    obtain rfl := Option.some.inj hconfig
    exact ⟨rfl, rfl, rfl, by simp [answer]⟩
  | fromEnvironment =>
    obtain rfl := Option.some.inj hconfig
    exact ⟨rfl, rfl, rfl, by simp [answer]⟩
  | quietly =>
    obtain rfl := Option.some.inj hconfig
    obtain ⟨hlogging, hfiles⟩ := initQuietly_eq (process.facing files) env
    exact ⟨rfl, hlogging, hfiles, by simp [answer]⟩
  | foreign => cases hconfig

/-- What somebody else does to the place. -/
theorem answer_of_foreign (process : LogProcess ω φ) {request : LogRequest ω} (hcall : request.config? = none) :
    process.outcome? request = none ∧ process.answer request =
      (.foreign process.logging.installForeign.1,
        { process with logging := process.logging.installForeign.2, files := request.files }) := by
  obtain ⟨call, env, files⟩ := request
  cases call with
  | foreign => exact ⟨rfl, rfl⟩
  | init config => cases hcall
  | fromEnvironment => cases hcall
  | quietly => cases hcall

/-- Once the library's subscriber is installed, the text of the filter makes no difference. -/
theorem answer_filter {process : LogProcess ω φ} (h : process.logging.isInitialized = true)
    (request : LogRequest ω) (filter : Option String) :
    process.answer { request with env := { request.env with filter } } = process.answer request := by
  obtain ⟨call, env, files⟩ := request
  have hinit : ∀ (other : LogProcess ω φ) (config : LogConfig), other.logging.isInitialized = true →
      other.init { env with filter } config = other.init env config := by
    intro other config hother
    simp only [init, Logging.init_of_isInitialized hother]
  have hread : (process.facing files).initFromEnvironment { env with filter } =
      (process.facing files).initFromEnvironment env := hinit _ _ h
  cases call with
  | init config => simp only [answer, hinit (process.facing files) config h]
  | fromEnvironment => simp only [answer, hread]
  | quietly => simp only [answer, initQuietly, hread]
  | foreign => rfl

/-- A call to install the library's subscriber succeeded. -/
def Succeeds (turn : LogTurn ω φ) : Prop := turn.before.outcome? turn.call = some (.ok ())

/-- Everything that a turn can do. -/
inductive Move (turn : LogTurn ω φ) : Prop where
  /-- The library's subscriber is installed. -/
  | fills {config : LogConfig} {filter : φ} (hconfig : turn.call.config? = some config)
      (hbefore : turn.before.logging = ⟨.none, false⟩)
      (hfilter : LogFilters.choose config.level turn.call.env.filter = .ok filter)
      (hfile : (Logging.openFileOf config turn.call.files).1 = .ok ())
      (houtcome : turn.before.outcome? turn.call = some (.ok ())) (hreply : ¬IsLost turn)
      (hafter : turn.after.logging = ⟨.own ⟨filter, config⟩, true⟩)
  /-- The library's subscriber cannot be installed. -/
  | fails {config : LogConfig} {error : LogError} (hconfig : turn.call.config? = some config)
      (hbefore : turn.before.logging.isInitialized = false)
      (hfault : turn.before.logging.subscriber = .none →
        ¬((∃ filter : φ, LogFilters.choose config.level turn.call.env.filter = .ok filter) ∧
          (Logging.openFileOf config turn.call.files).1 = .ok ()))
      (houtcome : turn.before.outcome? turn.call = some (.error error)) (hreply : ¬IsLost turn)
      (hafter : turn.after.logging = turn.before.logging)
  /-- The library's subscriber is installed already. -/
  | passes {config : LogConfig} (hconfig : turn.call.config? = some config)
      (hbefore : turn.before.logging.isInitialized = true)
      (houtcome : turn.before.outcome? turn.call = some (.ok ())) (hreply : ¬IsLost turn)
      (hafter : turn.after.logging = turn.before.logging) (hfiles : turn.after.files = turn.call.files)
  /-- Somebody else's subscriber is installed. -/
  | loses (hconfig : turn.call.config? = none) (hbefore : turn.before.logging = ⟨.none, false⟩)
      (houtcome : turn.before.outcome? turn.call = none) (hreply : IsLost turn)
      (hafter : turn.after.logging = ⟨.foreign, false⟩)
  /-- Somebody else's subscriber cannot be installed. -/
  | refuses (hconfig : turn.call.config? = none) (hbefore : turn.before.logging.subscriber ≠ .none)
      (houtcome : turn.before.outcome? turn.call = none) (hreply : ¬IsLost turn)
      (hafter : turn.after.logging = turn.before.logging)

/-- The phases of the place for a subscriber, and what led there. -/
inductive Phase (earlier : List (LogTurn ω φ)) : Logging φ → Prop where
  /-- Nothing was installed. -/
  | empty (hinstalls : ∀ past ∈ earlier, ∀ setup, ¬Installs past setup)
      (hsucceeds : ∀ past ∈ earlier, ¬Succeeds past) (hlost : ∀ past ∈ earlier, ¬IsLost past) :
      Phase earlier ⟨.none, false⟩
  /-- Somebody else came first. -/
  | lost (hinstalls : ∀ past ∈ earlier, ∀ setup, ¬Installs past setup)
      (hsucceeds : ∀ past ∈ earlier, ¬Succeeds past) (hlost : ∃ past ∈ earlier, IsLost past) :
      Phase earlier ⟨.foreign, false⟩
  /-- The library's subscriber was installed, once. -/
  | own {setup : LogSetup φ} (hinstalls : ∃ past ∈ earlier, Installs past setup)
      (honly : ∀ past ∈ earlier, ∀ other, Installs past other → other = setup)
      (hsucceeds : ∃ past ∈ earlier, Succeeds past) (hlost : ∀ past ∈ earlier, ¬IsLost past) :
      Phase earlier ⟨.own setup, true⟩

/-- A turn that is made in some phase does one of these things. -/
theorem Phase.move (h : Phase earlier turn.before.logging)
    (hanswer : turn.before.answer turn.call = (turn.reply, turn.after)) : Move turn := by
  cases hconfig : turn.call.config? with
  | none =>
    obtain ⟨houtcome, hmade⟩ := answer_of_foreign turn.before hconfig
    obtain ⟨hreply, hafter⟩ := Prod.mk.inj (hanswer.symm.trans hmade)
    have hlogging := congrArg LogProcess.logging hafter
    generalize hbefore : turn.before.logging = logging at h hreply hlogging
    cases h with
    | empty => exact .loses hconfig hbefore houtcome hreply hlogging
    | lost => exact .refuses hconfig (by simp [hbefore]) houtcome (by simp [IsLost, hreply, Logging.installForeign,
        Logging.occupy]) (hlogging.trans hbefore.symm)
    | own => exact .refuses hconfig (by simp [hbefore]) houtcome (by simp [IsLost, hreply, Logging.installForeign,
        Logging.occupy]) (hlogging.trans hbefore.symm)
  | some config =>
    obtain ⟨houtcome, hlogging, hfiles, hforeign⟩ := answer_of_config turn.before hconfig
    rw [hanswer] at hlogging hfiles hforeign
    generalize hbefore : turn.before.logging = logging at h houtcome hlogging hfiles
    cases h with
    | empty =>
      obtain ⟨filter, after, hfilter, hfile, hinit⟩ | ⟨error, after, hfault, hinit⟩ :=
        Logging.init_empty φ config turn.call.env.filter turn.call.files
      · rw [hinit] at houtcome hlogging
        exact .fills hconfig hbefore hfilter (by rw [hfile]) houtcome (hforeign true) hlogging
      · rw [hinit] at houtcome hlogging
        exact .fails hconfig (by rw [hbefore]) (fun _ => hfault) houtcome (hforeign true)
          (hlogging.trans hbefore.symm)
    | lost =>
      obtain ⟨error, after, hinit⟩ := Logging.init_foreign φ config turn.call.env.filter turn.call.files
      rw [hinit] at houtcome hlogging
      exact .fails hconfig (by rw [hbefore]) (by simp [hbefore]) houtcome (hforeign true)
        (hlogging.trans hbefore.symm)
    | own =>
      rw [Logging.init_of_isInitialized rfl] at houtcome hlogging hfiles
      exact .passes hconfig (by rw [hbefore]) houtcome (hforeign true) (hlogging.trans hbefore.symm) hfiles

/-- Every turn leads from one phase to one phase. -/
theorem Phase.step (h : Phase earlier turn.before.logging) (hmove : Move turn) :
    Phase (earlier ++ [turn]) turn.after.logging := by
  cases hmove with
  | fills hconfig hbefore hfilter hfile houtcome hreply hafter =>
    rw [hbefore] at h
    rw [hafter]
    cases h with
    | empty hinstalls hsucceeds hlost =>
      refine .own (Turn.exists_concat_self ⟨?_, ?_⟩) (Turn.forall_concat ?_ ?_) (Turn.exists_concat_self houtcome)
        (Turn.forall_concat hlost hreply)
      · rw [hbefore]
        rfl
      · rw [hafter]
        rfl
      · intro past hpast other hother
        exact absurd hother (hinstalls past hpast other)
      · rintro other ⟨-, hother⟩
        rw [hafter] at hother
        exact (Option.some.inj hother).symm
  | fails hconfig hbefore hfault houtcome hreply hafter =>
    have hinstalls := not_installs hafter
    have hfailed : ¬Succeeds turn := by simp [Succeeds, houtcome]
    rw [hafter]
    generalize turn.before.logging = logging at h hbefore
    cases h with
    | empty hnone hfails hlost =>
      exact .empty (Turn.forall_concat hnone hinstalls) (Turn.forall_concat hfails hfailed)
        (Turn.forall_concat hlost hreply)
    | lost hnone hfails hlost =>
      exact .lost (Turn.forall_concat hnone hinstalls) (Turn.forall_concat hfails hfailed) (Turn.exists_concat hlost)
    | own => cases hbefore
  | passes hconfig hbefore houtcome hreply hafter hfiles =>
    have hinstalls := not_installs hafter
    rw [hafter]
    generalize turn.before.logging = logging at h hbefore
    cases h with
    | own hinstalled honly hsucceeds hlost =>
      exact .own (Turn.exists_concat hinstalled)
        (Turn.forall_concat honly fun other hother => absurd hother (hinstalls other)) (Turn.exists_concat hsucceeds)
        (Turn.forall_concat hlost hreply)
    | empty => cases hbefore
    | lost => cases hbefore
  | loses hconfig hbefore houtcome hreply hafter =>
    have hinstalls : ∀ setup, ¬Installs turn setup := by
      rintro setup ⟨-, hsome⟩
      rw [hafter] at hsome
      cases hsome
    rw [hbefore] at h
    rw [hafter]
    cases h with
    | empty hnone hfails hlost =>
      exact .lost (Turn.forall_concat hnone hinstalls) (Turn.forall_concat hfails (by simp [Succeeds, houtcome]))
        (Turn.exists_concat_self hreply)
  | refuses hconfig hbefore houtcome hreply hafter =>
    have hinstalls := not_installs hafter
    have hsilent : ¬Succeeds turn := by simp [Succeeds, houtcome]
    rw [hafter]
    generalize turn.before.logging = logging at h hbefore
    cases h with
    | empty => exact absurd rfl hbefore
    | lost hnone hfails hlost =>
      exact .lost (Turn.forall_concat hnone hinstalls) (Turn.forall_concat hfails hsilent) (Turn.exists_concat hlost)
    | own hinstalled honly hsucceeds hlost =>
      exact .own (Turn.exists_concat hinstalled)
        (Turn.forall_concat honly fun other hother => absurd hother (hinstalls other)) (Turn.exists_concat hsucceeds)
        (Turn.forall_concat hlost hreply)

/-- What the library knows about the turns before. -/
structure Recorded (earlier : List (LogTurn ω φ)) (logging : Logging φ) : Prop where
  /-- It knows whether its subscriber was installed. -/
  flag : logging.isInitialized = true ↔ ∃ past ∈ earlier, ∃ setup, Installs past setup
  /-- The subscriber is the one that was installed. -/
  setup : ∀ setup, logging.setup? = some setup ↔ ∃ past ∈ earlier, Installs past setup

omit [LogFiles ω] [LogFilters φ] in
/-- Where nothing was installed, the library knows of nothing. -/
theorem recorded_of_none {logging : Logging φ} (hflag : logging.isInitialized = false)
    (hsetup : logging.setup? = none) (hinstalls : ∀ past ∈ earlier, ∀ setup, ¬Installs past setup) :
    Recorded earlier logging := by
  refine ⟨iff_of_false (by simp [hflag]) ?_, fun setup => iff_of_false (by simp [hsetup]) ?_⟩
  · rintro ⟨past, hpast, setup, hinstalled⟩
    exact hinstalls past hpast setup hinstalled
  · rintro ⟨past, hpast, hinstalled⟩
    exact hinstalls past hpast setup hinstalled

namespace Phase

variable {logging : Logging φ} (h : Phase earlier logging)
include h

/-- In each phase the library knows what the turns before it did. -/
theorem recorded : Recorded earlier logging := by
  cases h with
  | empty hinstalls => exact recorded_of_none rfl rfl hinstalls
  | lost hinstalls => exact recorded_of_none rfl rfl hinstalls
  | @own setup hinstalled honly =>
    obtain ⟨past, hpast, hself⟩ := hinstalled
    refine ⟨iff_of_true rfl ⟨past, hpast, setup, hself⟩, fun other => ?_⟩
    constructor
    · intro hother
      rw [← Option.some.inj hother]
      exact ⟨past, hpast, hself⟩
    · rintro ⟨first, hfirst, hother⟩
      rw [honly first hfirst other hother]
      rfl

/-- The library knows whether a call succeeded. -/
theorem isInitialized_iff : logging.isInitialized = true ↔ ∃ past ∈ earlier, Succeeds past := by
  cases h with
  | empty hinstalls hfails => exact iff_of_false Bool.false_ne_true fun ⟨past, hpast, hself⟩ => hfails past hpast hself
  | lost hinstalls hfails => exact iff_of_false Bool.false_ne_true fun ⟨past, hpast, hself⟩ => hfails past hpast hself
  | own hinstalled honly hsucceeds => exact iff_of_true rfl hsucceeds

/-- The place is empty as long as no call succeeded and nobody else came first. -/
theorem isEmpty_iff : logging.subscriber = .none ↔ ∀ past ∈ earlier, ¬IsLost past ∧ ¬Succeeds past := by
  cases h with
  | empty hinstalls hfails hlost => exact iff_of_true rfl fun past hpast => ⟨hlost past hpast, hfails past hpast⟩
  | lost hinstalls hfails hlost =>
    obtain ⟨past, hpast, hself⟩ := hlost
    exact iff_of_false (by simp) fun hnone => (hnone past hpast).1 hself
  | own hinstalled honly hsucceeds =>
    obtain ⟨past, hpast, hself⟩ := hsucceeds
    exact iff_of_false (by simp) fun hnone => (hnone past hpast).2 hself

/-- Once somebody else came first, the place is theirs. -/
theorem eq_of_lost (hlost : ∃ past ∈ earlier, IsLost past) : logging = ⟨.foreign, false⟩ := by
  obtain ⟨past, hpast, hself⟩ := hlost
  cases h with
  | empty hinstalls hfails hnone => exact absurd hself (hnone past hpast)
  | lost => rfl
  | own hinstalled honly hsucceeds hnone => exact absurd hself (hnone past hpast)

end Phase

/-- What a turn may do, given those before it. -/
structure InstallsOnce (earlier : List (LogTurn ω φ)) (turn : LogTurn ω φ) : Prop where
  /-- No turn installs the library's subscriber after another one. -/
  once : ∀ setup, Installs turn setup → ∀ past ∈ earlier, ∀ other, ¬Installs past other
  /-- The first call that succeeds installs it, with the settings and the filter of this call. -/
  first : ∀ setup, Installs turn setup ↔ Succeeds turn ∧ (∀ past ∈ earlier, ¬Succeeds past) ∧
    turn.call.config? = some setup.config ∧
    LogFilters.choose setup.config.level turn.call.env.filter = .ok setup.filter
  /-- A call succeeds after another one, or if its own filter and file are right and nobody else came first,
  whatever failed before. -/
  succeeds : ∀ config, turn.call.config? = some config → (Succeeds turn ↔ (∃ past ∈ earlier, Succeeds past) ∨
    (∃ filter : φ, LogFilters.choose config.level turn.call.env.filter = .ok filter) ∧
      (Logging.openFileOf config turn.call.files).1 = .ok () ∧ ∀ past ∈ earlier, ¬IsLost past)
  /-- A call that fails leaves the place as it was, and nothing is installed. -/
  fails : ∀ error, turn.before.outcome? turn.call = some (.error error) →
    turn.after.logging.isInitialized = false ∧ turn.after.logging = turn.before.logging
  /-- What is installed stays. -/
  keeps : turn.before.logging.isInitialized = true → turn.after.logging = turn.before.logging
  /-- Once the library's subscriber is installed, each call to install it succeeds, opens no file and would do the
  same whatever the text of the filter is. -/
  passes : turn.before.logging.isInitialized = true → turn.call.config? ≠ none →
    Succeeds turn ∧ turn.after.files = turn.call.files ∧
    ∀ filter, turn.before.answer { turn.call with env := { turn.call.env with filter } } = (turn.reply, turn.after)
  /-- Once somebody else came first, nothing is installed and each call to do so fails. -/
  lost : (∃ past ∈ earlier, IsLost past) → turn.after.logging.isInitialized = false ∧
    (turn.call.config? ≠ none → ∃ error, turn.before.outcome? turn.call = some (.error error))
  /-- Somebody else's subscriber is installed exactly if none is. -/
  foreign : turn.call.config? = none → (IsLost turn ↔ ∀ past ∈ earlier, ¬IsLost past ∧ ¬Succeeds past)
  /-- The outcome is told, unless it is to be passed over. -/
  told : turn.call.call ≠ .quietly → ∀ outcome, turn.before.outcome? turn.call = some outcome →
    turn.reply = .outcome outcome
  /-- A failure that is passed over is only complained of. -/
  swallowed : turn.call.call = .quietly → turn.reply = .silent ∧ ∀ error,
    turn.before.outcome? turn.call = some (.error error) → ∃ failed : LogProcess ω φ,
      turn.after = failed.complain [s!"memforge: logging not initialized: {error.message}"]

/-- The outcome of a call is told, or passed over with a complaint. -/
theorem answer_told {process after : LogProcess ω φ} {request : LogRequest ω} {reply : LogReply}
    (hanswer : process.answer request = (reply, after)) :
    (request.call ≠ .quietly → ∀ outcome, process.outcome? request = some outcome → reply = .outcome outcome) ∧
    (request.call = .quietly → reply = .silent ∧ ∀ error, process.outcome? request = some (.error error) →
      ∃ failed : LogProcess ω φ,
        after = failed.complain [s!"memforge: logging not initialized: {error.message}"]) := by
  obtain ⟨call, env, files⟩ := request
  obtain ⟨rfl, rfl⟩ := Prod.mk.inj hanswer
  cases call with
  | init config => exact ⟨fun _ outcome h => congrArg LogReply.outcome (Option.some.inj h), by simp⟩
  | fromEnvironment => exact ⟨fun _ outcome h => congrArg LogReply.outcome (Option.some.inj h), by simp⟩
  | foreign => exact ⟨by simp [outcome?], by simp⟩
  | quietly =>
    refine ⟨fun h => absurd rfl h, fun _ => ⟨rfl, ?_⟩⟩
    intro error herror
    refine ⟨((process.facing files).initFromEnvironment env).2, ?_⟩
    have hfailed : ((process.facing files).initFromEnvironment env).1 = .error error := Option.some.inj herror
    change (process.facing files).initQuietly env = _
    unfold initQuietly
    split
    · next made => simp [made] at hfailed
    · next other after made =>
      rw [made] at hfailed ⊢
      rw [Except.error.inj hfailed]

namespace Move

variable (h : Move turn)
include h

/-- What is installed stays. -/
theorem keeps (hinitialized : turn.before.logging.isInitialized = true) :
    turn.after.logging = turn.before.logging := by
  cases h with
  | fills hconfig hbefore => simp [hbefore] at hinitialized
  | loses hconfig hbefore => simp [hbefore] at hinitialized
  | fails hconfig hbefore hfault houtcome hreply hafter => exact hafter
  | passes hconfig hbefore houtcome hreply hafter => exact hafter
  | refuses hconfig hbefore houtcome hreply hafter => exact hafter

/-- A call that fails leaves the place as it was, and nothing is installed. -/
theorem fails_keeps {error : LogError} (herror : turn.before.outcome? turn.call = some (.error error)) :
    turn.after.logging.isInitialized = false ∧ turn.after.logging = turn.before.logging := by
  cases h with
  | fails hconfig hbefore hfault houtcome hreply hafter => exact ⟨by rw [hafter, hbefore], hafter⟩
  | fills hconfig hbefore hfilter hfile houtcome => cases houtcome.symm.trans herror
  | passes hconfig hbefore houtcome => cases houtcome.symm.trans herror
  | loses hconfig hbefore houtcome => cases houtcome.symm.trans herror
  | refuses hconfig hbefore houtcome => cases houtcome.symm.trans herror

/-- A call that finds the library's subscriber installed succeeds, and opens no file. -/
theorem succeeds (hinitialized : turn.before.logging.isInitialized = true) (hasks : turn.call.config? ≠ none) :
    Succeeds turn ∧ turn.after.files = turn.call.files := by
  cases h with
  | passes hconfig hbefore houtcome hreply hafter hfiles => exact ⟨houtcome, hfiles⟩
  | fills hconfig hbefore => simp [hbefore] at hinitialized
  | fails hconfig hbefore => simp [hbefore] at hinitialized
  | loses hconfig => exact absurd hconfig hasks
  | refuses hconfig => exact absurd hconfig hasks

/-- A call that finds somebody else's subscriber fails. -/
theorem fails_of_foreign (hplace : turn.before.logging = ⟨.foreign, false⟩) :
    turn.after.logging.isInitialized = false ∧
      (turn.call.config? ≠ none → ∃ error, turn.before.outcome? turn.call = some (.error error)) := by
  cases h with
  | fills hconfig hbefore => simp [hplace] at hbefore
  | passes hconfig hbefore => simp [hplace] at hbefore
  | loses hconfig hbefore => simp [hplace] at hbefore
  | fails hconfig hbefore hfault houtcome hreply hafter => exact ⟨by rw [hafter, hbefore], fun _ => ⟨_, houtcome⟩⟩
  | refuses hconfig hbefore houtcome hreply hafter =>
    exact ⟨by rw [hafter, hplace], fun hasks => absurd hconfig hasks⟩

/-- Somebody else's subscriber is installed exactly if the place is empty. -/
theorem isLost_iff (hforeign : turn.call.config? = none) :
    IsLost turn ↔ turn.before.logging.subscriber = .none := by
  cases h with
  | loses hconfig hbefore houtcome hreply hafter => exact iff_of_true hreply (by rw [hbefore])
  | refuses hconfig hbefore houtcome hreply hafter => exact iff_of_false hreply hbefore
  | fills hconfig => cases hconfig.symm.trans hforeign
  | fails hconfig => cases hconfig.symm.trans hforeign
  | passes hconfig => cases hconfig.symm.trans hforeign

end Move

namespace Phase

variable (h : Phase earlier turn.before.logging)
include h

/-- The library's subscriber is installed by the first call that succeeds, as this call asks for. -/
theorem installs_iff (hmove : Move turn) (setup : LogSetup φ) :
    Installs turn setup ↔ Succeeds turn ∧ (∀ past ∈ earlier, ¬Succeeds past) ∧
      turn.call.config? = some setup.config ∧
      LogFilters.choose setup.config.level turn.call.env.filter = .ok setup.filter := by
  cases hmove with
  | @fills config filter hconfig hbefore hfilter hfile houtcome hreply hafter =>
    have hfirst : ∀ past ∈ earlier, ¬Succeeds past := fun past hpast =>
      (h.isEmpty_iff.mp (by rw [hbefore]) past hpast).2
    have hsetup : Installs turn setup ↔ (⟨filter, config⟩ : LogSetup φ) = setup := by
      unfold Installs
      rw [hbefore, hafter]
      simp [Logging.setup?]
    rw [hsetup]
    constructor
    · rintro rfl
      exact ⟨houtcome, hfirst, hconfig, hfilter⟩
    · rintro ⟨-, -, hsame, hchosen⟩
      obtain rfl := Option.some.inj (hconfig.symm.trans hsame)
      rw [Except.ok.inj (hfilter.symm.trans hchosen)]
  | fails hconfig hbefore hfault houtcome hreply hafter =>
    exact iff_of_false (not_installs hafter setup) (by simp [Succeeds, houtcome])
  | passes hconfig hbefore houtcome hreply hafter hfiles =>
    obtain ⟨past, hpast, hself⟩ := h.isInitialized_iff.mp hbefore
    exact iff_of_false (not_installs hafter setup) fun hfirst => hfirst.2.1 past hpast hself
  | loses hconfig hbefore houtcome hreply hafter =>
    exact iff_of_false (by simp [Installs, hafter, Logging.setup?]) (by simp [Succeeds, houtcome])
  | refuses hconfig hbefore houtcome hreply hafter =>
    exact iff_of_false (not_installs hafter setup) (by simp [Succeeds, houtcome])

/-- A call succeeds after another one, or if its own filter and file are right and nobody else came first. -/
theorem succeeds_iff (hmove : Move turn) {config : LogConfig} (hchosen : turn.call.config? = some config) :
    Succeeds turn ↔ (∃ past ∈ earlier, Succeeds past) ∨
      (∃ filter : φ, LogFilters.choose config.level turn.call.env.filter = .ok filter) ∧
        (Logging.openFileOf config turn.call.files).1 = .ok () ∧ ∀ past ∈ earlier, ¬IsLost past := by
  cases hmove with
  | fills hconfig hbefore hfilter hfile houtcome hreply hafter =>
    obtain rfl := Option.some.inj (hchosen.symm.trans hconfig)
    have hnone := h.isEmpty_iff.mp (by rw [hbefore])
    exact iff_of_true houtcome (Or.inr ⟨⟨_, hfilter⟩, hfile, fun past hpast => (hnone past hpast).1⟩)
  | fails hconfig hbefore hfault houtcome hreply hafter =>
    obtain rfl := Option.some.inj (hchosen.symm.trans hconfig)
    have hnone : ¬∃ past ∈ earlier, Succeeds past := by
      rw [← h.isInitialized_iff, hbefore]
      exact Bool.false_ne_true
    refine iff_of_false (by simp [Succeeds, houtcome]) ?_
    rintro (hsome | ⟨hfilter, hfile, hlost⟩)
    · exact hnone hsome
    · refine hfault (h.isEmpty_iff.mpr fun past hpast => ⟨hlost past hpast, ?_⟩) ⟨hfilter, hfile⟩
      exact fun hself => hnone ⟨past, hpast, hself⟩
  | passes hconfig hbefore houtcome hreply hafter hfiles =>
    exact iff_of_true houtcome (Or.inl (h.isInitialized_iff.mp hbefore))
  | loses hconfig => cases hconfig.symm.trans hchosen
  | refuses hconfig => cases hconfig.symm.trans hchosen

/-- A turn that is made in some phase keeps to what was installed. -/
theorem installsOnce (hanswer : turn.before.answer turn.call = (turn.reply, turn.after)) :
    InstallsOnce earlier turn := by
  have hmove := h.move hanswer
  obtain ⟨htold, hswallowed⟩ := answer_told hanswer
  constructor
  case once =>
    rintro setup ⟨hnone, -⟩ past hpast other hother
    have hsome := (h.recorded.setup other).mpr ⟨past, hpast, hother⟩
    rw [hnone] at hsome
    cases hsome
  case first => exact h.installs_iff hmove
  case succeeds => exact fun config hchosen => h.succeeds_iff hmove hchosen
  case fails => exact fun error herror => hmove.fails_keeps herror
  case keeps => exact hmove.keeps
  case passes =>
    intro hinitialized hasks
    obtain ⟨hsucceeds, hfiles⟩ := hmove.succeeds hinitialized hasks
    exact ⟨hsucceeds, hfiles, fun filter => (answer_filter hinitialized turn.call filter).trans hanswer⟩
  case lost => exact fun hlost => hmove.fails_of_foreign (h.eq_of_lost hlost)
  case foreign => exact fun hforeign => (hmove.isLost_iff hforeign).trans h.isEmpty_iff
  case told => exact htold
  case swallowed => exact hswallowed

end Phase

/-- Whatever a process that just started is asked, whatever environment and files each call finds, and whatever texts
the reader of filters accepts: the library's subscriber is installed at most once, by the first call that succeeds
and with its settings, and the library knows whether it was. A call that fails leaves everything to the next one;
after a success every call succeeds and changes nothing; and if somebody else comes first, no call ever succeeds. -/
theorem history_installsOnce (φ : Type) [LogFilters φ] (requests : List (LogRequest ω)) :
    (∀ earlier, earlier <+: history φ requests → Recorded earlier (Turn.reached {} earlier).logging) ∧
    ∀ earlier turn later, history φ requests = earlier ++ turn :: later → InstallsOnce earlier turn := by
  have hphase : ∀ {earlier}, earlier <+: history φ requests → Phase earlier (Turn.reached {} earlier).logging := by
    intro earlier hprefix
    refine Turn.history_induction (motive := fun past process => Phase past process.logging) ?_ ?_ hprefix
    · exact .empty (by simp) (by simp) (by simp)
    · intro past turn _ hanswer hkept
      exact hkept.step (hkept.move hanswer)
  refine ⟨fun earlier hprefix => (hphase hprefix).recorded, ?_⟩
  intro earlier turn later hsplit
  obtain ⟨hbefore, hanswer⟩ := Turn.eq_of_history hsplit
  have hmade := hphase ⟨turn :: later, hsplit.symm⟩
  rw [← hbefore] at hmade
  exact hmade.installsOnce hanswer

/-- A call whose filter cannot be read, one that succeeds, and two that come too late. -/
def lateRequests : List (LogRequest FileTree) :=
  [⟨.init {}, { filter := some "info=loud" }, {}⟩, ⟨.quietly, {}, {}⟩, ⟨.foreign, {}, {}⟩,
    ⟨.init { level := .error }, { filter := some "info=loud" }, {}⟩]

/-- The first call leaves everything to the second one, whose settings stay. -/
theorem history_installsOnce_lateRequests :
    (history LogFilter lateRequests).map (fun turn => turn.after.logging.isInitialized) = [false, true, true, true] ∧
      (Turn.reached {} (history LogFilter lateRequests)).logging.setup? = some ⟨LogFilter.ofLevel .info, {}⟩ ∧
      Recorded (history LogFilter lateRequests) (Turn.reached {} (history LogFilter lateRequests)).logging ∧
      ∀ earlier turn later, history LogFilter lateRequests = earlier ++ turn :: later → InstallsOnce earlier turn := by
  refine ⟨by decide +kernel, by decide +kernel, ?_, (history_installsOnce LogFilter lateRequests).2⟩
  exact (history_installsOnce LogFilter lateRequests).1 _ List.prefix_rfl

end LogProcess
end MemoryPlan
