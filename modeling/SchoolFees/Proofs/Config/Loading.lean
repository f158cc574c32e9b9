/-
Configurations that an environment describes.

A setting that is a number comes to its standard value when it is not there, and otherwise to
the number that is spelled between the blanks around its value (`Environment.Gives`); a value
that spells none is unreadable.  An environment with no unreadable value describes one
configuration, and that is what is loaded, if its check accepts it.  In any other case the
loading names one fault: the first unreadable setting in the order of reading, or else the
first rule that the configuration breaks in the order of checking (`Config.Refused`).

The check alone decides whether a configuration can be put to use.  A cascade looks at the
tax rate once more, but the check has refused the rates that it would refuse.
-/
import SchoolFees.Config.Variables
import SchoolFees.Proofs.Commission.Failures
import SchoolFees.Proofs.Numerals
import SchoolFees.Proofs.Settlement.WholeBatch

namespace SchoolFees

/-! ### The first of several -/

/-- The first of these that has the property. -/
inductive IsFirst {α : Type} (p : α → Prop) : List α → α → Prop
  | here {a : α} {rest : List α} (holds : p a) : IsFirst p (a :: rest) a
  | later {a b : α} {rest : List α} (fails : ¬ p a) (isFirst : IsFirst p rest b) :
      IsFirst p (a :: rest) b

theorem isFirst_cons {α : Type} {p : α → Prop} {a b : α} {rest : List α} :
    IsFirst p (a :: rest) b ↔ p a ∧ b = a ∨ ¬ p a ∧ IsFirst p rest b := by
  refine ⟨?_, ?_⟩
  · intro h
    cases h with
    | here holds => exact .inl ⟨holds, rfl⟩
    | later fails isFirst => exact .inr ⟨fails, isFirst⟩
  · rintro (⟨holds, rfl⟩ | ⟨fails, isFirst⟩)
    · exact .here holds
    · exact .later fails isFirst

/-! ### What an environment says -/

/-- The variable of a setting holds this text: it is there, with the bytes of the text in UTF-8. -/
def Variables.Holds (vars : Variables) (s : Setting) (text : String) : Prop :=
  vars.find? (·.1 = s) = some (s, text.toUTF8)

theorem Text.fromUTF8?_eq_some_iff {bytes : ByteArray} {text : String} :
    String.fromUTF8? bytes = some text ↔ bytes = text.toUTF8 := by
  unfold String.fromUTF8?
  by_cases valid : bytes.IsValidUTF8
  · rw [dif_pos valid, Option.some.injEq]
    refine ⟨?_, ?_⟩
    · rintro rfl
      rfl
    · rintro rfl
      rfl
  · rw [dif_neg valid]
    refine ⟨nofun, ?_⟩
    rintro rfl
    exact absurd text.isValidUTF8 valid

/-- Without a file, a setting has the text that its variable holds, and a variable with other bytes
is as good as none. -/
theorem Environment.ofVariables_eq_some_iff {vars : Variables} {s : Setting} {text : String} :
    Environment.ofVariables vars "" s = some text ↔ vars.Holds s text := by
  have noFile : (FileLine.assignments (FileLine.split (FileLine.unmarked "".toList))).lookup
      s.variableName = none := rfl
  unfold Environment.ofVariables Variables.Holds
  rw [noFile, Option.orElse_eq_orElse, Option.orElse_eq_or, Option.or_none]
  cases found : vars.find? (·.1 = s) with
  | none => simp
  | some v =>
    have named : v.1 = s := by simpa using List.find?_some found
    obtain ⟨_, bytes⟩ := v
    obtain rfl : _ = s := named
    simp [Text.fromUTF8?_eq_some_iff]

/-- The text is a value of the setting. -/
def Setting.Spelled : Setting → String → Prop
  | .gatewayId, _ => True
  | .gstRate, text => ∃ rate, Decimal.Spells text rate
  | .maxConcurrency, text => ∃ n, Text.SpellsWord text n
  | .callTimeout, text => ∃ millis, Text.SpellsWord text millis
  | .mismatchTolerance, text => ∃ tolerance, Decimal.Spells text tolerance

/-- The settings that are numbers, in the order in which they are read. -/
def Setting.numbers : List Setting := [.gstRate, .maxConcurrency, .callTimeout, .mismatchTolerance]

namespace Environment

variable {α : Type} {env : Environment} {s : Setting} {standard value : α}
  {spells : String → α → Prop} {read? : String → Option α} {e : FeeError}

/-- A setting comes to this value. -/
inductive Gives (env : Environment) (s : Setting) (standard : α) (spells : String → α → Prop) :
    α → Prop
  | unset (unset : env s = none) : Gives env s standard spells standard
  | spelled {raw text : String} {value : α} (given : env s = some raw) (trims : Text.Trims raw text)
      (spelled : spells text value) : Gives env s standard spells value

/-- A setting is there, and what it says is no value of its kind. -/
def Unreadable (env : Environment) (s : Setting) : Prop :=
  ∃ raw text, env s = some raw ∧ Text.Trims raw text ∧ ¬ s.Spelled text

/-- The first of these settings that is unreadable is reported. -/
def ReportsUnreadable (env : Environment) (settings : List Setting) (e : FeeError) : Prop :=
  ∃ s, IsFirst env.Unreadable settings s ∧ e = .configuration (.unreadable s)

/-- A setting that is there is unreadable when what stands between the blanks is no value. -/
theorem unreadable_iff {raw : String} (given : env s = some raw) :
    env.Unreadable s ↔ ¬ s.Spelled (Text.trim raw) := by
  refine ⟨?_, fun unspelled => ⟨raw, _, given, Text.trim_eq_iff.mp rfl, unspelled⟩⟩
  rintro ⟨_, text, given', trims, unspelled⟩
  cases given.symm.trans given'
  rw [Text.trim_eq_iff.mpr trims]
  exact unspelled

section Reading

variable (reads : ∀ text value, read? text = some value ↔ spells text value)
include reads

theorem setting_eq_ok_iff :
    Config.setting env s standard read? = .ok value ↔ env.Gives s standard spells value := by
  unfold Config.setting
  refine ⟨?_, ?_⟩
  · intro h
    cases given : env s with
    | none =>
      rw [given] at h
      cases h
      exact .unset given
    | some raw =>
      rw [given] at h
      dsimp only at h
      cases read : read? (Text.trim raw) with
      | none =>
        rw [read] at h
        cases h
      | some value =>
        rw [read] at h
        cases h
        exact .spelled given (Text.trim_eq_iff.mp rfl) ((reads _ _).mp read)
  · intro h
    cases h with
    | unset unset => rw [unset]
    | spelled given trims spelled =>
      obtain rfl := Text.trim_eq_iff.mpr trims
      rw [given]
      dsimp only
      rw [(reads _ _).mpr spelled]

theorem setting_eq_error_iff (spelled : ∀ text, s.Spelled text ↔ ∃ value, spells text value) :
    Config.setting env s standard read? = .error e ↔
      env.Unreadable s ∧ e = .configuration (.unreadable s) := by
  unfold Config.setting
  cases given : env s with
  | none =>
    refine ⟨nofun, ?_⟩
    rintro ⟨⟨_, _, given', -⟩, -⟩
    cases given.symm.trans given'
  | some raw =>
    rw [unreadable_iff given, spelled]
    simp only [← reads]
    cases read : read? (Text.trim raw) with
    | none => simp [eq_comm]
    | some value => simp

theorem exists_gives_iff (spelled : ∀ text, s.Spelled text ↔ ∃ value, spells text value) :
    (∃ value, env.Gives s standard spells value) ↔ ¬ env.Unreadable s := by
  cases read : Config.setting env s standard read? with
  | ok value =>
    refine iff_of_true ⟨value, (setting_eq_ok_iff reads).mp read⟩ ?_
    intro unreadable
    cases read.symm.trans ((setting_eq_error_iff reads spelled).mpr ⟨unreadable, rfl⟩)
  | error e =>
    refine iff_of_false ?_ (not_not_intro ((setting_eq_error_iff reads spelled).mp read).1)
    rintro ⟨value, gives⟩
    cases read.symm.trans ((setting_eq_ok_iff reads).mpr gives)

/-- Reading one more setting first: it is reported if it is unreadable, and else the rest goes on
with its value. -/
theorem setting_bind_eq_error_iff {β : Type} {f : α → Except FeeError β} {settings : List Setting}
    {later : α → Prop} (spelled : ∀ text, s.Spelled text ↔ ∃ value, spells text value)
    (rest : ∀ value, f value = .error e ↔ env.ReportsUnreadable settings e ∨ later value) :
    (Config.setting env s standard read? >>= f) = .error e ↔
      env.ReportsUnreadable (s :: settings) e ∨
        ∃ value, env.Gives s standard spells value ∧ later value := by
  simp only [Outcome.bind_eq_error, setting_eq_error_iff reads spelled, setting_eq_ok_iff reads,
    rest]
  refine ⟨?_, ?_⟩
  · rintro (⟨unreadable, rfl⟩ | ⟨value, gives, ⟨s', isFirst, rfl⟩ | fails⟩)
    · exact .inl ⟨s, .here unreadable, rfl⟩
    · have readable := (exists_gives_iff reads spelled).mp ⟨value, gives⟩
      exact .inl ⟨s', .later readable isFirst, rfl⟩
    · exact .inr ⟨value, gives, fails⟩
  · rintro (⟨s', isFirst, rfl⟩ | ⟨value, gives, fails⟩)
    · cases isFirst with
      | here unreadable => exact .inl ⟨unreadable, rfl⟩
      | later readable isFirst =>
        obtain ⟨value, gives⟩ := (exists_gives_iff reads spelled).mpr readable
        exact .inr ⟨value, gives, .inl ⟨s', isFirst, rfl⟩⟩
    · exact .inr ⟨value, gives, .inr fails⟩

end Reading

end Environment

/-! ### Rules of a configuration -/

namespace Config

variable {c : Config} {env : Environment} {e : FeeError}

/-- What is wrong with a configuration that a rule refuses. -/
def Breaks (c : Config) : Misconfiguration → Prop
  | .blankGateway => Text.isAllBlank c.gatewayId = true
  | .noConcurrency => c.maxConcurrency = 0
  | .noTimeout => c.callTimeout.millis = 0
  | .negativeRate => c.gstRate < 0
  | .negativeTolerance => c.mismatchTolerance < 0
  | .unreadable _ | .other _ => False

instance (c : Config) : DecidablePred c.Breaks
  | .blankGateway => inferInstanceAs (Decidable (Text.isAllBlank c.gatewayId = true))
  | .noConcurrency => inferInstanceAs (Decidable (c.maxConcurrency = 0))
  | .noTimeout => inferInstanceAs (Decidable (c.callTimeout.millis = 0))
  | .negativeRate => inferInstanceAs (Decidable (c.gstRate < 0))
  | .negativeTolerance => inferInstanceAs (Decidable (c.mismatchTolerance < 0))
  | .unreadable _ | .other _ => inferInstanceAs (Decidable False)

/-- The rules, in the order in which they are checked. -/
def rules : List Misconfiguration :=
  [.blankGateway, .noConcurrency, .noTimeout, .negativeRate, .negativeTolerance]

/-- The check goes through the rules one by one. -/
theorem check_eq_forM (c : Config) :
    c.check = rules.forM fun fault => require (¬ c.Breaks fault) (.configuration fault) := by
  show c.check = (do
    require (¬ c.Breaks .blankGateway) (.configuration .blankGateway)
    require (¬ c.Breaks .noConcurrency) (.configuration .noConcurrency)
    require (¬ c.Breaks .noTimeout) (.configuration .noTimeout)
    require (¬ c.Breaks .negativeRate) (.configuration .negativeRate)
    require (¬ c.Breaks .negativeTolerance) (.configuration .negativeTolerance)
    pure ())
  rw [bind_pure_unit]
  rfl

/-- **The check names the first rule that is broken.** -/
theorem check_eq_error_iff :
    c.check = .error e ↔ ∃ fault, IsFirst c.Breaks rules fault ∧ e = .configuration fault := by
  rw [check_eq_forM]
  -- Over any rules: those behind a broken one are not looked at.
  induction rules with
  | nil =>
    refine ⟨nofun, ?_⟩
    rintro ⟨fault, ⟨⟩, -⟩
  | cons rule rest ih =>
    show (require (¬ c.Breaks rule) (.configuration rule) >>= fun _ => rest.forM _) = .error e ↔ _
    rw [Outcome.bind_eq_error, require_eq_error, not_not]
    simp only [isFirst_cons, require_eq_ok]
    refine ⟨?_, ?_⟩
    · rintro (⟨broken, rfl⟩ | ⟨_, kept, failed⟩)
      · exact ⟨rule, .inl ⟨broken, rfl⟩, rfl⟩
      · obtain ⟨fault, isFirst, rfl⟩ := ih.mp failed
        exact ⟨fault, .inr ⟨kept, isFirst⟩, rfl⟩
    · rintro ⟨fault, ⟨broken, rfl⟩ | ⟨kept, isFirst⟩, rfl⟩
      · exact .inl ⟨broken, rfl⟩
      · exact .inr ⟨(), kept, ih.mpr ⟨fault, isFirst, rfl⟩⟩

/-! ### Loading -/

/-- The configuration that an environment describes. -/
structure Describes (env : Environment) (c : Config) : Prop where
  /-- The identifier is taken as it stands, blanks and all. -/
  gatewayId : c.gatewayId = (env .gatewayId).getD standard.gatewayId
  gstRate : env.Gives .gstRate standard.gstRate Decimal.Spells c.gstRate
  maxConcurrency :
    env.Gives .maxConcurrency standard.maxConcurrency Text.SpellsWord c.maxConcurrency
  callTimeout : env.Gives .callTimeout standard.callTimeout
    (fun text limit => Text.SpellsWord text limit.millis) c.callTimeout
  mismatchTolerance :
    env.Gives .mismatchTolerance standard.mismatchTolerance Decimal.Spells c.mismatchTolerance

/-- Why an environment makes no configuration that can be used. -/
inductive Refused (env : Environment) : Misconfiguration → Prop
  /-- This is the first number that cannot be read. -/
  | unreadable {s : Setting} (isFirst : IsFirst env.Unreadable Setting.numbers s) :
      Refused env (.unreadable s)
  /-- All can be read, and this is the first rule that they break. -/
  | broken {c : Config} {fault : Misconfiguration} (described : Describes env c)
      (isFirst : IsFirst c.Breaks rules fault) : Refused env fault

theorem read_timeout (text : String) (limit : Duration) :
    (Text.word? text).map Duration.mk = some limit ↔ Text.SpellsWord text limit.millis := by
  rw [← Text.word?_eq_some_iff, Option.map_eq_some_iff]
  refine ⟨?_, fun h => ⟨_, h, rfl⟩⟩
  rintro ⟨millis, h, rfl⟩
  exact h

theorem spelled_timeout (text : String) :
    Setting.callTimeout.Spelled text ↔ ∃ limit : Duration, Text.SpellsWord text limit.millis :=
  ⟨fun ⟨millis, h⟩ => ⟨⟨millis⟩, h⟩, fun ⟨limit, h⟩ => ⟨limit.millis, h⟩⟩

/-- A configuration is described, for better or worse, when all its numbers can be read. -/
theorem exists_describes_iff :
    (∃ c, Describes env c) ↔ ∀ s ∈ Setting.numbers, ¬ env.Unreadable s := by
  have gstRate_iff : (∃ rate, env.Gives .gstRate standard.gstRate Decimal.Spells rate) ↔ _ :=
    Environment.exists_gives_iff (fun _ _ => Decimal.ofText?_eq_some_iff) fun _ => Iff.rfl
  have maxConcurrency_iff :
      (∃ n, env.Gives .maxConcurrency standard.maxConcurrency Text.SpellsWord n) ↔ _ :=
    Environment.exists_gives_iff (fun _ _ => Text.word?_eq_some_iff) fun _ => Iff.rfl
  have callTimeout_iff : (∃ limit, env.Gives .callTimeout standard.callTimeout
      (fun text limit => Text.SpellsWord text limit.millis) limit) ↔ _ :=
    Environment.exists_gives_iff read_timeout spelled_timeout
  have mismatchTolerance_iff : (∃ tolerance, env.Gives .mismatchTolerance
      standard.mismatchTolerance Decimal.Spells tolerance) ↔ _ :=
    Environment.exists_gives_iff (fun _ _ => Decimal.ofText?_eq_some_iff) fun _ => Iff.rfl
  simp only [Setting.numbers, List.forall_mem_cons, ← gstRate_iff, ← maxConcurrency_iff,
    ← callTimeout_iff, ← mismatchTolerance_iff]
  refine ⟨?_, ?_⟩
  · rintro ⟨c, -, gstRate, maxConcurrency, callTimeout, mismatchTolerance⟩
    exact ⟨⟨_, gstRate⟩, ⟨_, maxConcurrency⟩, ⟨_, callTimeout⟩, ⟨_, mismatchTolerance⟩, nofun⟩
  · rintro ⟨⟨rate, gstRate⟩, ⟨n, maxConcurrency⟩, ⟨limit, callTimeout⟩,
      ⟨tolerance, mismatchTolerance⟩, -⟩
    exact ⟨⟨_, rate, n, limit, tolerance⟩, rfl, gstRate, maxConcurrency, callTimeout,
      mismatchTolerance⟩

/-- What is loaded is what is described, once it passes its check. -/
theorem ofEnvironment_eq_ok_iff :
    ofEnvironment env = .ok c ↔ Describes env c ∧ c.check = .ok () := by
  simp only [ofEnvironment, Outcome.bind_eq_ok,
    Environment.setting_eq_ok_iff fun _ _ => Decimal.ofText?_eq_some_iff,
    Environment.setting_eq_ok_iff fun _ _ => Text.word?_eq_some_iff,
    Environment.setting_eq_ok_iff read_timeout]
  refine ⟨?_, ?_⟩
  · rintro ⟨rate, gstRate, n, maxConcurrency, limit, callTimeout, tolerance, mismatchTolerance,
      _, checked, ⟨⟩⟩
    exact ⟨⟨rfl, gstRate, maxConcurrency, callTimeout, mismatchTolerance⟩, checked⟩
  · rintro ⟨⟨gatewayId, gstRate, maxConcurrency, callTimeout, mismatchTolerance⟩, checked⟩
    obtain ⟨gateway, rate, n, limit, tolerance⟩ := c
    obtain rfl := gatewayId
    exact ⟨rate, gstRate, n, maxConcurrency, limit, callTimeout, tolerance, mismatchTolerance,
      (), checked, rfl⟩

/-- What is reported is the first setting that cannot be read, or else the first broken rule. -/
theorem ofEnvironment_eq_error_iff :
    ofEnvironment env = .error e ↔ ∃ fault, Refused env fault ∧ e = .configuration fault := by
  -- From the check backwards, each reading puts its setting in front of those that are reported.
  have chain : ofEnvironment env = .error e ↔ env.ReportsUnreadable Setting.numbers e ∨ _ :=
    Environment.setting_bind_eq_error_iff (fun _ _ => Decimal.ofText?_eq_some_iff)
      (fun _ => Iff.rfl) fun rate =>
    Environment.setting_bind_eq_error_iff (fun _ _ => Text.word?_eq_some_iff)
      (fun _ => Iff.rfl) fun n =>
    Environment.setting_bind_eq_error_iff read_timeout spelled_timeout fun limit =>
    Environment.setting_bind_eq_error_iff (fun _ _ => Decimal.ofText?_eq_some_iff)
      (fun _ => Iff.rfl) fun tolerance => by
        rw [Outcome.bind_pure_eq_error, check_eq_error_iff, or_iff_right]
        rintro ⟨s, ⟨⟩, -⟩
  rw [chain]
  refine ⟨?_, ?_⟩
  · rintro (⟨s, isFirst, rfl⟩ | ⟨rate, gstRate, n, maxConcurrency, limit, callTimeout, tolerance,
      mismatchTolerance, fault, isFirst, rfl⟩)
    · exact ⟨_, .unreadable isFirst, rfl⟩
    · exact ⟨fault, .broken ⟨rfl, gstRate, maxConcurrency, callTimeout, mismatchTolerance⟩ isFirst,
        rfl⟩
  · rintro ⟨fault, refused, rfl⟩
    cases refused with
    | unreadable isFirst => exact .inl ⟨_, isFirst, rfl⟩
    | @broken c _ described isFirst =>
      obtain ⟨gatewayId, gstRate, maxConcurrency, callTimeout, mismatchTolerance⟩ := described
      obtain ⟨gateway, rate, n, limit, tolerance⟩ := c
      obtain rfl := gatewayId
      exact .inr ⟨rate, gstRate, n, maxConcurrency, limit, callTimeout, tolerance,
        mismatchTolerance, fault, isFirst, rfl⟩

end Config

/-! ### Putting to use -/

theorem Cascade.create_eq_check (config : Config) (sheets : SheetStore) (payments : Payments) :
    Cascade.create config sheets payments =
      config.check.map fun _ => ⟨config, sheets, payments⟩ := by
  cases checked : config.check with
  | ok _ => exact Cascade.create_of_check checked sheets payments
  | error e =>
    unfold Cascade.create
    rw [checked]
    rfl

theorem Reconciler.create_eq_check (config : Config) (localFeed remoteFeed : Feed) :
    Reconciler.create config localFeed remoteFeed =
      config.check.map fun _ => ⟨config, localFeed, remoteFeed⟩ := by
  cases checked : config.check with
  | ok _ => exact Reconciler.create_eq_ok.mpr ⟨checked, rfl⟩
  | error e =>
    unfold Reconciler.create
    rw [checked]
    rfl

/-- The check decides whether a configuration can be put to use, and is what refuses it. -/
structure Config.DecidedByCheck (config : Config) : Prop where
  cascade : ∀ sheets payments,
    Cascade.create config sheets payments = config.check.map fun _ => ⟨config, sheets, payments⟩
  reconciler : ∀ localFeed remoteFeed, Reconciler.create config localFeed remoteFeed =
    config.check.map fun _ => ⟨config, localFeed, remoteFeed⟩
  /-- The rate is looked at again behind the check, and never refused there. -/
  taxable : config.check = .ok () → Gst.checkRate config.gstRate = .ok ()
  never_gst : ∀ sheets payments fault,
    Cascade.create config sheets payments ≠ .error (.gst fault)

theorem Config.decidedByCheck (config : Config) : config.DecidedByCheck where
  cascade := Cascade.create_eq_check config
  reconciler := Reconciler.create_eq_check config
  taxable := checkRate_of_check
  never_gst := by
    intro sheets payments fault refused
    rw [Cascade.create_eq_check] at refused
    cases checked : config.check with
    | ok _ =>
      rw [checked] at refused
      cases refused
    | error e =>
      rw [checked] at refused
      cases refused
      obtain ⟨_, -, impossible⟩ := check_eq_error_iff.mp checked
      cases impossible

/--
**An environment without a file is loaded if every number in it can be read and the check
accepts what it describes**, and then cascades and reconcilers accept it too.  Otherwise the
first number that cannot be read is reported, or else the first rule that is broken.  For every
configuration, loaded or not, cascades and reconcilers go by the check alone.
-/
theorem Config.ofEnvironment_loads_described (vars : Variables) :
    (∀ s text, Environment.ofVariables vars "" s = some text ↔ vars.Holds s text) ∧
      ((∃ c, ofEnvironment (.ofVariables vars "") = .ok c) ↔
        (∀ s ∈ Setting.numbers, ¬ (Environment.ofVariables vars "").Unreadable s) ∧
          ∀ c, Describes (.ofVariables vars "") c → c.check = .ok ()) ∧
      (∀ c, ofEnvironment (.ofVariables vars "") = .ok c ↔
        Describes (.ofVariables vars "") c ∧ c.check = .ok ()) ∧
      (∀ e, ofEnvironment (.ofVariables vars "") = .error e ↔
        ∃ fault, Refused (.ofVariables vars "") fault ∧ e = .configuration fault) ∧
      (∀ s, (FeeError.configuration (.unreadable s)).message =
        "Configuration error: Invalid " ++ s.variableName) ∧
      (∀ c, ofEnvironment (.ofVariables vars "") = .ok c →
        (∀ sheets payments, Cascade.create c sheets payments = .ok ⟨c, sheets, payments⟩) ∧
          ∀ localFeed remoteFeed, Reconciler.create c localFeed remoteFeed =
            .ok ⟨c, localFeed, remoteFeed⟩) ∧
      ∀ config : Config, config.DecidedByCheck := by
  refine ⟨fun _ _ => Environment.ofVariables_eq_some_iff, ⟨?_, ?_⟩,
    fun _ => ofEnvironment_eq_ok_iff, fun _ => ofEnvironment_eq_error_iff, ?_, ?_, decidedByCheck⟩
  · rintro ⟨loaded, h⟩
    obtain ⟨described, -⟩ := ofEnvironment_eq_ok_iff.mp h
    refine ⟨exists_describes_iff.mp ⟨loaded, described⟩, ?_⟩
    intro c described
    cases checked : c.check with
    | ok _ => rfl
    | error e =>
      obtain ⟨fault, isFirst, rfl⟩ := check_eq_error_iff.mp checked
      cases h.symm.trans (ofEnvironment_eq_error_iff.mpr ⟨fault, .broken described isFirst, rfl⟩)
  · rintro ⟨readable, valid⟩
    obtain ⟨c, described⟩ := exists_describes_iff.mpr readable
    exact ⟨c, ofEnvironment_eq_ok_iff.mpr ⟨described, valid c described⟩⟩
  · intro s
    rfl
  · intro c loaded
    have valid := (ofEnvironment_eq_ok_iff.mp loaded).2
    exact ⟨Cascade.create_of_check valid, fun _ _ => Reconciler.create_eq_ok.mpr ⟨valid, rfl⟩⟩

/-- Values with blanks around them, and a tolerance that is no text. -/
def Variables.padded : Variables :=
  [(.gatewayId, " pg ".toUTF8), (.gstRate, "+1_8e-2\n".toUTF8), (.callTimeout, "\t250".toUTF8),
    (.mismatchTolerance, ⟨#[0xff]⟩)]

/-- No gateway, no concurrency, and two values that are no numbers. -/
def Variables.muddled : Variables :=
  [(.mismatchTolerance, "1.2.3".toUTF8), (.callTimeout, "soon".toUTF8),
    (.maxConcurrency, "0".toUTF8), (.gatewayId, "".toUTF8)]

/-- The blanks around the gateway stay and those around the numbers do not; what is not a number is
reported before the rules that are broken. -/
theorem Config.ofEnvironment_loads_described_padded :
    (Describes (.ofVariables .padded "") ⟨" pg ", ⟨18, 2⟩, 8, ⟨250⟩, 0⟩ ∧
      ∀ sheets payments, Cascade.create ⟨" pg ", ⟨18, 2⟩, 8, ⟨250⟩, 0⟩ sheets payments =
        .ok ⟨⟨" pg ", ⟨18, 2⟩, 8, ⟨250⟩, 0⟩, sheets, payments⟩) ∧
      Refused (.ofVariables .muddled "") (.unreadable .callTimeout) := by
  have loaded : ofEnvironment (.ofVariables .padded "") =
      .ok ⟨" pg ", ⟨18, 2⟩, 8, ⟨250⟩, 0⟩ := by decide +kernel
  have failed : ofEnvironment (.ofVariables .muddled "") =
      .error (.configuration (.unreadable .callTimeout)) := by decide +kernel
  obtain ⟨-, -, described, -, -, usable, -⟩ := ofEnvironment_loads_described .padded
  obtain ⟨-, -, -, refused, -⟩ := ofEnvironment_loads_described .muddled
  refine ⟨⟨((described _).mp loaded).1, (usable _ loaded).1⟩, ?_⟩
  obtain ⟨fault, because, told⟩ := (refused _).mp failed
  cases told
  exact because

end SchoolFees
