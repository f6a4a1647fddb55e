import WorkQueue.Config
import WorkQueue.Proofs.Queues.Names
import WorkQueue.Proofs.Text.Digits

/-!
# Which environments give settings

Four variables are checked, one after the other: how often to sweep, where the database is, how
many connections to open, and how many locks to know. The address of the database has to be set;
the others are numbers, with blanks around them and perhaps a plus sign, and have defaults.
`Config.environment_settled` says which environments give settings and which settings these are, and
that otherwise the error names the first variable that is not as it should be.
-/

namespace WorkQueue

namespace Text

/-- The text stands for the number: it is digits, with a plus sign in front or none, once the blanks
around it are taken away. -/
def Numeral (text : List Char) (n : Nat) : Prop :=
  ∃ sign digits, StripsTo text (sign ++ digits) ∧ (sign = [] ∨ sign = ['+']) ∧ digits ≠ [] ∧
    AllDigits digits ∧ n = decimalValue digits

/-- A natural number below a limit is written with digits only, after a plus sign or none. -/
theorem readNat_eq_ok_iff_exists_sign {limit n : Nat} {text : List Char} (hlimit : 0 < limit) :
    readNat limit text = .ok n ↔
      (∃ sign digits, text = sign ++ digits ∧ (sign = [] ∨ sign = ['+']) ∧ digits ≠ [] ∧
        AllDigits digits ∧ n = decimalValue digits) ∧ n < limit := by
  have hplus (rest : List Char) : ¬ AllDigits ('+' :: rest) :=
    fun hall => absurd (hall '+' List.mem_cons_self) (by decide)
  by_cases hsign : text.head? = some '+'
  · obtain ⟨digits, rfl⟩ : ∃ digits, text = '+' :: digits := by
      cases text <;> simp_all
    have hread : readNat limit ('+' :: digits) = .ok n ↔
        digits ≠ [] ∧ readDigits limit .tooLarge 0 digits = .ok n := by
      cases digits <;> simp [readNat]
    rw [hread, readDigits_eq_ok_iff hlimit]
    constructor
    · rintro ⟨hnil, hall, hn, hlt⟩
      exact ⟨⟨['+'], digits, rfl, .inr rfl, hnil, hall, hn⟩, hlt⟩
    · rintro ⟨⟨sign, rest, htext, rfl | rfl, hnil, hall, hn⟩, hlt⟩
      · exact absurd (htext ▸ hall) (hplus digits)
      · cases htext
        exact ⟨hnil, hall, hn, hlt⟩
  · rw [readNat_eq_ok_iff hlimit hsign]
    constructor
    · rintro ⟨hnil, hall, hn, hlt⟩
      exact ⟨⟨[], text, rfl, .inl rfl, hnil, hall, hn⟩, hlt⟩
    · rintro ⟨⟨sign, digits, rfl, rfl | rfl, hnil, hall, hn⟩, hlt⟩
      · exact ⟨hnil, hall, hn, hlt⟩
      · exact absurd rfl hsign

/-- What is read of a text without the blanks around it is the number for which it stands. -/
theorem readNat_trim_eq_ok_iff {limit n : Nat} {text : List Char} (hlimit : 0 < limit) :
    readNat limit (trim text) = .ok n ↔ Numeral text n ∧ n < limit := by
  rw [readNat_eq_ok_iff_exists_sign hlimit]
  refine and_congr_left fun _ => exists₂_congr fun sign digits => and_congr_left fun _ => ?_
  constructor
  · intro htrim
    exact htrim ▸ stripsTo_trim text
  · intro hstrips
    exact hstrips.eq_trim.symm

/-- A text stands for one number only. -/
theorem Numeral.eq {text : List Char} {n m : Nat} (hn : Numeral text n) (hm : Numeral text m) :
    n = m := by
  have hlimit : 0 < max n m + 1 := Nat.succ_pos _
  have hfirst := (readNat_trim_eq_ok_iff hlimit).2 ⟨hn, Nat.lt_succ_of_le (Nat.le_max_left n m)⟩
  have hsecond := (readNat_trim_eq_ok_iff hlimit).2 ⟨hm, Nat.lt_succ_of_le (Nat.le_max_right n m)⟩
  exact Except.ok.inj (hfirst.symm.trans hsecond)

end Text

namespace Environment

/-- The variable is not set, or it is set to a number from the least one up to a limit. -/
def IsInRange (environment : Environment) (name : String) (least limit : Nat) : Prop :=
  ∀ text, environment name = some text →
    ∃ n, Text.Numeral text.toList n ∧ least ≤ n ∧ n < limit

/-- The variable stands for the number, or is not set and the number is its default. -/
def StandsFor (environment : Environment) (name : String) (default value : Nat) : Prop :=
  match environment name with
  | none => value = default
  | some text => Text.Numeral text.toList value

variable {environment : Environment} {name : String} {limit default value : Nat}

/-- A variable that stands for another number than zero is not set to zero. -/
theorem isInRange_one_of_standsFor (hrange : environment.IsInRange name 0 limit)
    (hstands : environment.StandsFor name default value) (hvalue : value ≠ 0) :
    environment.IsInRange name 1 limit := by
  intro text htext
  rw [StandsFor, htext] at hstands
  obtain ⟨n, hnumeral, _, hlt⟩ := hrange text htext
  exact ⟨n, hnumeral, Nat.pos_of_ne_zero (hstands.eq hnumeral ▸ hvalue), hlt⟩

/-- A variable that stands for zero, which is not its default, is set to zero. -/
theorem exists_zero_of_standsFor (hstands : environment.StandsFor name default 0)
    (hdefault : default ≠ 0) :
    ∃ raw, environment name = some raw ∧ Text.Numeral raw.toList 0 := by
  unfold StandsFor at hstands
  split at hstands
  · exact absurd hstands.symm hdefault
  · next raw hset => exact ⟨raw, hset, hstands⟩

end Environment

/-- The variables that are checked. -/
inductive Setting where
  | sweepInterval
  | databaseUrl
  | maxConnections
  | lockCapacity
  deriving DecidableEq, Repr

namespace Setting

/-- The variables in the order in which they are checked. -/
def all : List Setting :=
  [.sweepInterval, .databaseUrl, .maxConnections, .lockCapacity]

/-- The name of a variable. -/
def name : Setting → String
  | .sweepInterval => "TXQ_SWEEP_INTERVAL_SECS"
  | .databaseUrl => "DATABASE_URL"
  | .maxConnections => "TXQ_MAX_CONNECTIONS"
  | .lockCapacity => "TXQ_LOCK_TABLE_CAPACITY"

/-- The variable is as it should be. -/
def Accepts (setting : Setting) (environment : Environment) : Prop :=
  match setting with
  | .sweepInterval => environment.IsInRange setting.name 1 (2 ^ 64)
  | .databaseUrl => environment setting.name ≠ none
  | .maxConnections => environment.IsInRange setting.name 0 (2 ^ 32)
  | .lockCapacity => environment.IsInRange setting.name 0 (2 ^ 64)

/-- The errors that name a variable. -/
inductive Complaint (environment : Environment) (setting : Setting) : Error → Prop where
  | missing :
      environment setting.name = none →
      Complaint environment setting (.configuration
        ("required environment variable " ++ setting.name ++ " is not set"))
  | unreadable (raw : String) (fault : Text.DigitsFault) :
      environment setting.name = some raw →
      Complaint environment setting (.configuration
        (setting.name ++ "=" ++ Text.quote raw ++ " is not valid: " ++ fault.message))
  | zero (raw : String) :
      environment setting.name = some raw → Text.Numeral raw.toList 0 →
      Complaint environment setting (.configuration (setting.name ++ " must be at least 1"))

/-- What checking a variable can come to: a value that it gives, or an error that names it. -/
inductive Checked {α : Type} (environment : Environment) (setting : Setting) (Given : α → Prop) :
    Except Error α → Prop where
  | accepted (value : α) :
      setting.Accepts environment → Given value → Checked environment setting Given (.ok value)
  | refused (error : Error) :
      ¬ setting.Accepts environment → setting.Complaint environment error →
      Checked environment setting Given (.error error)

end Setting

namespace Config

open Setting

variable (environment : Environment)

/-- A number is read from a variable that is in range, and only then. -/
theorem number_cases (name : String) {limit : Nat} (default : Nat) (hlimit : 0 < limit) :
    (∃ value, number environment name limit default = .ok value ∧
      environment.StandsFor name default value ∧ environment.IsInRange name 0 limit) ∨
      ∃ (raw : String) (fault : Text.DigitsFault), environment name = some raw ∧
        number environment name limit default = .error (.configuration
          (name ++ "=" ++ Text.quote raw ++ " is not valid: " ++ fault.message)) ∧
        ¬ environment.IsInRange name 0 limit := by
  unfold number Environment.StandsFor
  cases hset : environment name with
  | none =>
      refine .inl ⟨default, rfl, rfl, fun text htext => ?_⟩
      rw [hset] at htext
      cases htext
  | some raw =>
      cases hread : Text.readNat limit (Text.trim raw.toList) with
      | ok value =>
          obtain ⟨hnumeral, hlt⟩ := (Text.readNat_trim_eq_ok_iff hlimit).1 hread
          refine .inl ⟨value, by simp [hread], hnumeral, fun text htext => ?_⟩
          cases hset.symm.trans htext
          exact ⟨value, hnumeral, Nat.zero_le value, hlt⟩
      | error fault =>
          refine .inr ⟨raw, fault, rfl, by simp [hread], fun hrange => ?_⟩
          obtain ⟨n, hnumeral, _, hlt⟩ := hrange raw hset
          cases hread.symm.trans ((Text.readNat_trim_eq_ok_iff hlimit).2 ⟨hnumeral, hlt⟩)

/-- A variable that may stand for any number below a limit is read if it is as it should be. -/
theorem checked_number (setting : Setting) {limit : Nat} (default : Nat) (hlimit : 0 < limit)
    (haccepts : setting.Accepts environment ↔ environment.IsInRange setting.name 0 limit) :
    Checked environment setting (environment.StandsFor setting.name default)
      (number environment setting.name limit default) := by
  rcases number_cases environment setting.name default hlimit with
    ⟨value, hread, hstands, hrange⟩ | ⟨raw, fault, hset, hfault, hrange⟩
  · rw [hread]
    exact .accepted value (haccepts.2 hrange) hstands
  · rw [hfault]
    exact .refused _ (fun haccept => hrange (haccepts.1 haccept)) (.unreadable raw fault hset)

/-- The number of seconds between sweeps, which is at least one. -/
def sweepSeconds (environment : Environment) : Except Error Nat := do
  let seconds ← number environment "TXQ_SWEEP_INTERVAL_SECS" UInt64.size 30
  if seconds = 0 then .error (.configuration "TXQ_SWEEP_INTERVAL_SECS must be at least 1")
  else .ok seconds

/-- The number of seconds between sweeps is read if its variable is as it should be. -/
theorem checked_sweepSeconds :
    Checked environment .sweepInterval (environment.StandsFor "TXQ_SWEEP_INTERVAL_SECS" 30)
      (sweepSeconds environment) := by
  have hlimit : 0 < UInt64.size := by decide
  rw [sweepSeconds]
  rcases number_cases environment "TXQ_SWEEP_INTERVAL_SECS" 30 hlimit with
    ⟨seconds, hread, hstands, hrange⟩ | ⟨raw, fault, hset, hfault, hrange⟩
  · rw [hread]
    by_cases hzero : seconds = 0
    · subst hzero
      obtain ⟨raw, hset, hnumeral⟩ := Environment.exists_zero_of_standsFor hstands (by decide)
      refine .refused _ (fun haccept => ?_) (.zero raw hset hnumeral)
      obtain ⟨n, hother, hleast, _⟩ := haccept raw hset
      exact absurd (hother.eq hnumeral) (Nat.ne_of_gt hleast)
    · simp only [bind, Except.bind, if_neg hzero]
      exact .accepted seconds (Environment.isInRange_one_of_standsFor hrange hstands hzero) hstands
  · rw [hfault]
    refine .refused _ (fun haccept => hrange fun text htext => ?_) (.unreadable raw fault hset)
    obtain ⟨n, hnumeral, _, hlt⟩ := haccept text htext
    exact ⟨n, hnumeral, Nat.zero_le n, hlt⟩

/-- The address of the database is read if its variable is set. -/
theorem checked_databaseUrl :
    Checked environment .databaseUrl (fun url => environment "DATABASE_URL" = some url)
      (required environment "DATABASE_URL") := by
  unfold required
  cases hset : environment "DATABASE_URL" with
  | none => exact .refused _ (fun haccept => haccept hset) (.missing hset)
  | some url =>
      refine .accepted url (fun hnone => ?_) rfl
      cases hset.symm.trans hnone

/-- The settings are those that the environment gives, and the defaults. -/
structure IsGivenBy (config : Config) (environment : Environment) : Prop where
  databaseUrl : environment "DATABASE_URL" = some config.databaseUrl
  otelEndpoint : config.otelEndpoint = environment "OTEL_ENDPOINT"
  logLevel : config.logLevel = (environment "LOG_LEVEL").getD "info"
  sweepInterval : environment.StandsFor "TXQ_SWEEP_INTERVAL_SECS" 30 config.sweepIntervalSeconds
  maxConnections : environment.StandsFor "TXQ_MAX_CONNECTIONS" 10 config.maxConnections
  lockCapacity : environment.StandsFor "TXQ_LOCK_TABLE_CAPACITY" 1024 config.lockTableCapacity

/-- The variables are checked one after the other. -/
theorem ofEnvironment_eq :
    ofEnvironment environment = (do
      let sweepIntervalSeconds ← sweepSeconds environment
      let databaseUrl ← required environment "DATABASE_URL"
      let maxConnections ← number environment "TXQ_MAX_CONNECTIONS" UInt32.size 10
      let lockTableCapacity ← number environment "TXQ_LOCK_TABLE_CAPACITY" UInt64.size 1024
      pure {
        databaseUrl
        otelEndpoint := environment "OTEL_ENDPOINT"
        logLevel := (environment "LOG_LEVEL").getD "info"
        sweepIntervalSeconds
        maxConnections
        lockTableCapacity }) := by
  rw [ofEnvironment, sweepSeconds]
  cases number environment "TXQ_SWEEP_INTERVAL_SECS" UInt64.size 30 with
  | error error => rfl
  | ok seconds =>
      by_cases hzero : seconds = 0
      · simp only [bind, Except.bind, if_pos hzero]
        rfl
      · simp only [bind, Except.bind, if_neg hzero]

/-- The environment gives settings, or there is a first variable that is not as it should be, and
the error names it. -/
theorem ofEnvironment_cases :
    (∃ config, ofEnvironment environment = .ok config ∧
      (∀ setting : Setting, setting.Accepts environment) ∧ config.IsGivenBy environment) ∨
      ∃ error earlier first later, ofEnvironment environment = .error error ∧
        Setting.all = earlier ++ first :: later ∧
        (∀ setting ∈ earlier, setting.Accepts environment) ∧
        ¬ first.Accepts environment ∧ first.Complaint environment error := by
  have hsweep := checked_sweepSeconds environment
  have hdatabase := checked_databaseUrl environment
  have hconnections : Checked environment .maxConnections
      (environment.StandsFor "TXQ_MAX_CONNECTIONS" 10)
      (number environment "TXQ_MAX_CONNECTIONS" UInt32.size 10) :=
    checked_number environment .maxConnections 10 (by decide) .rfl
  have hcapacity : Checked environment .lockCapacity
      (environment.StandsFor "TXQ_LOCK_TABLE_CAPACITY" 1024)
      (number environment "TXQ_LOCK_TABLE_CAPACITY" UInt64.size 1024) :=
    checked_number environment .lockCapacity 1024 (by decide) .rfl
  rw [ofEnvironment_eq]
  generalize sweepSeconds environment = sweep at hsweep ⊢
  generalize required environment "DATABASE_URL" = database at hdatabase ⊢
  generalize number environment "TXQ_MAX_CONNECTIONS" UInt32.size 10 = connections
    at hconnections ⊢
  generalize number environment "TXQ_LOCK_TABLE_CAPACITY" UInt64.size 1024 = capacity
    at hcapacity ⊢
  cases hsweep with
  | refused error hsweep herror =>
      exact .inr ⟨error, [], _, _, rfl, rfl, nofun, hsweep, herror⟩
  | accepted seconds hsweep hseconds =>
  cases hdatabase with
  | refused error hdatabase herror =>
      refine .inr ⟨error, [.sweepInterval], _, _, rfl, rfl, ?_, hdatabase, herror⟩
      simpa using hsweep
  | accepted url hdatabase hurl =>
  cases hconnections with
  | refused error hconnections herror =>
      refine .inr ⟨error, [.sweepInterval, .databaseUrl], _, _, rfl, rfl, ?_, hconnections, herror⟩
      simpa using ⟨hsweep, hdatabase⟩
  | accepted most hconnections hmost =>
  cases hcapacity with
  | refused error hcapacity herror =>
      refine .inr ⟨error, [.sweepInterval, .databaseUrl, .maxConnections], _, _, rfl, rfl, ?_,
        hcapacity, herror⟩
      simpa using ⟨hsweep, hdatabase, hconnections⟩
  | accepted locks hcapacity hlocks =>
      refine .inl ⟨_, rfl, fun setting => ?_, hurl, rfl, rfl, hseconds, hmost, hlocks⟩
      cases setting <;> assumption

/-- An environment gives settings exactly when every variable is as it should be: the address of the
database is set, and the three numbers are not set or are numerals in range. The settings are then
those that the variables stand for, and the defaults. Otherwise the error names the first variable
that is not as it should be. -/
theorem environment_settled (environment : Environment) :
    ((∃ config, ofEnvironment environment = .ok config) ↔
        ∀ setting : Setting, setting.Accepts environment) ∧
      (∀ config, ofEnvironment environment = .ok config → config.IsGivenBy environment) ∧
      ∀ error, ofEnvironment environment = .error error →
        ∃ earlier first later, Setting.all = earlier ++ first :: later ∧
          (∀ setting ∈ earlier, setting.Accepts environment) ∧
          ¬ first.Accepts environment ∧ first.Complaint environment error := by
  rcases ofEnvironment_cases environment with
    ⟨config, hconfig, haccepts, hgiven⟩ | ⟨error, earlier, first, later, herror, hfirst⟩
  · refine ⟨⟨fun _ => haccepts, fun _ => ⟨config, hconfig⟩⟩, fun other hother => ?_,
      fun error herror => ?_⟩
    · cases hconfig.symm.trans hother
      exact hgiven
    · cases hconfig.symm.trans herror
  · refine ⟨⟨fun ⟨config, hconfig⟩ => ?_, fun haccepts => ?_⟩, fun config hconfig => ?_,
      fun other hother => ?_⟩
    · cases hconfig.symm.trans herror
    · exact absurd (haccepts first) hfirst.2.2.1
    · cases hconfig.symm.trans herror
    · cases herror.symm.trans hother
      exact ⟨earlier, first, later, hfirst⟩

/-- Blanks, a plus sign and zeros in front do no harm to a number of seconds, and the largest number
of connections is accepted; a number of locks that is one too large is refused, but only after the
address of the database has been missed. -/
theorem environment_settled_extremes :
    let given : Environment := fun name => [("TXQ_SWEEP_INTERVAL_SECS", "\u3000+0005\t"),
      ("DATABASE_URL", ""), ("TXQ_MAX_CONNECTIONS", "4294967295")].lookup name
    let refused : Environment := fun name => [("TXQ_SWEEP_INTERVAL_SECS", "+0005"),
      ("TXQ_LOCK_TABLE_CAPACITY", "18446744073709551616")].lookup name
    let config : Config := ⟨"", none, "info", 5, 4294967295, 1024⟩
    let error := .configuration "required environment variable DATABASE_URL is not set"
    ofEnvironment given = .ok config ∧ config.IsGivenBy given ∧
      (∀ setting : Setting, setting.Accepts given) ∧ ofEnvironment refused = .error error ∧
      ∃ earlier first later, Setting.all = earlier ++ first :: later ∧
        (∀ setting ∈ earlier, setting.Accepts refused) ∧
        ¬ first.Accepts refused ∧ first.Complaint refused error := by
  intro given refused config error
  have hconfig : ofEnvironment given = .ok config := rfl
  have herror : ofEnvironment refused = .error error := rfl
  exact ⟨hconfig, (environment_settled given).2.1 config hconfig,
    (environment_settled given).1.1 ⟨config, hconfig⟩, herror,
    (environment_settled refused).2.2 error herror⟩

end Config

end WorkQueue
