import Mathlib.Data.List.Forall2
import FleetResponse.Config
import FleetResponse.Proofs.Text.Letter
import FleetResponse.Proofs.Text.Numeral

namespace FleetResponse

/-! ## Log formats -/

namespace LogFormat

def SpelledBy (format : LogFormat) (text : String) : Prop :=
  List.Forall₂ (fun c letter => c = letter ∨ c = letter.toUpper) text.toList format.name.toList

theorem toLower_eq_iff {c letter : Char} (small : letter.isLower = true) :
    c.toLower = letter ↔ c = letter ∨ c = letter.toUpper := by
  have bounds := Text.isLower_iff.mp small
  rw [← Char.toNat_inj, ← Char.toNat_inj, ← Char.toNat_inj, Text.toNat_toLower,
    Text.toNat_toUpper, if_pos bounds]
  split <;> omega

theorem map_toLower_eq_iff {letters : List Char} (small : ∀ c ∈ letters, c.isLower = true)
    {cs : List Char} :
    cs.map Char.toLower = letters ↔
      List.Forall₂ (fun c letter => c = letter ∨ c = letter.toUpper) cs letters := by
  induction letters generalizing cs with
  | nil => simp
  | cons letter letters ih =>
      obtain ⟨first, rest⟩ := List.forall_mem_cons.mp small
      cases cs with
      | nil => simp
      | cons c cs =>
          rw [List.map_cons, List.cons.injEq, List.forall₂_cons, ih rest, toLower_eq_iff first]

theorem spelledBy_iff {format : LogFormat} {text : String} :
    format.SpelledBy text ↔ format.name = text.toLower := by
  have small : format.name.toList.all Char.isLower = true := by cases format <;> decide
  have lowered : text.toLower.toList = text.toList.map Char.toLower := String.toList_map
  rw [SpelledBy, ← map_toLower_eq_iff (List.all_eq_true.mp small), ← String.toList_inj, lowered,
    eq_comm]

theorem ofName?_eq_some_iff {format : LogFormat} {text : String} :
    ofName? text = some format ↔ format.SpelledBy text := by
  rw [spelledBy_iff, ofName?]
  constructor
  · intro found
    have named := List.find?_some found
    exact of_decide_eq_true named
  · intro named
    rw [← named]
    cases format <;> decide

end LogFormat

/-! ## Pools -/

namespace PoolConfig

def GivesCount (env : Environment) (name : String) (fallback count : Nat) : Prop :=
  match env name with
  | none => count = fallback
  | some text => Text.Unsigned text.toList count ∧ count < 2 ^ 32 ∨
      (∀ n < 2 ^ 32, ¬ Text.Unsigned text.toList n) ∧ count = fallback

theorem givesCount_connections (env : Environment) (name : String) (fallback : Nat) :
    GivesCount env name fallback (connections env name fallback) := by
  rw [GivesCount, connections]
  cases env name with
  | none => rfl
  | some text =>
      simp only [Option.map_some]
      cases read : Text.unsigned 4294967296 text.toList with
      | ok n => exact .inl ((Text.unsigned_eq_ok_iff (by decide)).mp read)
      | error e => exact .inr ⟨Text.not_unsigned_of_error read, rfl⟩

theorem connections_update {env : Environment} {name : String}
    (unread : ∀ text ∈ env name, ∀ n < 2 ^ 32, ¬ Text.Unsigned text.toList n) (other : String)
    (fallback : Nat) :
    connections (Function.update env name none) other fallback =
      connections env other fallback := by
  by_cases same : other = name
  · subst same
    have given := givesCount_connections env other fallback
    rw [connections, Function.update_self]
    rw [GivesCount] at given
    cases held : env other with
    | none => rw [connections, held]
    | some text =>
        rw [held] at given
        rcases given with ⟨written, small⟩ | ⟨-, same⟩
        · exact absurd written (unread text held _ small)
        · exact same.symm
  · rw [connections, connections, Function.update_of_ne same]

end PoolConfig

/-! ## Settings -/

namespace Config

def GivesFormat (env : Environment) (format : LogFormat) : Prop :=
  match env "ROOTSTOCK_LOG_FORMAT" with
  | none => format = .json
  | some text => format.SpelledBy text

def GivesMailbox (env : Environment) (size : Nat) : Prop :=
  match env "ROOTSTOCK_MAILBOX_SIZE" with
  | none => size = defaultMailboxSize
  | some text => Text.Unsigned text.toList size ∧ size < 2 ^ 64

structure GivesDatabase (env : Environment) (database : Option PoolConfig) : Prop where
  absent : database = none ↔
    ∀ url ∈ env "DATABASE_URL", ∀ c ∈ url.toList, Text.isBlank c = true
  present : ∀ pool ∈ database, ∃ url most fewest, env "DATABASE_URL" = some url ∧
    PoolConfig.GivesCount env "DB_MAX_CONNECTIONS" 10 most ∧
    PoolConfig.GivesCount env "DB_MIN_CONNECTIONS" 1 fewest ∧
    pool = { PoolConfig.ofUrl url with maxConnections := most, minConnections := fewest }

theorem givesDatabase_ofEnvironment? (env : Environment) :
    GivesDatabase env (PoolConfig.ofEnvironment? env) := by
  have most := PoolConfig.givesCount_connections env "DB_MAX_CONNECTIONS" 10
  have fewest := PoolConfig.givesCount_connections env "DB_MIN_CONNECTIONS" 1
  rw [PoolConfig.ofEnvironment?]
  cases held : env "DATABASE_URL" with
  | none => exact ⟨by simp [held], by simp⟩
  | some url =>
      by_cases blank : Text.allBlank url.toList = true
      · simp only [if_pos blank]
        rw [Text.allBlank, List.all_eq_true] at blank
        exact ⟨by simpa [held] using blank, by simp⟩
      · simp only [if_neg blank]
        rw [Text.allBlank, List.all_eq_true] at blank
        refine ⟨by simpa [held] using blank, ?_⟩
        rintro pool made
        obtain rfl := Option.some.inj made
        exact ⟨url, _, _, held, most, fewest, rfl⟩

theorem logFormatOf_eq_ok_iff {env : Environment} {format : LogFormat} :
    logFormatOf env = .ok format ↔ GivesFormat env format := by
  rw [logFormatOf, GivesFormat]
  cases env "ROOTSTOCK_LOG_FORMAT" with
  | none => simp [eq_comm]
  | some text =>
      simp only [← LogFormat.ofName?_eq_some_iff]
      cases LogFormat.ofName? text <;> simp

theorem mailboxSizeOf_eq_ok_iff {env : Environment} {size : Nat} :
    mailboxSizeOf env = .ok size ↔ GivesMailbox env size := by
  rw [mailboxSizeOf, GivesMailbox]
  cases env "ROOTSTOCK_MAILBOX_SIZE" with
  | none => simp [eq_comm]
  | some text =>
      have read_iff : Text.unsigned 18446744073709551616 text.toList = .ok size ↔
          Text.Unsigned text.toList size ∧ size < 2 ^ 64 := Text.unsigned_eq_ok_iff (by decide)
      simp only
      rw [← read_iff]
      cases Text.unsigned 18446744073709551616 text.toList <;> simp

theorem ofEnvironment_eq_ok_iff {env : Environment} {config : Config} :
    ofEnvironment env = .ok config ↔ GivesFormat env config.logFormat ∧
      GivesMailbox env config.mailboxSize ∧
      config.logLevel = (env "ROOTSTOCK_LOG_LEVEL").getD "info" ∧
      config.database = PoolConfig.ofEnvironment? env := by
  obtain ⟨level, format, size, database, positive⟩ := config
  rw [← logFormatOf_eq_ok_iff, ← mailboxSizeOf_eq_ok_iff, ofEnvironment]
  cases logFormatOf env with
  | error e => simp [bind, Except.bind]
  | ok found =>
      cases mailboxSizeOf env with
      | error e => simp [bind, Except.bind]
      | ok count =>
          simp only [bind, Except.bind, Except.ok.injEq]
          split
          · simp only [pure, Except.pure, Except.ok.injEq, mk.injEq]
            grind
          · rename_i zero
            simp only [throw, throwThe, MonadExceptOf.throw, reduceCtorEq, false_iff]
            rintro ⟨-, rfl, -⟩
            exact zero positive

/-! ## The variables of the database -/

def databaseVariables : List String :=
  ["DATABASE_URL", "DB_MAX_CONNECTIONS", "DB_MIN_CONNECTIONS"]

def withoutDatabase (config : Config) : Config :=
  { config with database := none }

theorem ofEnvironment_congr {env other : Environment}
    (alike : ∀ name ∉ databaseVariables, other name = env name) :
    (ofEnvironment other).map withoutDatabase = (ofEnvironment env).map withoutDatabase := by
  have format : logFormatOf other = logFormatOf env := by
    rw [logFormatOf, logFormatOf, alike _ (by decide)]
  have mailbox : mailboxSizeOf other = mailboxSizeOf env := by
    rw [mailboxSizeOf, mailboxSizeOf, alike _ (by decide)]
  have level : other "ROOTSTOCK_LOG_LEVEL" = env "ROOTSTOCK_LOG_LEVEL" := alike _ (by decide)
  rw [ofEnvironment, ofEnvironment, format, mailbox, level]
  cases logFormatOf env with
  | error e => rfl
  | ok format =>
      cases mailboxSizeOf env with
      | error e => rfl
      | ok size =>
          simp only [bind, Except.bind]
          split <;> rfl

theorem ofEnvironment_update {env : Environment} {name : String}
    (count : name = "DB_MAX_CONNECTIONS" ∨ name = "DB_MIN_CONNECTIONS")
    (unread : ∀ text ∈ env name, ∀ n < 2 ^ 32, ¬ Text.Unsigned text.toList n) :
    ofEnvironment (Function.update env name none) = ofEnvironment env := by
  have other (sought : String) (differs : sought ≠ name) :
      Function.update env name none sought = env sought :=
    Function.update_of_ne differs none env
  have pool : PoolConfig.ofEnvironment? (Function.update env name none) =
      PoolConfig.ofEnvironment? env := by
    simp only [PoolConfig.ofEnvironment?, PoolConfig.connections_update unread]
    rw [other _ (by rcases count with rfl | rfl <;> decide)]
  rw [ofEnvironment, ofEnvironment, pool, logFormatOf, logFormatOf, mailboxSizeOf, mailboxSizeOf]
  rw [other "ROOTSTOCK_LOG_FORMAT" (by rcases count with rfl | rfl <;> decide),
    other "ROOTSTOCK_MAILBOX_SIZE" (by rcases count with rfl | rfl <;> decide),
    other "ROOTSTOCK_LOG_LEVEL" (by rcases count with rfl | rfl <;> decide)]

/-! ## Faults -/

theorem ofEnvironment_of_unknown {env : Environment} {text : String}
    (held : env "ROOTSTOCK_LOG_FORMAT" = some text)
    (unknown : ∀ format : LogFormat, ¬ format.SpelledBy text) :
    ofEnvironment env = .error (.unknownLogFormat text) := by
  have read : LogFormat.ofName? text = none :=
    Option.eq_none_iff_forall_ne_some.mpr fun format named =>
      unknown format (LogFormat.ofName?_eq_some_iff.mp named)
  rw [ofEnvironment, logFormatOf, held]
  simp only [read]
  rfl

theorem ofEnvironment_of_zero {env : Environment} {format : LogFormat}
    (given : GivesFormat env format) (zero : GivesMailbox env 0) :
    ofEnvironment env = .error .zeroMailboxSize := by
  rw [ofEnvironment, logFormatOf_eq_ok_iff.mpr given, mailboxSizeOf_eq_ok_iff.mpr zero]
  rfl

theorem ofEnvironment_of_unread {env : Environment} {format : LogFormat} {text : String}
    (given : GivesFormat env format) (held : env "ROOTSTOCK_MAILBOX_SIZE" = some text)
    (unread : ∀ n < 2 ^ 64, ¬ Text.Unsigned text.toList n) :
    ∃ e, ofEnvironment env = .error (.invalidMailboxSize text e) := by
  cases read : Text.unsigned 18446744073709551616 text.toList with
  | ok n =>
      obtain ⟨written, small⟩ := (Text.unsigned_eq_ok_iff (by decide)).mp read
      exact absurd written (unread n small)
  | error e =>
      refine ⟨e, ?_⟩
      rw [ofEnvironment, logFormatOf_eq_ok_iff.mpr given, mailboxSizeOf, held]
      simp only [read]
      rfl

/-- Settings are made if the log format and the mailbox size are given or missing, and then they
are the ones given. An unknown log format is named whatever else is wrong, and of the mailbox sizes
zero is told apart from those that are no number below 2^64. The variables of the database make no
fault and reach nothing but the database, and a number of connections that cannot be read counts
as missing. -/
theorem ofEnvironment_precedence (env : Environment) :
    ((∃ config, ofEnvironment env = .ok config) ↔
      (∃ format, GivesFormat env format) ∧ ∃ size, 1 ≤ size ∧ GivesMailbox env size) ∧
    (∀ config, ofEnvironment env = .ok config →
      GivesFormat env config.logFormat ∧ GivesMailbox env config.mailboxSize ∧
      1 ≤ config.mailboxSize ∧ GivesDatabase env config.database) ∧
    (∀ text, env "ROOTSTOCK_LOG_FORMAT" = some text →
      (∀ format : LogFormat, ¬ format.SpelledBy text) →
      ofEnvironment env = .error (.unknownLogFormat text)) ∧
    (∀ text, env "ROOTSTOCK_MAILBOX_SIZE" = some text → (∃ format, GivesFormat env format) →
      (Text.Unsigned text.toList 0 → ofEnvironment env = .error .zeroMailboxSize) ∧
      ((∀ n < 2 ^ 64, ¬ Text.Unsigned text.toList n) →
        ∃ e, ofEnvironment env = .error (.invalidMailboxSize text e))) ∧
    (∀ other : Environment, (∀ name ∉ databaseVariables, other name = env name) →
      (ofEnvironment other).map withoutDatabase = (ofEnvironment env).map withoutDatabase) ∧
    ∀ name, name = "DB_MAX_CONNECTIONS" ∨ name = "DB_MIN_CONNECTIONS" →
      (∀ text ∈ env name, ∀ n < 2 ^ 32, ¬ Text.Unsigned text.toList n) →
      ofEnvironment (Function.update env name none) = ofEnvironment env := by
  refine ⟨⟨?_, ?_⟩, fun config made => ?_, fun text held unknown => ?_,
    fun text held ⟨format, given⟩ => ⟨fun zero => ?_, fun unread => ?_⟩,
    fun other alike => ofEnvironment_congr alike, fun name count unread => ?_⟩
  · rintro ⟨config, made⟩
    obtain ⟨format, mailbox, -⟩ := ofEnvironment_eq_ok_iff.mp made
    exact ⟨⟨_, format⟩, _, config.mailboxSize_pos, mailbox⟩
  · rintro ⟨⟨format, given⟩, size, positive, mailbox⟩
    exact ⟨⟨_, format, size, _, positive⟩, ofEnvironment_eq_ok_iff.mpr ⟨given, mailbox, rfl, rfl⟩⟩
  · obtain ⟨format, mailbox, -, database⟩ := ofEnvironment_eq_ok_iff.mp made
    exact ⟨format, mailbox, config.mailboxSize_pos, database ▸ givesDatabase_ofEnvironment? env⟩
  · exact ofEnvironment_of_unknown held unknown
  · refine ofEnvironment_of_zero given ?_
    rw [GivesMailbox, held]
    exact ⟨zero, by decide⟩
  · exact ofEnvironment_of_unread given held unread
  · exact ofEnvironment_update count unread

def holding (held : List (String × String)) : Environment :=
  fun name => held.lookup name

def talkative : Environment :=
  holding [("ROOTSTOCK_LOG_FORMAT", "PreTTy"), ("ROOTSTOCK_MAILBOX_SIZE", "+0064"),
    ("DATABASE_URL", " postgres://db"), ("DB_MAX_CONNECTIONS", "4"), ("DB_MIN_CONNECTIONS", "-1")]

theorem ofEnvironment_precedence_talkative :
    (∃ config, ofEnvironment talkative = .ok config ∧ 1 ≤ config.mailboxSize ∧
      GivesDatabase talkative config.database) ∧
    ofEnvironment (Function.update talkative "DB_MIN_CONNECTIONS" none) = ofEnvironment talkative ∧
    ofEnvironment (holding [("ROOTSTOCK_MAILBOX_SIZE", "+00")]) = .error .zeroMailboxSize ∧
    ofEnvironment (holding [("ROOTSTOCK_LOG_FORMAT", "xml"), ("ROOTSTOCK_MAILBOX_SIZE", "0")]) =
      .error (.unknownLogFormat "xml") := by
  obtain ⟨made, given, -, -, -, uncounted⟩ := ofEnvironment_precedence talkative
  have format : GivesFormat talkative .pretty := by
    show LogFormat.SpelledBy .pretty "PreTTy"
    simp [LogFormat.SpelledBy, LogFormat.name]
  have mailbox : GivesMailbox talkative 64 := by
    have digits : Text.AllDigits ['0', '0', '6', '4'] := by simp [Text.AllDigits]
    show Text.Unsigned _ _ ∧ _
    exact ⟨.plus digits (by decide), by decide⟩
  have unread : ∀ text ∈ talkative "DB_MIN_CONNECTIONS", ∀ n < 2 ^ 32,
      ¬ Text.Unsigned text.toList n := by
    rintro text held
    obtain rfl : "-1" = text := Option.some.inj held
    exact Text.not_unsigned_of_error (e := .invalidDigit) (by decide)
  obtain ⟨config, settled⟩ := made.mpr ⟨⟨_, format⟩, 64, by decide, mailbox⟩
  obtain ⟨-, -, positive, database⟩ := given config settled
  refine ⟨⟨config, settled, positive, database⟩, uncounted _ (.inr rfl) unread, ?_, ?_⟩
  · obtain ⟨-, -, -, mailbox, -⟩ :=
      ofEnvironment_precedence (holding [("ROOTSTOCK_MAILBOX_SIZE", "+00")])
    have digits : Text.AllDigits ['0', '0'] := by simp [Text.AllDigits]
    exact (mailbox "+00" rfl ⟨.json, rfl⟩).1 (.plus digits (by decide))
  · refine (ofEnvironment_precedence _).2.2.1 "xml" rfl fun format spelled => ?_
    cases format <;> simp [LogFormat.SpelledBy, LogFormat.name] at spelled

end Config

end FleetResponse
