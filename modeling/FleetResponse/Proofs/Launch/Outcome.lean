import FleetResponse.Launch
import FleetResponse.Proofs.Fleet.Alone
import FleetResponse.Proofs.Fleet.Effect
import FleetResponse.Proofs.Json.Records
import FleetResponse.Proofs.Launch.Loading

namespace FleetResponse

namespace Incident

variable {incident : Incident}

theorem isOk_filter_iff : incident.filter.isOk = true ↔
    Text.allBlank incident.className.toList = false ∧
      (Firmware.Range.between incident.firmwareMin incident.firmwareMax).isOk = true := by
  unfold filter DeviceFilter.between
  split
  · rename_i blank
    exact iff_of_false Bool.false_ne_true fun given => by rw [blank] at given; cases given.1
  · rename_i named
    rw [Bool.not_eq_true] at named
    cases between : Firmware.Range.between incident.firmwareMin incident.firmwareMax with
    | error e => exact iff_of_false Bool.false_ne_true fun given => Bool.false_ne_true given.2
    | ok range => exact iff_of_true rfl ⟨named, rfl⟩

theorem isOk_window_iff : incident.window.isOk = true ↔
    incident.windowStart.storagePrecision.le incident.windowEnd.storagePrecision = true :=
  Window.isOk_between_iff

theorem valid_iff : incident.Valid ↔ Text.allBlank incident.className.toList = false ∧
    (Text.allBlank incident.firmwareMin.toList = true ∨
      Text.allBlank incident.firmwareMax.toList = true ∨
      Firmware.Version.le ⟨incident.firmwareMin⟩ ⟨incident.firmwareMax⟩ = true) ∧
    incident.windowStart.storagePrecision.le incident.windowEnd.storagePrecision = true := by
  rw [← Firmware.Range.isOk_between_iff, ← isOk_window_iff, ← and_assoc, ← isOk_filter_iff]
  exact ⟨fun valid => ⟨valid.filter, valid.window⟩, fun both => ⟨both.1, both.2⟩⟩

theorem respond_refused {σ : Type} (invalid : ¬ incident.Valid) (caps : Capabilities σ) (s : σ) :
    ∃ e, (incident.respond.run caps s).1 = .error e := by
  rw [respond, Program.run_note, Program.run_bind, steps]
  cases filtered : incident.filter with
  | error fault => exact ⟨_, rfl⟩
  | ok filter =>
      cases timed : incident.window with
      | error e => exact ⟨_, rfl⟩
      | ok window => exact absurd ⟨by rw [filtered]; rfl, by rw [timed]; rfl⟩ invalid

end Incident

namespace Fixtures

def concerned (fixtures : Fixtures) (incident : Incident) : List Device :=
  fixtures.devices.filter incident.concerns

def reached (fixtures : Fixtures) (incident : Incident) : List ReadingId :=
  (fixtures.readings.map (·.id)).eraseDups.filter fun id =>
    (ReadingStore.lastOf? fixtures.readings id).any fun r =>
      incident.reaches ((fixtures.concerned incident).map (·.id)) r.stored

def summary (fixtures : Fixtures) (incident : Incident) : Summary where
  suspended := (fixtures.concerned incident).length
  quarantined := (fixtures.reached incident).length
  notified := ((fixtures.concerned incident).map (·.owner)).eraseDups.length

/-- Of two fixtures, the order of the devices may differ, and that of readings with identifiers of
their own. -/
structure Rearranged (fixtures others : Fixtures) : Prop where
  devices : fixtures.devices.Perm others.devices
  readings : fixtures.readings = others.readings ∨
    (fixtures.readings.map (·.id)).Nodup ∧ fixtures.readings.Perm others.readings

theorem reaches_perm {devices others : List Device} (order : devices.Perm others)
    (incident : Incident) :
    incident.reaches (devices.map (·.id)) = incident.reaches (others.map (·.id)) := by
  funext r
  have contains : (devices.map (·.id)).contains r.device =
      (others.map (·.id)).contains r.device := by
    rw [Bool.eq_iff_iff, List.contains_iff_mem, List.contains_iff_mem, (order.map (·.id)).mem_iff]
  rw [Incident.reaches, Incident.reaches, contains]

theorem length_reached (fixtures : Fixtures) (incident : Incident) :
    (fixtures.reached incident).length = (fixtures.readings.map (·.id)).eraseDups.countP fun id =>
      (ReadingStore.lastOf? fixtures.readings id).any fun r =>
        incident.reaches ((fixtures.concerned incident).map (·.id)) r.stored :=
  List.countP_eq_length_filter.symm

theorem reached_perm {fixtures others : Fixtures} (rearranged : fixtures.Rearranged others)
    (incident : Incident) :
    (fixtures.reached incident).length = (others.reached incident).length := by
  have alike := reaches_perm (rearranged.devices.filter incident.concerns) incident
  rw [length_reached, length_reached, concerned, concerned, alike]
  rcases rearranged.readings with same | ⟨distinct, order⟩
  · rw [same]
  · have apart := (order.map (·.id)).nodup_iff.mp distinct
    rw [ReadingStore.countP_last_of_nodup distinct, ReadingStore.countP_last_of_nodup apart,
      order.countP_eq]

theorem summary_perm {fixtures others : Fixtures} (rearranged : fixtures.Rearranged others)
    (incident : Incident) : fixtures.summary incident = others.summary incident := by
  have concerned : (fixtures.concerned incident).Perm (others.concerned incident) :=
    rearranged.devices.filter incident.concerns
  have owners := (Distinct.eraseDups_perm (concerned.map Device.owner)).length_eq
  rw [summary, summary, concerned.length_eq, reached_perm rearranged, owners]

end Fixtures

namespace Launch

variable {σ τ α β : Type}

/-! ## Stores in memory -/

theorem respond_repeated {fixtures : Fixtures} {before after : List Device} {device : Device}
    (first : Fleet.FirstRepeated fixtures.devices before after device) (incident : Incident) :
    (respond Fleet.stores fixtures incident .empty).1 =
      .error (.directory (.duplicate device.id)) := by
  obtain ⟨fleet, same⟩ := exists_pair (Fleet.load_repeated first)
  rw [respond, same]

theorem respond_loaded {fixtures : Fixtures} (distinct : (fixtures.devices.map (·.id)).Nodup)
    (incident : Incident) : (respond Fleet.stores fixtures incident .empty).1 =
      .ok (incident.respond.run Fleet.capabilities (Fleet.stores.load fixtures .empty).2).1 := by
  obtain ⟨fleet, same⟩ := exists_pair (Fleet.load_run distinct).1
  rw [respond, same]
  rfl

theorem respond_valid {fixtures : Fixtures} (distinct : (fixtures.devices.map (·.id)).Nodup)
    {incident : Incident} (valid : incident.Valid) :
    (respond Fleet.stores fixtures incident .empty).1 = .ok (.ok (fixtures.summary incident)) := by
  obtain ⟨filter, filtered⟩ := exists_of_isOk valid.filter
  obtain ⟨window, timed⟩ := exists_of_isOk valid.window
  obtain ⟨-, dir, indexed, devices, holds⟩ := Fleet.load_run distinct
  obtain ⟨result, -⟩ := Fleet.respond_run holds indexed filtered timed
  have counted : ((ReadingStore.recordAll fixtures.readings).quarantineWindow
      ((fixtures.concerned incident).map (·.id)) window incident.reason).1 =
        (fixtures.reached incident).length := by
    rw [Fixtures.length_reached, ← ReadingStore.countP_recordAll,
      ← Incident.affects_of_window timed]
    rfl
  rw [respond_loaded distinct, result, devices]
  exact congrArg (fun n => Except.ok (Except.ok (Summary.mk _ n _))) counted

/-! ## Parts of a launch -/

def Ends (part : Launch σ α) (result : Except LaunchError α) : Prop :=
  ∀ journal, (part.run.run journal).1 = result

theorem Ends.bind {part : Launch σ α} {a : α} (first : Ends part (.ok a)) {next : α → Launch σ β}
    {result : Except LaunchError β} (second : Ends (next a) result) :
    Ends (part >>= next) result := by
  intro journal
  obtain ⟨after, same⟩ := exists_pair (first journal)
  rw [ExceptT.run_bind, StateT.run_bind, same]
  exact second after

theorem Ends.failed {part : Launch σ α} {e : LaunchError} (first : Ends part (.error e))
    (next : α → Launch σ β) : Ends (part >>= next) (.error e) := by
  intro journal
  obtain ⟨after, same⟩ := exists_pair (first journal)
  rw [ExceptT.run_bind, StateT.run_bind, same]
  rfl

theorem ends_pure (a : α) : Ends (pure a : Launch σ α) (.ok a) :=
  fun _ => rfl

theorem ends_throw (e : LaunchError) : Ends (throw e : Launch σ α) (.error e) :=
  fun _ => rfl

theorem ends_noteAll (events : List LogEvent) : Ends (noteAll events : Launch σ Unit) (.ok ()) :=
  fun _ => rfl

theorem ends_note (event : LogEvent) : Ends (note event : Launch σ Unit) (.ok ()) :=
  ends_noteAll [event]

theorem ends_spawn (identity : String) {mailboxSize : Nat} (fits : mailboxSize ≤ mailboxLimit) :
    Ends (spawn identity mailboxSize : Launch σ Unit) (.ok ()) := by
  unfold spawn
  rw [if_neg (Nat.not_lt.mpr fits)]
  exact ends_note _

theorem ends_spawn_oversized (identity : String) {mailboxSize : Nat}
    (oversized : mailboxLimit < mailboxSize) :
    Ends (spawn identity mailboxSize : Launch σ Unit) (.error .oversizedMailbox) := by
  unfold spawn
  rw [if_pos oversized]
  exact (ends_throw _).failed _

theorem ends_conclude (outcome : Except ResponseError Summary) :
    Ends (conclude outcome : Launch σ Summary) (outcome.mapError .response) := by
  cases outcome with
  | ok summary => exact ends_pure summary
  | error e => exact (ends_note _).bind (ends_throw _)

theorem ends_inMemory {mailboxSize : Nat} (fits : mailboxSize ≤ mailboxLimit)
    (fixtures : Fixtures) (incident : Incident) :
    Ends (inMemory mailboxSize fixtures incident : Launch σ _)
      (respond Fleet.stores fixtures incident .empty).1 := by
  unfold inMemory
  refine (ends_spawn _ fits).bind ((ends_spawn _ fits).bind ?_)
  cases respond Fleet.stores fixtures incident .empty with
  | mk result fleet =>
      refine (ends_noteAll _).bind ?_
      cases result with
      | error e => exact (ends_throw e).failed _
      | ok outcome =>
          refine (ends_pure outcome).bind ?_
          exact (ends_noteAll _).bind ((ends_noteAll _).bind ((ends_noteAll _).bind (ends_pure _)))

/-! ## Whole launches -/

def fixtures? (surroundings : Surroundings σ) : Option String → Option Fixtures
  | none => some .empty
  | some path => (surroundings.file path).bind Fixtures.parse?

theorem ends_readFixtures {surroundings : Surroundings σ} {path : Option String}
    {fixtures : Fixtures} (found : fixtures? surroundings path = some fixtures) :
    Ends (readFixtures surroundings path) (.ok fixtures) := by
  cases path with
  | none =>
      obtain rfl := Option.some.inj found
      exact ends_pure _
  | some path =>
      obtain ⟨document, read, parsed⟩ := Option.bind_eq_some_iff.mp found
      rw [readFixtures, read]
      simp only
      rw [parsed]
      exact ends_pure fixtures

structure InMemory (surroundings : Surroundings σ) (arguments : CommandLine.Arguments)
    (fixtures : Fixtures) (mailboxSize : Nat) : Prop where
  settings : ∃ config, Config.ofEnvironment surroundings.env = .ok config ∧
    config.database = none ∧ config.mailboxSize = mailboxSize
  found : fixtures? surroundings arguments.fixtures = some fixtures

variable {surroundings : Surroundings σ} {arguments : CommandLine.Arguments} {fixtures : Fixtures}
  {mailboxSize : Nat}

theorem execute_fits (launch : InMemory surroundings arguments fixtures mailboxSize)
    (fits : mailboxSize ≤ mailboxLimit) (server : σ) :
    (execute surroundings arguments server).outcome =
      (respond Fleet.stores fixtures arguments.incident .empty).1.bind
        fun outcome => outcome.mapError .response := by
  obtain ⟨⟨config, configured, noDatabase, rfl⟩, found⟩ := launch
  have ends : Ends (steps surroundings config arguments)
      ((respond Fleet.stores fixtures arguments.incident .empty).1.bind
        fun outcome => outcome.mapError .response) := by
    unfold steps
    refine (ends_note _).bind ((ends_readFixtures found).bind ((ends_spawn _ fits).bind ?_))
    rw [noDatabase]
    have ran := ends_inMemory (σ := σ) fits fixtures arguments.incident
    cases result : (respond Fleet.stores fixtures arguments.incident .empty).1 with
    | error e => exact (result ▸ ran).failed _
    | ok outcome => exact (result ▸ ran).bind (ends_conclude outcome)
  rw [execute, configured]
  exact ends _

theorem execute_oversized (launch : InMemory surroundings arguments fixtures mailboxSize)
    (oversized : mailboxLimit < mailboxSize) (server : σ) :
    (execute surroundings arguments server).outcome = .error .oversizedMailbox := by
  obtain ⟨⟨config, configured, -, rfl⟩, found⟩ := launch
  have ends : Ends (steps surroundings config arguments) (.error .oversizedMailbox) := by
    unfold steps
    refine (ends_note _).bind ((ends_readFixtures found).bind ?_)
    exact (ends_spawn_oversized _ oversized).failed _
  rw [execute, configured]
  exact ends _

theorem execute_valid (launch : InMemory surroundings arguments fixtures mailboxSize)
    (fits : mailboxSize ≤ mailboxLimit) (distinct : (fixtures.devices.map (·.id)).Nodup)
    (valid : arguments.incident.Valid) (server : σ) :
    (execute surroundings arguments server).outcome =
      .ok (fixtures.summary arguments.incident) := by
  rw [execute_fits launch fits, respond_valid distinct valid]
  rfl

theorem execute_invalid (launch : InMemory surroundings arguments fixtures mailboxSize)
    (fits : mailboxSize ≤ mailboxLimit) (distinct : (fixtures.devices.map (·.id)).Nodup)
    (invalid : ¬ arguments.incident.Valid) (server : σ) :
    ∃ e, (execute surroundings arguments server).outcome = .error (.response e) := by
  obtain ⟨e, refused⟩ := Incident.respond_refused invalid Fleet.capabilities
    (Fleet.stores.load fixtures .empty).2
  rw [execute_fits launch fits, respond_loaded distinct, refused]
  exact ⟨e, rfl⟩

theorem execute_repeated (launch : InMemory surroundings arguments fixtures mailboxSize)
    (fits : mailboxSize ≤ mailboxLimit) {before after : List Device} {device : Device}
    (first : Fleet.FirstRepeated fixtures.devices before after device) (server : σ) :
    (execute surroundings arguments server).outcome =
      .error (.directory (.duplicate device.id)) := by
  rw [execute_fits launch fits, respond_repeated first]
  rfl

structure Shows (report : Report σ) (fixtures : Fixtures) (incident : Incident) : Prop where
  done : (fixtures.devices.map (·.id)).Nodup → incident.Valid → report.exitCode = 0 ∧
    report.output = (fixtures.summary incident).json.renderIndented ++ "\n"
  failed : ¬ ((fixtures.devices.map (·.id)).Nodup ∧ incident.Valid) →
    report.exitCode = 1 ∧ report.output = ""

theorem execute_shows (launch : InMemory surroundings arguments fixtures mailboxSize)
    (fits : mailboxSize ≤ mailboxLimit) (server : σ) :
    Shows (execute surroundings arguments server) fixtures arguments.incident where
  done distinct valid := by
    rw [Report.exitCode, Report.output, execute_valid launch fits distinct valid]
    exact ⟨rfl, rfl⟩
  failed either := by
    by_cases distinct : (fixtures.devices.map (·.id)).Nodup
    · obtain ⟨e, refused⟩ := execute_invalid launch fits distinct
        (fun valid => either ⟨distinct, valid⟩) server
      rw [Report.exitCode, Report.output, refused]
      exact ⟨rfl, rfl⟩
    · obtain ⟨before, after, device, first⟩ := Fleet.exists_firstRepeated distinct
      rw [Report.exitCode, Report.output, execute_repeated launch fits first]
      exact ⟨rfl, rfl⟩

theorem Shows.exitCode_iff {report : Report σ} {incident : Incident}
    (shown : Shows report fixtures incident) :
    report.exitCode = 0 ↔ (fixtures.devices.map (·.id)).Nodup ∧ incident.Valid := by
  by_cases both : (fixtures.devices.map (·.id)).Nodup ∧ incident.Valid
  · exact iff_of_true (shown.done both.1 both.2).1 both
  · exact iff_of_false (by rw [(shown.failed both).1]; decide) both

theorem Shows.rearranged {report : Report σ} {other : Report τ} {others : Fixtures}
    {incident : Incident} (shown : Shows report fixtures incident)
    (otherShows : Shows other others incident) (rearranged : fixtures.Rearranged others) :
    other.exitCode = report.exitCode ∧ other.output = report.output := by
  have ids := (rearranged.devices.map Device.id).nodup_iff
  by_cases both : (fixtures.devices.map (·.id)).Nodup ∧ incident.Valid
  · obtain ⟨code, output⟩ := shown.done both.1 both.2
    obtain ⟨otherCode, otherOutput⟩ := otherShows.done (ids.mp both.1) both.2
    rw [code, output, otherCode, otherOutput, Fixtures.summary_perm rearranged]
    exact ⟨rfl, rfl⟩
  · obtain ⟨code, output⟩ := shown.failed both
    obtain ⟨otherCode, otherOutput⟩ := otherShows.failed (mt (And.imp_left ids.mpr) both)
    rw [code, output, otherCode, otherOutput]
    exact ⟨rfl, rfl⟩

/-- A launch without a database. As long as its workers can be started with their mailboxes, it
ends well exactly if the devices of the fixtures have identifiers of their own and the incident can
be responded to. Then it prints what is counted from the fixtures, whatever their order, its
settings and its mailboxes are; a second device with an identifier ends it before anything else is
looked at. Its stores are asked as services, which is how workers with mailboxes of any size answer
a client that is alone. -/
theorem execute_inMemory (launch : InMemory surroundings arguments fixtures mailboxSize)
    (server : σ) :
    let report := execute surroundings arguments server
    let incident := arguments.incident
    (mailboxSize ≤ mailboxLimit →
      (report.exitCode = 0 ↔ (fixtures.devices.map (·.id)).Nodup ∧
        Text.allBlank incident.className.toList = false ∧
        (Text.allBlank incident.firmwareMin.toList = true ∨
          Text.allBlank incident.firmwareMax.toList = true ∨
          Firmware.Version.le ⟨incident.firmwareMin⟩ ⟨incident.firmwareMax⟩ = true) ∧
        incident.windowStart.storagePrecision.le incident.windowEnd.storagePrecision = true) ∧
      (report.exitCode = 0 → report.outcome = .ok (fixtures.summary incident) ∧
        report.output = (fixtures.summary incident).json.renderIndented ++ "\n") ∧
      (¬ (fixtures.devices.map (·.id)).Nodup → ∃ before after device,
        Fleet.FirstRepeated fixtures.devices before after device ∧
        report.outcome = .error (.directory (.duplicate device.id)) ∧ report.output = "") ∧
      (∀ (τ : Type) (elsewhere : Surroundings τ) (others : CommandLine.Arguments)
        (rearranged : Fixtures) (otherSize : Nat) (otherServer : τ),
        InMemory elsewhere others rearranged otherSize → otherSize ≤ mailboxLimit →
        others.incident = incident → fixtures.Rearranged rearranged →
        (execute elsewhere others otherServer).exitCode = report.exitCode ∧
          (execute elsewhere others otherServer).output = report.output) ∧
      Directory.store.ServesAlone deviceDirectory mailboxSize ∧
      ReadingStore.store.ServesAlone readingStore mailboxSize ∧
      Outbox.store.ServesAlone notifier mailboxSize) ∧
    (mailboxLimit < mailboxSize → report.exitCode = 101 ∧ report.output = "") := by
  intro report incident
  refine ⟨fun fits => ?_, fun oversized => ?_⟩
  · have shown := execute_shows launch fits server
    refine ⟨?_, fun ended => ?_, fun repeats => ?_, ?_, Store.servesAlone _ _ _,
      Store.servesAlone _ _ _, Store.servesAlone _ _ _⟩
    · rw [← Incident.valid_iff]
      exact shown.exitCode_iff
    · obtain ⟨distinct, valid⟩ := shown.exitCode_iff.mp ended
      exact ⟨execute_valid launch fits distinct valid server, (shown.done distinct valid).2⟩
    · obtain ⟨before, after, device, first⟩ := Fleet.exists_firstRepeated repeats
      exact ⟨before, after, device, first, execute_repeated launch fits first server,
        (shown.failed fun both => repeats both.1).2⟩
    · -- Each launch shows what its own fixtures say, and both fixtures say the same.
      intro τ elsewhere others rearranged otherSize otherServer otherLaunch otherFits same order
      have otherShown := execute_shows otherLaunch otherFits otherServer
      rw [same] at otherShown
      exact shown.rearranged otherShown order
  · have crashed := execute_oversized launch oversized server
    refine ⟨?_, ?_⟩
    · rw [Report.exitCode, crashed]
      rfl
    · rw [Report.output, crashed]

def depot : Fixtures :=
  let time : Timestamp := Fleet.flaw.windowStart
  let device (n owner : Nat) (firmware : String) : Device :=
    ⟨.ofNat _ n, .ofNat _ owner, "probe", ⟨firmware⟩, .pending, 1, time⟩
  let reading (n device : Nat) (status : ReadingStatus) : Reading :=
    ⟨.ofNat _ n, .ofNat _ device, 0x3FF8000000000000, time, status, none⟩
  { devices := [device 1 8 "v1.0", device 2 9 "1.3", device 3 8 "1.2.0-rc.1"]
    readings := [reading 4 2 .accepted, reading 5 1 .accepted, reading 6 3 .accepted,
      reading 4 1 .accepted, reading 5 1 .rejected] }

def atDepot (mailboxSize : String) : Surroundings Unit where
  env name := if name = "ROOTSTOCK_MAILBOX_SIZE" then some mailboxSize else none
  file _ := some (depot.json fun _ => Json.oneAndAHalf).render
  server := .error "no client"

def depotArguments : CommandLine.Arguments :=
  ⟨Fleet.flaw, some "depot.json", false⟩

theorem found_depot (mailboxSize : String) :
    fixtures? (atDepot mailboxSize) depotArguments.fixtures = some depot := by
  have same : ∀ r ∈ depot.readings, r.value = 0x3FF8000000000000 := by decide
  have value : Json.oneAndAHalf.asDouble? = some 0x3FF8000000000000 := by decide +kernel
  have parsed : Fixtures.parse? (depot.json fun _ => Json.oneAndAHalf).render = some depot :=
    Fixtures.parse?_json (by decide) (fun _ _ => Json.proper_oneAndAHalf)
      fun r listed => value.trans (congrArg some (same r listed).symm)
  rw [depotArguments, atDepot, fixtures?, Option.bind_some, parsed]

theorem execute_inMemory_depot :
    let small := execute (atDepot "1") depotArguments ()
    let large := execute (atDepot "2305843009213693952") depotArguments ()
    InMemory (atDepot "1") depotArguments depot 1 ∧
      InMemory (atDepot "2305843009213693952") depotArguments depot 2305843009213693952 ∧
      small.exitCode = 0 ∧ small.outcome = .ok ⟨2, 2, 1⟩ ∧ large.exitCode = 101 := by
  intro small large
  have one : InMemory (atDepot "1") depotArguments depot 1 :=
    ⟨⟨_, rfl, rfl, rfl⟩, found_depot "1"⟩
  have many : InMemory (atDepot "2305843009213693952") depotArguments depot 2305843009213693952 :=
    ⟨⟨_, rfl, rfl, rfl⟩, found_depot "2305843009213693952"⟩
  obtain ⟨ends, counts, -, -⟩ := (execute_inMemory one ()).1 (by decide)
  have ended : small.exitCode = 0 := ends.mpr ⟨by decide, rfl, .inr (.inr rfl), rfl⟩
  obtain ⟨counted, -⟩ := counts ended
  have crashed := ((execute_inMemory many ()).2 (by decide)).1
  refine ⟨one, many, ended, counted.trans ?_, crashed⟩
  rfl

end Launch

end FleetResponse
