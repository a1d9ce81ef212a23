import SchemaKeeper.MariaDb.Actions
import SchemaKeeper.Proofs.Outcomes

/-!
Contract: the life of a session over whole runs.

A session is open from a connect that opened it to the next disconnect, and it is ruled by
the version that this connect read. A closed session refuses without a word to the server,
and connecting an open one changes nothing.

Owns: the events that open and close, the invariant that ties them to the session, and
transparency of monitoring.

Does not own: what single calls ask and are answered (`Outcomes`).
-/

namespace SchemaKeeper.MariaDb.Session

variable {σ α β : Type}

/-! ## Events -/

/-- The event opened the session: it connected and read this version from the server. -/
def Event.Opens (event : Event) (version : Version) : Prop :=
  event.action = .connect ∧ event.result = .ok .done ∧
    ∃ report, .version (some report) ∈ event.exchanges ∧ Version.ofReport? report = some version

/-- A connect that read this version has opened the session since the start and the last
disconnect. -/
def OpenedWith (events : List Event) (version : Version) : Prop :=
  ∃ before opening after, events = before ++ opening :: after ∧ opening.Opens version ∧
    ∀ event ∈ after, event.action ≠ .disconnect

/-- A connect has opened the session since the start and the last disconnect. -/
def Opened (events : List Event) : Prop :=
  ∃ version, OpenedWith events version

section Events

variable {events : List Event} {event : Event} {version : Version}

theorem not_openedWith_nil : ¬ OpenedWith [] version := by
  rintro ⟨before, opening, after, split, _⟩
  simp at split

/-- The last event opened the session, or left it open. -/
theorem openedWith_append_iff :
    OpenedWith (events ++ [event]) version ↔
      event.Opens version ∨ OpenedWith events version ∧ event.action ≠ .disconnect := by
  constructor
  · rintro ⟨before, opening, after, split, opens, kept⟩
    rcases List.eq_nil_or_concat after with rfl | ⟨earlier, last, rfl⟩
    · obtain ⟨-, same⟩ := List.append_inj' split rfl
      cases same
      exact .inl opens
    · rw [List.concat_eq_append, ← List.cons_append, ← List.append_assoc] at split
      obtain ⟨same, lastSame⟩ := List.append_inj' split rfl
      cases lastSame
      refine .inr ⟨⟨before, opening, earlier, same, opens, fun other member => ?_⟩, ?_⟩
      · exact kept other (by simp [member])
      · exact kept event (by simp)
  · rintro (opens | ⟨⟨before, opening, after, rfl, opens, kept⟩, keeps⟩)
    · exact ⟨events, event, [], rfl, opens, by simp⟩
    · refine ⟨before, opening, after ++ [event], by simp, opens, fun other member => ?_⟩
      rcases List.mem_append.1 member with member | member
      · exact kept other member
      · obtain rfl : other = event := by simpa using member
        exact keeps

end Events

/-! ## Monitoring -/

/-- A question that is passed on is written down with its answer. -/
theorem exchanges_of_pass {exchange : Option α → Exchange} {question : Question σ α}
    {monitored later : Monitored σ} {answer : Option α}
    (passed : Monitored.pass exchange question monitored = (answer, later)) :
    later.exchanges = monitored.exchanges ++ [exchange answer] := by
  cases passed
  rfl

def unmonitored (session : Session (Monitored σ)) : Session σ :=
  ⟨session.server.server, session.version⟩

/-- A call on a monitored session does what the other one does without the monitor. -/
def Mirrors (call : Access (Session (Monitored σ)) α) (plain : Access (Session σ) α) : Prop :=
  ∀ session, plain (unmonitored session) = ((call session).1, unmonitored (call session).2)

namespace Mirrors

theorem pure (value : α) :
    Mirrors (pure value : Access (Session (Monitored σ)) α) (pure value) :=
  fun _ => rfl

theorem throw (cause : ConnectionError) :
    Mirrors (throw cause : Access (Session (Monitored σ)) α) (throw cause) :=
  fun _ => rfl

theorem bind {call : Access (Session (Monitored σ)) α} {plain : Access (Session σ) α}
    {next : α → Access (Session (Monitored σ)) β} {plainNext : α → Access (Session σ) β}
    (mirrors : Mirrors call plain) (rest : ∀ value, Mirrors (next value) (plainNext value)) :
    Mirrors (call >>= next) (plain >>= plainNext) := by
  intro session
  have first := mirrors session
  rcases run : call session with ⟨cause | value, later⟩
  · rw [run] at first
    rw [run_bind_error run, run_bind_error first]
  · rw [run] at first
    rw [run_bind_ok run, run_bind_ok first]
    exact rest value later

theorem ask (exchange : Option α → Exchange) (question : Question σ α) :
    Mirrors (ask (Monitored.pass exchange question)) (ask question) := by
  intro session
  unfold Session.ask Monitored.pass
  rcases run : question session.server.server with ⟨_ | value, server⟩ <;>
    simp only [unmonitored, run]

theorem requireOpen : Mirrors (requireOpen (σ := Monitored σ)) requireOpen := by
  rintro ⟨server, _ | version⟩ <;> rfl

variable [Server σ]

theorem openClosed : Mirrors (openClosed (σ := Monitored σ)) openClosed := by
  refine (ask _ Server.login).bind fun _ => (ask .version Server.version).bind fun report => ?_
  cases Version.ofReport? report with
  | none => exact throw _
  | some version => exact fun _ => rfl

/-- Monitoring changes nothing. -/
theorem perform (action : Action) : Mirrors (perform (σ := Monitored σ) action) (perform action) := by
  cases action with
  | connect =>
      refine bind ?_ fun _ => pure _
      rintro ⟨server, _ | version⟩
      · exact openClosed ⟨server, none⟩
      · rfl
  | disconnect =>
      refine bind ?_ fun _ => pure _
      rintro ⟨server, _ | version⟩ <;> rfl
  | serverVersion => exact fun _ => rfl
  | describe table =>
      refine bind ?_ fun _ => pure _
      exact requireOpen.bind fun _ => (ask _ (Server.columns table)).bind fun _ =>
        (ask _ (Server.foreignKeys table)).bind fun _ => pure _
  | execute statement =>
      refine bind ?_ fun _ => pure _
      exact requireOpen.bind fun _ => ask _ (Server.execute statement)
  | query statement =>
      refine bind ?_ fun _ => pure _
      exact requireOpen.bind fun _ => (ask _ (Server.fetch statement)).bind fun _ _ => rfl
  | supportsReturning =>
      refine bind ?_ fun _ => pure _
      exact requireOpen.bind fun _ => pure _

end Mirrors

theorem supportsReturning_iff (version : Version) :
    version.supportsReturning = true ↔
      10 < version.major ∨ version.major = 10 ∧ 5 ≤ version.minor := by
  unfold Version.supportsReturning Version.atLeast Version.returningSince
  rw [Bool.or_eq_true, Bool.and_eq_true, decide_eq_true_eq, decide_eq_true_eq, beq_iff_eq,
    eq_comm (a := 10)]

/-! ## Calls on open sessions -/

/-- On an open session the call finds it open and leaves it open with the same version. -/
def StaysOpen (call : Access (Session σ) α) : Prop :=
  ∀ server version, (call ⟨server, some version⟩).1 ≠ .error .notConnected ∧
    (call ⟨server, some version⟩).2.version = some version

namespace StaysOpen

theorem pure (value : α) : StaysOpen (pure value : Access (Session σ) α) :=
  fun _ _ => ⟨nofun, rfl⟩

theorem bind {call : Access (Session σ) α} {next : α → Access (Session σ) β}
    (first : StaysOpen call) (rest : ∀ value, StaysOpen (next value)) :
    StaysOpen (call >>= next) := by
  intro server version
  obtain ⟨found, kept⟩ := first server version
  rcases run : call ⟨server, some version⟩ with ⟨cause | value, later⟩
  · rw [run] at found kept
    rw [run_bind_error run]
    refine ⟨fun failed => ?_, kept⟩
    cases failed
    exact found rfl
  · rw [run] at kept
    obtain ⟨after, known⟩ := later
    cases kept
    rw [run_bind_ok run]
    exact rest value after version

theorem ask (question : Question σ α) : StaysOpen (ask question) := by
  intro server version
  unfold Session.ask
  rcases question server with ⟨_ | value, after⟩ <;> exact ⟨nofun, rfl⟩

theorem requireOpen : StaysOpen (requireOpen (σ := σ)) :=
  fun _ _ => ⟨nofun, rfl⟩

end StaysOpen

private theorem textOr_ne_notConnected (read : Option (List Char)) :
    Cell.textOr read ≠ .error .notConnected := by
  cases read <;> rintro ⟨⟩

private theorem decodePresent_ne_notConnected (type : CellType) (cell : Cell) :
    cell.decodePresent type ≠ .error .notConnected := by
  fun_cases Cell.decodePresent type cell with
  | case11 | case12 | case13 => exact textOr_ne_notConnected _
  | _ => rintro ⟨⟩

private theorem decodeCell_ne_notConnected (type : CellType) (cell : Cell) :
    cell.decode type ≠ .error .notConnected := by
  cases cell with
  | null => rintro ⟨⟩
  | _ => exact decodePresent_ne_notConnected type _

private theorem decodeRow_ne_notConnected (columns : List (String × CellType))
    (cells : List Cell) : ResultTable.decodeRow columns cells ≠ .error .notConnected := by
  intro failed
  unfold ResultTable.decodeRow at failed
  rcases bind_eq_error_iff.1 failed with entries | ⟨_, _, ⟨⟩⟩
  obtain ⟨entry, _, failedEntry⟩ := exists_of_mapM_error entries
  rcases bind_eq_error_iff.1 failedEntry with cell | ⟨_, _, ⟨⟩⟩
  exact decodeCell_ne_notConnected _ _ cell

/-- A result that cannot be read is no reason to call the session closed. -/
theorem StaysOpen.decode (result : ResultTable) :
    StaysOpen (interpret result.decode : Access (Session σ) (List Record)) := by
  intro server version
  refine ⟨fun failed => ?_, rfl⟩
  obtain ⟨cells, _, rowFailed⟩ := exists_of_mapM_error failed
  exact decodeRow_ne_notConnected result.columns cells rowFailed

section Calls

variable [Server σ] {action : Action}

/-- An open session stays open under every action that needs it open. -/
theorem staysOpen_perform (needs : action.needsOpen = true) :
    StaysOpen (perform (σ := σ) action) := by
  cases action with
  | connect | disconnect | serverVersion => contradiction
  | describe table =>
      exact (StaysOpen.requireOpen.bind fun _ => (StaysOpen.ask _).bind fun _ =>
        (StaysOpen.ask _).bind fun _ => .pure _).bind fun _ => .pure _
  | execute statement =>
      exact (StaysOpen.requireOpen.bind fun _ => .ask _).bind fun _ => .pure _
  | query statement =>
      exact (StaysOpen.requireOpen.bind fun _ => (StaysOpen.ask _).bind fun result =>
        .decode result).bind fun _ => .pure _
  | supportsReturning =>
      exact (StaysOpen.requireOpen.bind fun _ => .pure _).bind fun _ => .pure _

end Calls

/-! ## Observed calls -/

section Observed

variable [Server σ] {session : Session σ}

/-- What is observed is what the session does. -/
theorem perform_observed (action : Action) (session : Session σ) :
    perform action session = ((observe action session).1.result, (observe action session).2) :=
  Mirrors.perform action ⟨Monitored.start session.server, session.version⟩

/-- A closed session refuses every action that needs it open, and asks the server nothing. -/
theorem observe_closed {action : Action} (needs : action.needsOpen = true) (server : σ) :
    observe action (closed server) = (⟨action, .error .notConnected, []⟩, closed server) := by
  cases action with
  | connect | disconnect | serverVersion => contradiction
  | _ => rfl

/-- An open session does not refuse such an action, and stays open with its version. -/
theorem observe_open {action : Action} (needs : action.needsOpen = true) (server : σ)
    (version : Version) :
    (observe action ⟨server, some version⟩).1.result ≠ .error .notConnected ∧
      (observe action ⟨server, some version⟩).2.version = some version := by
  have performed := staysOpen_perform needs server version
  rw [perform_observed] at performed
  exact performed

/-- Connecting an open session changes nothing, and asks the server nothing. -/
theorem observe_connect_open (server : σ) (version : Version) :
    observe .connect ⟨server, some version⟩ =
      (⟨.connect, .ok .done, []⟩, ⟨server, some version⟩) :=
  rfl

/-- Connecting a closed session fails and leaves it closed, or it asks for the login and
the version and leaves the session open with that version. -/
theorem observe_connect_closed (server : σ) :
    (∃ cause, (observe .connect (closed server)).1.result = .error cause ∧
        (observe .connect (closed server)).2.version = none) ∨
      ∃ report version, Version.ofReport? report = some version ∧
        (observe .connect (closed server)).1 =
          ⟨.connect, .ok .done, [.login true, .version (some report)]⟩ ∧
        (observe .connect (closed server)).2.version = some version := by
  rcases run : openClosed (closed (Monitored.start server)) with ⟨result, later⟩
  have performed : perform .connect (closed (Monitored.start server)) =
      (result.map fun _ => .done, later) := by
    change (Connection.connect >>= fun _ => pure Answer.done) _ = _
    cases result with
    | error cause => exact run_bind_error run
    | ok value => exact run_bind_ok run
  have observed : observe .connect (closed server) =
      (⟨.connect, result.map fun _ => .done, later.server.exchanges⟩,
        ⟨later.server.server, later.version⟩) := by
    unfold observe
    rw [show (⟨Monitored.start (closed server).server, (closed server).version⟩ :
      Session (Monitored σ)) = closed (Monitored.start server) from rfl, performed]
  rw [observed]
  rcases openClosed_cases run with
    ⟨cause, rfl, kept⟩ | ⟨entered, report, version, answered, rfl, entrance, reported, read, rfl⟩
  · exact .inl ⟨cause, rfl, kept⟩
  · refine .inr ⟨report, version, read, ?_, rfl⟩
    rw [exchanges_of_pass reported, exchanges_of_pass entrance]
    rfl

/-- A connect leaves the session open exactly if it succeeds. -/
theorem isOpen_connect_iff :
    (observe .connect session).2.isOpen = true ↔
      ∃ answer, (observe .connect session).1.result = .ok answer := by
  rcases session with ⟨server, _ | version⟩
  · change (observe .connect (closed server)).2.isOpen = true ↔
      ∃ answer, (observe .connect (closed server)).1.result = .ok answer
    rcases observe_connect_closed server with ⟨cause, failed, kept⟩ | ⟨_, _, _, event, opened⟩
    · simp [isOpen, kept, failed]
    · simp [isOpen, opened, event]
  · exact iff_of_true rfl ⟨.done, rfl⟩

end Observed

/-! ## Runs -/

/-- A session is open with a version exactly if the events say so. -/
def Tracks (events : List Event) (session : Session σ) : Prop :=
  ∀ version, session.version = some version ↔ OpenedWith events version

namespace Tracks

variable {events : List Event} {session : Session σ}

theorem start (server : σ) : Tracks [] (closed server) :=
  fun _ => ⟨nofun, fun opened => (not_openedWith_nil opened).elim⟩

theorem isOpen_iff (tracks : Tracks events session) : session.isOpen = true ↔ Opened events := by
  rw [isOpen, Option.isSome_iff_exists]
  exact exists_congr tracks

private theorem not_openedWith {server : σ} (tracks : Tracks events (closed server))
    (version : Version) : ¬ OpenedWith events version :=
  fun opened => nomatch (tracks version).2 opened

/-- An action that neither connects nor disconnects opens and closes nothing. -/
private theorem keep (tracks : Tracks events session) {event : Event} {later : Session σ}
    (connects : event.action ≠ .connect) (disconnects : event.action ≠ .disconnect)
    (kept : later.version = session.version) : Tracks (events ++ [event]) later := by
  intro version
  rw [openedWith_append_iff, kept, tracks version]
  exact ⟨fun opened => .inr ⟨opened, disconnects⟩, fun opened =>
    opened.elim (fun opens => (connects opens.1).elim) And.left⟩

/-- Disconnecting closes the session, whether it was open or not. -/
private theorem disconnect {event : Event} {later : Session σ}
    (disconnects : event.action = .disconnect) (kept : later.version = none) :
    Tracks (events ++ [event]) later := by
  intro version
  rw [openedWith_append_iff, kept]
  refine ⟨nofun, ?_⟩
  rintro (⟨connects, _⟩ | ⟨_, keeps⟩)
  · cases disconnects.symm.trans connects
  · exact (keeps disconnects).elim

private theorem connectOpen {server : σ} {known : Version}
    (tracks : Tracks events ⟨server, some known⟩) :
    Tracks (events ++ [⟨.connect, .ok .done, []⟩]) (⟨server, some known⟩ : Session σ) := by
  intro version
  rw [openedWith_append_iff, tracks version]
  refine ⟨fun opened => .inr ⟨opened, nofun⟩, ?_⟩
  rintro (⟨_, _, report, asked, _⟩ | ⟨opened, _⟩)
  · cases asked
  · exact opened

variable [Server σ]

private theorem connectClosed {server : σ} (tracks : Tracks events (closed server)) :
    Tracks (events ++ [(observe .connect (closed server)).1])
      (observe .connect (closed server)).2 := by
  intro version
  rw [openedWith_append_iff]
  rcases observe_connect_closed server with
    ⟨cause, failed, kept⟩ | ⟨report, opening, read, event, opened⟩
  · rw [kept]
    refine ⟨nofun, ?_⟩
    rintro (⟨_, done, _⟩ | ⟨opened, _⟩)
    · cases failed.symm.trans done
    · exact (tracks.not_openedWith version opened).elim
  · rw [opened, event]
    constructor
    · rintro ⟨⟩
      exact .inl ⟨rfl, rfl, report, by simp, read⟩
    · rintro (⟨_, _, other, asked, otherRead⟩ | ⟨opened, _⟩)
      · -- The server was asked for its version once, so no other one was read.
        obtain rfl : other = report := by simpa using asked
        exact read.symm.trans otherRead
      · exact (tracks.not_openedWith version opened).elim

/-- After every action the session is open with a version exactly if the events say so. -/
theorem step (tracks : Tracks events session) (action : Action) :
    Tracks (events ++ [(observe action session).1]) (observe action session).2 := by
  rcases session with ⟨server, _ | known⟩
  · cases action with
    | connect => exact tracks.connectClosed
    | disconnect => exact disconnect rfl rfl
    | _ => exact tracks.keep nofun nofun rfl
  · cases action with
    | connect => exact tracks.connectOpen
    | disconnect => exact disconnect rfl rfl
    | serverVersion => exact tracks.keep nofun nofun rfl
    | _ => exact tracks.keep nofun nofun (observe_open rfl server known).2

/-- After every run as well. -/
theorem run (tracks : Tracks events session) (actions : List Action) :
    Tracks (events ++ (observeAll actions session).1) (observeAll actions session).2 := by
  induction actions generalizing events session with
  | nil => simpa [observeAll] using tracks
  | cons action rest inductionHypothesis =>
      have later := inductionHypothesis (tracks.step action)
      rw [List.append_assoc] at later
      exact later

end Tracks

/-! ## The life cycle -/

section Lifecycle

variable [Server σ]

/-- What every action comes to on a session with these events behind it. -/
structure FollowsLifecycle (events : List Event) (session : Session σ) : Prop where
  /-- Observing an action is performing it. -/
  performed : ∀ action,
    perform action session = ((observe action session).1.result, (observe action session).2)
  /-- The session is open with the version read by the connect that opened it. -/
  version : ∀ version,
    (observe .serverVersion session).1.result = .ok (.version (some version)) ↔
      OpenedWith events version
  /-- An action that needs the session open is refused exactly if it is closed. -/
  refused : ∀ action, action.needsOpen = true →
    ((observe action session).1.result = .error .notConnected ↔ ¬ Opened events)
  /-- Such an action does not contact the server while the session is closed. -/
  silent : ∀ action, action.needsOpen = true → ¬ Opened events →
    (observe action session).1.exchanges = []
  /-- Connecting an open session contacts nobody and changes nothing. -/
  connectOpen : Opened events →
    observe .connect session = (⟨.connect, .ok .done, []⟩, session)
  /-- A connect that succeeds has opened the session, or has found it open. -/
  connected : ∀ answer, (observe .connect session).1.result = .ok answer →
    (observe .connect session).2.isOpen = true ∧
      Opened (events ++ [(observe .connect session).1])
  /-- A failed connect leaves the session closed. -/
  connectFailed : ∀ cause, (observe .connect session).1.result = .error cause →
    (observe .connect session).2.isOpen = false ∧
      ¬ Opened (events ++ [(observe .connect session).1])
  /-- An open session can return inserted rows from version 10.5 on. -/
  returning : ∀ version, OpenedWith events version →
    ∃ available, (observe .supportsReturning session).1.result = .ok (.available available) ∧
      (available = true ↔ 10 < version.major ∨ version.major = 10 ∧ 5 ≤ version.minor)

theorem Tracks.followsLifecycle {events : List Event} {session : Session σ}
    (tracks : Tracks events session) : FollowsLifecycle events session where
  performed action := perform_observed action session
  version version := by
    rw [← tracks version]
    change Except.ok (Answer.version session.version) = _ ↔ _
    rw [Except.ok.injEq, Answer.version.injEq]
  refused action needs := by
    rw [← tracks.isOpen_iff]
    rcases session with ⟨server, _ | version⟩
    · exact iff_of_true (congrArg (·.1.result) (observe_closed needs server)) nofun
    · exact iff_of_false (observe_open needs server version).1 (· rfl)
  silent action needs unopened := by
    rw [← tracks.isOpen_iff] at unopened
    rcases session with ⟨server, _ | version⟩
    · exact congrArg (·.1.exchanges) (observe_closed needs server)
    · exact (unopened rfl).elim
  connectOpen opened := by
    obtain ⟨version, known⟩ := opened
    obtain ⟨server, _⟩ := session
    cases (tracks version).2 known
    exact observe_connect_open server version
  connected answer succeeded := by
    have opened := isOpen_connect_iff.2 ⟨answer, succeeded⟩
    exact ⟨opened, (tracks.step .connect).isOpen_iff.1 opened⟩
  connectFailed cause failed := by
    have closes : ¬ (observe .connect session).2.isOpen = true := by
      rw [isOpen_connect_iff, failed]
      rintro ⟨_, ⟨⟩⟩
    exact ⟨by simpa using closes, mt (tracks.step .connect).isOpen_iff.2 closes⟩
  returning version opened := by
    obtain ⟨server, _⟩ := session
    cases (tracks version).2 opened
    exact ⟨version.supportsReturning, rfl, supportsReturning_iff version⟩

/-- Whatever is done with a session and however its server behaves, the next action comes
to what the life cycle says. -/
theorem run_followsLifecycle (server : σ) (actions : List Action) :
    FollowsLifecycle (observeAll actions (closed server)).1
      (observeAll actions (closed server)).2 :=
  ((Tracks.start server).run actions).followsLifecycle

end Lifecycle

end SchemaKeeper.MariaDb.Session
