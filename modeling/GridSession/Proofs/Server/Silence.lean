import GridSession.Proofs.Server.Activity
import GridSession.Proofs.Server.Outcomes
import GridSession.Proofs.Server.Replies
import Mathlib.Data.List.Chain

namespace GridSession

namespace Game

theorem mem_staleIds_iff {game : Game} {now : Nat} {id : UInt32} :
    id ∈ game.staleIds now
      ↔ ∃ player, game.roster.get? id = some player
        ∧ game.playerTimeout < now - player.lastMessage := by
  simp only [staleIds, Roster.sorted, List.mem_map, List.mem_filter, List.mem_mergeSort,
    Roster.get?_eq_some_iff, Player.isTimedOut, decide_eq_true_eq]
  constructor
  · rintro ⟨player, ⟨hmem, hsilent⟩, hid⟩
    exact ⟨player, ⟨hmem, hid⟩, hsilent⟩
  · rintro ⟨player, ⟨hmem, hid⟩, hsilent⟩
    exact ⟨player, ⟨hmem, hsilent⟩, hid⟩

theorem nodup_staleIds (game : Game) (now : Nat) : (game.staleIds now).Nodup := by
  have hsorted : (game.roster.sorted.map Player.id).Nodup :=
    ((List.mergeSort_perm ..).map Player.id).nodup_iff.mpr game.roster.nodup_ids
  exact hsorted.sublist (List.filter_sublist.map Player.id)

end Game

namespace Server

def reportsOf (id : UInt32) (notes : List Note) : List Report :=
  ((notes.filterMap Note.report?).filter (·.1 = id)).map Prod.snd

/-- What there is to report of a player when the silent players were `before` and are `after`. -/
def reportsBetween (before after : List UInt32) (id : UInt32) : List Report :=
  if id ∈ before then if id ∈ after then [] else [.active]
  else if id ∈ after then [.silent] else []

section Notes

variable {id : UInt32} {notes : List Note} {before after : List UInt32}

@[simp] theorem reportsOf_append (id : UInt32) (notes more : List Note) :
    reportsOf id (notes ++ more) = reportsOf id notes ++ reportsOf id more := by
  simp [reportsOf]

theorem reportsOf_eq_nil (h : ∀ note ∈ notes, note.report? = none) : reportsOf id notes = [] := by
  rw [reportsOf, List.filterMap_eq_nil_iff.mpr h]
  rfl

theorem reportsOf_map {toNote : UInt32 → Note} {report : Report}
    (h : ∀ other, (toNote other).report? = some (other, report)) (ids : List UInt32) :
    reportsOf id (ids.map toNote) = List.replicate (ids.count id) report := by
  induction ids with
  | nil => rfl
  | cons head rest ih =>
    unfold reportsOf at ih ⊢
    rw [List.map_cons, List.filterMap_cons_some (h head)]
    by_cases hid : head = id
    · rw [List.filter_cons_of_pos (by simpa using hid), List.map_cons, ih, hid,
        List.count_cons_self, List.replicate_succ]
    · rw [List.filter_cons_of_neg (by simpa using hid), ih, List.count_cons_of_ne hid]

theorem count_filter_notMem (hnodup : before.Nodup) (id : UInt32) :
    (before.filter (· ∉ after)).count id = if id ∈ before ∧ id ∉ after then 1 else 0 := by
  rw [(hnodup.filter _).count]
  simp

/-- What is noted of a player is what there is to report. -/
theorem reportsOf_staleNotes (hbefore : before.Nodup) (hafter : after.Nodup) (timeout : Nat)
    (id : UInt32) :
    reportsOf id (staleNotes before after timeout) = reportsBetween before after id := by
  rw [staleNotes, reportsOf_append, reportsOf_map (fun _ => rfl), reportsOf_map (fun _ => rfl),
    count_filter_notMem hafter, count_filter_notMem hbefore, reportsBetween]
  by_cases hold : id ∈ before
  · by_cases hnew : id ∈ after
    · simp [hold, hnew]
    · simp [hold, hnew]
  · by_cases hnew : id ∈ after
    · simp [hold, hnew]
    · simp [hold, hnew]

end Notes

/-- Reports that fit a player of whom it is known whether it is silent: they take turns, begin with
a silence, and the last is of a silence exactly if the player is silent now. -/
structure TakeTurns (silent : Prop) (reports : List Report) : Prop where
  alternating : reports.IsChain (· ≠ ·)
  silent_first : ∀ report ∈ reports.head?, report = .silent
  silent_iff : silent ↔ reports.getLast? = some .silent

section TakeTurns

variable {silent : Prop} {reports : List Report} {before after : List UInt32} {id : UInt32}

theorem TakeTurns.concat {silentNow : Prop} {report : Report} (h : TakeTurns silent reports)
    (hturn : silent ↔ report = .active) (hnow : silentNow ↔ report = .silent) :
    TakeTurns silentNow (reports ++ [report]) := by
  have hlast : reports.getLast? = some .silent ↔ report = .active :=
    h.silent_iff.symm.trans hturn
  refine ⟨h.alternating.append (List.isChain_singleton _) ?_, ?_, ?_⟩
  · -- the last report tells whether the player counts as silent, so the next one is the other kind
    rintro last hmem other ⟨⟩ rfl
    rw [Option.mem_def.mp hmem, Option.some.injEq] at hlast
    cases last with
    | silent => exact absurd (hlast.mp rfl) nofun
    | active => exact absurd (hlast.mpr rfl) nofun
  · intro first hfirst
    cases reports with
    | nil =>
      cases report with
      | silent => exact (Option.some.inj hfirst).symm
      | active => exact absurd (hlast.mpr rfl) nofun
    | cons head rest => exact h.silent_first first hfirst
  · rw [hnow, List.getLast?_concat, Option.some.injEq]

/-- Reporting what there is to report keeps the reports up with the players. -/
theorem TakeTurns.append_reportsBetween (h : TakeTurns (id ∈ before) reports) :
    TakeTurns (id ∈ after) (reports ++ reportsBetween before after id) := by
  unfold reportsBetween
  split_ifs with hold hnew hnew
  · rw [List.append_nil, eq_true hnew, ← eq_true hold]
    exact h
  · exact h.concat (iff_of_true hold rfl) (iff_of_false hnew nofun)
  · exact h.concat (iff_of_false hold nofun) (iff_of_true hnew rfl)
  · rw [List.append_nil, eq_false hnew, ← eq_false hold]
    exact h

end TakeTurns

/-- A station between two of its events, when it began with `driver` and the given timeout: every
player is up to date, and nothing that concerns silences has changed. -/
structure Listens (driver : Server) (timeout : Nat) (earlier : List (Nat × Event))
    (station : Station Server) : Prop where
  table : Table station.game
  upToDate : UpToDate earlier station.game
  driver_eq : station.driver = driver
  playerTimeout_eq : station.game.playerTimeout = timeout

section Listens

variable {station : Station Server} {driver : Server} {timeout : Nat}
  {earlier : List (Nat × Event)}

theorem keeps_answerLogin (moment : Moment) (received : Received Login) (player : Player)
    (station : Station Server) :
    (answerLogin moment received player station).driver = station.driver
      ∧ (answerLogin moment received player station).game.playerTimeout
        = station.game.playerTimeout := by
  rw [game_answerLogin]
  unfold answerLogin
  dsimp only
  split_ifs <;> exact ⟨rfl, rfl⟩

/-- No handler touches what the server knows of silences. -/
theorem handle_keeps (htable : Table station.game) (moment : Moment) (event : Event) :
    (station.handle moment event).driver = station.driver
      ∧ (station.handle moment event).game.playerTimeout = station.game.playerTimeout := by
  let told := station.tell (.handling event.action event.sender)
  have htold : Table told.game := htable
  cases event with
  | login received =>
    change (onLogin moment received told).driver = told.driver
      ∧ (onLogin moment received told).game.playerTimeout = told.game.playerTimeout
    rcases onLogin_cases htold moment received with
      ⟨player, -, -, hlogin⟩ | ⟨-, -, hlogin⟩ | ⟨-, -, roster, -, hlogin⟩
    · rw [hlogin]
      exact keeps_answerLogin ..
    · rw [hlogin]
      exact ⟨rfl, rfl⟩
    · rw [hlogin]
      exact keeps_answerLogin ..
  | ping received =>
    change (onPing moment received told).driver = told.driver
      ∧ (onPing moment received told).game.playerTimeout = told.game.playerTimeout
    rcases onPing_cases moment received told with
      ⟨-, hping⟩ | ⟨-, hping⟩ | ⟨-, player, -, hping⟩
    · rw [hping]
      exact ⟨rfl, rfl⟩
    · rw [hping]
      exact ⟨rfl, rfl⟩
    · rw [hping]
      exact ⟨rfl, rfl⟩
  | acknowledge received => exact ⟨rfl, rfl⟩

theorem Listens.handle (h : Listens driver timeout earlier station) (moment : Moment)
    (event : Event) :
    Listens driver timeout (earlier ++ [(moment.now, event)]) (station.handle moment event) where
  table := (handle_enlists h.table moment event).table h.table
  upToDate := handle_upToDate h.table h.upToDate moment event
  driver_eq := (handle_keeps h.table moment event).1.trans h.driver_eq
  playerTimeout_eq := (handle_keeps h.table moment event).2.trans h.playerTimeout_eq

end Listens

theorem stale_onTick (moment : Moment) (station : Station Server) :
    (onTick moment station).1.driver.stale = station.game.staleIds moment.now := by
  unfold onTick
  dsimp only
  split_ifs <;> rfl

/-- A server between two inputs, after it handled `earlier` events: its players are up to date, and
its reports fit the players it knows to be silent, all of whom are in the table. -/
structure Reports (timeout : Nat) (earlier : List (Nat × Event)) (loop : GameLoop Server) :
    Prop where
  listens : Listens loop.driver timeout earlier loop.toStation
  nodup_stale : loop.driver.stale.Nodup
  stale_known : ∀ id ∈ loop.driver.stale, ∃ player, loop.game.roster.get? id = some player
  takeTurns : ∀ id, TakeTurns (id ∈ loop.driver.stale) (reportsOf id loop.journal)

section Reports

variable {loop : GameLoop Server} {timeout : Nat} {earlier : List (Nat × Event)}

theorem Reports.start (params : GameParams) (fails : Nat → Bool) :
    Reports params.playerTimeout [] (.start params ({} : Server) { fails }) where
  listens := ⟨.ofParams params, fun _ hmem => absurd hmem List.not_mem_nil, rfl, rfl⟩
  nodup_stale := List.nodup_nil
  stale_known _ hmem := absurd hmem List.not_mem_nil
  takeTurns _ := ⟨List.isChain_nil, by simp [GameLoop.start, reportsOf],
    by simp [GameLoop.start, reportsOf]⟩

theorem Reports.onDatagram (h : Reports timeout earlier loop) (datagram : Datagram) :
    Reports timeout earlier (loop.onDatagram datagram) := by
  rw [GameLoop.onDatagram_eq]
  refine ⟨⟨h.listens.1, h.listens.2, h.listens.3, h.listens.4⟩, h.nodup_stale, h.stale_known,
    fun id => ?_⟩
  rw [reportsOf_append, reportsOf_eq_nil (GameLoop.arrivalNotes_no_report datagram),
    List.append_nil]
  exact h.takeTurns id

theorem Reports.handleAll (h : Reports timeout earlier loop) (now : Nat) :
    Listens loop.driver timeout (earlier ++ loop.inbox.map (now, ·))
      (Station.handleAll now loop.inbox loop.counted) := by
  have hcounted : Listens loop.driver timeout earlier loop.counted :=
    ⟨⟨h.listens.table.1, h.listens.table.2, h.listens.table.3⟩, h.listens.upToDate, rfl,
      h.listens.playerTimeout_eq⟩
  exact Station.handleAll_history (fun _ moment event _ hlistens => hlistens.handle moment event)
    now loop.inbox hcounted

theorem stale_tick (loop : GameLoop Server) (now : Nat) :
    (loop.tick now).1.driver.stale = (loop.tick now).1.game.staleIds now := by
  rw [game_tick]
  exact stale_onTick ..

/-- What a tick writes down reports exactly what there is to report. -/
theorem Reports.journal_tick (h : Reports timeout earlier loop) (now : Nat) :
    ∃ notes, (loop.tick now).1.journal = loop.journal ++ notes
      ∧ ∀ id, reportsOf id notes
        = reportsBetween loop.driver.stale (loop.tick now).1.driver.stale id := by
  have hlistens := h.handleAll now
  obtain ⟨sent, notes, hhandled, -, hnotes⟩ := handleAll_settles now loop.inbox loop.counted
  obtain ⟨summary, hwork, hsummary⟩ :=
    onTick_leaves ⟨now, 0⟩ (Station.handleAll now loop.inbox loop.counted)
  refine ⟨_, (hhandled.trans hwork).journal_eq, fun id => ?_⟩
  have hstale : (loop.tick now).1.driver.stale
      = (Station.handleAll now loop.inbox loop.counted).game.staleIds now := stale_onTick ..
  rw [reportsOf_append, reportsOf_append, reportsOf_eq_nil hnotes,
    reportsOf_eq_nil fun note hmem => (hsummary note hmem).2.2, List.nil_append, List.append_nil,
    hlistens.driver_eq, hstale]
  exact reportsOf_staleNotes h.nodup_stale (Game.nodup_staleIds ..) ..

theorem Reports.tick (h : Reports timeout earlier loop) (now : Nat) :
    Reports timeout (earlier ++ loop.inbox.map (now, ·)) (loop.tick now).1 := by
  -- the events of the tick are handled first, and silences are reported of what they leave
  have hlistens := h.handleAll now
  obtain ⟨notes, hjournal, hnotes⟩ := h.journal_tick now
  refine ⟨⟨?_, ?_, rfl, ?_⟩, ?_, ?_, fun id => ?_⟩
  · rw [game_tick]
    exact hlistens.table
  · rw [game_tick]
    exact hlistens.upToDate
  · rw [game_tick]
    exact hlistens.playerTimeout_eq
  · rw [stale_tick]
    exact Game.nodup_staleIds ..
  · intro id hmem
    rw [stale_tick] at hmem
    obtain ⟨player, hfound, -⟩ := Game.mem_staleIds_iff.mp hmem
    exact ⟨player, hfound⟩
  · rw [hjournal, reportsOf_append, hnotes id]
    exact (h.takeTurns id).append_reportsBetween

theorem Reports.mem_stale_tick_iff (h : Reports timeout earlier loop) (now : Nat) (id : UInt32) :
    id ∈ (loop.tick now).1.driver.stale
      ↔ ∃ player, (loop.tick now).1.game.roster.get? id = some player
        ∧ timeout < now - player.lastMessage := by
  rw [stale_tick, Game.mem_staleIds_iff, (h.tick now).listens.playerTimeout_eq]

theorem run_reports (h : Reports timeout earlier loop) (inputs : List GameLoop.Input) :
    Reports timeout (earlier ++ loop.handed inputs) (loop.run inputs) :=
  GameLoop.run_history (fun _ _ datagram h => h.onDatagram datagram)
    (fun _ _ now h => h.tick now) inputs h

/-- In every state that a server reaches, whatever its clock does, a player's last message came when
the player was last heard. The players that a tick finds silent are exactly those of whom nothing
was heard for longer than the timeout before it, and the tick reports exactly who fell silent and
who came back. So the reports on a player take turns, a silence first; a player is known to be
silent exactly if the last report on it says so; and whoever is silent keeps its session for good.
Silences are warnings. -/
theorem silences_reported (params : GameParams) (fails : Nat → Bool)
    (inputs later : List GameLoop.Input) :
    let start : GameLoop Server := .start params {} { fails }
    let loop := start.run inputs
    (∀ player ∈ loop.game.roster.players,
      lastHeard? (start.handed inputs) player.session = some player.lastMessage)
    ∧ (∀ now, let after := (loop.tick now).1
      (∀ id, id ∈ after.driver.stale ↔ ∃ player, after.game.roster.get? id = some player
        ∧ params.playerTimeout < now - player.lastMessage)
      ∧ ∃ notes, after.journal = loop.journal ++ notes
        ∧ ∀ id, reportsOf id notes = reportsBetween loop.driver.stale after.driver.stale id)
    ∧ (∀ id, let reports := reportsOf id loop.journal
      reports.IsChain (· ≠ ·)
      ∧ (∀ first ∈ reports.head?, first = .silent)
      ∧ (id ∈ loop.driver.stale ↔ reports.getLast? = some .silent))
    ∧ (∀ (note : Note) told, note.report? = some told → note.level = told.2.level)
    ∧ ∀ id ∈ loop.driver.stale, ∃ player kept, loop.game.roster.get? id = some player
      ∧ (loop.run later).game.roster.get? id = some kept ∧ kept.session = player.session := by
  intro start loop
  have hreports : Reports params.playerTimeout (start.handed inputs) loop :=
    run_reports (.start params fails) inputs
  refine ⟨hreports.listens.upToDate, fun now => ?_, fun id => ?_,
    fun _ _ => Note.level_of_report?, fun id hstale => ?_⟩
  · exact ⟨hreports.mem_stale_tick_iff now, hreports.journal_tick now⟩
  · obtain ⟨halternating, hfirst, hsilent⟩ := hreports.takeTurns id
    exact ⟨halternating, hfirst, hsilent⟩
  · obtain ⟨player, hfound⟩ := hreports.stale_known id hstale
    obtain ⟨kept, hkept, hsession⟩ :=
      (run_enlists hreports.listens.table later).exists_get? hfound
    exact ⟨player, kept, hfound, hkept, hsession⟩

/-- The first session falls silent when more than two seconds have passed since its last message. -/
theorem first_session_falls_silent :
    let loop := waitingFirst.run [.tick 5]
    1 ∉ (loop.tick 2000000005).1.driver.stale ∧ 1 ∈ (loop.tick 2000000006).1.driver.stale := by
  intro loop
  have hlast : (loop.game.roster.get? 1).map Player.lastMessage = some 5 := by
    change ((waitingFirst.tick 5).1.game.roster.get? 1).map Player.lastMessage = some 5
    rw [game_tick, waitingFirst_eq.1]
    decide
  obtain ⟨player, hfound, hplayer⟩ := Option.map_eq_some_iff.mp hlast
  obtain ⟨-, hticks, -⟩ := silences_reported {} (fun _ => false) (firstArrivals ++ [.tick 5]) []
  have hloop : (GameLoop.start {} ({} : Server) { fails := fun _ => false }).run
      (firstArrivals ++ [.tick 5]) = loop := GameLoop.run_append ..
  rw [hloop] at hticks
  -- nothing waits, so the later ticks leave the table as it is
  have hkept : ∀ now, (loop.tick now).1.game.roster.get? 1 = some player := by
    intro now
    rw [game_tick]
    exact hfound
  constructor
  · intro hstale
    obtain ⟨other, hother, hsilent⟩ := ((hticks 2000000005).1 1).mp hstale
    rw [hkept, Option.some.injEq] at hother
    rw [← hother, hplayer] at hsilent
    exact absurd hsilent (by decide)
  · exact ((hticks 2000000006).1 1).mpr ⟨player, hkept _, by rw [hplayer]; decide⟩

end Reports

end Server

end GridSession
