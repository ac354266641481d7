import GridSession.Proofs.Game.Enrolment
import GridSession.Proofs.Game.Table

namespace GridSession

namespace Roster

variable {roster grown : Roster} {player : Player}

theorem get?_replace (hknown : player.id ∈ roster.ids) (id : UInt32) :
    (roster.replace player).get? id = if id = player.id then some player else roster.get? id := by
  have hids : ∀ other : Player,
      (if other.id = player.id then player else other).id = other.id := by
    intro other
    split_ifs with hid
    · exact hid.symm
    · rfl
  have hfound : (roster.replace player).get? id
      = (roster.get? id).map fun other => if other.id = player.id then player else other := by
    simp only [get?, replace, List.find?_map, Function.comp_def, hids]
  rw [hfound]
  split_ifs with hid
  · obtain ⟨old, hmem, hold⟩ := List.mem_map.mp hknown
    rw [hid, get?_eq_some_iff.mpr ⟨hmem, hold⟩, Option.map_some, if_pos hold]
  · cases hother : roster.get? id with
    | none => rfl
    | some other =>
      have hne : other.id ≠ player.id := (get?_eq_some_iff.mp hother).2 ▸ hid
      rw [Option.map_some, if_neg hne]

theorem get?_of_joined (hplayers : grown.players = roster.players ++ [player])
    (hnew : player.id ∉ roster.ids) (id : UInt32) :
    grown.get? id = if id = player.id then some player else roster.get? id := by
  rw [get?, hplayers, List.find?_append]
  split_ifs with hid
  · have habsent : roster.players.find? (·.id == id) = none := by
      rw [List.find?_eq_none]
      intro other hmem hother
      refine hnew (List.mem_map.mpr ⟨other, hmem, ?_⟩)
      rw [← hid]
      simpa using hother
    rw [habsent, hid]
    simp
  · have hne : (player.id == id) = false := by simpa using Ne.symm hid
    simp [get?, hne]

theorem get?_eq_none_iff {id : UInt32} : roster.get? id = none ↔ id ∉ roster.ids := by
  rw [get?, List.find?_eq_none, ids, List.mem_map]
  simp

def positionOf? (roster : Roster) (id : UInt32) : Option Position :=
  (roster.get? id).bind Player.position

theorem positionOf?_eq_some_iff {id : UInt32} {position : Position} :
    roster.positionOf? id = some position
      ↔ ∃ player, roster.get? id = some player ∧ player.position = some position :=
  Option.bind_eq_some_iff

theorem positionOf?_of_get? {id : UInt32} (h : roster.get? id = some player) :
    roster.positionOf? id = player.position := by
  rw [positionOf?, h, Option.bind_some]

theorem positionOf?_replace {old : Player} (hmem : old ∈ roster.players)
    (hid : player.id = old.id) (hposition : player.position = old.position) :
    (roster.replace player).positionOf? = roster.positionOf? := by
  have hfound : roster.get? player.id = some old := get?_eq_some_iff.mpr ⟨hmem, hid.symm⟩
  have hknown : player.id ∈ roster.ids := hid ▸ List.mem_map_of_mem hmem
  funext id
  rw [positionOf?, get?_replace hknown]
  split_ifs with hsame
  · rw [hsame, positionOf?_of_get? hfound, Option.bind_some, hposition]
  · rfl

theorem positionOf?_of_joined (hplayers : grown.players = roster.players ++ [player])
    (hnew : player.id ∉ roster.ids) (hposition : player.position = none) :
    grown.positionOf? = roster.positionOf? := by
  funext id
  rw [positionOf?, get?_of_joined hplayers hnew]
  split_ifs with hid
  · rw [positionOf?, hid, get?_eq_none_iff.mpr hnew]
    exact hposition
  · rfl

end Roster

namespace Game

/-- The cell of a position names exactly the player that stands there, and everybody stands on the
grid. -/
structure Consistent (game : Game) : Prop where
  rowMajor : game.grid.RowMajor
  standing_iff : ∀ {position}, game.grid.Contains position → ∀ id,
    game.grid.playerAt (game.grid.index position) = some id
      ↔ game.roster.positionOf? id = some position
  contains : ∀ {id position}, game.roster.positionOf? id = some position →
    game.grid.Contains position

structure SamePlaces (before after : Game) : Prop where
  grid_eq : after.grid = before.grid
  positionOf?_eq : after.roster.positionOf? = before.roster.positionOf?

namespace SamePlaces

variable {before middle after : Game}

theorem refl (game : Game) : SamePlaces game game :=
  ⟨rfl, rfl⟩

theorem trans (h : SamePlaces before middle) (hmore : SamePlaces middle after) :
    SamePlaces before after :=
  ⟨hmore.grid_eq.trans h.grid_eq, hmore.positionOf?_eq.trans h.positionOf?_eq⟩

theorem consistent (h : SamePlaces before after) (hbefore : before.Consistent) :
    after.Consistent := by
  constructor
  · rw [h.grid_eq]
    exact hbefore.rowMajor
  · rw [h.grid_eq, h.positionOf?_eq]
    exact hbefore.standing_iff
  · rw [h.grid_eq, h.positionOf?_eq]
    exact hbefore.contains

end SamePlaces

variable {game moved : Game} {id : UInt32} {position : Position} {player : Player}

theorem cell_eq_ok (hgrid : game.grid.RowMajor) (h : game.grid.Contains position) :
    game.cell position = .ok ⟨position, game.grid.playerAt (game.grid.index position)⟩ := by
  rw [cell, hgrid.cell?_eq_some h]

theorem cell_eq_offGrid (h : ¬ game.grid.Contains position) :
    game.cell position = .error (game.offGrid position) := by
  rw [cell, Grid.cell?, if_neg h]

theorem contains_of_cell_eq_ok {cell : Cell} (h : game.cell position = .ok cell) :
    game.grid.Contains position := by
  by_contra hoff
  rw [cell_eq_offGrid hoff] at h
  cases h

theorem Consistent.ofParams (params : GameParams) : (ofParams params).Consistent where
  rowMajor := Grid.rowMajor_empty params.width params.height
  standing_iff {position} h _ := by
    have hnobody : (Game.ofParams params).grid.playerAt
        ((Game.ofParams params).grid.index position) = none := Grid.playerAt_empty h
    rw [hnobody]
    exact ⟨nofun, nofun⟩
  contains := nofun

/-- No two players stand on one cell. -/
theorem Consistent.eq_of_positionOf? (h : game.Consistent) {other : UInt32}
    (hid : game.roster.positionOf? id = some position)
    (hother : game.roster.positionOf? other = some position) : id = other := by
  have hthere := (h.standing_iff (h.contains hid) id).mpr hid
  rw [(h.standing_iff (h.contains hid) other).mpr hother] at hthere
  exact (Option.some.inj hthere).symm

theorem Consistent.cell_eq_iff (h : game.Consistent) (hcontains : game.grid.Contains position) :
    game.cell position = .ok ⟨position, some id⟩
      ↔ game.roster.positionOf? id = some position := by
  rw [cell_eq_ok h.rowMajor hcontains, ← h.standing_iff hcontains]
  simp

/-- Whoever stands on a cell is in the roster. -/
theorem Consistent.exists_occupant_iff (h : game.Consistent)
    (hcontains : game.grid.Contains position) :
    (∃ player, game.occupant position = .ok (some player))
      ↔ ∃ id, game.cell position = .ok ⟨position, some id⟩ := by
  rw [occupant, cell_eq_ok h.rowMajor hcontains]
  constructor
  · rintro ⟨player, hoccupant⟩
    obtain ⟨id, hid, -⟩ := Option.bind_eq_some_iff.mp (Except.ok.inj hoccupant)
    exact ⟨id, congrArg (fun player => Except.ok (Cell.mk position player)) hid⟩
  · rintro ⟨id, hcell⟩
    obtain hplayer : game.grid.playerAt (game.grid.index position) = some id := by
      simpa using hcell
    obtain ⟨player, hfound, -⟩ :=
      Roster.positionOf?_eq_some_iff.mp ((h.standing_iff hcontains id).mp hplayer)
    exact ⟨player, by rw [Except.map, hplayer, Option.bind_some, hfound]⟩

/-- An enrolment moves nobody, whether it lets a new player in or not. -/
theorem samePlaces_enroll {endpoint : SocketAddress} {now : Nat} {enrolment : Enrolment}
    (h : game.enroll endpoint now = .ok enrolment) :
    SamePlaces game enrolment.game ∧ enrolment.player ∈ enrolment.game.roster.players := by
  rcases enroll_cases game endpoint now with
    ⟨player, hfound, henroll⟩ | ⟨-, -, henroll⟩ | ⟨-, -, player, hget, henroll⟩
    | ⟨-, -, hnew, roster, hplayers, henroll⟩
  · cases henroll.symm.trans h
    exact ⟨.refl game, (Roster.withEndpoint?_eq_some hfound).1⟩
  · cases henroll.symm.trans h
  · cases henroll.symm.trans h
    exact ⟨⟨rfl, rfl⟩, (Roster.get?_eq_some_iff.mp hget).1⟩
  · cases henroll.symm.trans h
    refine ⟨⟨rfl, Roster.positionOf?_of_joined hplayers hnew rfl⟩, ?_⟩
    change _ ∈ roster.players
    rw [hplayers]
    exact List.mem_append_right _ (List.mem_singleton.mpr rfl)

theorem samePlaces_of_joined {roster : Roster} {now : Nat}
    (hplayers : roster.players = game.roster.players ++ [.joining id none now])
    (hnew : id ∉ game.roster.ids) : SamePlaces game { game with roster } :=
  ⟨rfl, Roster.positionOf?_of_joined hplayers hnew rfl⟩

/-- What placing a player that is in the roster on a cell of the grid does to the game: the player
stands there and not where it stood before, and nothing else changes. -/
structure Moves (game : Game) (player : Player) (position : Position) (moved : Game) : Prop where
  cell_eq : ∀ other, game.grid.Contains other → moved.cell other
    = if other = position then .ok ⟨position, some player.id⟩
      else if player.position = some other then .ok ⟨other, none⟩
      else game.cell other
  get?_eq : ∀ id, moved.roster.get? id
    = if id = player.id then some { player with position := some position }
      else game.roster.get? id
  ids_eq : moved.roster.ids = game.roster.ids
  measures_eq : moved.grid.width = game.grid.width ∧ moved.grid.height = game.grid.height
  rest_eq : moved = { game with grid := moved.grid, roster := moved.roster }

theorem Consistent.moves (h : game.Consistent) (hget : game.roster.get? id = some player)
    (hcontains : game.grid.Contains position) :
    game.Moves player position
      ({ game with grid := game.grid.vacate player.position }.move player position) := by
  obtain ⟨hmem, rfl⟩ := Roster.get?_eq_some_iff.mp hget
  have hknown : player.id ∈ game.roster.ids := List.mem_map_of_mem hmem
  have hprevious : ∀ previous ∈ player.position, game.grid.Contains previous :=
    fun previous hposition => h.contains ((Roster.positionOf?_of_get? hget).trans hposition)
  refine ⟨fun other hother => ?_, Roster.get?_replace hknown, Roster.ids_replace .., by simp [move],
    rfl⟩
  have hvacated : (game.grid.vacate player.position).Contains other :=
    Grid.contains_vacate.mpr hother
  have hgrid := h.rowMajor.vacate player.position
  rw [cell_eq_ok (hgrid.put position (some player.id)) (Grid.contains_put.mpr hvacated),
    cell_eq_ok h.rowMajor hother]
  simp only [move]
  -- a cell is written at most twice, once to free it and once to fill it
  rw [hgrid.playerAt_put (Grid.contains_vacate.mpr hcontains) hvacated,
    h.rowMajor.playerAt_vacate hprevious hother]
  split_ifs with hsame hleft
  · rw [hsame]
  · rfl
  · rfl

theorem positionOf?_of_moves (h : game.Moves player position moved) (id : UInt32) :
    moved.roster.positionOf? id
      = if id = player.id then some position else game.roster.positionOf? id := by
  rw [Roster.positionOf?, h.get?_eq]
  split_ifs <;> rfl

theorem Moves.contains_iff (h : game.Moves player position moved) {other : Position} :
    moved.grid.Contains other ↔ game.grid.Contains other := by
  simp [Grid.Contains, h.measures_eq]

theorem Moves.playerAt_eq (h : game.Moves player position moved) (hbefore : game.grid.RowMajor)
    (hafter : moved.grid.RowMajor) {other : Position} (hother : game.grid.Contains other) :
    moved.grid.playerAt (moved.grid.index other)
      = if other = position then some player.id
        else if player.position = some other then none
        else game.grid.playerAt (game.grid.index other) := by
  have hcell := h.cell_eq other hother
  rw [cell_eq_ok hafter (h.contains_iff.mpr hother), cell_eq_ok hbefore hother] at hcell
  split_ifs at hcell ⊢
  · exact congrArg Cell.player (Except.ok.inj hcell)
  · exact congrArg Cell.player (Except.ok.inj hcell)
  · exact congrArg Cell.player (Except.ok.inj hcell)

/-- A move to a cell on which nobody else stands keeps grid and roster consistent. -/
theorem Consistent.of_moves (h : game.Consistent) (hget : game.roster.get? player.id = some player)
    (hfree : ∀ other, game.roster.positionOf? other = some position → other = player.id)
    (hcontains : game.grid.Contains position) (hrowMajor : moved.grid.RowMajor)
    (hmoves : game.Moves player position moved) : moved.Consistent := by
  have hposition : game.roster.positionOf? player.id = player.position :=
    Roster.positionOf?_of_get? hget
  refine ⟨hrowMajor, ?_, ?_⟩
  · intro other hother id
    have hon := hmoves.contains_iff.mp hother
    rw [hmoves.playerAt_eq h.rowMajor hrowMajor hon, positionOf?_of_moves hmoves]
    by_cases hsame : other = position
    · -- the cell that the player was placed on
      subst hsame
      rw [if_pos rfl]
      split_ifs with hid
      · simp [hid]
      · exact iff_of_false (fun hsome => hid (Option.some.inj hsome).symm) (mt (hfree id) hid)
    · rw [if_neg hsame]
      by_cases hid : id = player.id
      · -- the player stands on no other cell
        rw [if_pos hid]
        refine iff_of_false ?_ fun hthere => hsame (Option.some.inj hthere).symm
        split_ifs with hleft
        · nofun
        · rwa [hid, h.standing_iff hon, hposition]
      · -- anybody else stands where it stood, and not on the cell that the player left
        rw [if_neg hid, ← h.standing_iff hon]
        split_ifs with hleft
        · refine iff_of_false nofun fun hthere => hid ?_
          exact h.eq_of_positionOf? ((h.standing_iff hon id).mp hthere) (hposition.trans hleft)
        · rfl
  · intro id other hstands
    rw [positionOf?_of_moves hmoves] at hstands
    rw [hmoves.contains_iff]
    split_ifs at hstands
    · rwa [← Option.some.inj hstands]
    · exact h.contains hstands

theorem place_of_unknown (h : game.roster.get? id = none) (position : Position) :
    game.place id position = .error (.unknownPlayer id) := by
  simp only [place, h]

theorem place_of_offGrid (hget : game.roster.get? id = some player)
    (h : ¬ game.grid.Contains position) :
    game.place id position = .error (game.offGrid position) := by
  simp only [place, hget, cell_eq_offGrid h]

theorem Consistent.place_of_occupied (h : game.Consistent)
    (hget : game.roster.get? id = some player) (hcontains : game.grid.Contains position)
    {occupant : UInt32} (hstands : game.roster.positionOf? occupant = some position)
    (hother : occupant ≠ id) :
    game.place id position = .error (.positionOccupied position occupant) := by
  have hplayer := (h.standing_iff hcontains occupant).mpr hstands
  have hfound : (Cell.mk position (some occupant)).otherThan? id = some occupant :=
    if_pos (by simpa using hother)
  simp only [place, hget, cell_eq_ok h.rowMajor hcontains, hplayer, hfound]

theorem Consistent.place_of_free (h : game.Consistent) (hget : game.roster.get? id = some player)
    (hcontains : game.grid.Contains position)
    (hfree : ∀ other, game.roster.positionOf? other = some position → other = id) :
    game.place id position
      = .ok ({ game with grid := game.grid.vacate player.position }.move player position) := by
  -- the cell is empty, or it holds the player itself
  have hnobody : (Cell.mk position (game.grid.playerAt (game.grid.index position))).otherThan? id
      = none := by
    rw [Cell.otherThan?, Option.filter_eq_none_iff]
    intro occupant hoccupant
    have hsame := hfree occupant ((h.standing_iff hcontains occupant).mp hoccupant)
    simp [hsame]
  simp only [place, hget, cell_eq_ok h.rowMajor hcontains, hnobody]
  cases hposition : player.position with
  | none => rfl
  | some previous =>
    have hprevious : game.grid.Contains previous :=
      h.contains ((Roster.positionOf?_of_get? hget).trans hposition)
    simp only [putOnCell, if_pos hprevious]
    rfl

/-- Placing a player succeeds with a move, or it says what is in the way: that nobody has the id,
that the position is off the grid, or who else stands there. -/
theorem Consistent.place_cases (h : game.Consistent) (id : UInt32) (position : Position) :
    (game.roster.get? id = none ∧ game.place id position = .error (.unknownPlayer id))
    ∨ ∃ player, game.roster.get? id = some player
      ∧ ((¬ game.grid.Contains position
          ∧ game.place id position = .error (game.offGrid position))
        ∨ (game.grid.Contains position ∧ ∃ occupant ≠ id,
          game.roster.positionOf? occupant = some position
          ∧ game.place id position = .error (.positionOccupied position occupant))
        ∨ (game.grid.Contains position
          ∧ (∀ other, game.roster.positionOf? other = some position → other = id)
          ∧ ∃ moved, game.place id position = .ok moved ∧ moved.grid.RowMajor
            ∧ game.Moves player position moved)) := by
  cases hget : game.roster.get? id with
  | none => exact .inl ⟨rfl, place_of_unknown hget position⟩
  | some player =>
    refine .inr ⟨player, rfl, ?_⟩
    by_cases hcontains : game.grid.Contains position
    · refine .inr ?_
      by_cases hfree : ∀ other, game.roster.positionOf? other = some position → other = id
      · exact .inr ⟨hcontains, hfree, _, h.place_of_free hget hcontains hfree,
          (h.rowMajor.vacate player.position).put position (some player.id),
          h.moves hget hcontains⟩
      · obtain ⟨occupant, hstands, hother⟩ : ∃ occupant,
            game.roster.positionOf? occupant = some position ∧ occupant ≠ id := by
          simpa using hfree
        exact .inl ⟨hcontains, occupant, hother, hstands,
          h.place_of_occupied hget hcontains hstands hother⟩
    · exact .inl ⟨hcontains, place_of_offGrid hget hcontains⟩

/-- What the answers to placing a player mean. A refusal changes nothing. -/
structure PlacesAsTold (game : Game) (id : UInt32) (position : Position) : Prop where
  unknown_iff : game.place id position = .error (.unknownPlayer id) ↔ game.roster.get? id = none
  offGrid_iff : game.place id position = .error (game.offGrid position)
    ↔ game.roster.get? id ≠ none ∧ ¬ game.grid.Contains position
  occupied_iff : ∀ occupant, game.place id position = .error (.positionOccupied position occupant)
    ↔ game.roster.get? id ≠ none ∧ game.grid.Contains position ∧ occupant ≠ id
      ∧ game.roster.positionOf? occupant = some position
  moves : ∀ moved, game.place id position = .ok moved →
    ∃ player, game.roster.get? id = some player ∧ game.Moves player position moved
  refused : ∀ refusal, game.place id position = .error refusal →
    game.after (.place id position) = game
    ∧ (refusal = .unknownPlayer id ∨ refusal = game.offGrid position
      ∨ ∃ occupant, refusal = .positionOccupied position occupant)

theorem Consistent.placesAsTold (h : game.Consistent) (id : UInt32) (position : Position) :
    game.PlacesAsTold id position := by
  rcases h.place_cases id position with
    ⟨hget, hplace⟩ | ⟨player, hget, ⟨hoff, hplace⟩ | ⟨hon, occupant, hother, hstands, hplace⟩
      | ⟨hon, hfree, moved, hplace, -, hmoves⟩⟩
  · refine ⟨?_, ?_, ?_, ?_, ?_⟩ <;> simp [Game.after, hplace, hget, offGrid]
  · refine ⟨?_, ?_, ?_, ?_, ?_⟩ <;> simp [Game.after, hplace, hget, offGrid, hoff]
  · -- only one player stands on the cell, so the refusal names the one there is
    have hoccupant : ∀ other, occupant = other
        ↔ other ≠ id ∧ game.roster.positionOf? other = some position := by
      refine fun other => ⟨?_, fun hthere => h.eq_of_positionOf? hstands hthere.2⟩
      rintro rfl
      exact ⟨hother, hstands⟩
    refine ⟨by simp [hplace, hget], by simp [hplace, offGrid, hon],
      fun other => by simp [hplace, hget, hon, hoccupant], by simp [hplace], ?_⟩
    intro refusal hrefusal
    cases hplace.symm.trans hrefusal
    exact ⟨by simp only [Game.after, hplace], .inr (.inr ⟨occupant, rfl⟩)⟩
  · have hnobody : ∀ other, other ≠ id → game.roster.positionOf? other ≠ some position :=
      fun other hother hthere => hother (hfree other hthere)
    refine ⟨?_, ?_, ?_, ?_, ?_⟩ <;>
      simp +contextual [Game.after, hplace, hget, offGrid, hon, hmoves, hnobody]

/-- No call makes grid and roster disagree. -/
theorem Consistent.after (h : game.Consistent) (call : Call) : (game.after call).Consistent := by
  cases call with
  | register id now =>
    by_cases htaken : id ∈ game.roster.ids
    · have hinsert : game.roster.insert? (.joining id none now) = none := dif_pos htaken
      simpa only [Game.after, register?, hinsert, Option.map_none] using h
    · obtain ⟨roster, hinsert, hplayers⟩ :=
        Roster.insert?_eq_some (.joining id none now) htaken
      simp only [Game.after, register?, hinsert, Option.map_some]
      -- whoever joins stands nowhere yet
      exact (samePlaces_of_joined hplayers htaken).consistent h
  | enroll endpoint now =>
    cases henroll : game.enroll endpoint now with
    | error refusal => simpa only [Game.after, henroll] using h
    | ok enrolment =>
      simp only [Game.after, henroll]
      exact (samePlaces_enroll henroll).1.consistent h
  | place id position =>
    rcases h.place_cases id position with
      ⟨-, hplace⟩ | ⟨player, hget, ⟨-, hplace⟩ | ⟨-, occupant, -, -, hplace⟩
        | ⟨hcontains, hfree, moved, hplace, hrowMajor, hmoves⟩⟩
    · simpa only [Game.after, hplace] using h
    · simpa only [Game.after, hplace] using h
    · simpa only [Game.after, hplace] using h
    · obtain rfl := (Roster.get?_eq_some_iff.mp hget).2
      simp only [Game.after, hplace]
      exact h.of_moves hget hfree hcontains hrowMajor hmoves

end Game

end GridSession
