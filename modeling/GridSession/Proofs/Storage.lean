import GridSession.Joined
import GridSession.Proofs.Game.Table

namespace GridSession

theorem GameParams.fits_iff {params : GameParams} :
    params.Fits ↔ Storage.Fits (Game.ofParams params).grid.cells.size Grid.cellOctets := by
  have hsize := (Grid.rowMajor_empty params.width params.height).size_eq
  rw [Game.ofParams, hsize]
  rfl

theorem GameParams.fits_default : ({} : GameParams).Fits := by decide

section Starts

variable {params : GameParams}

theorem Game.ofParams?_eq_some_iff {game : Game} :
    ofParams? params = some game ↔ params.Fits ∧ ofParams params = game := by
  simp [ofParams?]

theorem GameLoop.start?_eq_some_iff {δ : Type} {driver : δ} {loop : GameLoop δ} :
    start? params driver = some loop ↔ params.Fits ∧ start params driver = loop := by
  simp [start?, start, Game.ofParams?_eq_some_iff, and_assoc]

theorem GameLoop.start?_default {δ : Type} (driver : δ) :
    start? {} driver = some (start {} driver) :=
  start?_eq_some_iff.mpr ⟨GameParams.fits_default, rfl⟩

theorem Joined.start?_eq_some_iff {configs : List ClientConfig} {joined : Joined} :
    start? params configs = some joined ↔ params.Fits ∧ start params configs = joined := by
  simp [start?]

/-- All start together exactly if each loop starts on its own. -/
theorem Joined.start?_iff_loops {configs : List ClientConfig} {joined : Joined} :
    start? params configs = some joined
      ↔ GameLoop.start? params {} = some joined.server
        ∧ configs.map (fun config => GameLoop.start? {} { config : Client })
          = joined.clients.map some := by
  obtain ⟨server, clients⟩ := joined
  simp only [start?_eq_some_iff, GameLoop.start?_eq_some_iff, GameLoop.start?_default, start,
    Joined.mk.injEq, and_assoc]
  rw [← Function.comp_def some, ← List.map_map]
  rw [List.map_inj_right (fun _ _ => Option.some.inj)]

theorem SentRecord.ofCapacity?_eq_some_iff {capacity : Nat} {sent : SentRecord} :
    ofCapacity? capacity = some sent ↔ Storage.Fits capacity entryOctets ∧ { capacity } = sent := by
  simp [ofCapacity?]

theorem SentRecord.ofCapacity?_default (id : UInt32) (endpoint : Option SocketAddress) (now : Nat) :
    ofCapacity? defaultCapacity = some (Player.joining id endpoint now).sent :=
  ofCapacity?_eq_some_iff.mpr ⟨by decide, rfl⟩

end Starts

end GridSession
