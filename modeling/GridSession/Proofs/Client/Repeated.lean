import GridSession.Proofs.GameLoop.Omissions

namespace GridSession

inductive Repeats : List Event → List Event → Prop where
  | nil : Repeats [] []
  | once (event : Event) {events repeated : List Event} (h : Repeats events repeated) :
    Repeats (event :: events) (event :: repeated)
  | twice (event : Event) {events repeated : List Event} (h : Repeats events repeated) :
    Repeats (event :: events) (event :: event :: repeated)

theorem Repeats.refl (events : List Event) : Repeats events events := by
  induction events with
  | nil => exact .nil
  | cons event rest ih => exact .once event ih

theorem Repeats.append {events repeated more again : List Event} (h : Repeats events repeated)
    (hmore : Repeats more again) : Repeats (events ++ more) (repeated ++ again) := by
  induction h with
  | nil => exact hmore
  | once event _ ih => exact .once event ih
  | twice event _ ih => exact .twice event ih

namespace Client

variable {station twin : Station Client}

/-- An event changes nothing, or its like comes to nothing from then on. -/
theorem handle_settles (now pending : Nat) (event : Event) (station : Station Client) :
    (station.handle ⟨now, pending⟩ event).SameButJournal station
      ∨ Idle ⟨now, station.handle ⟨now, pending⟩ event, event⟩ := by
  cases event with
  | ping received => exact .inr trivial
  | acknowledge received => exact .inr trivial
  | login received =>
    let told := station.tell (.handling .login received.sender)
    have hsettled : (onLogin ⟨now, pending⟩ received told).SameButJournal station
        ∨ received.envelope.payload.session
          ∈ (onLogin ⟨now, pending⟩ received told).game.roster.ids := by
      rcases onLogin_cases ⟨now, pending⟩ received told with
        ⟨-, hlogin⟩ | ⟨-, -, hlogin⟩ | ⟨-, -, hlogin⟩ | ⟨-, -, hlogin⟩
      · rw [hlogin]
        exact .inl ⟨rfl, rfl, rfl⟩
      · rcases enter_cases now received.envelope.payload.session told with
          ⟨-, henter⟩ | ⟨-, roster, hplayers, henter⟩
        · rw [hlogin, henter]
          exact .inl ⟨rfl, rfl, rfl⟩
        · rw [hlogin, henter]
          exact .inr (Roster.mem_ids_of_joined hplayers)
      · rcases registerRemote_cases now received.envelope.payload.session told with
          ⟨-, hremote⟩ | ⟨-, -, hremote⟩ | ⟨-, -, roster, hplayers, hremote⟩
        · rw [hlogin, hremote]
          exact .inl ⟨rfl, rfl, rfl⟩
        · rw [hlogin, hremote]
          exact .inl ⟨rfl, rfl, rfl⟩
        · rw [hlogin, hremote]
          exact .inr (Roster.mem_ids_of_joined hplayers)
      · rw [hlogin]
        exact .inl ⟨rfl, rfl, rfl⟩
    exact hsettled.imp_right fun hmem => .inr (.inl hmem)

theorem handle_twice (now pending pending' : Nat) (event : Event) (station : Station Client) :
    ((station.handle ⟨now, pending⟩ event).handle ⟨now, pending'⟩ event).SameButJournal
      (station.handle ⟨now, pending⟩ event) := by
  rcases handle_settles now pending event station with hsame | hidle
  · exact overlooks.handle hsame now pending' pending event
  · exact overlooks.idle ⟨now, station.handle ⟨now, pending⟩ event, event⟩ hidle pending'

theorem handleAll_repeats {events repeated : List Event} (h : Repeats events repeated)
    (hsame : station.SameButJournal twin) (now : Nat) :
    (Station.handleAll now repeated station).SameButJournal
      (Station.handleAll now events twin) := by
  induction h generalizing station twin with
  | nil => exact hsame
  | once event _ ih => exact ih (overlooks.handle hsame now _ _ event)
  | twice event _ ih =>
    exact ih ((handle_twice now _ _ event station).trans (overlooks.handle hsame now _ _ event))

/-- A client and one that hears the same, but nothing twice in a row. -/
structure SameButRepeats (loop thin : GameLoop Client) : Prop where
  same : loop.toStation.SameButJournal thin.toStation
  repeats : Repeats thin.inbox loop.inbox

theorem SameButRepeats.tick {loop thin : GameLoop Client} (h : SameButRepeats loop thin)
    (now : Nat) :
    SameButRepeats (loop.tick now).1 (thin.tick now).1 ∧ (loop.tick now).2 = (thin.tick now).2 := by
  obtain ⟨hsame, hanswer⟩ := overlooks.onTick
    (handleAll_repeats h.repeats (GameLoop.counted_same h.same) now) ⟨now, 0⟩
  exact ⟨⟨hsame, .nil⟩, hanswer⟩

end Client

end GridSession
