import GridSession.Player.Delivery
import GridSession.Player.Roster
import GridSession.Proofs.Envelope.RoundTrip
import GridSession.Proofs.Transport
import Mathlib.Data.List.Nodup

namespace GridSession

structure Session where
  id : UInt32
  endpoint : Option SocketAddress
  connectedAt : Nat
deriving DecidableEq

namespace Player

def session (player : Player) : Session :=
  ⟨player.id, player.endpoint, player.connectedAt⟩

section Delivery

variable {α : Type} [Payload α] (player : Player) (transport : Transport) (target : SocketAddress)
  (envelope : Envelope α)

theorem sendTracked_eq :
    player.sendTracked transport target envelope
      = match transport.send ⟨target, Frame.wrap envelope.body⟩ with
        | (.ok (), transport) =>
          ⟨true, { player with
              sent := player.sent.insert envelope.message.id (Frame.wrap envelope.body) },
            transport, envelope.stamped,
            .messageSent (Payload.action α) envelope.message.id player.id target⟩
        | (.error error, transport) =>
          ⟨false, player, transport, envelope.stamped,
            .sendingFailed (Payload.action α) player.id target error⟩ := by
  unfold sendTracked
  rw [Envelope.toBytes?_eq]
  rfl

theorem session_sendTracked :
    (player.sendTracked transport target envelope).player.session = player.session := by
  rw [sendTracked_eq]
  split <;> rfl

theorem nextMessage_sendTracked :
    (player.sendTracked transport target envelope).player.nextMessage = player.nextMessage := by
  rw [sendTracked_eq]
  split <;> rfl

theorem lastMessage_sendTracked :
    (player.sendTracked transport target envelope).player.lastMessage = player.lastMessage := by
  rw [sendTracked_eq]
  split <;> rfl

theorem transport_sendTracked :
    (player.sendTracked transport target envelope).transport
      = (transport.send ⟨target, Frame.wrap envelope.body⟩).2 := by
  rw [sendTracked_eq]
  split <;> rename_i hsend <;> rw [hsend]

theorem note_sendTracked :
    (player.sendTracked transport target envelope).note
        = .messageSent (Payload.action α) envelope.message.id player.id target
      ∨ ∃ error, (player.sendTracked transport target envelope).note
        = .sendingFailed (Payload.action α) player.id target error := by
  rw [sendTracked_eq]
  split
  · exact .inl rfl
  · exact .inr ⟨_, rfl⟩

end Delivery

end Player

theorem find?_of_nodup_map {α κ : Type} [BEq κ] [LawfulBEq κ] {key : α → κ} {entries : List α}
    {entry : α} (hnodup : (entries.map key).Nodup) (hmem : entry ∈ entries) :
    entries.find? (key · == key entry) = some entry := by
  cases hfound : entries.find? (key · == key entry) with
  | none =>
    have habsent := List.find?_eq_none.mp hfound entry hmem
    exact absurd (by simp) habsent
  | some found =>
    have hkey : key found = key entry := by simpa using List.find?_some hfound
    have hmem' := List.mem_of_find?_eq_some hfound
    rw [List.inj_on_of_nodup_map hnodup hmem' hmem hkey]

namespace Roster

variable {roster grown : Roster} {player other : Player}

def sessions (roster : Roster) : List Session :=
  roster.players.map Player.session

@[simp] theorem length_sessions (roster : Roster) : roster.sessions.length = roster.size :=
  List.length_map ..

theorem map_id_sessions (roster : Roster) : roster.sessions.map Session.id = roster.ids :=
  List.map_map ..

theorem map_endpoint_sessions (roster : Roster) :
    roster.sessions.map Session.endpoint = roster.players.map Player.endpoint :=
  List.map_map ..

theorem get?_eq_some_iff {id : UInt32} :
    roster.get? id = some player ↔ player ∈ roster.players ∧ player.id = id := by
  constructor
  · intro h
    exact ⟨List.mem_of_find?_eq_some h, by simpa using List.find?_some h⟩
  · rintro ⟨hmem, rfl⟩
    exact find?_of_nodup_map roster.nodup_ids hmem

theorem mem_sessions_of_get? {id : UInt32} (h : roster.get? id = some player) :
    player.session ∈ roster.sessions :=
  List.mem_map_of_mem (get?_eq_some_iff.mp h).1

theorem exists_get?_of_mem_sessions {session : Session} (h : session ∈ roster.sessions) :
    ∃ player, roster.get? session.id = some player ∧ player.session = session := by
  obtain ⟨player, hmem, rfl⟩ := List.mem_map.mp h
  exact ⟨player, get?_eq_some_iff.mpr ⟨hmem, rfl⟩, rfl⟩

theorem withEndpoint?_eq_some {endpoint : SocketAddress}
    (h : roster.withEndpoint? endpoint = some player) :
    player ∈ roster.players ∧ player.endpoint = some endpoint :=
  ⟨List.mem_of_find?_eq_some h, by simpa using List.find?_some h⟩

theorem withEndpoint?_eq_none_iff {endpoint : SocketAddress} :
    roster.withEndpoint? endpoint = none
      ↔ some endpoint ∉ roster.sessions.map Session.endpoint := by
  rw [map_endpoint_sessions, withEndpoint?, List.find?_eq_none]
  simp

theorem ids_replace (roster : Roster) (player : Player) :
    (roster.replace player).ids = roster.ids :=
  map_id_replace ..

theorem sessions_replace (hmem : other ∈ roster.players)
    (hsession : player.session = other.session) :
    (roster.replace player).sessions = roster.sessions := by
  unfold sessions replace
  rw [List.map_map]
  apply List.map_congr_left
  intro member hmember
  simp only [Function.comp_apply]
  split_ifs with hid
  · -- ids are unique, so the replaced member is `other`
    have hother : member.id = other.id := hid.trans (congrArg Session.id hsession)
    rw [hsession, List.inj_on_of_nodup_map roster.nodup_ids hmember hmem hother]
  · rfl

theorem withEndpoint?_of_joined {endpoint : SocketAddress}
    (habsent : some endpoint ∉ roster.players.map Player.endpoint)
    (hendpoint : player.endpoint = some endpoint)
    (hplayers : grown.players = roster.players ++ [player]) :
    grown.withEndpoint? endpoint = some player := by
  have hnone : roster.players.find? (·.endpoint == some endpoint) = none := by
    rw [List.find?_eq_none]
    intro other hmem hother
    exact habsent (List.mem_map.mpr ⟨other, hmem, by simpa using hother⟩)
  rw [withEndpoint?, hplayers, List.find?_append, hnone]
  simp [hendpoint]

theorem mem_ids_of_joined (hplayers : grown.players = roster.players ++ [player]) :
    player.id ∈ grown.ids := by
  rw [ids, hplayers, List.map_append]
  exact List.mem_append_right _ List.mem_cons_self

theorem size_of_joined (hplayers : grown.players = roster.players ++ [player]) :
    grown.size = roster.size + 1 := by
  rw [size, hplayers, List.length_append]
  rfl

theorem insert?_eq_some (player : Player) (h : player.id ∉ roster.ids) :
    ∃ grown, roster.insert? player = some grown ∧ grown.players = roster.players ++ [player] := by
  rw [insert?, dif_neg h]
  exact ⟨_, rfl, rfl⟩

end Roster

end GridSession
