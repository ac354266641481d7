import GridSession.Proofs.Player.SentRecord
import GridSession.Proofs.Player.Sessions

namespace GridSession

theorem Frame.field_wrap (offset width : Nat) (body : Bytes) :
    BigEndian.field (Header.width + offset) width (wrap body)
      = BigEndian.field offset width body := by
  have hbehind : (wrap body).drop (Header.width + offset) = body.drop offset := by
    rw [wrap, ← List.drop_drop, List.drop_left' (Header.length_toBytes _)]
  rw [BigEndian.field, hbehind, BigEndian.field]

namespace Outgoing

def actionCode (outgoing : Outgoing) : Nat :=
  BigEndian.field 14 4 outgoing.bytes

def messageId (outgoing : Outgoing) : UInt32 :=
  UInt32.ofNat (BigEndian.field 18 4 outgoing.bytes)

def keyed (outgoing : Outgoing) : UInt32 × Bytes :=
  (outgoing.messageId, outgoing.bytes)

section Envelope

variable {α : Type} [Payload α] (target : SocketAddress) (envelope : Envelope α)

theorem actionCode_wrap_body :
    actionCode ⟨target, Frame.wrap envelope.body⟩ = (Payload.action α).code :=
  (Frame.field_wrap 0 4 _).trans envelope.field_action_body

theorem messageId_wrap_body :
    messageId ⟨target, Frame.wrap envelope.body⟩ = envelope.message.id :=
  (congrArg UInt32.ofNat (Frame.field_wrap 4 4 _)).trans envelope.field_id_body

end Envelope

end Outgoing

namespace Transport

/-- Of numbered datagrams those that a schedule lets through. -/
def passed (fails : Nat → Bool) (tries : List (Outgoing × Nat)) : List Outgoing :=
  (tries.filter fun numbered => !fails numbered.2).map Prod.fst

/-- The datagrams of one kind among all, numbered from zero on. -/
def numbered (kind : Outgoing → Bool) (tried : List Outgoing) : List (Outgoing × Nat) :=
  tried.zipIdx.filter (kind ·.1)

section Numbered

variable {kind : Outgoing → Bool} {tried : List Outgoing} {outgoing : Outgoing}

theorem numbered_concat (hkind : kind outgoing = true) :
    numbered kind (tried ++ [outgoing]) = numbered kind tried ++ [(outgoing, tried.length)] := by
  simp [numbered, List.zipIdx_append, hkind]

theorem numbered_concat_of_not (hkind : kind outgoing = false) :
    numbered kind (tried ++ [outgoing]) = numbered kind tried := by
  simp [numbered, List.zipIdx_append, hkind]

theorem numbered_eq_nil (h : ∀ outgoing ∈ tried, kind outgoing = false) :
    numbered kind tried = [] := by
  refine List.filter_eq_nil_iff.mpr fun entry hmem => ?_
  rw [h entry.1 (List.fst_mem_of_mem_zipIdx hmem)]
  exact Bool.false_ne_true

theorem length_numbered (kind : Outgoing → Bool) (tried : List Outgoing) :
    (numbered kind tried).length = (tried.filter kind).length := by
  rw [numbered, ← List.countP_eq_length_filter, ← List.countP_eq_length_filter]
  conv_rhs => rw [← tried.zipIdx_map_fst 0, List.countP_map]
  rfl

/-- What a schedule lets through of one kind is what of all it lets through is of that kind. -/
theorem passed_numbered (fails : Nat → Bool) (kind : Outgoing → Bool) (tried : List Outgoing) :
    passed fails (numbered kind tried) = (letThrough fails 0 tried).filter kind := by
  rw [passed, numbered, letThrough, List.filter_map, List.filter_filter, List.filter_filter]
  simp only [Function.comp_def, Bool.and_comm]

end Numbered

end Transport

/-- The first ids of a count differ until it comes round. -/
theorem nodup_ofNat_range {count : Nat} (h : count ≤ UInt32.size) :
    ((List.range count).map UInt32.ofNat).Nodup := by
  refine List.Nodup.map_on (fun first hfirst second hsecond hsame => ?_) List.nodup_range
  rw [List.mem_range] at hfirst hsecond
  have hnumber := congrArg UInt32.toNat hsame
  rwa [UInt32.toNat_ofNat_of_lt' (by omega), UInt32.toNat_ofNat_of_lt' (by omega)] at hnumber

namespace Player

/-- After these numbered tries to send something through a player, each took the next message id,
and while no id comes back those that went out are retained, as many as there is room for. -/
structure Tracks (fails : Nat → Bool) (tries : List (Outgoing × Nat)) (player : Player) : Prop where
  nextMessage_eq : player.nextMessage = UInt32.ofNat tries.length
  ids_eq : tries.map (·.1.messageId) = (List.range tries.length).map UInt32.ofNat
  capacity_eq : player.sent.capacity = 32
  entries_eq : tries.length < 4294967296 →
    player.sent.entries = ((Transport.passed fails tries).rtake 32).map Outgoing.keyed

/-- The last 32 of the datagrams that were sent through a player are retained, each under the id
that is written in it. Under no other id is anything found, so under none of a failed send. -/
structure RetainsLast (sent failed : List Outgoing) (player : Player) : Prop where
  entries_eq : player.sent.entries = (sent.rtake 32).map Outgoing.keyed
  get?_of_mem : ∀ outgoing ∈ sent.rtake 32,
    player.sent.get? outgoing.messageId = some outgoing.bytes
  get?_eq_none : ∀ id, id ∉ (sent.rtake 32).map Outgoing.messageId → player.sent.get? id = none
  get?_failed : ∀ outgoing ∈ failed, player.sent.get? outgoing.messageId = none

namespace Tracks

variable {fails : Nat → Bool} {tries : List (Outgoing × Nat)} {player other : Player}
  {outgoing : Outgoing} {number : Nat}

theorem joining (fails : Nat → Bool) (id : UInt32) (endpoint : Option SocketAddress) (now : Nat) :
    Tracks fails [] (.joining id endpoint now) :=
  ⟨rfl, rfl, rfl, fun _ => rfl⟩

theorem congr (h : Tracks fails tries player) (hnext : other.nextMessage = player.nextMessage)
    (hsent : other.sent = player.sent) : Tracks fails tries other := by
  obtain ⟨hcount, hids, hcapacity, hentries⟩ := h
  rw [← hnext] at hcount
  rw [← hsent] at hcapacity hentries
  exact ⟨hcount, hids, hcapacity, hentries⟩

theorem nodup_ids (h : Tracks fails tries player) (hlt : tries.length < 4294967296) :
    (tries.map (·.1.messageId)).Nodup := by
  rw [h.ids_eq]
  exact nodup_ofNat_range (Nat.le_of_lt hlt)

theorem ids_concat (h : Tracks fails tries player) (hid : outgoing.messageId = player.nextMessage) :
    (tries ++ [(outgoing, number)]).map (·.1.messageId)
      = (List.range (tries ++ [(outgoing, number)]).length).map UInt32.ofNat := by
  simp [List.range_succ, h.ids_eq, hid, h.nextMessage_eq]

theorem ids_passed_subset :
    (Transport.passed fails tries).map Outgoing.messageId ⊆ tries.map (·.1.messageId) := by
  rw [Transport.passed, List.map_map]
  exact List.map_subset _ List.filter_sublist.subset

theorem ids_sent_subset (h : Tracks fails tries player) (hlt : tries.length < 4294967296) :
    player.sent.ids ⊆ tries.map (·.1.messageId) := by
  have hlast : (Transport.passed fails tries).rtake 32 ⊆ Transport.passed fails tries :=
    List.drop_subset ..
  rw [SentRecord.ids, h.entries_eq hlt, List.map_map]
  exact List.Subset.trans (List.map_subset Outgoing.messageId hlast) ids_passed_subset

/-- While no id comes back the next one is retained nowhere. -/
theorem nextMessage_notMem (h : Tracks fails tries player) (hlt : tries.length + 1 < 4294967296) :
    player.nextMessage ∉ player.sent.ids := by
  intro hmem
  have hold := h.ids_sent_subset (by omega) hmem
  have hnodup : ((List.range (tries.length + 1)).map UInt32.ofNat).Nodup :=
    nodup_ofNat_range (Nat.le_of_lt hlt)
  rw [List.range_succ, List.map_append, ← h.ids_eq, List.map_singleton,
    ← h.nextMessage_eq] at hnodup
  exact List.disjoint_of_nodup_append hnodup hold List.mem_cons_self

theorem failed (h : Tracks fails tries player) (hid : outgoing.messageId = player.nextMessage)
    (hfails : fails number = true) :
    Tracks fails (tries ++ [(outgoing, number)])
      { player with nextMessage := player.nextMessage + 1 } := by
  refine ⟨?_, h.ids_concat hid, h.capacity_eq, fun hlt => ?_⟩
  · rw [List.length_append, UInt32.ofNat_add, ← h.nextMessage_eq]
    rfl
  · have hpassed : Transport.passed fails (tries ++ [(outgoing, number)])
        = Transport.passed fails tries := by
      simp [Transport.passed, hfails]
    rw [List.length_append, List.length_singleton] at hlt
    rw [hpassed]
    exact h.entries_eq (by omega)

/-- A try that goes out is retained behind the others, and the oldest makes room for it. -/
theorem delivered (h : Tracks fails tries player) (hid : outgoing.messageId = player.nextMessage)
    (hworks : fails number = false) :
    Tracks fails (tries ++ [(outgoing, number)])
      { player with
        nextMessage := player.nextMessage + 1
        sent := player.sent.insert outgoing.messageId outgoing.bytes } := by
  have hcapacity : (player.sent.insert outgoing.messageId outgoing.bytes).capacity = 32 := by
    rw [SentRecord.capacity_insert, h.capacity_eq]
  refine ⟨?_, h.ids_concat hid, hcapacity, fun hlt => ?_⟩
  · rw [List.length_append, UInt32.ofNat_add, ← h.nextMessage_eq]
    rfl
  · have hpassed : Transport.passed fails (tries ++ [(outgoing, number)])
        = Transport.passed fails tries ++ [outgoing] := by
      simp [Transport.passed, hworks]
    rw [List.length_append, List.length_singleton] at hlt
    -- an id comes back only after all the others, so it is not among those retained
    have hnew : outgoing.messageId ∉ player.sent.ids := hid ▸ h.nextMessage_notMem hlt
    rw [SentRecord.insert_of_notMem _ _ _ hnew, hpassed]
    dsimp only
    rw [h.capacity_eq, h.entries_eq (by omega), map_rtake, map_rtake, List.map_append]
    exact rtake_concat_rtake _

/-- A tracked send under the id that was just taken is one more try. -/
theorem sendTracked {α : Type} [Payload α] {transport : Transport} {target : SocketAddress}
    {envelope : Envelope α} (h : Tracks transport.fails tries player)
    (hid : envelope.message.id = player.nextMessage) :
    Tracks transport.fails
      (tries ++ [(⟨target, Frame.wrap envelope.body⟩, transport.attempts)])
      (player.takeMessageId.2.sendTracked transport target envelope).player := by
  let outgoing : Outgoing := ⟨target, Frame.wrap envelope.body⟩
  have hkey : outgoing.messageId = envelope.message.id :=
    Outgoing.messageId_wrap_body target envelope
  rw [sendTracked_eq]
  cases hfails : transport.fails transport.attempts with
  | true =>
    simp only [Transport.send, hfails, if_true]
    exact h.failed (hkey.trans hid) hfails
  | false =>
    simp only [Transport.send, hfails, Bool.false_eq_true, if_false]
    rw [← hkey]
    exact h.delivered (hkey.trans hid) hfails

theorem retainsLast (h : Tracks fails tries player) (hlt : tries.length < 4294967296) :
    player.RetainsLast (Transport.passed fails tries)
      (Transport.passed (fun number => !fails number) tries) := by
  have hnodup := h.nodup_ids hlt
  have hentries := h.entries_eq hlt
  have hkeys : player.sent.entries.map Prod.fst
      = ((Transport.passed fails tries).rtake 32).map Outgoing.messageId := by
    rw [hentries, List.map_map]
    rfl
  have hdistinct : (player.sent.entries.map Prod.fst).Nodup := by
    rw [hkeys, Transport.passed, map_rtake, List.map_map]
    exact (hnodup.sublist (List.filter_sublist.map _)).sublist (List.drop_sublist ..)
  have hnone : ∀ id, id ∉ ((Transport.passed fails tries).rtake 32).map Outgoing.messageId →
      player.sent.get? id = none := by
    intro id habsent
    rw [← hkeys] at habsent
    exact SentRecord.get?_eq_none habsent
  refine ⟨hentries, fun outgoing hmem => ?_, hnone, fun outgoing hmem => hnone _ ?_⟩
  · have hentry : outgoing.keyed ∈ player.sent.entries := hentries ▸ List.mem_map_of_mem hmem
    have hfound : player.sent.entries.find? (·.1 == outgoing.messageId) = some outgoing.keyed :=
      find?_of_nodup_map hdistinct hentry
    rw [SentRecord.get?, hfound]
    rfl
  · -- an id is taken by one try, and that cannot have gone out and failed
    obtain ⟨refused, hrefused, rfl⟩ := List.mem_map.mp hmem
    obtain ⟨htried, hfails⟩ := List.mem_filter.mp hrefused
    intro hretained
    obtain ⟨other, hlast, hid⟩ := List.mem_map.mp hretained
    obtain ⟨passed, hpassed, rfl⟩ := List.mem_map.mp (List.mem_of_mem_drop hlast)
    obtain ⟨htried', hworks⟩ := List.mem_filter.mp hpassed
    obtain rfl := List.inj_on_of_nodup_map hnodup htried' htried hid
    exact absurd hworks (by simpa using hfails)

theorem retainsLast_filter {tried : List Outgoing} {kind : Outgoing → Bool}
    (h : Tracks fails (Transport.numbered kind tried) player) :
    player.nextMessage = UInt32.ofNat (tried.filter kind).length
    ∧ ((tried.filter kind).length < 4294967296 →
      player.RetainsLast ((Transport.letThrough fails 0 tried).filter kind)
        ((Transport.letThrough (fun number => !fails number) 0 tried).filter kind)) := by
  rw [← Transport.length_numbered, ← Transport.passed_numbered, ← Transport.passed_numbered]
  exact ⟨h.nextMessage_eq, h.retainsLast⟩

end Tracks

end Player

end GridSession
