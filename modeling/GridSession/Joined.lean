import GridSession.Bytes.Damage
import GridSession.GameLoop.Basic
import GridSession.Role.Client
import GridSession.Role.Server

namespace GridSession

/-- What the network does to the datagrams of one direction. They are numbered from zero in each
round and direction. A lost datagram is neither damaged nor repeated, and a damaged one may be
repeated. -/
structure Faults where
  lost : List Nat := []
  damaged : List Nat := []
  repeated : List Nat := []
deriving DecidableEq, Inhabited

/-- What arrives of a datagram. -/
def Faults.arrivals (faults : Faults) (number : Nat) (bytes : Bytes) : List Bytes :=
  if number ∈ faults.lost then []
  else
    let bytes := if number ∈ faults.damaged then Damage.last bytes else bytes
    if number ∈ faults.repeated then [bytes, bytes] else [bytes]

/-- A datagram a client sent, with the client's place among the clients. -/
structure Request where
  client : Nat
  outgoing : Outgoing
deriving DecidableEq

structure Joined where
  server : GameLoop Server
  clients : List (GameLoop Client)

/-- What the network and the clients do in one round. -/
structure Conditions where
  now : Nat
  idle : List Nat := []
  requests : Faults := {}
  replies : Faults := {}
deriving DecidableEq, Inhabited

/-- What a round shows: the answers of the ticks, with `none` for an idle client, the datagrams as
they were sent, and the notes of all loops in order of happening. -/
structure Round where
  clientsGoOn : List (Option Bool) := []
  serverGoesOn : Bool := true
  requests : List Request := []
  replies : List Outgoing := []
  journal : List Note := []

namespace Joined

def start (params : GameParams) (configs : List ClientConfig) : Joined where
  server := .start params {}
  clients := configs.map fun config => .start {} { config }

/-- A new server with its clients, unless the server's game is too large for memory. -/
def start? (params : GameParams) (configs : List ClientConfig) : Option Joined :=
  if params.Fits then some (start params configs) else none

/-- Hands datagrams of one sender to a loop. -/
def feed {δ : Type} (sender : SocketAddress) (loop : GameLoop δ) (arrivals : List Bytes) :
    GameLoop δ :=
  arrivals.foldl (fun loop bytes => loop.onDatagram ⟨sender, bytes⟩) loop

/-- What arrives of datagrams that are numbered from `first` on. -/
def arrivalsFrom (faults : Faults) (first : Nat) (sent : List Outgoing) : List Outgoing :=
  (sent.zipIdx first).flatMap fun (outgoing, number) =>
    (faults.arrivals number outgoing.bytes).map (⟨outgoing.target, ·⟩)

/-- One client's turn in a round. -/
def clientTurn (conditions : Conditions) (index : Nat) (client : GameLoop Client)
    (server : GameLoop Server) (round : Round) : GameLoop Client × GameLoop Server × Round :=
  if index ∈ conditions.idle then
    (client, server, { round with clientsGoOn := round.clientsGoOn ++ [none] })
  else
    let (client, goesOn) := client.tick conditions.now
    let (sent, client) := client.takeSent
    let (clientNotes, client) := client.takeJournal
    let arrivals := arrivalsFrom conditions.requests round.requests.length sent
    let sender := SocketAddress.v4 client.driver.config.clientAddress
    let (serverNotes, server) := (feed sender server (arrivals.map Outgoing.bytes)).takeJournal
    (client, server, { round with
      clientsGoOn := round.clientsGoOn ++ [some goesOn]
      requests := round.requests ++ sent.map (⟨index, ·⟩)
      journal := round.journal ++ clientNotes ++ serverNotes })

def clientTurns (conditions : Conditions) :
    Nat → List (GameLoop Client) → GameLoop Server → Round →
      List (GameLoop Client) × GameLoop Server × Round
  | _, [], server, round => ([], server, round)
  | index, client :: rest, server, round =>
    let (client, server, round) := clientTurn conditions index client server round
    let (rest, server, round) := clientTurns conditions (index + 1) rest server round
    (client :: rest, server, round)

/-- Hands a reply to a client if it is the target, and takes the client's notes. -/
def receiveReply (reply : Outgoing) (client : GameLoop Client) : GameLoop Client × List Note :=
  let config := client.driver.config
  if reply.target = .v4 config.clientAddress then
    let (notes, client) := (client.onDatagram ⟨config.serverAddress, reply.bytes⟩).takeJournal
    (client, notes)
  else (client, [])

/-- Hands replies to all their targets, one reply after another. -/
def deliverReplies :
    List Outgoing → List (GameLoop Client) → List (GameLoop Client) × List Note
  | [], clients => (clients, [])
  | reply :: rest, clients =>
    let received := clients.map (receiveReply reply)
    let (clients, notes) := deliverReplies rest (received.map Prod.fst)
    (clients, received.flatMap Prod.snd ++ notes)

def serverTurn (conditions : Conditions) (clients : List (GameLoop Client))
    (server : GameLoop Server) (round : Round) : Joined × Round :=
  let (server, goesOn) := server.tick conditions.now
  let (replies, server) := server.takeSent
  let (serverNotes, server) := server.takeJournal
  let (clients, clientNotes) :=
    deliverReplies (arrivalsFrom conditions.replies 0 replies) clients
  (⟨server, clients⟩, { round with
    serverGoesOn := goesOn
    replies
    journal := round.journal ++ serverNotes ++ clientNotes })

/-- Every client that is not idle ticks and its requests travel to the server. Then the server ticks
and its replies travel to the clients they are addressed to. -/
def round (joined : Joined) (conditions : Conditions) : Joined × Round :=
  let (clients, server, round) := clientTurns conditions 0 joined.clients joined.server {}
  serverTurn conditions clients server round

/-- One client leaves for good. -/
def disconnect (joined : Joined) (index : Nat) : Joined × List Note :=
  match joined.clients[index]? with
  | none => (joined, [])
  | some client =>
    let left := { client with toStation := Client.disconnect client.toStation }
    let (notes, left) := left.takeJournal
    ({ joined with clients := joined.clients.set index left }, notes)

end Joined

end GridSession
