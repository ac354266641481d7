import GridSession.Proofs.GameLoop.Run
import GridSession.Role.Client
import GridSession.Role.Server

namespace GridSession

class Orders (δ : Type) where
  Order : Type
  obey : Order → Station δ → Station δ

inductive Client.Order where
  | disconnect

instance : Orders Server where
  Order := Empty
  obey order := nomatch order

instance : Orders Client where
  Order := Client.Order
  obey
    | .disconnect => Client.disconnect

inductive Stimulus (δ : Type) [Orders δ] where
  | datagram (datagram : Datagram)
  | tick (now : Nat)
  | order (order : Orders.Order δ)

namespace GameLoop

variable {δ : Type} [Role δ] [Orders δ]

def respond (loop : GameLoop δ) : Stimulus δ → GameLoop δ
  | .datagram datagram => loop.onDatagram datagram
  | .tick now => (loop.tick now).1
  | .order order => { loop with toStation := Orders.obey order loop.toStation }

def respondAll (loop : GameLoop δ) (history : List (Stimulus δ)) : GameLoop δ :=
  history.foldl respond loop

def answer? (loop : GameLoop δ) : Stimulus δ → Option Bool
  | .tick now => some (loop.tick now).2
  | _ => none

def answers (loop : GameLoop δ) : List (Stimulus δ) → List Bool
  | [] => []
  | stimulus :: rest => (loop.answer? stimulus).toList ++ (loop.respond stimulus).answers rest

theorem respondAll_append (loop : GameLoop δ) (history later : List (Stimulus δ)) :
    loop.respondAll (history ++ later) = (loop.respondAll history).respondAll later :=
  List.foldl_append ..

theorem answers_append (loop : GameLoop δ) (history later : List (Stimulus δ)) :
    loop.answers (history ++ later)
      = loop.answers history ++ (loop.respondAll history).answers later := by
  induction history generalizing loop with
  | nil => rfl
  | cons stimulus rest ih =>
    rw [List.cons_append, answers, answers, ih, List.append_assoc]
    rfl

end GameLoop

end GridSession
