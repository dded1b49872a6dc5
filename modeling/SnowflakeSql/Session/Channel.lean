import SnowflakeSql.Error
import SnowflakeSql.Json.Basic

/-!
# Channels

A `Channel` carries rows, and at the end perhaps an error, from a stream to whoever reads it.
It holds a limited number of deliveries, oldest first.  Sending fails when the receiver is
gone and has to wait when the channel is full; receiving finds the channel closed when nothing
is left and the sender is gone.
-/

namespace SnowflakeSql

/-- A row, or the error that ends the rows. -/
abbrev Delivery := Except DriverError Json

/-- A queue of limited length between a sender and a receiver. -/
structure Channel where
  capacity : Nat
  waiting : List Delivery := []
  receiverGone : Bool := false
  senderGone : Bool := false

/-- What a receiver finds. -/
inductive Received where
  | item (delivery : Delivery)
  | empty
  | closed

namespace Channel

/-- How many deliveries there is room for. -/
def room (channel : Channel) : Nat := channel.capacity - channel.waiting.length

/-- The channel with one more delivery. -/
def push (channel : Channel) (delivery : Delivery) : Channel :=
  { channel with waiting := channel.waiting ++ [delivery] }

/-- Takes one delivery, without waiting for it. -/
def receive (channel : Channel) : Received × Channel :=
  match channel.waiting with
  | delivery :: rest => (.item delivery, { channel with waiting := rest })
  | [] => (if channel.senderGone then .closed else .empty, channel)

/-- The channel after the receiver has gone; what was waiting is lost. -/
def dropReceiver (channel : Channel) : Channel :=
  { channel with waiting := [], receiverGone := true }

/-- The channel after the sender has gone. -/
def dropSender (channel : Channel) : Channel := { channel with senderGone := true }

theorem room_push (channel : Channel) (delivery : Delivery) :
    (channel.push delivery).room = channel.room - 1 := by
  simp only [room, push, List.length_append, List.length_singleton]
  omega

end Channel

end SnowflakeSql
