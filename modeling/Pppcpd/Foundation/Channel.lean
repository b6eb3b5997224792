import Mathlib.Data.List.Basic

namespace Pppcpd
namespace Foundation

/-!
# Channels that delay, reorder, duplicate and lose

A channel is the list of the messages in flight.  Any of them may be the next
to arrive, so the order of the list is only a way to name them.  By itself a
channel makes copies of messages and loses them, but it invents none.
-/

variable {Message : Type*}

/-- What a channel does to a message in flight by itself. -/
inductive Fault
  | duplicate (index : Nat)
  | lose (index : Nat)
  deriving DecidableEq, Repr

/-- Take a message out of a channel. -/
def takeMessage (flight : List Message) (index : Nat) : Option (Message × List Message) :=
  (flight[index]?).map (fun message => (message, flight.eraseIdx index))

/-- The messages in flight after a fault. -/
def disturb (flight : List Message) : Fault -> List Message
  | .duplicate index => flight ++ (flight[index]?).toList
  | .lose index => flight.eraseIdx index

/-- A message that arrives was in flight, and so were those that remain. -/
theorem mem_of_takeMessage {flight rest : List Message} {index : Nat} {message : Message}
    (arrives : takeMessage flight index = some (message, rest)) :
    message ∈ flight ∧ forall other, other ∈ rest -> other ∈ flight := by
  rcases Option.map_eq_some_iff.mp arrives with ⟨found, isFound, equal⟩
  have parts := Prod.mk.inj equal
  rw [← parts.1, ← parts.2]
  exact ⟨List.mem_of_getElem? isFound, fun _ member => List.mem_of_mem_eraseIdx member⟩

/-- A channel invents nothing. -/
theorem mem_of_mem_disturb {flight : List Message} {fault : Fault} {message : Message}
    (member : message ∈ disturb flight fault) : message ∈ flight := by
  cases fault with
  | duplicate index =>
      rcases List.mem_append.mp member with there | copied
      · exact there
      · exact List.mem_of_getElem? (Option.mem_toList.mp copied)
  | lose index => exact List.mem_of_mem_eraseIdx member

/-- Every message in flight can be the next to arrive. -/
theorem exists_takeMessage {flight : List Message} {message : Message} (member : message ∈ flight) :
    ∃ index rest, takeMessage flight index = some (message, rest) := by
  rcases List.mem_iff_getElem?.mp member with ⟨index, found⟩
  refine ⟨index, flight.eraseIdx index, ?_⟩
  rw [takeMessage, found, Option.map_some]

end Foundation
end Pppcpd
