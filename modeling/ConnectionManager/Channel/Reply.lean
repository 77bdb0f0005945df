import ConnectionManager.Channel.Queue

/-!
The requester's side of a channel request. A reply is delivered at most once and read at most
once; a request that was given up without an answer reads as a disconnection.
-/

namespace ConnectionManager

namespace Reply

/-- What the requester finds when nobody will answer any more. -/
def dropped : Failure := ⟨.disconnected, "request was dropped unanswered"⟩

end Reply

inductive ReplySlot
  | waiting
  | delivered (outcome : Outcome ObjectPath)
  | closed

namespace ReplySlot

/-- Delivers an answer; only a waiting reply takes one. -/
def deliver (slot : ReplySlot) (outcome : Outcome ObjectPath) : ReplySlot :=
  match slot with
  | .waiting => .delivered outcome
  | other => other

def close (slot : ReplySlot) : ReplySlot :=
  match slot with
  | .waiting => .closed
  | other => other

/-- What can be read now, and what is left after reading it. -/
def read? : ReplySlot → Option (Outcome ObjectPath) × ReplySlot
  | .waiting => (none, .waiting)
  | .delivered outcome => (some outcome, .closed)
  | .closed => (some (.error Reply.dropped), .closed)

end ReplySlot

structure ReplyBoard where
  slots : List ReplySlot := []

namespace ReplyBoard

def openNext (board : ReplyBoard) : Nat × ReplyBoard :=
  (board.slots.length, ⟨board.slots ++ [.waiting]⟩)

def change (board : ReplyBoard) (number : Nat) (change : ReplySlot → ReplySlot) : ReplyBoard :=
  ⟨board.slots.modify number change⟩

def deliver (board : ReplyBoard) (number : Nat) (outcome : Outcome ObjectPath) : ReplyBoard :=
  board.change number fun slot => slot.deliver outcome

def close (board : ReplyBoard) (number : Nat) : ReplyBoard := board.change number ReplySlot.close

def read? (board : ReplyBoard) (number : Nat) : Option (Outcome ObjectPath) × ReplyBoard :=
  match board.slots[number]? with
  | some slot => (slot.read?.1, board.change number fun slot => slot.read?.2)
  | none => (none, board)

end ReplyBoard

end ConnectionManager
