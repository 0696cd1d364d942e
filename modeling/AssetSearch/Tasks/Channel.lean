/-
This file holds a channel that keeps the newest of the values published on it. Receivers remember
the publication that they have seen last.
-/

namespace AssetSearch.Tasks

/-- Publications are numbered from one on, and number zero is the value before all of them. -/
structure Channel (Content : Type) where
  value : Content
  publications : Nat
  isClosed : Bool
  deriving DecidableEq, Repr

/-- A receiver has seen every publication up to this one. -/
structure Receiver where
  seen : Nat
  deriving DecidableEq, Repr

/-- A receiver that waits for a new value gets an answer or has to go on waiting. -/
inductive Wait where
  | changed
  | ended
  | blocked
  deriving DecidableEq, Repr

namespace Channel

variable {Content : Type}

def create (value : Content) : Channel Content := ⟨value, 0, false⟩

def publish (channel : Channel Content) (update : Content → Content) : Channel Content :=
  { channel with
    value := update channel.value
    publications := channel.publications + 1 }

def close (channel : Channel Content) : Channel Content :=
  { channel with isClosed := true }

/-- The newest publication has not been seen. -/
def isUnseen (channel : Channel Content) (receiver : Receiver) : Bool :=
  receiver.seen != channel.publications

/-- An unseen publication is reported before the end of the channel. -/
def wait (channel : Channel Content) (receiver : Receiver) : Wait :=
  if channel.isUnseen receiver then .changed
  else if channel.isClosed then .ended
  else .blocked

/-- A receiver that asks without waiting learns of no change after the end of the channel. -/
def hasChanged? (channel : Channel Content) (receiver : Receiver) : Option Bool :=
  if channel.isClosed then none else some (channel.isUnseen receiver)

/-- The receiver has seen the newest publication. -/
def catchUp (channel : Channel Content) : Receiver := ⟨channel.publications⟩

end Channel

end AssetSearch.Tasks
