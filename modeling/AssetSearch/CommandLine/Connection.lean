/-
This file carries out exchanges over connections of the system.
-/

import AssetSearch.CommandLine.Message
import Std.Async.DNS
import Std.Async.TCP
import Std.Async.Timer

namespace AssetSearch.CommandLine.Connection

open AssetSearch.Network
open AssetSearch.Time
open Std.Async

/-- An address without a port means this one. -/
def defaultPort : Nat := 80

/-- Names are looked up, and everything else already is an address. -/
def resolve (address : Address) : Async (List Std.Net.IPAddr) :=
  match address.host with
  | some (.eightGroups groups) =>
      return (Std.Net.IPv6Addr.ofString (eightGroupsText groups)).toList.map .v6
  | some host => do
      return (← DNS.getAddrInfo host.text (toString (address.port.getD defaultPort))).toList
  | none => return []

def placeOf (address : Std.Net.IPAddr) (port : UInt16) : Std.Net.SocketAddress :=
  match address with
  | .v4 address => .v4 ⟨address, port⟩
  | .v6 address => .v6 ⟨address, port⟩

/-- The addresses are tried in order until one of them accepts the connection. -/
def connect (port : UInt16) : List Std.Net.IPAddr → Async (Option TCP.Socket.Client)
  | [] => return none
  | address :: later => do
      let socket ← TCP.Socket.Client.mk
      try
        socket.connect (placeOf address port)
        return some socket
      catch _ => connect port later

/-- This many bytes are received at once. -/
def receiveSize : UInt64 := 65536

/-- Bytes are received until they hold an answer; those so far are kept for the timer. -/
partial def receive (socket : TCP.Socket.Client) (received : IO.Ref ByteArray) :
    Async Exchange := do
  let part ← try socket.recv? receiveSize catch _ => pure none
  let bytes := (← received.get) ++ part.getD .empty
  received.set bytes
  match readAnswer? part.isNone bytes.toList with
  | some exchange => return exchange
  | none => receive socket received

/-- Encrypted connections are not made. -/
def converse (address : Address) (request : Request) (received : IO.Ref ByteArray) :
    Async Exchange := do
  if address.scheme != "http" then return .lost
  try
    let port := UInt16.ofNat (address.port.getD defaultPort)
    match ← connect port (← resolve address) with
    | none => return .lost
    | some socket =>
        socket.send (requestMessage address request).toUTF8
        receive socket received
  catch _ => return .lost

instance : Inhabited Exchange := ⟨.lost⟩

/-- The timer and the exchange run at the same time, and the first one to end decides. -/
def exchange (timeout : Duration) (request : Request) : IO Exchange := do
  match Address.ofText request.url.text with
  | .error _ => return .lost
  | .ok address =>
      let received ← IO.mkRef ByteArray.empty
      let expire : Async Exchange := do
        sleep (.ofNat timeout.timerMilliseconds)
        return answerAtTimeout (← received.get).toList
      (Async.race (converse address request received) expire).block

/-- The system waits for a limited number of milliseconds at once. -/
def longestSleep : Nat := Nat.pow 2 32 - 1

def pause (duration : Duration) : IO Unit := do
  let milliseconds := duration.timerMilliseconds
  for _ in List.replicate (milliseconds / longestSleep) () do
    IO.sleep (UInt32.ofNat longestSleep)
  IO.sleep (UInt32.ofNat (milliseconds % longestSleep))

/-- Factors are drawn from a thousand equal steps between one half and three halves. The program
breaks off when a delay does not exist. -/
def backoff (policy : RetryPolicy) (attempt : Nat) : IO Duration := do
  let step ← IO.rand 0 1000
  match policy.drawnDelay? attempt (1 / 2 + (step : Rat) / 1000) with
  | some delay => return delay
  | none => throw (IO.userError "can not convert float seconds to Duration: value is too big")

def transport (timeout : Duration) : Transport IO := ⟨exchange timeout, backoff, pause⟩

end AssetSearch.CommandLine.Connection
