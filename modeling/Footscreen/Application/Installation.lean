import Footscreen.Application.Program
import Footscreen.Game.Uplink

/-!
# `Application.Installation` — the program and the server

The program with its camera, which is the client of one session, beside the server with the connections
from all clients. When a round of the program's loop starts the game, it calls the server at once; what it
asks for otherwise is delivered to its connection. The network, the other clients and the server's own loop
go on in between, in any order.
-/

namespace Footscreen

open Lib

structure Installation (F B : Type) where
  application : Application F B Nat
  uplink      : Uplink (GameServer F)

namespace Installation

variable {F B : Type}

/-- What is in memory where a message is put together. -/
structure Memory where
  headerPadding : UInt8
  padding       : Nat → UInt8
  unset         : Buffer

inductive Event (F B : Type) where
  | application (e : Application.Event F B Nat) (clock : Nat → F) (memory : Nat → Memory)
  | uplink (e : Uplink.Event F (GameServer.Event F))

/-- A command, carried out. -/
def perform (session : SessionID) (clock : Nat → F) (memory : Memory) :
    Command F → Option (Uplink.Event F (GameServer.Event F))
  | .startGame => some (.call (.startGame clock))
  | .send m    => m.request.map fun r =>
      .ask session r memory.headerPadding memory.padding memory.unset

/-- Commands in their order, each from memory of its own. -/
def performAll (session : SessionID) (clock : Nat → F) :
    (Nat → Memory) → List (Command F) → List (Uplink.Event F (GameServer.Event F))
  | _, []                     => []
  | memory, command :: commands =>
      (perform session clock (memory 0) command).toList ++
        performAll session clock (fun i => memory (i + 1)) commands

/-- The event is a request of the session's client. -/
def asks (session : SessionID) : Uplink.Event F (GameServer.Event F) → Bool
  | .ask t .. => t == session
  | _         => false

variable [FloatArith F] [SteeringArith F] [FloatBytes F]

/-- The commands of an event. -/
def commandsOf (perspective : Quad F → Quad F → Matrix (Fin 3) (Fin 3) F) (vision : Vision F Nat)
    (a : Application F B Nat) : Application.Event F B Nat → List (Command F)
  | .loop key frames => ((a.loop perspective vision key frames).map Prod.snd).getD []
  | _                => []

def step (session : SessionID) (perspective : Quad F → Quad F → Matrix (Fin 3) (Fin 3) F)
    (vision : Vision F Nat) (s : Installation F B) : Event F B → Option (Installation F B)
  | .application e clock memory => do
      let application ← s.application.step perspective vision e
      let uplink ← exec (Uplink.step GameServer.host) s.uplink
        (performAll session clock memory (commandsOf perspective vision s.application e))
      return ⟨application, uplink⟩
  | .uplink e =>
      if asks session e then none
      else (Uplink.step GameServer.host s.uplink e).map fun uplink => { s with uplink := uplink }

end Installation

end Footscreen
