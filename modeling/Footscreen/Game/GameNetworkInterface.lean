import Footscreen.Game.MessageHandler

/-!
# `Game.GameNetworkInterface` — the registry while dispatches are running

`GameNetworkInterface` as it lies in memory: `m_messageHandlers` is a vector of pointers to handler
objects, which are created by `addMessageHandler` and deleted with the interface only. A dispatch walks
over its own copy of the vector. Its callbacks, and other threads, register and remove handlers in the
meantime and begin dispatches themselves, so a step here is one call that edits the registry, or one round
of one dispatch's loop.
-/

namespace Footscreen

/-- A call of a callback with its arguments. -/
structure Call (κ : Type) where
  callback    : κ
  messageData : MessageData
  senderID    : PlayerID

/-- A running `handleMessage`: its arguments, its copy of the vector from the next handler on, and
    `handlerFound`; then what it has done. -/
structure Dispatch (κ : Type) where
  messageData  : MessageData
  senderID     : PlayerID
  remaining    : List Nat
  handlerFound : Bool
  calls        : List (Call κ)
  /-- "Called unsuitable message handler." has been reported. -/
  unsuitable   : Bool
  finished     : Bool
  /-- "Message has no handler" has been reported. -/
  noHandler    : Bool

/-- `objects` are all handler objects, by address; `messageHandlers` are pointers to some of them. -/
structure GameNetworkInterface (κ : Type) where
  objects         : List (MessageHandler κ)
  messageHandlers : List Nat
  dispatches      : List (Dispatch κ)

namespace GameNetworkInterface

variable {κ : Type}

/-- A new interface. -/
def new : GameNetworkInterface κ := ⟨[], [], []⟩

/-! ## The registry -/

/-- `addMessageHandler`. -/
def addMessageHandler (s : GameNetworkInterface κ) (messageType : ContentType) (messageID : MessageID)
    (messageHandlerCallback : Option κ) : GameNetworkInterface κ :=
  { s with
    objects := s.objects ++ [⟨messageType, messageID, messageHandlerCallback⟩]
    messageHandlers := s.messageHandlers ++ [s.objects.length] }

/-- The loop of `removeAllMessageHandlers`, with its iterator at index `i`. `erase` moves the next element
    to the iterator's place; `none` when a pointer leads nowhere. -/
def eraseLoop (objects : List (MessageHandler κ)) (messageID : MessageID) (v : List Nat) (i : Nat) :
    Option (List Nat) :=
  if h : i < v.length then
    match objects[v[i]]? with
    | none => none
    | some messageHandler =>
        if messageHandler.messageID = messageID then eraseLoop objects messageID (v.eraseIdx i) i
        else eraseLoop objects messageID v (i + 1)
  else some v
termination_by v.length - i
decreasing_by
  · rw [List.length_eraseIdx_of_lt h]
    omega
  · omega

/-- `removeAllMessageHandlers` of one message ID. The objects are not deleted. -/
def removeAllMessageHandlers (s : GameNetworkInterface κ) (messageID : MessageID) :
    Option (GameNetworkInterface κ) :=
  (eraseLoop s.objects messageID s.messageHandlers 0).map fun v => { s with messageHandlers := v }

/-- `removeAllMessageHandlers` of all. -/
def clearMessageHandlers (s : GameNetworkInterface κ) : GameNetworkInterface κ :=
  { s with messageHandlers := [] }

/-! ## Dispatches -/

/-- `handleMessage` up to its loop. -/
def handleMessage (s : GameNetworkInterface κ) (messageData : MessageData) (senderID : PlayerID) :
    GameNetworkInterface κ :=
  { s with dispatches := s.dispatches ++ [{
      messageData := messageData, senderID := senderID, remaining := s.messageHandlers,
      handlerFound := false, calls := [], unsuitable := false, finished := false,
      noHandler := false }] }

/-- `MessageHandler::handle`, which tests again what `handleMessage` has tested. -/
def handle (d : Dispatch κ) (h : MessageHandler κ) : Dispatch κ :=
  if !h.handles d.messageData.contentType d.messageData.messageID then { d with unsuitable := true }
  else
    match h.messageHandlerCallback with
    | none          => d
    | some callback => { d with calls := d.calls ++ [⟨callback, d.messageData, d.senderID⟩] }

/-- The next round of the loop in `handleMessage`, or what comes after it. -/
def proceed (objects : List (MessageHandler κ)) (d : Dispatch κ) : Option (Dispatch κ) :=
  if d.finished then none
  else
    match d.remaining with
    | [] => some { d with finished := true, noHandler := !d.handlerFound }
    | a :: rest => do
        let h ← objects[a]?
        if !h.handles d.messageData.contentType d.messageData.messageID then
          return { d with remaining := rest }
        else return { handle d h with remaining := rest, handlerFound := true }

inductive Event (κ : Type) where
  | addMessageHandler (messageType : ContentType) (messageID : MessageID) (callback : Option κ)
  | removeAllMessageHandlers (messageID : MessageID)
  | clearMessageHandlers
  | handleMessage (messageData : MessageData) (senderID : PlayerID)
  | proceed (k : Nat)

/-- One step; `proceed k` is one of the `k`-th dispatch. -/
def step (s : GameNetworkInterface κ) : Event κ → Option (GameNetworkInterface κ)
  | .addMessageHandler messageType messageID callback =>
      some (s.addMessageHandler messageType messageID callback)
  | .removeAllMessageHandlers messageID => s.removeAllMessageHandlers messageID
  | .clearMessageHandlers => some s.clearMessageHandlers
  | .handleMessage messageData senderID => some (s.handleMessage messageData senderID)
  | .proceed k => do
      let d ← s.dispatches[k]?
      let d ← proceed s.objects d
      return { s with dispatches := s.dispatches.set k d }

end GameNetworkInterface

end Footscreen
