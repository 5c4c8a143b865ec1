import Footscreen.Network.MessageData
import Mathlib.Data.List.Basic

/-!
# `Game.MessageHandler` — handlers of incoming messages

A `GameNetworkInterface` keeps a list of handlers, each for a message type and a message ID, either of
which may be a wildcard. `handleMessage` copies the list and calls, in order, the callback of each
handler in the copy that handles the message; what callbacks do to the list in the meantime does not
change which handlers are called.

The callbacks are a parameter `κ`, and `call` runs one of them on the state `σ` of the program; `none`
says that it has left the behaviour that the language defines.
-/

namespace Footscreen

structure MessageHandler (κ : Type) where
  messageType            : ContentType
  messageID              : MessageID
  messageHandlerCallback : Option κ

namespace MessageHandler

variable {κ σ : Type}

def matchesMessageID (h : MessageHandler κ) (messageID : MessageID) : Bool :=
  h.messageID == messageIDAll || messageID == h.messageID

def matchesContentType (h : MessageHandler κ) (messageType : ContentType) : Bool :=
  h.messageType == messageAllTypes || messageType == h.messageType

def handles (h : MessageHandler κ) (messageType : ContentType) (messageID : MessageID) : Bool :=
  h.matchesContentType messageType && h.matchesMessageID messageID

/-- A handler takes the messages of its type and its ID, where a wildcard stands for all of them. -/
theorem handles_iff {h : MessageHandler κ} {messageType : ContentType} {messageID : MessageID} :
    h.handles messageType messageID = true ↔
      (h.messageType = messageAllTypes ∨ messageType = h.messageType) ∧
        (h.messageID = messageIDAll ∨ messageID = h.messageID) := by
  unfold handles matchesContentType matchesMessageID
  simp only [Bool.and_eq_true, Bool.or_eq_true, beq_iff_eq]

/-- `handle`: an unsuitable handler and one without a callback do nothing. -/
def handle (h : MessageHandler κ) (call : κ → σ → Option σ) (messageType : ContentType)
    (messageID : MessageID) (s : σ) : Option σ :=
  if !h.handles messageType messageID then some s
  else
    match h.messageHandlerCallback with
    | none          => some s
    | some callback => call callback s

end MessageHandler

/-- `m_messageHandlers`. -/
abbrev MessageHandlers (κ : Type) := List (MessageHandler κ)

namespace MessageHandlers

variable {κ σ : Type}

/-- `addMessageHandler`. -/
def addMessageHandler (hs : MessageHandlers κ) (messageType : ContentType) (messageID : MessageID)
    (callback : κ) : MessageHandlers κ :=
  hs ++ [⟨messageType, messageID, some callback⟩]

/-- `removeAllMessageHandlers` of one message ID. -/
def removeAllMessageHandlers (hs : MessageHandlers κ) (messageID : MessageID) : MessageHandlers κ :=
  hs.filter fun h => h.messageID != messageID

/-- The loop of `handleMessage` over the copied list. -/
def dispatch (call : κ → σ → Option σ) (messageType : ContentType) (messageID : MessageID) :
    MessageHandlers κ → σ × Bool → Option (σ × Bool)
  | [], s => some s
  | h :: hs, (s, handlerFound) =>
      if !h.handles messageType messageID then dispatch call messageType messageID hs (s, handlerFound)
      else do
        let s ← h.handle call messageType messageID s
        dispatch call messageType messageID hs (s, true)

/-- `handleMessage`: the new state, and whether a handler was found. -/
def handleMessage (hs : MessageHandlers κ) (call : κ → σ → Option σ) (messageType : ContentType)
    (messageID : MessageID) (s : σ) : Option (σ × Bool) :=
  dispatch call messageType messageID hs (s, false)

/-! ## Which callbacks are called -/

/-- The callbacks that a message of this type and ID calls, in order. -/
def callbacks (hs : MessageHandlers κ) (messageType : ContentType) (messageID : MessageID) : List κ :=
  (hs.filter fun h => h.handles messageType messageID).filterMap (·.messageHandlerCallback)

variable {hs : MessageHandlers κ} {h : MessageHandler κ} {call : κ → σ → Option σ}
  {messageType : ContentType} {messageID : MessageID} {s : σ}

theorem callbacks_nil : callbacks ([] : MessageHandlers κ) messageType messageID = [] := rfl

theorem callbacks_append (hs gs : MessageHandlers κ) :
    callbacks (hs ++ gs) messageType messageID =
      callbacks hs messageType messageID ++ callbacks gs messageType messageID := by
  unfold callbacks
  rw [List.filter_append, List.filterMap_append]

theorem callbacks_cons :
    callbacks (h :: hs) messageType messageID =
      callbacks [h] messageType messageID ++ callbacks hs messageType messageID :=
  callbacks_append [h] hs

/-- A handler for another type or ID adds no callback. -/
theorem callbacks_singleton_of_not (hno : h.handles messageType messageID = false) :
    callbacks [h] messageType messageID = [] := by
  unfold callbacks
  simp [hno]

theorem callbacks_singleton {callback : κ} (hyes : h.handles messageType messageID = true)
    (hcallback : h.messageHandlerCallback = some callback) :
    callbacks [h] messageType messageID = [callback] := by
  unfold callbacks
  simp [hyes, hcallback]

/-- The loop calls the matching callbacks in order, and finds a handler when there is one. -/
theorem dispatch_eq (found : Bool) :
    dispatch call messageType messageID hs (s, found) =
      ((callbacks hs messageType messageID).foldlM (fun s k => call k s) s).map fun s =>
        (s, found || hs.any fun h => h.handles messageType messageID) := by
  induction hs generalizing s found with
  | nil => simp [dispatch, callbacks_nil]
  | cons h hs ih =>
      unfold dispatch
      rw [callbacks_cons, List.any_cons]
      cases hh : h.handles messageType messageID with
      | false =>
          rw [callbacks_singleton_of_not hh]
          simpa using ih found
      | true =>
          simp only [MessageHandler.handle, hh, Bool.not_true, Bool.false_eq_true, if_false]
          cases hk : h.messageHandlerCallback with
          | none =>
              have hnone : callbacks [h] messageType messageID = [] := by
                unfold callbacks
                simp [hh, hk]
              rw [hnone]
              simpa using ih true
          | some callback =>
              rw [callbacks_singleton hh hk, List.singleton_append, List.foldlM_cons]
              show (call callback s).bind _ = Option.map _ ((call callback s).bind _)
              cases call callback s with
              | none => rfl
              | some t => simpa using ih true

/-- **Dispatch.** `handleMessage` runs exactly the matching callbacks, in the order of registration. -/
theorem handleMessage_eq :
    handleMessage hs call messageType messageID s =
      ((callbacks hs messageType messageID).foldlM (fun s k => call k s) s).map fun s =>
        (s, hs.any fun h => h.handles messageType messageID) := by
  unfold handleMessage
  rw [dispatch_eq]
  simp only [Bool.false_or]

end MessageHandlers

end Footscreen
