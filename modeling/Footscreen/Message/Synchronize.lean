import Footscreen.Message.Message

/-!
# `Message.Synchronize` — sending registered members

`synchronize` hands one `MessageData` to the network for each member that is enabled and due. A `Message`
may be given its members, its ID and its data in any order; `Message.Event` has these calls, and the
program's own writes to its memory.
-/

namespace Footscreen

open Lib

/-- `copyContentFrom`: `memcpy(m_content, source, contentLength())`, from memory. -/
def MessageData.copyContentFromMemory (m : MessageData) (mem : Memory) (source : Nat) :
    Option MessageData :=
  (m.content.copyIn (mem.read ⟨source, m.contentLength.toNat⟩)).map fun content =>
    { m with content := content }

namespace Message

/-! ## Enabling -/

/-- `enableSendingMessageType`. -/
def enableSendingMessageType (message : Message) (contentType : ContentType) : Message :=
  { message with registeredMessageTypes := message.registeredMessageTypes.map fun r =>
      if r.header.contentType = contentType then { r with isSendingEnabled := true } else r }

/-- `disableSendingMessageType`. -/
def disableSendingMessageType (message : Message) (contentType : ContentType) : Message :=
  { message with registeredMessageTypes := message.registeredMessageTypes.map fun r =>
      if r.header.contentType = contentType then { r with isSendingEnabled := false } else r }

/-! ## Sending -/

/-- The loop of `synchronize`: what it hands over, in order; `none` when `copyContentFrom` writes past
    `m_content`. `unset i` is what the `i`-th new `MessageData` has in its content. -/
def synchronizeLoop (mem : Memory) (leastFrequency : UpdateFrequency) (unset : Nat → Buffer) :
    List RegisteredMessageType → Option (List MessageData)
  | [] => some []
  | r :: rs =>
      if r.updateFrequency < leastFrequency then synchronizeLoop mem leastFrequency unset rs
      else if !r.isSendingEnabled then synchronizeLoop mem leastFrequency unset rs
      else do
        let messageData : MessageData :=
          { header := r.header, content := unset 0, networkServerSession := none }
        let messageData ← messageData.copyContentFromMemory mem r.data
        let rest ← synchronizeLoop mem leastFrequency (fun i => unset (i + 1)) rs
        return messageData :: rest

/-- `synchronize` with a receiver: what is handed to the interface. -/
def synchronize (message : Message) (gameNetworkInterface : Bool) (mem : Memory)
    (unset : Nat → Buffer) (receiverID : PlayerID) (leastFrequency : UpdateFrequency) :
    Option (List (MessageData × PlayerID)) :=
  if message.registeredMessageTypes.isEmpty then some []
  else if !gameNetworkInterface then some []
  else
    (synchronizeLoop mem leastFrequency unset message.registeredMessageTypes).map fun sent =>
      sent.map fun messageData => (messageData, receiverID)

/-- `synchronize` with several receivers. -/
def synchronizeAll (message : Message) (gameNetworkInterface : Bool) (mem : Memory)
    (unset : PlayerID → Nat → Buffer) (leastFrequency : UpdateFrequency) :
    List PlayerID → Option (List (MessageData × PlayerID))
  | [] => some []
  | receiverID :: receiverIDs => do
      let sent ← message.synchronize gameNetworkInterface mem (unset receiverID) receiverID
        leastFrequency
      let rest ← message.synchronizeAll gameNetworkInterface mem unset leastFrequency receiverIDs
      return sent ++ rest

/-- `synchronize` with a session, which needs no interface: what the session is handed. -/
def synchronizeSession (message : Message) (session : Option SessionID) (mem : Memory)
    (unset : Nat → Buffer) (leastFrequency : UpdateFrequency) :
    Option (List (SessionID × MessageData)) :=
  if message.registeredMessageTypes.isEmpty then some []
  else
    match session with
    | none => some []
    | some session =>
        (synchronizeLoop mem leastFrequency unset message.registeredMessageTypes).map fun sent =>
          sent.map fun messageData => (session, messageData)

/-! ## A message in its program -/

/-- A message, the counter that message IDs are generated from, and the program's memory. -/
structure Object where
  message       : Message
  nextMessageID : MessageID
  memory        : Memory

inductive Event where
  | registerMessageType (contentType : ContentType) (data : Nat) (contentLength : ContentLength)
      (updateFrequency : UpdateFrequency)
  | setMessageID (messageID : MessageID)
  | generateMessageID
  | createFromData (messageData : MessageData)
  | enableSendingMessageType (contentType : ContentType)
  | disableSendingMessageType (contentType : ContentType)
  /-- The program writes to its memory. -/
  | write (address : Nat) (bytes : List UInt8)
  /-- Another message generates an ID. -/
  | otherMessageID

def step (s : Object) : Event → Option Object
  | .registerMessageType contentType data contentLength updateFrequency =>
      some { s with
        message := s.message.registerMessageType contentType data contentLength updateFrequency }
  | .setMessageID messageID => some { s with message := s.message.setMessageID messageID }
  | .generateMessageID =>
      some { s with message := s.message.setMessageID s.nextMessageID
                    nextMessageID := s.nextMessageID + 1 }
  | .createFromData messageData =>
      (s.message.createFromData s.memory messageData).map fun (message, memory) =>
        { s with message := message, memory := memory }
  | .enableSendingMessageType contentType =>
      some { s with message := s.message.enableSendingMessageType contentType }
  | .disableSendingMessageType contentType =>
      some { s with message := s.message.disableSendingMessageType contentType }
  | .write address bytes => some { s with memory := s.memory.write address bytes }
  | .otherMessageID => some { s with nextMessageID := s.nextMessageID + 1 }

end Message

end Footscreen
