import Footscreen.Lib.Memory
import Footscreen.Network.MessageData

/-!
# `Message.Message` — members registered for the network

A `Message` lists members of an object with a content type each. `registerMessageType` records where a
member lies and how long it is; `updateData` copies an incoming message over the first member of the
message's type.
-/

namespace Footscreen

open Lib

abbrev UpdateFrequency := UInt8

def updateFrequencyOnce : UpdateFrequency := 0
def updateFrequencyOnDemand : UpdateFrequency := 1
def updateFrequencyOnChange : UpdateFrequency := 2
def updateFrequencyAlways : UpdateFrequency := 3

/-- A registered member: its header, its address, and how often it is to be sent. -/
structure RegisteredMessageType where
  isSendingEnabled : Bool
  header           : MessageHeader
  data             : Nat
  updateFrequency  : UpdateFrequency

/-- The registered data block: as many bytes as its header says. -/
def RegisteredMessageType.block (r : RegisteredMessageType) : Block :=
  ⟨r.data, r.header.contentLength.toNat⟩

structure Message where
  messageID              : MessageID
  registeredMessageTypes : List RegisteredMessageType

namespace Message

/-- A new message has no ID and no members. -/
def new : Message := ⟨messageIDNone, []⟩

/-- `registerMessageType`. -/
def registerMessageType (message : Message) (contentType : ContentType) (data : Nat)
    (contentLength : ContentLength) (updateFrequency : UpdateFrequency) : Message :=
  let newMessageHeader : MessageHeader :=
    { messageID := message.messageID, contentType := contentType, padding := 0,
      contentLength := contentLength }
  let newRegisteredMessageType : RegisteredMessageType :=
    { isSendingEnabled := true, header := newMessageHeader, data := data,
      updateFrequency := updateFrequency }
  { message with
    registeredMessageTypes := message.registeredMessageTypes ++ [newRegisteredMessageType] }

/-- `setMessageID`, on the message itself; the handler it adds is in `Context.setMessageID`. -/
def setMessageID (message : Message) (messageID : MessageID) : Message where
  messageID := messageID
  registeredMessageTypes := message.registeredMessageTypes.map fun r =>
    { r with header := { r.header with messageID := messageID } }

/-- `updateData`: the new memory, or `none` when `copyTo` reads past `m_content`. -/
def updateData (message : Message) (mem : Memory) (messageData : MessageData) : Option Memory :=
  match message.registeredMessageTypes.find?
      (fun r => r.header.contentType == messageData.contentType) with
  | none   => some mem
  | some r => messageData.copyTo.map (mem.write r.data)

/-- `createFromData`: adopt the message's ID, then update. -/
def createFromData (message : Message) (mem : Memory) (messageData : MessageData) :
    Option (Message × Memory) :=
  let message := message.setMessageID messageData.messageID
  (message.updateData mem messageData).map fun mem => (message, mem)

end Message

end Footscreen
