import Footscreen.Lib.Framing

/-!
# `Network.MessageData` — the network package and its bytes

`MessageData` is the package that both ends put on the stream, byte by byte, from the start of the
object: the header, and right after it the content. The layout is that of the x86 ABIs: 16-bit fields
are little-endian, and one padding byte follows `contentType`, so `sizeof(MessageHeader)` is 6.
-/

namespace Footscreen

abbrev MessageID := UInt16
abbrev ContentType := UInt8
abbrev ContentLength := UInt16
abbrev PlayerID := UInt16

/-- `NetworkServerSession *`: which session object is pointed to. -/
abbrev SessionID := Nat

/-- `MAX_MESSAGE_LENGTH`. -/
def maxMessageLength : Nat := 512

/-! ## Reserved identifiers -/

def messageIDNone : MessageID := 0
def messageIDAll : MessageID := 1
def messageIDEvent : MessageID := 2
def messageIDFirst : MessageID := 3

def idNone : PlayerID := 0
def idServer : PlayerID := 1
def idAllClients : PlayerID := 2
def idNewClient : PlayerID := 3
def idFirstClient : PlayerID := 4

/-! ## Message types (`MessageTypes.h`) -/

def messageUndefined : ContentType := 0
def messageAllTypes : ContentType := 1
def messageGameUnit : ContentType := 2
def messageMoveRequest : ContentType := 3
def messageHighlightRequest : ContentType := 4
def messageGameObstacle : ContentType := 5
def messageNewPlayerID : ContentType := 6

/-! ## The header -/

/-- `MessageHeader`, with the padding byte that `memcpy` carries along. -/
structure MessageHeader where
  messageID     : MessageID
  contentType   : ContentType
  padding       : UInt8
  contentLength : ContentLength
deriving DecidableEq

/-- The low and high byte of a 16-bit value, in memory order. -/
def word16 (x : UInt16) : List UInt8 := [UInt8.ofNat (x.toNat % 256), UInt8.ofNat (x.toNat / 256)]

/-- The 16-bit value at offset `i`. -/
def readWord16 (w : List UInt8) (i : Nat) : UInt16 :=
  UInt16.ofNat ((w.getD i 0).toNat + 256 * (w.getD (i + 1) 0).toNat)

/-- `sizeof(MessageHeader)`, which is `MessageData::headerLength`. -/
def headerLength : Nat := 6

namespace MessageHeader

/-- The object representation of a header. -/
def toBytes (h : MessageHeader) : List UInt8 :=
  word16 h.messageID ++ [h.contentType, h.padding] ++ word16 h.contentLength

/-- The header that these bytes represent. -/
def ofBytes (w : List UInt8) : MessageHeader where
  messageID     := readWord16 w 0
  contentType   := w.getD 2 0
  padding       := w.getD 3 0
  contentLength := readWord16 w 4

theorem toBytes_length (h : MessageHeader) : h.toBytes.length = headerLength := rfl

private theorem word16_value (x : UInt16) :
    UInt16.ofNat ((UInt8.ofNat (x.toNat % 256)).toNat + 256 * (UInt8.ofNat (x.toNat / 256)).toNat)
      = x := by
  have hlt := x.toNat_lt
  apply UInt16.toNat_inj.mp
  simp only [UInt8.toNat_ofNat', UInt16.toNat_ofNat']
  omega

private theorem word16_bytes (a b : UInt8) :
    word16 (UInt16.ofNat (a.toNat + 256 * b.toNat)) = [a, b] := by
  have ha := a.toNat_lt
  have hb := b.toNat_lt
  have hval : (UInt16.ofNat (a.toNat + 256 * b.toNat)).toNat = a.toNat + 256 * b.toNat := by
    rw [UInt16.toNat_ofNat', Nat.mod_eq_of_lt (by omega)]
  have hlo : (a.toNat + 256 * b.toNat) % 256 = a.toNat := by omega
  have hhi : (a.toNat + 256 * b.toNat) / 256 = b.toNat := by omega
  rw [word16, hval, hlo, hhi, UInt8.ofNat_toNat, UInt8.ofNat_toNat]

theorem ofBytes_toBytes (h : MessageHeader) : ofBytes h.toBytes = h := by
  have hid := word16_value h.messageID
  have hlen := word16_value h.contentLength
  cases h
  simp only [ofBytes, toBytes, word16, readWord16, List.cons_append, List.nil_append,
    List.getD_cons_zero, List.getD_cons_succ] at hid hlen ⊢
  rw [hid, hlen]

theorem toBytes_ofBytes (w : List UInt8) (hw : w.length = headerLength) :
    (ofBytes w).toBytes = w := by
  match w, hw with
  | [a, b, c, d, e, f], _ =>
      show word16 (UInt16.ofNat (a.toNat + 256 * b.toNat)) ++ [c, d] ++
        word16 (UInt16.ofNat (e.toNat + 256 * f.toNat)) = _
      rw [word16_bytes, word16_bytes]
      rfl

end MessageHeader

/-- Messages on a stream are frames: the header announces the content's length. -/
def messageFormat : Lib.Format MessageHeader UInt8 where
  headerLength  := headerLength
  encode        := MessageHeader.toBytes
  decode        := MessageHeader.ofBytes
  bodyLength    := fun h => h.contentLength.toNat
  encode_length := MessageHeader.toBytes_length
  decode_encode := MessageHeader.ofBytes_toBytes
  encode_decode := MessageHeader.toBytes_ofBytes

/-! ## Buffers -/

/-- A `char[MAX_MESSAGE_LENGTH]`. -/
structure Buffer where
  bytes     : List UInt8
  length_eq : bytes.length = maxMessageLength

namespace Buffer

/-- A buffer of zero bytes. -/
def zero : Buffer := ⟨List.replicate maxMessageLength 0, List.length_replicate⟩

/-- Copy `source` to the start of the buffer; `none` when it does not fit (out of bounds). -/
def copyIn (b : Buffer) (source : List UInt8) : Option Buffer :=
  if h : source.length ≤ maxMessageLength then
    some ⟨source ++ b.bytes.drop source.length, by
      rw [List.length_append, List.length_drop, b.length_eq]; omega⟩
  else none

/-- The first `length` bytes of the buffer; `none` when it has fewer (out of bounds). -/
def copyOut (b : Buffer) (length : Nat) : Option (List UInt8) :=
  if length ≤ maxMessageLength then some (b.bytes.take length) else none

theorem copyIn_of_le (b : Buffer) (source : List UInt8) (h : source.length ≤ maxMessageLength) :
    ∃ b', b.copyIn source = some b' ∧ b'.bytes.take source.length = source := by
  unfold copyIn
  rw [dif_pos h]
  exact ⟨_, rfl, List.take_left⟩

end Buffer

/-! ## The package -/

/-- `MessageData`. -/
structure MessageData where
  header               : MessageHeader
  content              : Buffer
  networkServerSession : Option SessionID

namespace MessageData

def messageID (m : MessageData) : MessageID := m.header.messageID
def contentType (m : MessageData) : ContentType := m.header.contentType
def contentLength (m : MessageData) : ContentLength := m.header.contentLength

/-- `copyHeaderFrom`: `memcpy(&m_header, source, headerLength())`. -/
def copyHeaderFrom (m : MessageData) (source : Buffer) : MessageData :=
  { m with header := MessageHeader.ofBytes (source.bytes.take headerLength) }

/-- `copyContentFrom`: `memcpy(m_content, source, contentLength())`, from a buffer. -/
def copyContentFrom (m : MessageData) (source : Buffer) : Option MessageData := do
  let bytes ← source.copyOut m.contentLength.toNat
  let content ← m.content.copyIn bytes
  return { m with content := content }

/-- The bytes that `copyTo` writes to its destination: the first `contentLength()` of `m_content`. -/
def copyTo (m : MessageData) : Option (List UInt8) := m.content.copyOut m.contentLength.toNat

/-- `setNetworkServerSession`. -/
def setNetworkServerSession (m : MessageData) (session : Option SessionID) : MessageData :=
  { m with networkServerSession := session }

/-- The message as a frame: its header and its first `contentLength()` content bytes. -/
def frame (m : MessageData) : Lib.Framing.Frame MessageHeader UInt8 :=
  (m.header, m.content.bytes.take m.contentLength.toNat)

/-- The first `length` bytes of the object in memory, where `m_content` follows `m_header`. -/
def objectBytes (m : MessageData) (length : Nat) : List UInt8 :=
  (m.header.toBytes ++ m.content.bytes).take length

/-- What goes on the stream for a message is its frame. -/
theorem objectBytes_eq_wire (m : MessageData) :
    m.objectBytes (headerLength + m.contentLength.toNat) =
      Lib.Framing.wire messageFormat m.frame := by
  rw [objectBytes, ← m.header.toBytes_length, List.take_length_add_append]
  rfl

/-- The frame of a message whose content fits its buffer is exact. -/
theorem frame_exact {m : MessageData} (h : m.contentLength.toNat ≤ maxMessageLength) :
    Lib.Framing.Exact messageFormat m.frame := by
  show (m.content.bytes.take m.contentLength.toNat).length = m.contentLength.toNat
  rw [List.length_take, m.content.length_eq, Nat.min_eq_left h]

theorem copyContentFrom_of_le (m : MessageData) (source : Buffer)
    (h : m.contentLength.toNat ≤ maxMessageLength) :
    ∃ m', m.copyContentFrom source = some m' ∧
      m'.frame = (m.header, source.bytes.take m.contentLength.toNat) := by
  have hlen : (source.bytes.take m.contentLength.toNat).length = m.contentLength.toNat := by
    rw [List.length_take, source.length_eq, Nat.min_eq_left h]
  obtain ⟨content, hcopy, htake⟩ :=
    m.content.copyIn_of_le (source.bytes.take m.contentLength.toNat)
      (Nat.le_trans (Nat.le_of_eq hlen) h)
  refine ⟨{ m with content := content }, ?_, ?_⟩
  · simp only [copyContentFrom, Buffer.copyOut, if_pos h, Option.bind_eq_bind, Option.bind_some,
      hcopy, Option.pure_def]
  · rw [hlen] at htake
    exact congrArg (Prod.mk m.header) htake

end MessageData

end Footscreen
