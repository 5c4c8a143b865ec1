import Footscreen.Game.GameMessage

/-!
# `Game.Payload` — the contents of messages as they lie in memory

Each type of message has one registered member, a `struct`, and what goes over the network is a copy of
its memory. The layout is that of the x86 ABIs: a `float` has four bytes, a `PlayerID` two at an even
offset, and `bool` is one byte, 0 or 1. The bytes between members are padding, and hold anything.

`ofBytes_toBytes` is the round trip, for every type that has a registered size.
-/

namespace Footscreen

/-- How a `float` lies in memory. -/
class FloatBytes (F : Type) where
  toBytes         : F → List UInt8
  ofBytes         : List UInt8 → F
  length_toBytes  : ∀ x, (toBytes x).length = 4
  ofBytes_toBytes : ∀ x, ofBytes (toBytes x) = x

open FloatBytes

/-- A `bool` in memory. -/
def boolByte (b : Bool) : UInt8 := if b then 1 else 0

/-- What a byte is as a `bool`. -/
def byteBool (w : UInt8) : Bool := w != 0

theorem byteBool_boolByte (b : Bool) : byteBool (boolByte b) = b := by cases b <;> rfl

variable {F : Type} [FloatBytes F] {padding : Nat → UInt8}

/-! ## The structures -/

namespace GameUnitData

def toBytes (padding : Nat → UInt8) (d : GameUnitData F) : List UInt8 :=
  FloatBytes.toBytes d.x ++ FloatBytes.toBytes d.y ++ [d.number, padding 0] ++ word16 d.owner ++
    [boolByte d.isHighlighted, boolByte d.isLiving, boolByte d.hasArrived, padding 1]

def ofBytes (w : List UInt8) : GameUnitData F where
  x             := FloatBytes.ofBytes (w.take 4)
  y             := FloatBytes.ofBytes ((w.drop 4).take 4)
  number        := w.getD 8 0
  owner         := readWord16 w 10
  isHighlighted := byteBool (w.getD 12 0)
  isLiving      := byteBool (w.getD 13 0)
  hasArrived    := byteBool (w.getD 14 0)

end GameUnitData

namespace GameObstacleData

def toBytes (d : GameObstacleData F) : List UInt8 :=
  FloatBytes.toBytes d.x ++ FloatBytes.toBytes d.y ++ FloatBytes.toBytes d.radius

def ofBytes (w : List UInt8) : GameObstacleData F where
  x      := FloatBytes.ofBytes (w.take 4)
  y      := FloatBytes.ofBytes ((w.drop 4).take 4)
  radius := FloatBytes.ofBytes ((w.drop 8).take 4)

end GameObstacleData

namespace MoveRequest

def toBytes (padding : Nat → UInt8) (r : MoveRequest F) : List UInt8 :=
  [r.unitIndex, padding 0, padding 1, padding 2] ++ FloatBytes.toBytes r.angle ++
    FloatBytes.toBytes r.strength

def ofBytes (w : List UInt8) : MoveRequest F where
  unitIndex := w.getD 0 0
  angle     := FloatBytes.ofBytes ((w.drop 4).take 4)
  strength  := FloatBytes.ofBytes ((w.drop 8).take 4)

end MoveRequest

namespace HighlightRequest

def toBytes (r : HighlightRequest) : List UInt8 := [r.unitIndex, boolByte r.isHighlighted]

def ofBytes (w : List UInt8) : HighlightRequest where
  unitIndex     := w.getD 0 0
  isHighlighted := byteBool (w.getD 1 0)

end HighlightRequest

/-! ## The content of a message -/

namespace Payload

/-- The size that is registered for a type. -/
def size (t : ContentType) : Nat :=
  if t = messageGameUnit then 16
  else if t = messageMoveRequest then 12
  else if t = messageHighlightRequest then 2
  else if t = messageGameObstacle then 12
  else if t = messageNewPlayerID then 2
  else 0

/-- The registered member in memory. -/
def toBytes (padding : Nat → UInt8) : Payload F → List UInt8
  | .gameUnit d         => d.toBytes padding
  | .moveRequest r      => r.toBytes padding
  | .highlightRequest r => r.toBytes
  | .gameObstacle d     => d.toBytes
  | .newPlayerID p      => word16 p
  | .other _ _          => []

/-- The member that takes the content of a message of its type; none of another size than its own. -/
def ofBytes (t : ContentType) (w : List UInt8) : Option (Payload F) :=
  if w.length ≠ size t then none
  else if t = messageGameUnit then some (.gameUnit (GameUnitData.ofBytes w))
  else if t = messageMoveRequest then some (.moveRequest (MoveRequest.ofBytes w))
  else if t = messageHighlightRequest then some (.highlightRequest (HighlightRequest.ofBytes w))
  else if t = messageGameObstacle then some (.gameObstacle (GameObstacleData.ofBytes w))
  else if t = messageNewPlayerID then some (.newPlayerID (readWord16 w 0))
  else if h : Registered t then none
  else some (.other t h)

end Payload

/-! ## Round trips -/

/-- The four bytes of a number, and the number of the four bytes. -/
theorem FloatBytes.four (x : F) : ∃ a b c d, toBytes x = [a, b, c, d] ∧ ofBytes [a, b, c, d] = x := by
  have hlen := length_toBytes x
  have hback := ofBytes_toBytes x
  generalize toBytes x = w at hlen hback
  match w, hlen with
  | [a, b, c, d], _ => exact ⟨a, b, c, d, rfl, hback⟩

theorem readWord16_word16 (x : UInt16) (w : List UInt8) : readWord16 (word16 x ++ w) 0 = x :=
  congrArg MessageHeader.messageID (MessageHeader.ofBytes_toBytes ⟨x, 0, 0, 0⟩)

theorem GameUnitData.ofBytes_toBytes (d : GameUnitData F) :
    GameUnitData.ofBytes (d.toBytes padding) = d := by
  obtain ⟨x, y, number, owner, isHighlighted, isLiving, hasArrived⟩ := d
  obtain ⟨x₀, x₁, x₂, x₃, hx, hx'⟩ := FloatBytes.four x
  obtain ⟨y₀, y₁, y₂, y₃, hy, hy'⟩ := FloatBytes.four y
  simp only [GameUnitData.ofBytes, GameUnitData.toBytes, hx, hy, GameUnitData.mk.injEq]
  exact ⟨hx', hy', rfl, readWord16_word16 owner [], byteBool_boolByte isHighlighted,
    byteBool_boolByte isLiving, byteBool_boolByte hasArrived⟩

theorem GameObstacleData.ofBytes_toBytes (d : GameObstacleData F) :
    GameObstacleData.ofBytes d.toBytes = d := by
  obtain ⟨x, y, radius⟩ := d
  obtain ⟨x₀, x₁, x₂, x₃, hx, hx'⟩ := FloatBytes.four x
  obtain ⟨y₀, y₁, y₂, y₃, hy, hy'⟩ := FloatBytes.four y
  obtain ⟨r₀, r₁, r₂, r₃, hr, hr'⟩ := FloatBytes.four radius
  simp only [GameObstacleData.ofBytes, GameObstacleData.toBytes, hx, hy, hr,
    GameObstacleData.mk.injEq]
  exact ⟨hx', hy', hr'⟩

theorem MoveRequest.ofBytes_toBytes (r : MoveRequest F) :
    MoveRequest.ofBytes (r.toBytes padding) = r := by
  obtain ⟨unitIndex, angle, strength⟩ := r
  obtain ⟨a₀, a₁, a₂, a₃, ha, ha'⟩ := FloatBytes.four angle
  obtain ⟨s₀, s₁, s₂, s₃, hs, hs'⟩ := FloatBytes.four strength
  simp only [MoveRequest.ofBytes, MoveRequest.toBytes, ha, hs, MoveRequest.mk.injEq]
  exact ⟨rfl, ha', hs'⟩

theorem HighlightRequest.ofBytes_toBytes (r : HighlightRequest) :
    HighlightRequest.ofBytes r.toBytes = r := by
  obtain ⟨unitIndex, isHighlighted⟩ := r
  simp only [HighlightRequest.ofBytes, HighlightRequest.toBytes, HighlightRequest.mk.injEq]
  exact ⟨rfl, byteBool_boolByte isHighlighted⟩

namespace Payload

/-- A payload has the size that is registered for its type. -/
theorem length_toBytes (p : Payload F) : (p.toBytes padding).length = size p.contentType := by
  cases p with
  | gameUnit d =>
      simp only [toBytes, GameUnitData.toBytes, List.length_append, FloatBytes.length_toBytes]
      rfl
  | moveRequest r =>
      simp only [toBytes, MoveRequest.toBytes, List.length_append, FloatBytes.length_toBytes]
      rfl
  | highlightRequest r => rfl
  | gameObstacle d =>
      simp only [toBytes, GameObstacleData.toBytes, List.length_append, FloatBytes.length_toBytes]
      rfl
  | newPlayerID playerID => rfl
  | other t ht =>
      -- none of the types that have a size
      have hne : ∀ t', Registered t' → t ≠ t' := fun t' ht' heq => ht (heq ▸ ht')
      have hsize : size t = 0 := by
        unfold size
        rw [if_neg (hne _ (by decide)), if_neg (hne _ (by decide)), if_neg (hne _ (by decide)),
          if_neg (hne _ (by decide)), if_neg (hne _ (by decide))]
      exact hsize.symm

/-- **Round trip.** The content of a message is what was sent, whatever the padding holds. -/
theorem ofBytes_toBytes (p : Payload F) : ofBytes p.contentType (p.toBytes padding) = some p := by
  unfold ofBytes
  rw [if_neg (not_not.mpr p.length_toBytes)]
  cases p with
  | gameUnit d         => exact congrArg (some ∘ gameUnit) d.ofBytes_toBytes
  | moveRequest r      => exact congrArg (some ∘ moveRequest) r.ofBytes_toBytes
  | highlightRequest r => exact congrArg (some ∘ highlightRequest) r.ofBytes_toBytes
  | gameObstacle d     => exact congrArg (some ∘ gameObstacle) d.ofBytes_toBytes
  | newPlayerID p      => exact congrArg (some ∘ newPlayerID) (readWord16_word16 p [])
  | other t ht =>
      have hne : ∀ t', Registered t' → t ≠ t' := fun t' ht' heq => ht (heq ▸ ht')
      simp only [contentType, hne messageGameUnit (by decide), hne messageMoveRequest (by decide),
        hne messageHighlightRequest (by decide), hne messageGameObstacle (by decide),
        hne messageNewPlayerID (by decide), if_false]
      exact dif_neg ht

/-- Every registered size is that of a package at most. -/
theorem size_le (t : ContentType) : size t ≤ maxMessageLength := by
  unfold size
  split_ifs <;> decide

end Payload

/-! ## Numbers of four bytes -/

/-- Whole numbers of 32 bits, in which runs can be evaluated that need the bytes of a number. -/
instance : FloatArith Int32 where
  ofInt x := Int32.ofInt x
  sqrt x  := Int32.ofInt (Nat.sqrt x.toInt.toNat)
  fabs x  := Int32.ofInt x.toInt.natAbs
  cos _   := 1
  sin _   := 0
  trunc x := x.toInt
  decLT   := inferInstance
  decLE   := inferInstance

instance : FloatBytes Int32 where
  toBytes x :=
    let n := x.toBitVec.toNat
    [UInt8.ofNat (n % 256), UInt8.ofNat (n / 256 % 256), UInt8.ofNat (n / 65536 % 256),
     UInt8.ofNat (n / 16777216)]
  ofBytes w :=
    Int32.ofBitVec (BitVec.ofNat 32 ((w.getD 0 0).toNat + 256 * (w.getD 1 0).toNat +
      65536 * (w.getD 2 0).toNat + 16777216 * (w.getD 3 0).toNat))
  length_toBytes _ := rfl
  ofBytes_toBytes x := by
    have hlt := x.toBitVec.isLt
    have hbyte : ∀ n, n < 256 → (UInt8.ofNat n).toNat = n := fun n hn => by
      rw [UInt8.toNat_ofNat', Nat.mod_eq_of_lt hn]
    simp only [List.getD_cons_zero, List.getD_cons_succ]
    rw [hbyte _ (by omega), hbyte _ (by omega), hbyte _ (by omega), hbyte _ (by omega)]
    have hvalue : x.toBitVec.toNat % 256 + 256 * (x.toBitVec.toNat / 256 % 256) +
        65536 * (x.toBitVec.toNat / 65536 % 256) + 16777216 * (x.toBitVec.toNat / 16777216) =
          x.toBitVec.toNat := by
      omega
    rw [hvalue, BitVec.ofNat_toNat, BitVec.setWidth_eq, Int32.ofBitVec_toBitVec]

end Footscreen
