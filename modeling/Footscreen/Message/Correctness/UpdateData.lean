import Footscreen.Message.Message

/-!
# `Message.Correctness.UpdateData` — what an incoming message overwrites

`updateData` finds the first registered member of the message's type and copies as many bytes over it
as the *message* says. `AllOrNothing` is the promise that each member is replaced as a whole or not at
all; `updateData_allOrNothing_iff` says for which messages it is kept (`Contained`), and
`contained_iff_of_disjoint` what that means for members that share no bytes.
-/

namespace Footscreen

open Lib

namespace Message

variable {message : Message} {m : MessageData} {mem mem' : Memory} {r s : RegisteredMessageType}
  {k : Nat}

/-- The `k`-th member is the one that `updateData` finds. -/
structure FirstMatch (message : Message) (m : MessageData) (k : Nat) (r : RegisteredMessageType) :
    Prop where
  get      : message.registeredMessageTypes[k]? = some r
  sameType : r.header.contentType = m.contentType
  first    : ∀ (j : Nat) (s : RegisteredMessageType), j < k →
               message.registeredMessageTypes[j]? = some s → s.header.contentType ≠ m.contentType

theorem find?_firstMatch (h : message.registeredMessageTypes.find?
      (fun r => r.header.contentType == m.contentType) = some r) :
    ∃ k, FirstMatch message m k r := by
  obtain ⟨hmatches, k, hk, rfl, hfirst⟩ := List.find?_eq_some_iff_getElem.mp h
  refine ⟨k, List.getElem?_eq_getElem hk, beq_iff_eq.mp hmatches, fun j s hj hs heq => ?_⟩
  obtain ⟨hlt, rfl⟩ := List.getElem?_eq_some_iff.mp hs
  have hne := hfirst j hj
  rw [heq, beq_self_eq_true] at hne
  cases hne

theorem FirstMatch.find? (h : FirstMatch message m k r) :
    message.registeredMessageTypes.find? (fun r => r.header.contentType == m.contentType) =
      some r := by
  obtain ⟨hk, hget⟩ := List.getElem?_eq_some_iff.mp h.get
  refine List.find?_eq_some_iff_getElem.mpr ⟨beq_iff_eq.mpr h.sameType, k, hk, hget, fun j hj => ?_⟩
  have hne := h.first j _ hj (List.getElem?_eq_getElem (Nat.lt_trans hj hk))
  rw [beq_eq_false_iff_ne.mpr hne]
  rfl

/-! ## The promise -/

/-- Each registered block is unchanged or entirely replaced by the content, which needs its type and its
    length; at most one is replaced; nothing outside the blocks changes; and when the member that is
    found has another length than the message, no block changes. -/
structure AllOrNothing (message : Message) (m : MessageData) (mem mem' : Memory) : Prop where
  replaced    : ∀ r ∈ message.registeredMessageTypes,
                  mem'.read r.block = mem.read r.block ∨
                  (r.header.contentType = m.contentType ∧
                    m.contentLength = r.header.contentLength ∧
                    mem'.read r.block = m.content.bytes.take m.contentLength.toNat)
  atMostOne   : ∀ (i j : Nat) (r s : RegisteredMessageType),
                  message.registeredMessageTypes[i]? = some r → message.registeredMessageTypes[j]? = some s →
                  mem'.read r.block ≠ mem.read r.block → mem'.read s.block ≠ mem.read s.block → i = j
  outside     : ∀ a, (∀ r ∈ message.registeredMessageTypes, ¬ r.block.Contains a) → mem' a = mem a
  otherLength : ∀ k r, FirstMatch message m k r → m.contentLength ≠ r.header.contentLength →
                  ∀ s ∈ message.registeredMessageTypes, mem'.read s.block = mem.read s.block

/-- The messages that keep the promise. When a member of the message's type is found, the content is at
    most `maxMessageLength` bytes, and either memory holds it already, or it is as long as the member
    and changes no byte of another one. -/
def Contained (message : Message) (mem : Memory) (m : MessageData) : Prop :=
  ∀ k r, FirstMatch message m k r →
    m.contentLength.toNat ≤ maxMessageLength ∧
    (mem.read ⟨r.data, m.contentLength.toNat⟩ = m.content.bytes.take m.contentLength.toNat ∨
      (m.contentLength = r.header.contentLength ∧
        ∀ (j : Nat) (s : RegisteredMessageType) (a : Nat),
          message.registeredMessageTypes[j]? = some s → j ≠ k → r.block.Contains a →
          s.block.Contains a → m.content.bytes[a - r.data]? = some (mem a)))

theorem AllOrNothing.refl : AllOrNothing message m mem mem :=
  ⟨fun _ _ => Or.inl rfl, fun _ _ _ _ _ _ h => absurd rfl h, fun _ _ => rfl, fun _ _ _ _ _ _ => rfl⟩

/-! ## What `updateData` does -/

theorem updateData_of_no_match (h : ∀ k r, ¬ FirstMatch message m k r) :
    message.updateData mem m = some mem := by
  cases hfind : message.registeredMessageTypes.find?
      (fun r => r.header.contentType == m.contentType) with
  | none => rw [updateData, hfind]
  | some r =>
      obtain ⟨k, hk⟩ := find?_firstMatch hfind
      exact absurd hk (h k r)

/-- With a match, the content that the message announces is written over the member. -/
theorem updateData_of_firstMatch (h : FirstMatch message m k r) :
    message.updateData mem m =
      if m.contentLength.toNat ≤ maxMessageLength then
        some (mem.write r.data (m.content.bytes.take m.contentLength.toNat))
      else none := by
  rw [updateData, h.find?]
  show Option.map _ (m.content.copyOut _) = _
  unfold Buffer.copyOut
  split <;> rfl

/-- An address in no changed block keeps its byte. -/
theorem AllOrNothing.eq_of_blocks (h : AllOrNothing message m mem mem')
    (hblocks : ∀ s ∈ message.registeredMessageTypes, mem'.read s.block = mem.read s.block) :
    mem' = mem := by
  funext a
  by_cases ha : ∃ s ∈ message.registeredMessageTypes, s.block.Contains a
  · obtain ⟨s, hs, hcontains⟩ := ha
    exact Memory.read_eq_read_iff.mp (hblocks s hs) a hcontains
  · exact h.outside a fun s hs hcontains => ha ⟨s, hs, hcontains⟩

theorem content_length {n : Nat} (h : n ≤ maxMessageLength) :
    (m.content.bytes.take n).length = n := by
  rw [List.length_take, m.content.length_eq, Nat.min_eq_left h]

/-- The address `i` bytes into the destination of an update holds the content's byte `i`. -/
theorem write_content {n a : Nat} (hn : n ≤ maxMessageLength)
    (ha : (Block.mk r.data n).Contains a) :
    m.content.bytes[a - r.data]? = some (mem.write r.data (m.content.bytes.take n) a) := by
  obtain ⟨hle, hlt⟩ := ha
  have hle : r.data ≤ a := hle
  have hlt : a < r.data + n := hlt
  have hi : a - r.data < (m.content.bytes.take n).length := by
    rw [content_length hn]
    omega
  rw [Memory.write_inside hle hi, List.getElem_take]
  exact List.getElem?_eq_getElem _

/-- When the promise is kept, the message is contained. -/
theorem contained_of_allOrNothing (hupdate : message.updateData mem m = some mem')
    (h : AllOrNothing message m mem mem') : Contained message mem m := by
  intro k r hmatch
  rw [updateData_of_firstMatch hmatch] at hupdate
  split at hupdate
  next hn =>
    obtain rfl : mem.write r.data (m.content.bytes.take m.contentLength.toNat) = mem' :=
      Option.some.inj hupdate
    refine ⟨hn, ?_⟩
    by_cases hthere :
      mem.read ⟨r.data, m.contentLength.toNat⟩ = m.content.bytes.take m.contentLength.toNat
    · exact Or.inl hthere
    · have hchanged : mem.write r.data (m.content.bytes.take m.contentLength.toNat) ≠ mem := by
        intro heq
        rw [Memory.write_eq_self_iff, content_length hn] at heq
        exact hthere heq
      have hlength : m.contentLength = r.header.contentLength := by
        by_contra hne
        exact hchanged (h.eq_of_blocks (h.otherLength k r hmatch hne))
      refine Or.inr ⟨hlength, ?_⟩
      intro j s a hs hjk hr hsa
      rw [RegisteredMessageType.block, ← hlength] at hr
      rw [write_content hn hr]
      -- a changed byte in both blocks would change two members
      by_contra hne
      have hne : mem.write r.data (m.content.bytes.take m.contentLength.toNat) a ≠ mem a :=
        fun heq => hne (congrArg some heq)
      refine hjk (h.atMostOne j k s r hs hmatch.get ?_ ?_)
      · intro hread
        exact hne (Memory.read_eq_read_iff.mp hread a hsa)
      · intro hread
        rw [RegisteredMessageType.block, ← hlength] at hread
        exact hne (Memory.read_eq_read_iff.mp hread a hr)
  next => cases hupdate

/-- A contained message keeps the promise. -/
theorem allOrNothing_of_contained (h : Contained message mem m) :
    ∃ mem', message.updateData mem m = some mem' ∧ AllOrNothing message m mem mem' := by
  by_cases hany : ∃ k r, FirstMatch message m k r
  · obtain ⟨k, r, hmatch⟩ := hany
    obtain ⟨hn, hcases⟩ := h k r hmatch
    rw [updateData_of_firstMatch hmatch, if_pos hn]
    refine ⟨_, rfl, ?_⟩
    rcases hcases with hthere | ⟨hlength, hothers⟩
    · have heq : mem.write r.data (m.content.bytes.take m.contentLength.toNat) = mem := by
        rw [Memory.write_eq_self_iff, content_length hn]
        exact hthere
      rw [heq]
      exact AllOrNothing.refl
    · have hblock : (Block.mk r.data m.contentLength.toNat) = r.block := by
        rw [RegisteredMessageType.block, hlength]
      have houtside : ∀ a, ¬ r.block.Contains a →
          mem.write r.data (m.content.bytes.take m.contentLength.toNat) a = mem a := by
        intro a ha
        rw [← hblock, ← content_length (m := m) hn] at ha
        exact Memory.write_outside ha
      have hunchanged : ∀ (j : Nat) (s : RegisteredMessageType),
          message.registeredMessageTypes[j]? = some s → j ≠ k →
          (mem.write r.data (m.content.bytes.take m.contentLength.toNat)).read s.block =
            mem.read s.block := by
        intro j s hs hjk
        apply Memory.read_eq_read_iff.mpr
        intro a ha
        by_cases hr : r.block.Contains a
        · have hbyte := hothers j s a hs hjk hr ha
          rw [write_content hn (hblock ▸ hr)] at hbyte
          exact Option.some.inj hbyte
        · exact houtside a hr
      refine ⟨?_, ?_, ?_, ?_⟩
      · intro s hs
        obtain ⟨j, hj⟩ := List.getElem?_of_mem hs
        by_cases hjk : j = k
        · subst hjk
          obtain rfl : r = s := Option.some.inj (hmatch.get.symm.trans hj)
          refine Or.inr ⟨hmatch.sameType, hlength, ?_⟩
          rw [← hblock]
          have hread := Memory.read_write mem r.data (m.content.bytes.take m.contentLength.toNat)
          rwa [content_length hn] at hread
        · exact Or.inl (hunchanged j s hj hjk)
      · intro i j s t hs ht hi hj
        have hik : i = k := by
          by_contra hik
          exact hi (hunchanged i s hs hik)
        have hjk : j = k := by
          by_contra hjk
          exact hj (hunchanged j t ht hjk)
        exact hik.trans hjk.symm
      · intro a ha
        exact houtside a (ha r (List.mem_of_getElem? hmatch.get))
      · intro j s hs hne
        obtain rfl : s = r := Option.some.inj (hs.find?.symm.trans hmatch.find?)
        exact absurd hlength hne
  · have hnone : ∀ k r, ¬ FirstMatch message m k r := fun k r hk => hany ⟨k, r, hk⟩
    exact ⟨mem, updateData_of_no_match hnone, AllOrNothing.refl⟩

/-- **Updates are all or nothing** exactly for the contained messages. -/
theorem updateData_allOrNothing_iff (message : Message) (mem : Memory) (m : MessageData) :
    (∃ mem', message.updateData mem m = some mem' ∧ AllOrNothing message m mem mem') ↔
      Contained message mem m := by
  constructor
  · rintro ⟨mem', hupdate, h⟩
    exact contained_of_allOrNothing hupdate h
  · exact allOrNothing_of_contained

/-- With one member of one byte, a payload of two bytes overruns it. -/
theorem updateData_overruns_member :
    ∃ mem', (Message.new.registerMessageType messageGameUnit 0 1 updateFrequencyAlways).updateData
        (fun _ => 7) ⟨⟨messageIDFirst, messageGameUnit, 0, 2⟩, .zero, none⟩ = some mem' ∧
      ¬ AllOrNothing (Message.new.registerMessageType messageGameUnit 0 1 updateFrequencyAlways)
        ⟨⟨messageIDFirst, messageGameUnit, 0, 2⟩, .zero, none⟩ (fun _ => 7) mem' := by
  refine ⟨_, rfl, ?_⟩
  intro h
  have hbyte := h.outside 1 fun r hr => by
    obtain rfl := List.mem_singleton.mp hr
    rintro ⟨_, hlt⟩
    exact absurd hlt (by decide)
  exact absurd hbyte (by decide)

/-- When no two members share a byte, a message that reaches a member keeps the promise exactly if it
    fits in `m_content` and is as long as the member, or memory holds its content already. -/
theorem contained_iff_of_disjoint (hmatch : FirstMatch message m k r)
    (hdisjoint : ∀ (j : Nat) (s : RegisteredMessageType),
      message.registeredMessageTypes[j]? = some s → j ≠ k → r.block.Disjoint s.block) :
    Contained message mem m ↔
      m.contentLength.toNat ≤ maxMessageLength ∧
        (mem.read ⟨r.data, m.contentLength.toNat⟩ = m.content.bytes.take m.contentLength.toNat ∨
          m.contentLength = r.header.contentLength) := by
  constructor
  · intro h
    obtain ⟨hn, hcases⟩ := h k r hmatch
    exact ⟨hn, hcases.imp id And.left⟩
  · rintro ⟨hn, hcases⟩ j s hs
    obtain rfl : r = s := Option.some.inj (hmatch.find?.symm.trans hs.find?)
    have hjk : j = k := by
      rcases Nat.lt_trichotomy j k with hlt | heq | hgt
      · exact absurd hs.sameType (hmatch.first j r hlt hs.get)
      · exact heq
      · exact absurd hmatch.sameType (hs.first k r hgt hmatch.get)
    subst hjk
    exact ⟨hn, hcases.imp id fun hlength =>
      ⟨hlength, fun i t a ht hij hr ha => absurd ha (hdisjoint i t ht hij a hr)⟩⟩

end Message

end Footscreen
