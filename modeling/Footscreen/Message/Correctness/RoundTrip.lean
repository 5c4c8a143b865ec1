import Footscreen.Message.Synchronize
import Footscreen.Lib.Run
import Mathlib.Data.List.Nodup
import Mathlib.Data.List.Perm.Basic

/-!
# `Message.Correctness.RoundTrip` — what `synchronize` sends, and what becomes of it

`registrations` reads off the calls on a message which members it has, and which are enabled;
`registered_eq` says that the message agrees, and that every header has its current ID. From this,
`synchronize_roundtrip`: what is sent, and that a second message that gets it, in any order, holds the
same data. Members of other types keep their data where they share no byte with those.
-/

namespace Footscreen

open Lib

namespace Message

variable {message : Message} {mem mem' : Memory} {f : UpdateFrequency} {unset : Nat → Buffer}

/-! ## The members after some calls -/

structure Registration where
  contentType      : ContentType
  data             : Nat
  contentLength    : ContentLength
  updateFrequency  : UpdateFrequency
  isSendingEnabled : Bool

/-- Whether a type is enabled after a call. -/
def Event.sending (contentType : ContentType) (isSendingEnabled : Bool) : Event → Bool
  | .enableSendingMessageType t  => if t = contentType then true else isSendingEnabled
  | .disableSendingMessageType t => if t = contentType then false else isSendingEnabled
  | _                            => isSendingEnabled

/-- The members that have been registered, in order, each with whether it is enabled: it is from the
    start, and then what the last call for its type has made it. -/
def registrations : List Event → List Registration
  | [] => []
  | .registerMessageType contentType data contentLength updateFrequency :: es =>
      ⟨contentType, data, contentLength, updateFrequency, es.foldl (Event.sending contentType) true⟩ ::
        registrations es
  | _ :: es => registrations es

/-- The member that a call adds. -/
def Event.added : Event → List Registration
  | .registerMessageType contentType data contentLength updateFrequency =>
      [⟨contentType, data, contentLength, updateFrequency, true⟩]
  | _ => []

/-- What a call makes of the members. -/
def Event.edit (e : Event) (rs : List Registration) : List Registration :=
  (rs.map fun r => { r with isSendingEnabled := Event.sending r.contentType r.isSendingEnabled e }) ++
    e.added

theorem registrations_snoc (es : List Event) (e : Event) :
    registrations (es ++ [e]) = e.edit (registrations es) := by
  induction es with
  | nil => cases e <;> rfl
  | cons e' es ih =>
      cases e' with
      | registerMessageType contentType data contentLength updateFrequency =>
          rw [List.cons_append, registrations, registrations, List.foldl_append, ih]
          rfl
      | setMessageID messageID                => exact ih
      | generateMessageID                     => exact ih
      | createFromData messageData            => exact ih
      | enableSendingMessageType contentType  => exact ih
      | disableSendingMessageType contentType => exact ih
      | write address bytes                   => exact ih
      | otherMessageID                        => exact ih

/-- A member as the message holds it. -/
def Registration.registered (messageID : MessageID) (r : Registration) : RegisteredMessageType where
  isSendingEnabled := r.isSendingEnabled
  header := { messageID := messageID, contentType := r.contentType, padding := 0,
              contentLength := r.contentLength }
  data := r.data
  updateFrequency := r.updateFrequency

/-- The message holds these members, under its current ID. -/
def Holds (rs : List Registration) (s : Object) : Prop :=
  s.message.registeredMessageTypes = rs.map (Registration.registered s.message.messageID)

theorem holds_setMessageID {rs : List Registration} {s : Object} (h : Holds rs s)
    (messageID : MessageID) (nextMessageID : MessageID) (memory : Memory) :
    Holds rs ⟨s.message.setMessageID messageID, nextMessageID, memory⟩ := by
  unfold Holds Message.setMessageID at *
  dsimp only
  rw [h, List.map_map]
  rfl

/-- One call. -/
theorem Holds.step {rs : List Registration} {s t : Object} {e : Event} (h : Holds rs s)
    (hstep : Message.step s e = some t) : Holds (e.edit rs) t := by
  -- most calls enable nothing and add nothing
  have hsame : (∀ t b, e.sending t b = b) → e.added = [] → e.edit rs = rs := by
    intro hsending hadded
    unfold Event.edit
    rw [hadded, List.append_nil]
    exact (List.map_congr_left fun r _ => by rw [hsending]).trans (List.map_id' rs)
  have hswitch : ∀ (t : ContentType) (b : Bool),
      (∀ t' b', e.sending t' b' = if t = t' then b else b') → e.added = [] →
      (s.message.registeredMessageTypes.map fun r =>
        if r.header.contentType = t then { r with isSendingEnabled := b } else r) =
      (e.edit rs).map (Registration.registered s.message.messageID) := by
    intro t b hsending hadded
    unfold Event.edit
    rw [hadded, List.append_nil, h, List.map_map, List.map_map]
    apply List.map_congr_left
    intro r _
    simp only [Function.comp_apply, hsending]
    by_cases ht : r.contentType = t
    · simp [Registration.registered, ht]
    · simp [Registration.registered, ht, Ne.symm ht]
  cases e with
  | registerMessageType contentType data contentLength updateFrequency =>
      cases hstep
      unfold Holds Message.registerMessageType Event.edit
      dsimp only
      rw [h, List.map_append, List.map_map]
      rfl
  | setMessageID messageID =>
      cases hstep
      rw [hsame (fun _ _ => rfl) rfl]
      exact holds_setMessageID h _ _ _
  | generateMessageID =>
      cases hstep
      rw [hsame (fun _ _ => rfl) rfl]
      exact holds_setMessageID h _ _ _
  | createFromData messageData =>
      obtain ⟨⟨message, memory⟩, hcreate, rfl⟩ := Option.map_eq_some_iff.mp hstep
      obtain ⟨memory', -, hpair⟩ := Option.map_eq_some_iff.mp hcreate
      cases hpair
      rw [hsame (fun _ _ => rfl) rfl]
      exact holds_setMessageID h _ _ _
  | enableSendingMessageType contentType =>
      cases hstep
      exact hswitch contentType true (fun _ _ => rfl) rfl
  | disableSendingMessageType contentType =>
      cases hstep
      exact hswitch contentType false (fun _ _ => rfl) rfl
  | write address bytes =>
      cases hstep
      rw [hsame (fun _ _ => rfl) rfl]
      exact h
  | otherMessageID =>
      cases hstep
      rw [hsame (fun _ _ => rfl) rfl]
      exact h

/-- A new message. -/
def start (nextMessageID : MessageID) (memory : Memory) : Object := ⟨.new, nextMessageID, memory⟩

theorem registered_eq {nextMessageID : MessageID} {memory : Memory} {es : List Event} {s : Object}
    (h : exec step (start nextMessageID memory) es = some s) :
    s.message.registeredMessageTypes =
      (registrations es).map (Registration.registered s.message.messageID) := by
  have hinit : Holds (registrations []) (start nextMessageID memory) := rfl
  refine exec_trace (P := fun es s => Holds (registrations es) s) hinit (fun _ hs hstep => ?_) h
  rw [registrations_snoc]
  exact hs.step hstep

/-! ## What is sent -/

/-- The member is enabled, and its frequency is high enough. -/
def due (f : UpdateFrequency) (r : RegisteredMessageType) : Bool :=
  r.isSendingEnabled && decide (f ≤ r.updateFrequency)

/-- The message has the member's header, and its data as content. -/
def Carries (mem : Memory) (r : RegisteredMessageType) (m : MessageData) : Prop :=
  m.header = r.header ∧ m.content.bytes.take r.header.contentLength.toNat = mem.read r.block

theorem copyContentFromMemory_carries (mem : Memory) (r : RegisteredMessageType) (content : Buffer)
    (h : r.header.contentLength.toNat ≤ maxMessageLength) :
    ∃ m, (MessageData.mk r.header content none).copyContentFromMemory mem r.data = some m ∧
      Carries mem r m := by
  have hlength : (mem.read r.block).length = r.header.contentLength.toNat := Memory.read_length
  obtain ⟨content', hcopy, htake⟩ :=
    content.copyIn_of_le (mem.read r.block) (Nat.le_trans (Nat.le_of_eq hlength) h)
  refine ⟨⟨r.header, content', none⟩, ?_, rfl, ?_⟩
  · exact Option.map_eq_some_iff.mpr ⟨content', hcopy, rfl⟩
  · rw [← hlength]
    exact htake

/-- **The loop** sends the members that are due, in order. -/
theorem synchronizeLoop_carries (mem : Memory) (f : UpdateFrequency) (unset : Nat → Buffer)
    {rs : List RegisteredMessageType}
    (h : ∀ r ∈ rs, r.header.contentLength.toNat ≤ maxMessageLength) :
    ∃ sent, synchronizeLoop mem f unset rs = some sent ∧
      List.Forall₂ (Carries mem) (rs.filter (due f)) sent := by
  induction rs generalizing unset with
  | nil => exact ⟨[], rfl, List.Forall₂.nil⟩
  | cons r rs ih =>
      have hrest := fun r hr => h r (List.mem_cons_of_mem _ hr)
      unfold synchronizeLoop
      by_cases hfrequency : r.updateFrequency < f
      · have hnot : due f r = false := by simp [due, hfrequency]
        rw [if_pos hfrequency, List.filter_cons_of_neg (by simp [hnot])]
        exact ih unset hrest
      · rw [if_neg hfrequency]
        cases henabled : r.isSendingEnabled with
        | false =>
            have hnot : due f r = false := by simp [due, henabled]
            rw [List.filter_cons_of_neg (by simp [hnot])]
            exact ih unset hrest
        | true =>
            have hdue : due f r = true := by simp [due, henabled, UInt8.not_lt.mp hfrequency]
            obtain ⟨m, hm, hcarries⟩ := copyContentFromMemory_carries mem r (unset 0)
              (h r List.mem_cons_self)
            obtain ⟨sent, hsent, hall⟩ := ih (fun i => unset (i + 1)) hrest
            refine ⟨m :: sent, ?_, ?_⟩
            · simp [hm, hsent]
            · rw [List.filter_cons_of_pos hdue]
              exact List.Forall₂.cons hcarries hall

/-- With an interface, `synchronize` is its loop. -/
theorem synchronize_eq (message : Message) (receiverID : PlayerID) :
    message.synchronize true mem unset receiverID f =
      (synchronizeLoop mem f unset message.registeredMessageTypes).map fun sent =>
        sent.map fun m => (m, receiverID) := by
  unfold synchronize
  cases hempty : message.registeredMessageTypes with
  | nil       => rfl
  | cons r rs => rfl

/-- So it is with a session. -/
theorem synchronizeSession_eq (message : Message) (session : SessionID) :
    message.synchronizeSession (some session) mem unset f =
      (synchronizeLoop mem f unset message.registeredMessageTypes).map fun sent =>
        sent.map fun m => (session, m) := by
  unfold synchronizeSession
  cases hempty : message.registeredMessageTypes with
  | nil       => rfl
  | cons r rs => rfl

/-- With several receivers, each is handed all of them. -/
theorem synchronizeAll_carries {unset : PlayerID → Nat → Buffer}
    (h : ∀ r ∈ message.registeredMessageTypes, r.header.contentLength.toNat ≤ maxMessageLength)
    (receiverIDs : List PlayerID) :
    ∃ sents : List (PlayerID × List MessageData), sents.map Prod.fst = receiverIDs ∧
      message.synchronizeAll true mem unset f receiverIDs =
        some (sents.flatMap fun p => p.2.map fun m => (m, p.1)) ∧
      ∀ p ∈ sents, List.Forall₂ (Carries mem) (message.registeredMessageTypes.filter (due f)) p.2 := by
  induction receiverIDs with
  | nil => exact ⟨[], rfl, rfl, fun p hp => by cases hp⟩
  | cons receiverID receiverIDs ih =>
      obtain ⟨sents, hreceivers, hrest, hall⟩ := ih
      obtain ⟨sent, hsent, hcarries⟩ :=
        synchronizeLoop_carries mem f (unset receiverID) h
      refine ⟨(receiverID, sent) :: sents, congrArg _ hreceivers, ?_, ?_⟩
      · unfold synchronizeAll
        rw [synchronize_eq, hsent, hrest]
        rfl
      · intro p hp
        rcases List.mem_cons.mp hp with rfl | hp
        · exact hcarries
        · exact hall p hp

/-! ## What becomes of it -/

/-- One member's way to its counterpart in a second message. -/
def copyOf (p : RegisteredMessageType × RegisteredMessageType) : Copy :=
  ⟨p.1.data, p.2.data, p.1.header.contentLength.toNat⟩

/-- Two messages have registered members of the same types and lengths in the same order, and those of
    the second share bytes only where those of the first do. -/
structure Alike (rs rs' : List RegisteredMessageType) : Prop where
  length  : rs'.length = rs.length
  types   : ∀ p ∈ rs.zip rs', p.2.header.contentType = p.1.header.contentType
  lengths : ∀ p ∈ rs.zip rs', p.2.header.contentLength = p.1.header.contentLength
  overlap : Consistent ((rs.zip rs').map copyOf)

variable {rs rs' : List RegisteredMessageType}

/-- An object laid out like the first one. -/
theorem alike_self (rs : List RegisteredMessageType) : Alike rs rs := by
  have heq : ∀ p ∈ rs.zip rs, p.2 = p.1 := by
    intro p hp
    obtain ⟨i, hi, rfl⟩ := List.getElem_of_mem hp
    simp
  refine ⟨rfl, fun p hp => by rw [heq p hp], fun p hp => by rw [heq p hp], ?_⟩
  intro c hc d hd x _ y _ h
  obtain ⟨p, hp, rfl⟩ := List.mem_map.mp hc
  obtain ⟨q, hq, rfl⟩ := List.mem_map.mp hd
  have hp' : (copyOf p).target = (copyOf p).source :=
    congrArg RegisteredMessageType.data (heq p hp)
  have hq' : (copyOf q).target = (copyOf q).source :=
    congrArg RegisteredMessageType.data (heq q hq)
  rw [← hp', ← hq']
  exact h

theorem Alike.contentTypes (h : Alike rs rs') :
    rs'.map (·.header.contentType) = rs.map (·.header.contentType) := by
  have hleft : (rs.zip rs').map Prod.fst = rs := List.map_fst_zip (Nat.le_of_eq h.length.symm)
  have hright : (rs.zip rs').map Prod.snd = rs' := List.map_snd_zip (Nat.le_of_eq h.length)
  calc rs'.map (·.header.contentType)
      = (rs.zip rs').map fun p => p.2.header.contentType := by
        rw [← congrArg (List.map _) hright, List.map_map]
        rfl
    _ = (rs.zip rs').map fun p => p.1.header.contentType := List.map_congr_left h.types
    _ = rs.map (·.header.contentType) := by
        rw [← congrArg (List.map _) hleft, List.map_map]
        rfl

theorem Alike.block_eq (h : Alike rs rs') {p : RegisteredMessageType × RegisteredMessageType}
    (hp : p ∈ rs.zip rs') : p.2.block = (copyOf p).targetBlock := by
  unfold RegisteredMessageType.block
  rw [h.lengths p hp]
  rfl

/-- **One message** copies the member that it carries. -/
theorem Alike.updateData_eq (h : Alike rs message.registeredMessageTypes)
    (hdistinct : (rs.map (·.header.contentType)).Nodup)
    (hlengths : ∀ r ∈ rs, r.header.contentLength.toNat ≤ maxMessageLength)
    {p : RegisteredMessageType × RegisteredMessageType}
    (hp : p ∈ rs.zip message.registeredMessageTypes) {m : MessageData} (hm : Carries mem p.1 m) :
    message.updateData mem' m =
      some (mem'.write (copyOf p).target (mem.read ⟨(copyOf p).source, (copyOf p).length⟩)) := by
  obtain ⟨hheader, hcontent⟩ := hm
  obtain ⟨hleft, hright⟩ := List.of_mem_zip hp
  have htype : m.contentType = p.2.header.contentType :=
    (congrArg MessageHeader.contentType hheader).trans (h.types p hp).symm
  have hlength : m.contentLength = p.1.header.contentLength :=
    congrArg MessageHeader.contentLength hheader
  -- the types are distinct, so the first match is the counterpart
  have hnodup : (message.registeredMessageTypes.map (·.header.contentType)).Nodup := by
    rw [h.contentTypes]
    exact hdistinct
  have hfind : message.registeredMessageTypes.find?
      (fun r => r.header.contentType == m.contentType) = some p.2 := by
    cases hfound : message.registeredMessageTypes.find?
        (fun r => r.header.contentType == m.contentType) with
    | none =>
        have hno := List.find?_eq_none.mp hfound p.2 hright
        simp [htype] at hno
    | some r =>
        have htype' := List.find?_some hfound
        rw [beq_iff_eq, htype] at htype'
        rw [List.inj_on_of_nodup_map hnodup (List.mem_of_find?_eq_some hfound) hright htype']
  unfold updateData MessageData.copyTo Buffer.copyOut
  rw [hfind, hlength]
  dsimp only
  rw [if_pos (hlengths p.1 hleft), hcontent]
  rfl

/-- Messages that carry members, applied one after the other. -/
theorem Alike.updateAll_eq (h : Alike rs message.registeredMessageTypes)
    (hdistinct : (rs.map (·.header.contentType)).Nodup)
    (hlengths : ∀ r ∈ rs, r.header.contentLength.toNat ≤ maxMessageLength)
    {ps : List (RegisteredMessageType × RegisteredMessageType)} {order : List MessageData}
    (hps : ∀ p ∈ ps, p ∈ rs.zip message.registeredMessageTypes)
    (hcarries : List.Forall₂ (fun p m => Carries mem p.1 m) ps order) :
    order.foldlM message.updateData mem' = some (mem.copyAll (ps.map copyOf) mem') := by
  induction hcarries generalizing mem' with
  | nil => rfl
  | @cons p m ps order hm _ ih =>
      rw [List.foldlM_cons, h.updateData_eq hdistinct hlengths (hps p List.mem_cons_self) hm]
      exact ih fun q hq => hps q (List.mem_cons_of_mem _ hq)

/-- The sent members are equal, and no byte outside of them has changed; nor has another member that
    shares no byte with them. -/
structure Synchronized (sent : RegisteredMessageType → Bool) (rs rs' : List RegisteredMessageType)
    (mem mem' mem'' : Memory) : Prop where
  equal  : ∀ p ∈ rs.zip rs', sent p.1 = true → mem''.read p.2.block = mem.read p.1.block
  bytes  : ∀ a, (∀ p ∈ rs.zip rs', sent p.1 = true → ¬ p.2.block.Contains a) → mem'' a = mem' a
  others : ∀ p ∈ rs.zip rs', sent p.1 = false →
    (∀ q ∈ rs.zip rs', sent q.1 = true → p.2.block.Disjoint q.2.block) →
    mem''.read p.2.block = mem'.read p.2.block

/-- Copies of exactly the sent members synchronize them, in any order. -/
theorem Alike.synchronized (h : Alike rs rs') {sent : RegisteredMessageType → Bool}
    {ps : List (RegisteredMessageType × RegisteredMessageType)}
    (hps : ∀ p, p ∈ ps ↔ p ∈ rs.zip rs' ∧ sent p.1 = true) :
    Synchronized sent rs rs' mem mem' (mem.copyAll (ps.map copyOf) mem') := by
  have hconsistent : Consistent (ps.map copyOf) := by
    intro c hc d hd
    obtain ⟨p, hp, rfl⟩ := List.mem_map.mp hc
    obtain ⟨q, hq, rfl⟩ := List.mem_map.mp hd
    exact h.overlap _ (List.mem_map_of_mem ((hps p).mp hp).1) _
      (List.mem_map_of_mem ((hps q).mp hq).1)
  have hbytes : ∀ a, (∀ p ∈ rs.zip rs', sent p.1 = true → ¬ p.2.block.Contains a) →
      mem.copyAll (ps.map copyOf) mem' a = mem' a := by
    intro a ha
    apply Memory.copyAll_outside
    intro c hc
    obtain ⟨p, hp, rfl⟩ := List.mem_map.mp hc
    obtain ⟨hzip, hsent⟩ := (hps p).mp hp
    rw [← h.block_eq hzip]
    exact ha p hzip hsent
  refine ⟨?_, hbytes, ?_⟩
  · intro p hp hsent
    rw [h.block_eq hp]
    exact Memory.read_copyAll hconsistent (List.mem_map_of_mem ((hps p).mpr ⟨hp, hsent⟩))
  · intro p hp hsent hdisjoint
    refine Memory.read_eq_read_iff.mpr fun a ha => hbytes a ?_
    intro q hq hsent'
    exact hdisjoint q hq hsent' a ha

/-- What was sent, in any order, synchronizes the second message. -/
theorem Alike.apply (h : Alike rs message.registeredMessageTypes)
    (hdistinct : (rs.map (·.header.contentType)).Nodup)
    (hlengths : ∀ r ∈ rs, r.header.contentLength.toNat ≤ maxMessageLength)
    {sent order : List MessageData} (hsent : List.Forall₂ (Carries mem) (rs.filter (due f)) sent)
    (horder : order.Perm sent) (mem' : Memory) :
    ∃ mem'', order.foldlM message.updateData mem' = some mem'' ∧
      Synchronized (due f) rs message.registeredMessageTypes mem mem' mem'' := by
  let members := (rs.zip message.registeredMessageTypes).filter fun p => due f p.1
  have hleft : (rs.zip message.registeredMessageTypes).map Prod.fst = rs :=
    List.map_fst_zip (Nat.le_of_eq h.length.symm)
  have hmembers : rs.filter (due f) = members.map Prod.fst := by
    rw [← congrArg (List.filter (due f)) hleft, List.filter_map]
    rfl
  rw [hmembers, List.forall₂_map_left_iff] at hsent
  -- the members in the order of the messages
  obtain ⟨ps, hall, hperm⟩ := List.perm_comp_forall₂ horder hsent.flip
  have hmem : ∀ p, p ∈ ps ↔ p ∈ rs.zip message.registeredMessageTypes ∧ due f p.1 = true := by
    intro p
    rw [hperm.mem_iff]
    exact List.mem_filter
  exact ⟨_, h.updateAll_eq hdistinct hlengths (fun p hp => ((hmem p).mp hp).1) hall.flip,
    h.synchronized hmem⟩

/-! ## Runs -/

/-- The message carries the registered member under an ID. -/
structure CarriesAs (mem : Memory) (messageID : MessageID) (r : Registration) (m : MessageData) :
    Prop where
  messageID     : m.messageID = messageID
  contentType   : m.contentType = r.contentType
  contentLength : m.contentLength = r.contentLength
  content       : m.content.bytes.take r.contentLength.toNat =
    mem.read ⟨r.data, r.contentLength.toNat⟩

/-- **Synchronization.** After any calls, `synchronize` hands over one message for each member that is
    enabled and due, in order of registration, with the current ID, the member's type and length, and its
    data. When these are applied in any order to a second message with the same members, its data of these
    types is equal, and no other byte has changed. -/
theorem synchronize_roundtrip {nextMessageID : MessageID} {memory : Memory} {es : List Event}
    {s : Object} (h : exec step (start nextMessageID memory) es = some s)
    (hdistinct : ((registrations es).map (·.contentType)).Nodup)
    (hlengths : ∀ r ∈ registrations es, r.contentLength.toNat ≤ maxMessageLength)
    (unset : Nat → Buffer) (receiverID : PlayerID) (leastFrequency : UpdateFrequency) :
    ∃ sent, s.message.synchronize true s.memory unset receiverID leastFrequency =
        some (sent.map fun m => (m, receiverID)) ∧
      List.Forall₂ (CarriesAs s.memory s.message.messageID)
        ((registrations es).filter fun r =>
          r.isSendingEnabled && decide (leastFrequency ≤ r.updateFrequency)) sent ∧
      ∀ (receiver : Message) (memory' : Memory) (order : List MessageData),
        Alike s.message.registeredMessageTypes receiver.registeredMessageTypes → order.Perm sent →
        ∃ memory'', order.foldlM receiver.updateData memory' = some memory'' ∧
          Synchronized (due leastFrequency) s.message.registeredMessageTypes
            receiver.registeredMessageTypes s.memory memory' memory'' := by
  have hregistered := registered_eq h
  have hfits : ∀ r ∈ s.message.registeredMessageTypes,
      r.header.contentLength.toNat ≤ maxMessageLength := by
    rw [hregistered]
    intro r hr
    obtain ⟨r', hr', rfl⟩ := List.mem_map.mp hr
    exact hlengths r' hr'
  have htypes : (s.message.registeredMessageTypes.map (·.header.contentType)).Nodup := by
    rw [hregistered, List.map_map]
    exact hdistinct
  obtain ⟨sent, hloop, hcarries⟩ :=
    synchronizeLoop_carries s.memory leastFrequency unset hfits
  refine ⟨sent, ?_, ?_, fun receiver memory' order halike horder =>
    halike.apply htypes hfits hcarries horder memory'⟩
  · rw [synchronize_eq, hloop]
    rfl
  · rw [hregistered, List.filter_map, List.forall₂_map_left_iff] at hcarries
    apply hcarries.imp
    intro r m hm
    obtain ⟨hheader, hcontent⟩ := hm
    exact ⟨congrArg MessageHeader.messageID hheader, congrArg MessageHeader.contentType hheader,
      congrArg MessageHeader.contentLength hheader, hcontent⟩

/-- A unit's and an obstacle's data in one object, the latter not to be sent. -/
def twoMembers : List Event :=
  [.registerMessageType messageGameUnit 0 1 updateFrequencyAlways, .generateMessageID,
    .registerMessageType messageGameObstacle 1 1 updateFrequencyAlways,
    .disableSendingMessageType messageGameObstacle, .write 0 [7]]

theorem synchronize_roundtrip_twoMembers :
    ∃ s sent mem'', exec step (start messageIDFirst fun _ => 0) twoMembers = some s ∧
      s.message.synchronize true s.memory (fun _ => .zero) idServer updateFrequencyOnce = some sent ∧
      sent.map (fun p => (p.1.messageID, p.1.contentType)) = [(messageIDFirst, messageGameUnit)] ∧
      (sent.map Prod.fst).foldlM s.message.updateData (fun _ => 1) = some mem'' ∧
      mem''.read ⟨0, 1⟩ = [7] := by
  obtain ⟨sent, hsent, hcarries, happly⟩ := @synchronize_roundtrip
    messageIDFirst (fun _ => 0) twoMembers _ rfl (by decide) (by decide) (fun _ => .zero) idServer updateFrequencyOnce
  obtain ⟨mem'', hmem'', hsync⟩ := happly _ (fun _ => 1) sent (alike_self _) (List.Perm.refl _)
  have hfst : (sent.map fun m => (m, idServer)).map Prod.fst = sent := by
    rw [List.map_map]
    exact List.map_id' sent
  refine ⟨_, _, mem'', rfl, hsent, ?_, hfst.symm ▸ hmem'', ?_⟩
  · have hone : List.Forall₂ (CarriesAs _ messageIDFirst)
        [⟨messageGameUnit, 0, 1, updateFrequencyAlways, true⟩] sent := hcarries
    obtain _ | ⟨hm, hnil⟩ := hone
    cases hnil
    rw [List.map_singleton, List.map_singleton, hm.messageID, hm.contentType]
  · exact hsync.equal _ List.mem_cons_self rfl

/-- With both members in the same place, the one that is disabled changes too. -/
theorem overlapping_member_changes :
    ∃ s sent mem'' r, exec step (start messageIDFirst fun _ => 0)
        [.registerMessageType messageGameUnit 0 1 updateFrequencyAlways,
          .registerMessageType messageGameObstacle 0 1 updateFrequencyAlways,
          .disableSendingMessageType messageGameObstacle, .write 0 [7]] = some s ∧
      s.message.synchronize true s.memory (fun _ => .zero) idServer updateFrequencyOnce = some sent ∧
      (sent.map Prod.fst).foldlM s.message.updateData (fun _ => 1) = some mem'' ∧
      r ∈ s.message.registeredMessageTypes ∧ due updateFrequencyOnce r = false ∧
      mem''.read r.block ≠ Memory.read (fun _ => 1) r.block := by
  refine ⟨_, _, _, _, rfl, rfl, rfl, List.mem_cons_of_mem _ List.mem_cons_self, rfl, ?_⟩
  decide

end Message

end Footscreen
