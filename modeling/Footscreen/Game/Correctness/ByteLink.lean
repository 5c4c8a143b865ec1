import Footscreen.Game.ByteLink
import Footscreen.Network.Correctness.Draining

/-!
# `Game.Correctness.ByteLink` — bytes carry the game

The byte level implements the message level: `Refines` relates a `ByteLink` to a `Link`, where a client
processes the server's messages as they are, and `bytes_simulate` is the step diagram. A message of the
server goes over the stream as a frame and comes out as the same message (`ofFrame_toMessageData`); the
connection keeps frames in order (`Connection.Carrying`), so what the client processes next is what the
server sent next. Convergence then holds of the bytes, too (`bytes_converge`).
-/

namespace Footscreen

open FloatArith Lib Lib.Framing

variable {F : Type}

/-! ## Packages -/

section Packages

variable [FloatBytes F] {m : GameMessage F} {d : MessageData}

/-- What is sent fits in a package, and is the message again when it is received. -/
theorem ofFrame_toMessageData (m : GameMessage F) (headerPadding : UInt8) (padding : Nat → UInt8)
    (unset : Buffer) :
    ∃ d, m.toMessageData headerPadding padding unset = some d ∧ Fits d.header ∧
      GameMessage.ofFrame d.frame = some { m with networkServerSession := none } := by
  have hlen : (m.payload.toBytes padding).length ≤ maxMessageLength := by
    rw [m.payload.length_toBytes]
    exact Payload.size_le _
  obtain ⟨content, hcopy, htake⟩ := unset.copyIn_of_le _ hlen
  -- the length fits in 16 bits
  have hlength : (UInt16.ofNat (m.payload.toBytes padding).length).toNat =
      (m.payload.toBytes padding).length := by
    have hmax : maxMessageLength < 2 ^ 16 := by decide
    rw [UInt16.toNat_ofNat', Nat.mod_eq_of_lt (Nat.lt_of_le_of_lt hlen hmax)]
  refine ⟨_, by rw [GameMessage.toMessageData, hcopy]; rfl, ?_, ?_⟩
  · show (UInt16.ofNat (m.payload.toBytes padding).length).toNat ≤ maxMessageLength
    rw [hlength]
    exact hlen
  · have hframe : content.bytes.take
        (UInt16.ofNat (m.payload.toBytes padding).length).toNat = m.payload.toBytes padding := by
      rw [hlength, htake]
    show (Payload.ofBytes m.payload.contentType (content.bytes.take
      (UInt16.ofNat (m.payload.toBytes padding).length).toNat)).map _ = _
    rw [hframe, Payload.ofBytes_toBytes]
    rfl

end Packages

/-! ## What the server sends -/

/-- A message that was not received from anybody. -/
def Unsigned (x : SessionID × GameMessage F) : Prop := x.2.networkServerSession = none

theorem unsigned_messages (g : Game F) : ∀ m ∈ g.messages, m.networkServerSession = none := by
  intro m hm
  rcases List.mem_append.mp hm with hm | hm
  · obtain ⟨u, -, rfl⟩ := List.mem_map.mp hm
    rfl
  · obtain ⟨o, -, rfl⟩ := List.mem_map.mp hm
    rfl

variable [FloatArith F] {s s' : GameServer F} {session : SessionID}

/-- A step of the server sends more messages, and takes none back. -/
theorem GameServer.Ready.step_outbox {e : GameServer.Event F} (h : s.Ready)
    (hallowed : Link.Allowed s e) (hstep : s.step e = some s') :
    ∃ xs, s'.outbox = s.outbox ++ xs ∧ ∀ x ∈ xs, Unsigned x := by
  obtain ⟨xs, houtbox, hxs⟩ := GameServer.sent_step h hallowed.requests hstep
  refine ⟨xs, houtbox, ?_⟩
  intro x hx
  rcases hxs x hx with ⟨p, hp⟩ | ⟨g, -, hm⟩
  · rw [Unsigned, hp]
    rfl
  · exact unsigned_messages g x.2 hm

/-! ## The simulation -/

namespace ByteLink

variable [FloatBytes F]

/-- The same server and client; the client has processed what the connection has received; and what the
    session has been handed are the first messages to it. -/
structure Refines (session : SessionID) (w : ByteLink F) (l : Link F) : Prop where
  server   : l.server = w.server
  client   : l.client = w.client
  synced   : l.synced = w.synced
  reloaded : l.reloaded = w.reloaded
  received : l.received = w.connection.reader.messages.length
  ready    : w.server.Ready
  unsigned : ∀ x ∈ w.server.outbox, Unsigned x
  carried  : ∃ ms, w.connection.Carrying ms ∧ ms.length = w.delivered ∧
    w.delivered ≤ (sentTo w.server.outbox session).length ∧
    ms.map (fun m => GameMessage.ofFrame m.frame) =
      ((sentTo w.server.outbox session).take w.delivered).map some

variable {w w' : ByteLink F} {l : Link F} {unset unset' : Nat → Unset F} {clock : Nat → F}
  {loop : ReadLoop}

theorem refines_start :
    Refines session (start unset unset' clock loop) (Link.start unset unset' clock) where
  server   := rfl
  client   := rfl
  synced   := rfl
  reloaded := rfl
  received := rfl
  ready    := Or.inl ⟨rfl, rfl⟩
  unsigned := fun _ hx => absurd hx List.not_mem_nil
  carried  := ⟨[], Connection.carrying_start loop, rfl, Nat.zero_le _, rfl⟩

/-- What the message level does while the byte level does `e`. -/
inductive Shows : Event F → List (Link.Event F) → Prop where
  | server (e : GameServer.Event F) : Shows (.server e) [.server e]
  | deliver (headerPadding : UInt8) (padding : Nat → UInt8) (unset : Buffer) :
      Shows (.deliver headerPadding padding unset) []
  | internal (e : NetworkEvent) : Shows (.network e) []
  | receive (e : NetworkEvent) : Shows (.network e) [.receive]

/-- A call of the server. -/
theorem Refines.server_step {e : GameServer.Event F} (h : Refines session w l)
    (hstep : w.step session (.server e) = some w') :
    ∃ l', l.step session (.server e) = some l' ∧ Refines session w' l' := by
  rw [step] at hstep
  split at hstep
  · next hallowed =>
      obtain ⟨s', hs', rfl⟩ := Option.map_eq_some_iff.mp hstep
      obtain ⟨xs, houtbox, hunsigned⟩ := h.ready.step_outbox hallowed hs'
      obtain ⟨ms, hcarrying, hlen, hle, hframes⟩ := h.carried
      have hsent : sentTo s'.outbox session = sentTo w.server.outbox session ++ sentTo xs session := by
        rw [houtbox, sentTo_append]
      obtain ⟨server, client, received, synced, reloaded⟩ := l
      obtain ⟨rfl, rfl, rfl, rfl⟩ : server = w.server ∧ client = w.client ∧ synced = w.synced ∧
          reloaded = w.reloaded := ⟨h.server, h.client, h.synced, h.reloaded⟩
      refine ⟨⟨s', _, _, _, _⟩, ?_, rfl, rfl, rfl, rfl, h.received,
        GameServer.ready_step h.ready hs', ?_, ms, hcarrying, hlen, ?_, ?_⟩
      · rw [Link.step, if_pos hallowed, hs']
        rfl
      · intro x hx
        rw [houtbox] at hx
        rcases List.mem_append.mp hx with hx | hx
        · exact h.unsigned x hx
        · exact hunsigned x hx
      · rw [hsent, List.length_append]
        exact Nat.le_trans hle (Nat.le_add_right _ _)
      · show _ = ((sentTo s'.outbox session).take w.delivered).map some
        rw [hframes, hsent, List.take_append_of_le_length hle]
  · cases hstep

omit [FloatArith F] in
/-- The next message is unsigned, as all that are sent. -/
theorem Refines.next_unsigned (h : Refines session w l) {m : GameMessage F} {i : Nat}
    (hm : (sentTo w.server.outbox session)[i]? = some m) : m.networkServerSession = none := by
  obtain ⟨x, hx, rfl⟩ := List.mem_map.mp (List.mem_of_getElem? hm)
  exact h.unsigned x (List.mem_filter.mp hx).1

/-- The session is handed a message. -/
theorem Refines.deliver_step {headerPadding : UInt8} {padding : Nat → UInt8} {unset : Buffer}
    (h : Refines session w l)
    (hstep : w.step session (.deliver headerPadding padding unset) = some w') :
    Refines session w' l := by
  obtain ⟨m, hm, hstep⟩ := Option.bind_eq_some_iff.mp hstep
  obtain ⟨d, hd, hstep⟩ := Option.bind_eq_some_iff.mp hstep
  obtain ⟨c, hc, hstep⟩ := Option.bind_eq_some_iff.mp hstep
  cases hstep
  obtain ⟨d', hd', hfits, hframe⟩ := ofFrame_toMessageData m headerPadding padding unset
  obtain rfl : d' = d := Option.some.inj (hd'.symm.trans hd)
  obtain ⟨ms, hcarrying, hlen, hle, hframes⟩ := h.carried
  obtain ⟨c', hc', hcarrying', hreader⟩ := hcarrying.deliver hfits .server .client
  obtain rfl : c' = c := Option.some.inj (hc'.symm.trans hc)
  have hlt : w.delivered < (sentTo w.server.outbox session).length :=
    (List.getElem?_eq_some_iff.mp hm).1
  refine ⟨h.server, h.client, h.synced, h.reloaded, ?_, h.ready, h.unsigned, ms ++ [d'], hcarrying',
    ?_, hlt, ?_⟩
  · show l.received = c'.reader.messages.length
    rw [hreader]
    exact h.received
  · rw [List.length_append, hlen]
    rfl
  · have hsame : { m with networkServerSession := none } = m := by
      rw [← h.next_unsigned hm]
    show _ = ((sentTo w.server.outbox session).take (w.delivered + 1)).map some
    rw [List.map_append, hframes, List.take_add_one, hm, List.map_append, List.map_singleton, hframe,
      hsame]
    rfl

omit [FloatArith F] in
/-- What the connection has received is what the server has sent first. -/
theorem received_frame {c : Connection} {ms : List MessageData} {sent : List (GameMessage F)}
    {f : Frame MessageHeader UInt8} {i n : Nat} (hcarrying : c.Carrying ms)
    (hframes : ms.map (fun m => GameMessage.ofFrame m.frame) = (sent.take n).map some)
    (hf : (c.reader.messages.map MessageData.frame)[i]? = some f) :
    ∃ m, sent[i]? = some m ∧ GameMessage.ofFrame f = some m := by
  obtain ⟨rest, hrest⟩ := hcarrying.received
  obtain ⟨hlt, -⟩ := List.getElem?_eq_some_iff.mp hf
  have hframe : (ms.map MessageData.frame)[i]? = some f := by
    rw [← hrest, List.getElem?_append_left hlt, hf]
  obtain ⟨d, hd, rfl⟩ := Option.map_eq_some_iff.mp ((List.getElem?_map).symm.trans hframe)
  have hdecoded : ((sent.take n).map some)[i]? = some (GameMessage.ofFrame d.frame) := by
    rw [← hframes, List.getElem?_map, hd]
    rfl
  obtain ⟨m, hm, hsome⟩ := Option.map_eq_some_iff.mp ((List.getElem?_map).symm.trans hdecoded)
  refine ⟨m, ?_, hsome.symm⟩
  rw [List.getElem?_take] at hm
  split at hm
  · exact hm
  · cases hm

/-- Nothing is received. -/
theorem receive_none (client : GameClient F) {fs : List (Frame MessageHeader UInt8)} :
    receive client (fs.drop fs.length) = some client := by
  rw [List.drop_length]
  rfl

/-- One message is received. -/
theorem receive_one (client : GameClient F) {fs : List (Frame MessageHeader UInt8)}
    (f : Frame MessageHeader UInt8) :
    receive client ((fs ++ [f]).drop fs.length) =
      (GameMessage.ofFrame f).bind client.handleMessage := by
  rw [List.drop_left]
  simp [receive]

/-- The network goes on: the message level does nothing, or the client processes the next message. -/
theorem Refines.network_step {e : NetworkEvent} (h : Refines session w l)
    (hstep : w.step session (.network e) = some w') :
    Refines session w' l ∨ ∃ l', l.step session .receive = some l' ∧ Refines session w' l' := by
  obtain ⟨c, hc, hstep⟩ := Option.bind_eq_some_iff.mp hstep
  obtain ⟨client, hclient, hstep⟩ := Option.bind_eq_some_iff.mp hstep
  cases hstep
  obtain ⟨ms, hcarrying, hlen, hle, hframes⟩ := h.carried
  have hsendable : e.toConnection.Sendable := by cases e <;> trivial
  have hdelivered : Connection.delivered [e.toConnection] = [] := by cases e <;> rfl
  have hcarrying' := Connection.carrying_step hcarrying hsendable hc
  rw [hdelivered, List.append_nil] at hcarrying'
  have hcount : w.connection.reader.messages.length =
      (w.connection.reader.messages.map MessageData.frame).length := (List.length_map _).symm
  rcases Connection.messages_step hcarrying hc with hsame | ⟨f, hmore⟩
  · rw [hsame, hcount, receive_none] at hclient
    cases hclient
    refine Or.inl ⟨h.server, h.client, h.synced, h.reloaded, ?_, h.ready, h.unsigned, ms, hcarrying',
      hlen, hle, hframes⟩
    have hlength := congrArg List.length hsame
    rw [List.length_map, List.length_map] at hlength
    exact h.received.trans hlength.symm
  · rw [hmore, hcount, receive_one] at hclient
    have hlength := congrArg List.length hmore
    rw [List.length_map, List.length_append, List.length_map, List.length_singleton] at hlength
    -- what is received is the message that the server sent next
    have hf : (c.reader.messages.map MessageData.frame)[l.received]? = some f := by
      rw [hmore, h.received, hcount]
      exact List.getElem?_concat_length
    obtain ⟨m, hm, hdecoded⟩ := received_frame hcarrying' hframes hf
    rw [hdecoded, Option.bind_some] at hclient
    refine Or.inr ⟨{ l with client := client, received := l.received + 1 }, ?_, h.server, rfl,
      h.synced, h.reloaded, ?_, h.ready, h.unsigned, ms, hcarrying', hlen, hle, hframes⟩
    · rw [Link.step, h.server, hm, h.client]
      show Option.map _ (w.client.handleMessage m) = _
      rw [hclient]
      rfl
    · show l.received + 1 = c.reader.messages.length
      rw [hlength, h.received]

/-- **The step diagram.** -/
theorem bytes_simulate (session : SessionID) :
    Simulates (step (F := F) session) (Link.step session) (fun _ _ => True) Shows
      (Refines session) := by
  refine ⟨fun {w e w' l} h _ hstep => ?_⟩
  cases e with
  | server e =>
      obtain ⟨l', hl', h'⟩ := h.server_step hstep
      exact ⟨_, l', .server e, by rw [exec_cons, hl']; rfl, h'⟩
  | deliver headerPadding padding unset =>
      exact ⟨_, l, .deliver headerPadding padding unset, rfl, h.deliver_step hstep⟩
  | network e =>
      rcases h.network_step hstep with h' | ⟨l', hl', h'⟩
      · exact ⟨_, l, .internal e, rfl, h'⟩
      · exact ⟨_, l', .receive e, by rw [exec_cons, hl']; rfl, h'⟩

omit [FloatBytes F] [FloatArith F] in
/-- No message ID is generated by the network. -/
theorem generated_flatten {events : List (Event F)} {fss : List (List (Link.Event F))}
    (h : List.Forall₂ Shows events fss) : Link.generated fss.flatten = generated events := by
  induction h with
  | nil => rfl
  | @cons e fs events fss hshows _ ih =>
      rw [List.flatten_cons]
      cases hshows with
      | server e => exact congrArg (Link.generatedBy e + ·) ih
      | deliver _ _ _ => exact ih
      | internal e => exact ih
      | receive e => exact ih

omit [FloatBytes F] [FloatArith F] in
/-- Both levels make the same calls of the server. -/
theorem serverCalls_flatten {events : List (Event F)} {fss : List (List (Link.Event F))}
    (h : List.Forall₂ Shows events fss) : Link.serverCalls fss.flatten = serverCalls events := by
  induction h with
  | nil => rfl
  | @cons e fs events fss hshows _ ih =>
      rw [List.flatten_cons]
      cases hshows with
      | server e => exact congrArg (e :: ·) ih
      | deliver _ _ _ => exact ih
      | internal e => exact ih
      | receive e => exact ih

/-- The run diagram, from the start of both levels. -/
theorem refines_run {session : SessionID} {events : List (Event F)}
    (h : exec (step session) (start unset unset' clock loop) events = some w) :
    ∃ events' l, exec (Link.step session) (Link.start unset unset' clock) events' = some l ∧
      Link.generated events' = generated events ∧ Link.serverCalls events' = serverCalls events ∧
      Refines session w l := by
  obtain ⟨fss, l, hshows, hrun, hrefines⟩ := (bytes_simulate session).run refines_start
    (guarded_of_forall fun _ _ => trivial) h
  exact ⟨fss.flatten, l, hrun, generated_flatten hshows, serverCalls_flatten hshows, hrefines⟩

/-- **Refinement.** Every run of the byte level, errors included, is a run of the message level with the same
    server, the same client, the same message IDs and as many messages received. -/
theorem bytes_refine (session : SessionID) (unset unset' : Nat → Unset F) (clock : Nat → F)
    (loop : ReadLoop) {events : List (Event F)}
    (h : exec (step session) (start unset unset' clock loop) events = some w) :
    ∃ events' l, exec (Link.step session) (Link.start unset unset' clock) events' = some l ∧
      Link.generated events' = generated events ∧ l.server = w.server ∧ l.client = w.client ∧
      l.received = w.connection.reader.messages.length := by
  obtain ⟨events', l, hrun, hgenerated, -, hrefines⟩ := refines_run h
  exact ⟨events', l, hrun, hgenerated, hrefines.server, hrefines.client, hrefines.received⟩

/-! ## Convergence -/

/-- Neither end of the connection has stopped, as long as nothing has failed. -/
theorem open_run {events : List (Event F)} (hsound : ∀ e ∈ events, e.isSound = true)
    (h : exec (step session) (start unset unset' clock loop) events = some w) :
    w.connection.Open := by
  have hguarded : Guarded (step session) (fun _ e => e.isSound = true)
      (start unset unset' clock loop) events := guarded_of_mem fun e he _ => hsound e he
  refine (exec_history (P := fun _ w => (∃ l, Refines session w l) ∧ w.connection.Open)
    ⟨⟨_, refines_start⟩, fun hne => absurd rfl hne, rfl⟩ ?_ hguarded h).2
  rintro - w e w' - hsound ⟨⟨l, hrefines⟩, hopen⟩ hstep
  obtain ⟨-, l', -, -, hrefines'⟩ := (bytes_simulate session).diagram hrefines trivial hstep
  refine ⟨⟨l', hrefines'⟩, ?_⟩
  obtain ⟨ms, hcarrying, -⟩ := hrefines.carried
  cases e with
  | server e =>
      rw [step] at hstep
      split at hstep
      · obtain ⟨s', -, rfl⟩ := Option.map_eq_some_iff.mp hstep
        exact hopen
      · cases hstep
  | deliver headerPadding padding unset =>
      obtain ⟨m, -, hstep⟩ := Option.bind_eq_some_iff.mp hstep
      obtain ⟨d, -, hstep⟩ := Option.bind_eq_some_iff.mp hstep
      obtain ⟨c, hc, hstep⟩ := Option.bind_eq_some_iff.mp hstep
      cases hstep
      exact hcarrying.open_step hopen rfl hc
  | network e =>
      obtain ⟨c, hc, hstep⟩ := Option.bind_eq_some_iff.mp hstep
      obtain ⟨client, -, hstep⟩ := Option.bind_eq_some_iff.mp hstep
      cases hstep
      exact hcarrying.open_step hopen hsound hc

/-- The client can process what the network hands it. -/
theorem Refines.network_can (h : Refines session w l) {sms : List (ServerMessage F)} {n : Nat}
    (hlinked : Link.Linked session l sms n) {e : NetworkEvent} {c : Connection}
    (hc : w.connection.step .server .client e.toConnection = some c) :
    (w.step session (.network e)).isSome = true := by
  have hcan : ∃ client, receive w.client ((c.reader.messages.map MessageData.frame).drop
      w.connection.reader.messages.length) = some client := by
    obtain ⟨ms, hcarrying, hlen, hle, hframes⟩ := h.carried
    have hsendable : e.toConnection.Sendable := by cases e <;> trivial
    have hdelivered : Connection.delivered [e.toConnection] = [] := by cases e <;> rfl
    have hcarrying' := Connection.carrying_step hcarrying hsendable hc
    rw [hdelivered, List.append_nil] at hcarrying'
    have hcount : w.connection.reader.messages.length =
        (w.connection.reader.messages.map MessageData.frame).length := (List.length_map _).symm
    rcases Connection.messages_step hcarrying hc with hsame | ⟨f, hmore⟩
    · rw [hsame, hcount, receive_none]
      exact ⟨_, rfl⟩
    · have hf : (c.reader.messages.map MessageData.frame)[l.received]? = some f := by
        rw [hmore, h.received, hcount]
        exact List.getElem?_concat_length
      obtain ⟨m, hm, hdecoded⟩ := received_frame hcarrying' hframes hf
      rw [hmore, hcount, receive_one, hdecoded, Option.bind_some]
      -- the client mirrors the server's messages, and the next one is among them
      have hlt : l.received < sms.length := by
        have hlt := (List.getElem?_eq_some_iff.mp hm).1
        rw [← h.server, hlinked.feeding.sent, List.length_map] at hlt
        exact hlt
      obtain ⟨l', hl', -⟩ := hlinked.receive hlt
      obtain ⟨m', hm', hclient⟩ := Option.bind_eq_some_iff.mp hl'
      obtain ⟨client, hclient, -⟩ := Option.map_eq_some_iff.mp hclient
      rw [h.server, hm] at hm'
      cases hm'
      exact ⟨client, h.client ▸ hclient⟩
  obtain ⟨client, hclient⟩ := hcan
  rw [step, hc]
  show (Option.bind (receive w.client _) _).isSome = true
  rw [hclient]
  rfl

/-- While a message is left to send, the session can be handed it. -/
theorem Refines.deliver_can (h : Refines session w l)
    (hlt : w.delivered < (sentTo w.server.outbox session).length) :
    (w.step session (.deliver 0 (fun _ => 0) .zero)).isSome = true := by
  obtain ⟨ms, hcarrying, -⟩ := h.carried
  obtain ⟨d, hd, hfits, -⟩ := ofFrame_toMessageData (sentTo w.server.outbox session)[w.delivered] 0
    (fun _ => 0) .zero
  obtain ⟨c, hc, -⟩ := hcarrying.deliver hfits .server .client
  rw [step, List.getElem?_eq_getElem hlt]
  show (Option.bind (GameMessage.toMessageData _ _ _ _) _).isSome = true
  rw [hd]
  show (Option.bind (Connection.step _ _ _ _) _).isSome = true
  rw [hc]
  rfl

/-- Where nothing is left to send and the network has come to rest, the client has processed everything
    that it was sent. -/
theorem Refines.processed (h : Refines session w l) {sms : List (ServerMessage F)} {n : Nat}
    (hlinked : Link.Linked session l sms n) (hopen : w.connection.Open)
    (hrest : ∀ e, e.isProgress = true → w.step session e = none) :
    l.received = (sentTo l.server.outbox session).length := by
  have hno : ∀ {e : Event F}, e.isProgress = true → (w.step session e).isSome = true → False := by
    intro e he hsome
    rw [hrest e he] at hsome
    cases hsome
  obtain ⟨ms, hcarrying, hlen, hle, -⟩ := h.carried
  have hall : w.delivered = (sentTo w.server.outbox session).length := by
    by_contra hne
    exact hno (e := .deliver 0 (fun _ => 0) .zero) rfl
      (h.deliver_can (Nat.lt_of_le_of_ne hle hne))
  have hstuck : ∀ e : NetworkEvent, e.toConnection.isProgress = true →
      w.connection.step .server .client e.toConnection = none := by
    intro e he
    by_contra hne
    obtain ⟨c, hc⟩ := Option.ne_none_iff_exists'.mp hne
    exact hno (e := .network e) he (h.network_can hlinked hc)
  obtain ⟨-, -, hframes⟩ := hcarrying.at_rest hopen fun e he => by
    cases e with
    | deliver m => cases he
    | transmit i n => exact hstuck (.transmit i n) he
    | completeWrite i error => exact hstuck (.completeWrite i error) he
    | completeRead e => exact hstuck (.completeRead e) he
  have hlength := congrArg List.length hframes
  rw [List.length_map, List.length_map, hlen, hall] at hlength
  rw [h.received, h.server, hlength]

/-- **Convergence down to the bytes.** In a run in which no read or write fails, once nothing is left to hand
    to the session and the network can do nothing more, and the last broadcast came after the last change,
    the client's tables are the server's behind what is left of earlier levels, and there is nothing left
    of them if no level was loaded since the client connected. -/
theorem bytes_converge (session : SessionID) (unset unset' : Nat → Unset F) (clock : Nat → F)
    (loop : ReadLoop) (events : List (Event F))
    (hroom : messageIDFirst.toNat + generated events ≤ 2 ^ 16)
    (hsound : ∀ e ∈ events, e.isSound = true)
    (h : exec (step session) (start unset unset' clock loop) events = some w)
    (hconnected : (w.server.playerProfileBySession session).isSome = true)
    (hrest : ∀ e, e.isProgress = true → w.step session e = none) (hsynced : w.synced = true) :
    ∃ g oldUnits oldObstacles, w.server.game = some g ∧
      (GameServer.run unset).Converged (serverCalls events) (sentTo w.server.outbox session) g
        w.client.game oldUnits oldObstacles ∧
      (w.reloaded = false → oldUnits = [] ∧ oldObstacles = []) := by
  obtain ⟨events', l, hrun, hgenerated, hcalls, hrefines⟩ := refines_run h
  rw [← hgenerated] at hroom
  obtain ⟨sms, hlinked⟩ := Link.linked_run hrun hroom
  obtain ⟨hserver, hrequests⟩ := Link.server_run hrun
  rw [hcalls] at hserver hrequests
  have hprocessed := hrefines.processed hlinked (open_run hsound h) hrest
  rw [← hrefines.server] at hconnected
  rw [← hrefines.synced] at hsynced
  rw [← hrefines.server, ← hrefines.client, ← hrefines.reloaded]
  exact hlinked.converged hserver hrequests hconnected hprocessed hsynced

/-- A byte level at rest, as it can be seen from its state. -/
theorem at_rest_of (session : SessionID)
    (hall : (sentTo w.server.outbox session)[w.delivered]?.isNone = true)
    (hidle : w.connection.writes.outstanding = [])
    (hread : (w.connection.reader.step .client .success).isNone = true) :
    ∀ e, e.isProgress = true → w.step session e = none := by
  rw [Option.isNone_iff_eq_none] at hall
  intro e he
  cases e with
  | server e => cases he
  | deliver headerPadding padding unset =>
      rw [step, hall]
      rfl
  | network e =>
      rw [step, Connection.rest_of_idle hidle hread he]
      rfl

/-- One message, from `send` to the client's handlers. -/
def oneMessage (length : Nat) : List (Event Int32) :=
  [.deliver 0 (fun _ => 0) .zero, .network (.transmit 0 length), .network (.completeWrite 0 false),
   .network (.completeRead .success), .network (.completeRead .success)]

/-- A client joins a game of level 1 and receives a broadcast, byte by byte. -/
def oneLevel : List (Event Int32) :=
  [.server (.loadGame 1 fun _ => 0), .server (.handleSessionAccepted 7), .server .synchronize] ++
    oneMessage 8 ++
    ((List.replicate 10 22 ++ List.replicate 6 18) ++
      (List.replicate 10 22 ++ List.replicate 6 18)).flatMap oneMessage

/-- What an object holds that the constructors leave as it is. -/
def zeroed : Nat → Unset Int32 := fun _ =>
  { gameUnitData := ⟨0, 0, 0, 0, false, false, false⟩, isHunting := false,
    gameObstacleData := ⟨0, 0, 0⟩ }

theorem oneLevel_run :
    (exec (step 7) (start zeroed zeroed (fun _ => 0) Connection.idleLoop) oneLevel).isSome = true := by
  decide +kernel

/-- The run is one of messages. -/
theorem bytes_refine_oneLevel :
    ∃ w l events', exec (step 7) (start zeroed zeroed (fun _ => 0) Connection.idleLoop) oneLevel =
        some w ∧
      exec (Link.step 7) (Link.start zeroed zeroed fun _ => 0) events' = some l ∧
      l.server = w.server ∧ l.client = w.client := by
  obtain ⟨events', l, hrun, -, hserver, hclient, -⟩ := bytes_refine 7 zeroed zeroed (fun _ => 0)
    Connection.idleLoop (Option.some_get oneLevel_run).symm
  exact ⟨_, l, events', (Option.some_get oneLevel_run).symm, hrun, hserver, hclient⟩

/-- Level 2 is loaded after the client has joined level 1, and everything goes over the stream. -/
def twoLevels : List (Event Int32) :=
  [.server (.loadGame 1 fun _ => 0), .server (.handleSessionAccepted 7),
   .server (.loadGame 2 fun _ => 0), .server .synchronize] ++
    oneMessage 8 ++
    ((List.replicate 10 22 ++ List.replicate 6 18) ++
      (List.replicate 10 22 ++ List.replicate 5 18)).flatMap oneMessage

theorem twoLevels_run :
    (exec (step 7) (start zeroed zeroed (fun _ => 0) Connection.idleLoop) twoLevels).isSome = true := by
  decide +kernel

/-- The client has the ten units of level 1 in front of those of level 2. -/
theorem bytes_converge_twoLevels :
    ∃ w g old, exec (step 7) (start zeroed zeroed (fun _ => 0) Connection.idleLoop) twoLevels = some w ∧
      w.server.game = some g ∧ w.client.game.unitTable = old ++ g.unitTable ∧ old.length = 10 ∧
      ∀ e ∈ old, ∃ g', (GameServer.run zeroed).Superseded (serverCalls twoLevels) g' ∧
        e ∈ g'.unitTable := by
  have hrest := at_rest_of 7 (w := (exec (step 7) (start zeroed zeroed (fun _ => 0)
    Connection.idleLoop) twoLevels).get twoLevels_run) (by decide +kernel) (by decide +kernel)
    (by decide +kernel)
  obtain ⟨g, old, _, hg, hconverged, _⟩ := bytes_converge 7 zeroed zeroed (fun _ => 0)
    Connection.idleLoop twoLevels (by decide +kernel) (by decide +kernel)
    (Option.some_get twoLevels_run).symm (by decide +kernel) hrest (by decide +kernel)
  refine ⟨_, g, old, (Option.some_get twoLevels_run).symm, hg, hconverged.units, ?_,
    fun e he => (hconverged.staleUnits e he).origin⟩
  have hlength := congrArg List.length hconverged.units
  have hgame := congrArg (Option.map fun g => g.unitTable.length) hg
  have htwenty : ((exec (step 7) (start zeroed zeroed (fun _ => 0) Connection.idleLoop) twoLevels).get
      twoLevels_run).client.game.unitTable.length = 20 := by
    decide +kernel
  have hten : ((exec (step 7) (start zeroed zeroed (fun _ => 0) Connection.idleLoop) twoLevels).get
      twoLevels_run).server.game.map (fun g => g.unitTable.length) = some 10 := by
    decide +kernel
  rw [htwenty, List.length_append] at hlength
  have hcurrent : 10 = g.unitTable.length := Option.some.inj (hten.symm.trans hgame)
  omega

end ByteLink

end Footscreen
