import Footscreen.Game.Uplink
import Footscreen.Game.Correctness.ByteLink
import Footscreen.Game.Correctness.Trajectory

/-!
# `Game.Correctness.Uplink` — what is asked for is done

`Traced` relates a run of the uplink to the calls of the server that it amounts to: the server's own calls
in their order, and for each session the first of the requests that its client asked for, in their order
(`Traced.step`). So a run over bytes is one of the server (`uplink_refine`), and the server's units do what
the calls say. When a session's connection has come to rest, its client has been heard to the last request
(`Traced.heard_all`), and its units do what it asked for last (`uplink_obeys`).
-/

namespace Footscreen

open Lib Lib.Framing

namespace Uplink

variable {F σ α : Type}

/-! ## Runs -/

theorem calls_append (events more : List (Event F α)) :
    calls (events ++ more) = calls events ++ calls more := by
  induction events with
  | nil => rfl
  | cons e events ih =>
      cases e with
      | call e => exact congrArg (e :: ·) ih
      | ask _ _ _ _ _ | network _ _ => exact ih

theorem asked_append (session : SessionID) (events more : List (Event F α)) :
    asked session (events ++ more) = asked session events ++ asked session more := by
  induction events with
  | nil => rfl
  | cons e events ih =>
      cases e with
      | call _ | network _ _ => exact ih
      | ask t r _ _ _ =>
          rw [List.cons_append, asked, asked, ih]
          split <;> rfl

/-- Only what a client asks for is asked. -/
theorem asked_idle (session : SessionID) (events : List (Event F α)) {e : Event F α}
    (he : asked session [e] = []) : asked session (events ++ [e]) = asked session events := by
  rw [asked_append, he, List.append_nil]

theorem toMessage_isRequest (r : Controls.Request F) : GameServer.IsRequest r.toMessage := by
  cases r with
  | move r      => exact Or.inl rfl
  | highlight r => exact Or.inr rfl

theorem toMessage_request (rs : List (Controls.Request F)) :
    (rs.map Controls.Request.toMessage).filterMap GameMessage.request = rs := by
  rw [List.filterMap_map]
  refine (List.filterMap_congr fun r _ => ?_).trans List.filterMap_some
  cases r <;> rfl

variable {H : Host F σ α} {s₀ : σ} {u u' : Uplink σ} {events : List (Event F α)} {es : List α}
  {session : SessionID}

theorem heard_append (session : SessionID) (es fs : List α) :
    heard H session (es ++ fs) = heard H session es ++ heard H session fs :=
  List.filterMap_append

theorem heard_call {e : α} (session : SessionID) (he : (H.received e).isNone = true) :
    heard H session [e] = [] := by
  rw [Option.isNone_iff_eq_none] at he
  unfold heard
  rw [List.filterMap_cons, he]
  rfl

theorem heard_receive (t session : SessionID) (m : GameMessage F) :
    heard H t [H.receive session m] = if session = t then [m] else [] := by
  unfold heard
  rw [List.filterMap_cons, H.received_receive, Option.filter_some]
  by_cases heq : session = t
  · rw [if_pos (decide_eq_true heq), if_pos heq]
    rfl
  · rw [if_neg (by rwa [decide_eq_true_eq]), if_neg heq]
    rfl

theorem connect_connections (u : Uplink σ) (session t : SessionID) (c : Connection) :
    (u.connect session c).connections t = if t = session then c else u.connections t := rfl

/-! ## The trace -/

variable [FloatBytes F]

/-- The connection carries these requests. -/
def Bears (c : Connection) (rs : List (Controls.Request F)) : Prop :=
  ∃ ms, c.Carrying ms ∧
    ms.map (fun m => GameMessage.ofFrame m.frame) = (rs.map Controls.Request.toMessage).map some

/-- The calls of the server that the run of the uplink amounts to. -/
structure Traced (H : Host F σ α) (s₀ : σ) (events : List (Event F α)) (u : Uplink σ) (es : List α) :
    Prop where
  run   : exec H.step s₀ es = some u.host
  calls : es.filter (fun e => (H.received e).isNone) = calls events
  bears : ∀ session, Bears (u.connections session) (asked session events)
  heard : ∀ session, heard H session es =
    ((asked session events).take (u.connections session).reader.messages.length).map
      Controls.Request.toMessage

theorem traced_start (H : Host F σ α) (s₀ : σ) (loop : ReadLoop) :
    Traced H s₀ [] (start s₀ loop) [] where
  run     := rfl
  calls   := rfl
  bears _ := ⟨[], Connection.carrying_start loop, rfl⟩
  heard _ := rfl

/-- No more is received than was asked for. -/
theorem Bears.messages_length {c : Connection} {rs : List (Controls.Request F)} (h : Bears c rs) :
    c.reader.messages.length ≤ rs.length := by
  obtain ⟨ms, hcarrying, hframes⟩ := h
  have hreceived := hcarrying.received.length_le
  have hlength := congrArg List.length hframes
  simp only [List.length_map] at hreceived hlength
  exact hlength ▸ hreceived

/-- A request is delivered. -/
theorem Bears.ask {c c' : Connection} {rs : List (Controls.Request F)} {d : MessageData}
    {r : Controls.Request F} {headerPadding : UInt8} {padding : Nat → UInt8} {unset : Buffer}
    (h : Bears c rs) (hd : r.toMessage.toMessageData headerPadding padding unset = some d)
    (hstep : c.step .client .server (.deliver d) = some c') :
    Bears c' (rs ++ [r]) ∧ c'.reader = c.reader := by
  obtain ⟨ms, hcarrying, hframes⟩ := h
  obtain ⟨d', hd', hfits, hframe⟩ := ofFrame_toMessageData r.toMessage headerPadding padding unset
  obtain rfl : d' = d := Option.some.inj (hd'.symm.trans hd)
  obtain ⟨c'', hc'', hcarrying', hreader⟩ := hcarrying.deliver hfits .client .server
  obtain rfl : c'' = c' := Option.some.inj (hc''.symm.trans hstep)
  refine ⟨⟨ms ++ [d'], hcarrying', ?_⟩, hreader⟩
  have hunsigned : { r.toMessage with networkServerSession := none } = r.toMessage := by
    cases r <;> rfl
  rw [List.map_append, hframes, List.map_singleton, hframe, hunsigned, List.map_append,
    List.map_append]
  rfl

/-- The network goes on: nothing is received, or the next request. -/
theorem Bears.network {c c' : Connection} {rs : List (Controls.Request F)} {e : ByteLink.NetworkEvent}
    (h : Bears c rs) (hstep : c.step .client .server e.toConnection = some c') :
    Bears c' rs ∧ (c'.reader.messages.map MessageData.frame = c.reader.messages.map MessageData.frame ∨
      ∃ f r, c'.reader.messages.map MessageData.frame =
          c.reader.messages.map MessageData.frame ++ [f] ∧
        rs[c.reader.messages.length]? = some r ∧ GameMessage.ofFrame f = some r.toMessage) := by
  obtain ⟨ms, hcarrying, hframes⟩ := h
  have hsendable : e.toConnection.Sendable := by cases e <;> trivial
  have hdelivered : Connection.delivered [e.toConnection] = [] := by cases e <;> rfl
  have hcarrying' := Connection.carrying_step hcarrying hsendable hstep
  rw [hdelivered, List.append_nil] at hcarrying'
  refine ⟨⟨ms, hcarrying', hframes⟩, ?_⟩
  rcases Connection.messages_step hcarrying hstep with hsame | ⟨f, hmore⟩
  · exact Or.inl hsame
  · have hf : (c'.reader.messages.map MessageData.frame)[c.reader.messages.length]? = some f := by
      have hcount : c.reader.messages.length = (c.reader.messages.map MessageData.frame).length :=
        (List.length_map _).symm
      rw [hmore, hcount]
      exact List.getElem?_concat_length
    rw [← List.take_length (l := rs.map Controls.Request.toMessage)] at hframes
    obtain ⟨m, hm, hdecoded⟩ := ByteLink.received_frame hcarrying' hframes hf
    obtain ⟨r, hr, rfl⟩ := Option.map_eq_some_iff.mp ((List.getElem?_map).symm.trans hm)
    exact Or.inr ⟨f, r, hmore, hr, hdecoded⟩

/-- A call of the server's own. -/
theorem Traced.call {e : α} (h : Traced H s₀ events u es) (hstep : step H u (.call e) = some u') :
    Traced H s₀ (events ++ [.call e]) u' (es ++ [e]) := by
  rw [step] at hstep
  split at hstep
  · next hown =>
      obtain ⟨host, hhost, rfl⟩ := Option.map_eq_some_iff.mp hstep
      refine ⟨exec_snoc.mpr ⟨_, h.run, hhost⟩, ?_, ?_, ?_⟩
      · rw [List.filter_append, h.calls, calls_append, List.filter_cons, if_pos hown]
        rfl
      · intro session
        rw [asked_idle session events rfl]
        exact h.bears session
      · intro session
        rw [asked_idle session events rfl, heard_append, heard_call session hown, List.append_nil]
        exact h.heard session
  · cases hstep

/-- A client asks for something. -/
theorem Traced.ask {r : Controls.Request F} {headerPadding : UInt8} {padding : Nat → UInt8}
    {unset : Buffer} (h : Traced H s₀ events u es)
    (hstep : step H u (.ask session r headerPadding padding unset) = some u') :
    Traced H s₀ (events ++ [.ask session r headerPadding padding unset]) u' es := by
  obtain ⟨d, hd, hstep⟩ := Option.bind_eq_some_iff.mp hstep
  obtain ⟨c, hc, hstep⟩ := Option.bind_eq_some_iff.mp hstep
  cases hstep
  obtain ⟨hbears, hreader⟩ := (h.bears session).ask hd hc
  refine ⟨h.run, ?_, ?_, ?_⟩
  · rw [calls_append]
    exact h.calls.trans (List.append_nil _).symm
  · intro t
    rw [asked_append, connect_connections, asked, asked]
    split
    · next heq =>
        obtain rfl := heq
        rw [if_pos rfl]
        exact hbears
    · next hne =>
        rw [if_neg (Ne.symm hne), List.append_nil]
        exact h.bears t
  · intro t
    rw [asked_append, connect_connections, asked, asked, h.heard t]
    split
    · next heq =>
        obtain rfl := heq
        rw [if_pos rfl, hreader, List.take_append_of_le_length (h.bears t).messages_length]
    · next hne => rw [if_neg (Ne.symm hne), List.append_nil]

/-- The network goes on. -/
theorem Traced.network {e : ByteLink.NetworkEvent} (h : Traced H s₀ events u es)
    (hstep : step H u (.network session e) = some u') :
    ∃ fs, Traced H s₀ (events ++ [.network session e]) u' (es ++ fs) := by
  obtain ⟨c, hc, hstep⟩ := Option.bind_eq_some_iff.mp hstep
  obtain ⟨host, hhost, hstep⟩ := Option.bind_eq_some_iff.mp hstep
  cases hstep
  obtain ⟨hbears, hcases⟩ := (h.bears session).network hc
  have hcalls : Uplink.calls (events ++ [.network session e]) = Uplink.calls events :=
    (calls_append _ _).trans (List.append_nil _)
  have hasked : ∀ t, asked t (events ++ [.network session e]) = asked t events :=
    fun t => asked_idle t events rfl
  have hbears' : ∀ t, Bears ((u.connect session c).connections t)
      (asked t (events ++ [.network session e])) := by
    intro t
    rw [hasked, connect_connections]
    split
    · next heq =>
        obtain rfl := heq
        exact hbears
    · exact h.bears t
  have hcount : (u.connections session).reader.messages.length =
      ((u.connections session).reader.messages.map MessageData.frame).length :=
    (List.length_map _).symm
  rcases hcases with hsame | ⟨f, r, hmore, hr, hdecoded⟩
  · rw [hsame, hcount, List.drop_length] at hhost
    cases hhost
    have hlength := congrArg List.length hsame
    rw [List.length_map, List.length_map] at hlength
    refine ⟨[], ?_, ?_, hbears', ?_⟩
    · rw [List.append_nil]
      exact h.run
    · rw [List.append_nil, hcalls]
      exact h.calls
    · intro t
      rw [List.append_nil, hasked, h.heard t, connect_connections]
      split
      · next heq =>
          obtain rfl := heq
          rw [hlength]
      · rfl
  · have hcall : H.step u.host (H.receive session r.toMessage) = some host := by
      rw [hmore, hcount, List.drop_left, receive, List.foldlM_cons, hdecoded] at hhost
      obtain ⟨host', hhost', hnil⟩ := Option.bind_eq_some_iff.mp hhost
      cases hnil
      exact hhost'
    have hlength := congrArg List.length hmore
    rw [List.length_map, List.length_append, List.length_map, List.length_singleton] at hlength
    refine ⟨[H.receive session r.toMessage], exec_snoc.mpr ⟨_, h.run, hcall⟩, ?_, hbears', ?_⟩
    · rw [List.filter_append, h.calls, hcalls, List.filter_cons, H.received_receive]
      exact List.append_nil _
    · intro t
      rw [hasked, heard_append, h.heard t, heard_receive, connect_connections]
      split
      · next heq =>
          obtain rfl := heq
          rw [if_pos rfl, hlength, List.take_add_one, hr, List.map_append]
          rfl
      · next hne => rw [if_neg (Ne.symm hne), List.append_nil]

/-- **One step** of the uplink is calls of the server. -/
theorem Traced.step {e : Event F α} (h : Traced H s₀ events u es) (hstep : step H u e = some u') :
    ∃ fs, Traced H s₀ (events ++ [e]) u' (es ++ fs) := by
  cases e with
  | call e => exact ⟨[e], h.call hstep⟩
  | ask session r headerPadding padding unset =>
      refine ⟨[], ?_⟩
      rw [List.append_nil]
      exact h.ask hstep
  | network session e => exact h.network hstep

/-- The run goes on, and the calls with it. -/
theorem Traced.run_append {more : List (Event F α)} (h : Traced H s₀ events u es)
    (hrun : exec (Uplink.step H) u more = some u') : ∃ fs, Traced H s₀ (events ++ more) u' (es ++ fs) := by
  refine exec_trace (P := fun more u' => ∃ fs, Traced H s₀ (events ++ more) u' (es ++ fs))
    ⟨[], ?_⟩ ?_ hrun
  · rw [List.append_nil, List.append_nil]
    exact h
  · rintro more v e w - ⟨fs, h⟩ hstep
    obtain ⟨gs, h⟩ := h.step hstep
    rw [List.append_assoc, List.append_assoc] at h
    exact ⟨fs ++ gs, h⟩

theorem traced_run {loop : ReadLoop} (h : exec (step H) (start s₀ loop) events = some u) :
    ∃ es, Traced H s₀ events u es := by
  obtain ⟨fs, h⟩ := (traced_start H s₀ loop).run_append h
  exact ⟨fs, h⟩

/-- The calls of the second part of a run. -/
theorem Traced.calls_after {more : List (Event F α)} {fs : List α} (h : Traced H s₀ events u es)
    (h' : Traced H s₀ (events ++ more) u' (es ++ fs)) :
    fs.filter (fun e => (H.received e).isNone) = Uplink.calls more := by
  have hcalls := h'.calls
  rw [List.filter_append, h.calls, calls_append] at hcalls
  exact List.append_cancel_left hcalls

/-! ## Rest -/

/-- Neither end of any connection has stopped, as long as nothing has failed. -/
theorem open_run {loop : ReadLoop} (hsound : ∀ e ∈ events, e.isSound = true)
    (h : exec (step H) (start s₀ loop) events = some u) (session : SessionID) :
    (u.connections session).Open := by
  have hguarded : Guarded (step H) (fun _ e => e.isSound = true) (start s₀ loop) events :=
    guarded_of_mem fun e he _ => hsound e he
  refine (exec_history (P := fun events u => (∃ es, Traced H s₀ events u es) ∧
    ∀ session, (u.connections session).Open)
    ⟨⟨[], traced_start H s₀ loop⟩, fun _ => ⟨fun hne => absurd rfl hne, rfl⟩⟩ ?_ hguarded h).2 session
  rintro events u e u' - hsound ⟨⟨es, htraced⟩, hopen⟩ hstep
  obtain ⟨fs, htraced'⟩ := htraced.step hstep
  refine ⟨⟨_, htraced'⟩, ?_⟩
  intro t
  cases e with
  | call e =>
      rw [step] at hstep
      split at hstep
      · obtain ⟨host, -, rfl⟩ := Option.map_eq_some_iff.mp hstep
        exact hopen t
      · cases hstep
  | ask session r headerPadding padding unset =>
      obtain ⟨d, -, hstep⟩ := Option.bind_eq_some_iff.mp hstep
      obtain ⟨c, hc, hstep⟩ := Option.bind_eq_some_iff.mp hstep
      cases hstep
      obtain ⟨ms, hcarrying, -⟩ := htraced.bears session
      rw [connect_connections]
      split
      · exact hcarrying.open_step (hopen session) rfl hc
      · exact hopen t
  | network session e =>
      obtain ⟨c, hc, hstep⟩ := Option.bind_eq_some_iff.mp hstep
      obtain ⟨host, -, hstep⟩ := Option.bind_eq_some_iff.mp hstep
      cases hstep
      obtain ⟨ms, hcarrying, -⟩ := htraced.bears session
      show ((u.connect session c).connections t).Open
      rw [connect_connections]
      split
      · exact hcarrying.open_step (hopen session) hsound hc
      · exact hopen t

/-- The network can do nothing more for the session. -/
def Resting (H : Host F σ α) (u : Uplink σ) (session : SessionID) : Prop :=
  ∀ e : ByteLink.NetworkEvent, e.toConnection.isProgress = true → step H u (.network session e) = none

/-- The server handles whatever the session's client can ask for. -/
def Listening (H : Host F σ α) (u : Uplink σ) (session : SessionID) : Prop :=
  ∀ r : Controls.Request F, (H.step u.host (H.receive session r.toMessage)).isSome = true

/-- The network can go on where the connection can. -/
theorem Bears.network_can {e : ByteLink.NetworkEvent} {c : Connection} {rs : List (Controls.Request F)}
    (h : Bears (u.connections session) rs) (hlistening : Listening H u session)
    (hstep : (u.connections session).step .client .server e.toConnection = some c) :
    (step H u (.network session e)).isSome = true := by
  obtain ⟨-, hcases⟩ := h.network hstep
  have hcount : (u.connections session).reader.messages.length =
      ((u.connections session).reader.messages.map MessageData.frame).length :=
    (List.length_map _).symm
  have hhost : ∃ host, receive H session u.host ((c.reader.messages.map MessageData.frame).drop
      (u.connections session).reader.messages.length) = some host := by
    rcases hcases with hsame | ⟨f, r, hmore, -, hdecoded⟩
    · rw [hsame, hcount, List.drop_length]
      exact ⟨_, rfl⟩
    · obtain ⟨host, hhost⟩ := Option.isSome_iff_exists.mp (hlistening r)
      rw [hmore, hcount, List.drop_left, receive, List.foldlM_cons, hdecoded]
      show ∃ host', Option.bind (H.step u.host (H.receive session r.toMessage)) _ = some host'
      rw [hhost]
      exact ⟨host, rfl⟩
  obtain ⟨host, hhost⟩ := hhost
  rw [step, hstep]
  show (Option.bind (receive H session u.host _) _).isSome = true
  rw [hhost]
  rfl

/-- **Rest.** Where the network can do nothing more for a session, its client has been heard. -/
theorem Traced.heard_all (h : Traced H s₀ events u es) (hopen : (u.connections session).Open)
    (hlistening : Listening H u session) (hrest : Resting H u session) :
    Uplink.heard H session es = (asked session events).map Controls.Request.toMessage := by
  have hstuck : ∀ e : ByteLink.NetworkEvent, e.toConnection.isProgress = true →
      (u.connections session).step .client .server e.toConnection = none := by
    intro e he
    by_contra hne
    obtain ⟨c, hc⟩ := Option.ne_none_iff_exists'.mp hne
    have hcan := (h.bears session).network_can hlistening hc
    rw [hrest e he] at hcan
    cases hcan
  obtain ⟨ms, hcarrying, hframes⟩ := h.bears session
  obtain ⟨-, -, hreceived⟩ := hcarrying.at_rest hopen fun e he => by
    cases e with
    | deliver m => cases he
    | transmit i n => exact hstuck (.transmit i n) he
    | completeWrite i error => exact hstuck (.completeWrite i error) he
    | completeRead e => exact hstuck (.completeRead e) he
  have hlength := congrArg List.length hreceived
  have hlength' := congrArg List.length hframes
  simp only [List.length_map] at hlength hlength'
  rw [h.heard session, hlength, hlength', List.take_length]

end Uplink

/-! ## The server -/

namespace GameServer

open Uplink

variable {F : Type} [FloatArith F] {s : GameServer F} {session : SessionID} {es es' : List (Event F)}
  {rs : List (Controls.Request F)}

/-- What a session asks the controls for is what the server hears of it. -/
theorem asks_controls (session : SessionID) (es : List (Event F)) :
    Controls.asks session (es.flatMap Event.controls) =
      (heard host session es).filterMap GameMessage.request := by
  induction es with
  | nil => rfl
  | cons e es ih =>
      rw [List.flatMap_cons, Controls.asks_append, ih, ← List.singleton_append, heard_append,
        List.filterMap_append]
      refine congrArg (· ++ _) ?_
      cases e with
      | loadGame _ _ | startGame _ | proceed _ | synchronize | handleSessionAccepted _ => rfl
      | handleMessageReceived t m =>
          show _ = (heard host session [host.receive t m]).filterMap _
          rw [heard_receive, Event.controls]
          cases hr : m.request with
          | none =>
              split
              · rw [List.filterMap_cons, hr]
                rfl
              · rfl
          | some r =>
              rw [Option.map_some, Option.toList_some, Controls.asks]
              split
              · rw [List.filterMap_cons, hr]
                rfl
              · rfl

/-- Where the server hears requests only, clients send no messages of the game itself. -/
theorem commands_of_heard
    (h : ∀ t, ∃ rs : List (Controls.Request F), heard host t es = rs.map Controls.Request.toMessage) :
    ∀ e ∈ es, e.Commands := by
  intro e he
  cases e with
  | loadGame _ _ | startGame _ | proceed _ | synchronize | handleSessionAccepted _ => trivial
  | handleMessageReceived t m =>
      obtain ⟨rs, hrs⟩ := h t
      have hm : m ∈ heard host t es := by
        refine List.mem_filterMap.mpr ⟨_, he, ?_⟩
        show ((some (t, m)).filter _).map Prod.snd = some m
        rw [Option.filter_some, if_pos (decide_eq_true rfl)]
        rfl
      rw [hrs] at hm
      obtain ⟨r, -, rfl⟩ := List.mem_map.mp hm
      show ¬ GameType _
      rcases toMessage_isRequest r with hr | hr
      all_goals
        rw [hr]
        unfold GameType
        decide

omit [FloatArith F] in
/-- A run is part of a level if the server's own calls are. -/
theorem inLevel_of (hcommands : ∀ e ∈ es, e.Commands)
    (hlevel : ∀ e ∈ es, e.received.isNone = true → e.InLevel) : ∀ e ∈ es, e.InLevel := by
  intro e he
  cases e with
  | handleMessageReceived t m => exact hcommands _ he
  | loadGame _ _ => exact hlevel _ he rfl
  | startGame _ | proceed _ | synchronize | handleSessionAccepted _ => trivial

/-- The player of a session that no other session plays. -/
theorem Controlled.playedBy {c : Controls F} {q : PlayerProfile} (h : s.Controlled c)
    (hq : s.playerProfileBySession session = some q)
    (honly : ∀ q' ∈ s.playerProfiles, q'.playerID = q.playerID → q'.session = session) :
    c.PlayedBy session q.playerID := by
  intro t p ht
  rw [← h.players t] at ht
  obtain ⟨x, hx, rfl⟩ := Option.map_eq_some_iff.mp ht
  obtain ⟨hmem, hsession⟩ := mem_of_playerProfileBySession hx
  constructor
  · rintro rfl
    rw [Option.some.inj (hx.symm.trans hq)]
  · intro heq
    exact hsession.symm.trans (honly x hmem heq)

/-- Where all loads come before the first request of a session, its player's units do what it asked for
    last. -/
theorem obeys_last {unset : Nat → Unset F} {q : PlayerProfile} {g : Game F} {i : UInt8} {v : GameUnit F}
    (hcommands : ∀ e ∈ es ++ es', e.Commands) (h : exec step (run unset) (es ++ es') = some s)
    (hunheard : heard host session es = []) (hlevel : ∀ e ∈ es', e.InLevel)
    (hheard : heard host session (es ++ es') = rs.map Controls.Request.toMessage)
    (hq : s.playerProfileBySession session = some q)
    (honly : ∀ q' ∈ s.playerProfiles, q'.playerID = q.playerID → q'.session = session)
    (hg : s.game = some g) (hv : g.unitByIndex q.playerID i = some v) :
    v.Steered (Controls.lastMove rs i) (Controls.lastHighlight rs i) := by
  obtain ⟨c, hrun, hcontrolled⟩ := controlled_of_run hcommands h
  obtain ⟨hown, hunits⟩ := hcontrolled.units g hg
  rw [Game.unitByIndex_of_own (Or.inl hown)] at hv
  have hsteered := hunits q.playerID i v hv
  have hload : .load ∉ es'.flatMap Event.controls := by
    intro hmem
    obtain ⟨e, he, hload⟩ := List.mem_flatMap.mp hmem
    have hin := hlevel e he
    cases e with
    | loadGame _ _ => exact hin
    | startGame _ | proceed _ | synchronize => cases hload
    | handleSessionAccepted _ => cases List.mem_singleton.mp hload
    | handleMessageReceived t m =>
        obtain ⟨r, -, hr⟩ := Option.map_eq_some_iff.mp (Option.mem_toList.mp hload)
        cases hr
  have hasks : Controls.asks session (es.flatMap Event.controls) = [] := by
    rw [asks_controls, hunheard]
    rfl
  rw [List.flatMap_append] at hrun
  obtain ⟨hmoves, hhighlights⟩ :=
    Controls.last_asked hrun (hcontrolled.playedBy hq honly) hasks hload i
  rw [← List.flatMap_append, asks_controls, hheard, toMessage_request] at hmoves hhighlights
  rw [hmoves, hhighlights] at hsteered
  exact hsteered

end GameServer

namespace Uplink

variable {F : Type} [FloatBytes F] [FloatArith F] {u : Uplink (GameServer F)}

/-- **Refinement.** Every run of the server with the connections from all its clients, errors included, is a
    run of the server in which it makes its own calls in their order and hears, of each session, the first
    of the requests that the client asked for, in their order and none twice; and its units do what these
    calls say. -/
theorem uplink_refine (unset : Nat → Unset F) (loop : ReadLoop)
    {events : List (Event F (GameServer.Event F))}
    (h : exec (step GameServer.host) (start (GameServer.run unset) loop) events = some u) :
    ∃ es c, exec GameServer.step (GameServer.run unset) es = some u.host ∧
      es.filter (·.received.isNone) = calls events ∧
      (∀ session, heard GameServer.host session es <+:
        (asked session events).map Controls.Request.toMessage) ∧
      exec Controls.step Controls.start (es.flatMap GameServer.Event.controls) = some c ∧
      ∀ g, u.host.game = some g → ∀ p i v, g.unitByIndex p i = some v →
        v.Steered (c.moves p i) (c.highlights p i) := by
  obtain ⟨es, htraced⟩ := traced_run h
  have hcommands := GameServer.commands_of_heard fun t => ⟨_, htraced.heard t⟩
  obtain ⟨c, hc, hcontrolled⟩ := GameServer.controlled_of_run hcommands htraced.run
  refine ⟨es, c, htraced.run, htraced.calls, ?_, hc, ?_⟩
  · intro session
    rw [htraced.heard session, List.map_take]
    exact List.take_prefix _ _
  · intro g hg p i v hv
    obtain ⟨hown, hunits⟩ := hcontrolled.units g hg
    rw [Game.unitByIndex_of_own (Or.inl hown)] at hv
    exact hunits p i v hv

/-- A session at rest has been obeyed, if all loads come before its first request. -/
theorem Traced.steered {unset : Nat → Unset F} {session : SessionID}
    {before after : List (Event F (GameServer.Event F))} {u₁ : Uplink (GameServer F)}
    {es₁ es₂ : List (GameServer.Event F)}
    (h₁ : Traced GameServer.host (GameServer.run unset) before u₁ es₁)
    (h : Traced GameServer.host (GameServer.run unset) (before ++ after) u (es₁ ++ es₂))
    (hopen : (u.connections session).Open) (hasked : asked session before = [])
    (hlevel : ∀ e ∈ Uplink.calls after, e.InLevel)
    {q : PlayerProfile} (hq : u.host.playerProfileBySession session = some q)
    (honly : ∀ q' ∈ u.host.playerProfiles, q'.playerID = q.playerID → q'.session = session)
    (hrest : Resting GameServer.host u session) {g : Game F} (hg : u.host.game = some g) {i : UInt8}
    {v : GameUnit F} (hv : g.unitByIndex q.playerID i = some v) :
    v.Steered (Controls.lastMove (asked session (before ++ after)) i)
      (Controls.lastHighlight (asked session (before ++ after)) i) := by
  have hcommands := GameServer.commands_of_heard fun t => ⟨_, h.heard t⟩
  have hready : u.host.Ready := (GameServer.controlled_of_run hcommands h.run).choose_spec.2.ready
  have hlistening : Listening GameServer.host u session := by
    intro r
    obtain ⟨s', hs', -⟩ := hready.request_effect (toMessage_isRequest r) session
    show (if (u.host.playerProfileBySession session).isSome then _ else none).isSome = true
    rw [if_pos (by rw [hq]; rfl), hs']
    rfl
  have hunheard : Uplink.heard GameServer.host session es₁ = [] := by
    rw [h₁.heard session, hasked, List.take_nil]
    rfl
  refine GameServer.obeys_last hcommands h.run hunheard ?_ (h.heard_all hopen hlistening hrest) hq honly hg
    hv
  refine GameServer.inLevel_of (fun e he => hcommands e (List.mem_append_right _ he)) ?_
  intro e he hown
  apply hlevel e
  rw [← h₁.calls_after h]
  exact List.mem_filter.mpr ⟨he, hown⟩

/-- **Obedience down to the bytes.** In a run in which no read or write fails and all loads come before the
    first request of a client, for whose player no other session plays, once the network can do nothing more
    for the client's session, each unit of its player is highlighted as the client last asked, and
    accelerated so as long as it is living and has not arrived. -/
theorem uplink_obeys (unset : Nat → Unset F) (loop : ReadLoop) (session : SessionID)
    (before after : List (Event F (GameServer.Event F)))
    (hsound : ∀ e ∈ before ++ after, e.isSound = true)
    (h : exec (step GameServer.host) (start (GameServer.run unset) loop) (before ++ after) = some u)
    (hasked : asked session before = []) (hlevel : ∀ e ∈ calls after, e.InLevel)
    {q : PlayerProfile} (hq : u.host.playerProfileBySession session = some q)
    (honly : ∀ q' ∈ u.host.playerProfiles, q'.playerID = q.playerID → q'.session = session)
    (hrest : Resting GameServer.host u session) {g : Game F} (hg : u.host.game = some g) {i : UInt8}
    {v : GameUnit F} (hv : g.unitByIndex q.playerID i = some v) :
    v.Steered (Controls.lastMove (asked session (before ++ after)) i)
      (Controls.lastHighlight (asked session (before ++ after)) i) := by
  have hopen := open_run hsound h session
  rw [exec_append] at h
  obtain ⟨u₁, h₁, h₂⟩ := Option.bind_eq_some_iff.mp h
  obtain ⟨es₁, htraced₁⟩ := traced_run h₁
  obtain ⟨es₂, htraced⟩ := htraced₁.run_append h₂
  exact htraced₁.steered htraced hopen hasked hlevel hq honly hrest hg hv

/-- A connection at rest, as it can be seen from its state. -/
theorem resting_of {F σ α : Type} [FloatBytes F] {H : Host F σ α} {u : Uplink σ} {session : SessionID}
    (hidle : (u.connections session).writes.outstanding = [])
    (hread : ((u.connections session).reader.step .server .success).isNone = true) :
    Resting H u session := by
  intro e he
  rw [step, Connection.rest_of_idle hidle hread he]
  rfl

/-- A level for two players. -/
def newGame : List (Event Int32 (GameServer.Event Int32)) :=
  [.call (.loadGame 1 fun _ => 0), .call (.handleSessionAccepted 7), .call (.handleSessionAccepted 8)]

/-- The first player steers a unit and points at another one; the first request arrives in two pieces,
    while the round starts. -/
def twoRequests : List (Event Int32 (GameServer.Event Int32)) :=
  [.ask 7 (.move ⟨1, 0, 1⟩) 0 (fun _ => 0) .zero, .ask 7 (.highlight ⟨0, true⟩) 0 (fun _ => 0) .zero,
   .network 7 (.transmit 0 5), .call (.startGame fun _ => 0), .network 7 (.transmit 0 13),
   .network 7 (.completeRead .success), .network 7 (.completeRead .success),
   .network 7 (.completeWrite 0 false), .call (.proceed fun _ => 0), .network 7 (.transmit 0 8),
   .network 7 (.completeWrite 0 false), .network 7 (.completeRead .success),
   .network 7 (.completeRead .success)]

theorem twoRequests_run : (exec (step GameServer.host) (start (GameServer.run ByteLink.zeroed)
    Connection.idleLoop) (newGame ++ twoRequests)).isSome = true := by
  decide +kernel

/-- The server at the end. -/
def requested : Uplink (GameServer Int32) :=
  (exec (step GameServer.host) (start (GameServer.run ByteLink.zeroed) Connection.idleLoop)
    (newGame ++ twoRequests)).get twoRequests_run

theorem requested_eq : exec (step GameServer.host) (start (GameServer.run ByteLink.zeroed)
    Connection.idleLoop) (newGame ++ twoRequests) = some requested :=
  (Option.some_get twoRequests_run).symm

theorem uplink_refine_twoRequests :
    ∃ es, exec GameServer.step (GameServer.run ByteLink.zeroed) es = some requested.host ∧
      heard GameServer.host 7 es <+:
        [Controls.Request.toMessage (.move ⟨1, 0, 1⟩), Controls.Request.toMessage (.highlight ⟨0, true⟩)] := by
  obtain ⟨es, _, hrun, -, hheard, -⟩ := uplink_refine ByteLink.zeroed Connection.idleLoop requested_eq
  exact ⟨es, hrun, hheard 7⟩

/-- The unit that was pointed at is highlighted. -/
theorem uplink_obeys_twoRequests :
    ∃ g v, requested.host.game = some g ∧ g.unitByIndex idFirstClient 0 = some v ∧
      v.gameUnitData.isHighlighted = true := by
  have hunit : (requested.host.game.bind (·.unitByIndex idFirstClient 0)).isSome = true := by
    decide +kernel
  obtain ⟨v, hv⟩ := Option.isSome_iff_exists.mp hunit
  obtain ⟨g, hg, hv⟩ := Option.bind_eq_some_iff.mp hv
  have hq : requested.host.playerProfileBySession 7 = some ⟨idFirstClient, 7⟩ := by decide +kernel
  have hsteered := uplink_obeys ByteLink.zeroed Connection.idleLoop 7 newGame twoRequests (by decide)
    requested_eq rfl (by decide +kernel) hq (by decide +kernel)
    (resting_of (by decide +kernel) (by decide +kernel)) hg hv
  exact ⟨g, v, hg, hv, hsteered.isHighlighted⟩

end Uplink

end Footscreen
