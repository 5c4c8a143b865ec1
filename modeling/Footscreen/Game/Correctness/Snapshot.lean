import Footscreen.Game.GameNetworkInterface
import Footscreen.Lib.Run
import Mathlib.Data.List.Forall2

/-!
# `Game.Correctness.Snapshot` — a dispatch calls what was registered when it began

`registered` reads off a history of calls which handlers it leaves registered. The vector of pointers
agrees with it at every point (`Agrees`), and each dispatch walks over what was registered when it began
(`Walks`), whatever is registered and removed in the meantime. `dispatch_exact` puts the two together.
-/

namespace Footscreen

open Lib

namespace GameNetworkInterface

variable {κ : Type}

/-! ## What is registered -/

/-- The call removes handlers with this message ID. -/
def Event.removes (messageID : MessageID) : Event κ → Bool
  | .removeAllMessageHandlers messageID' => messageID' = messageID
  | .clearMessageHandlers                => true
  | _                                    => false

/-- The handlers that have been added and not removed since, in order. -/
def registered : List (Event κ) → MessageHandlers κ
  | [] => []
  | .addMessageHandler messageType messageID callback :: es =>
      if es.any (Event.removes messageID) then registered es
      else ⟨messageType, messageID, callback⟩ :: registered es
  | _ :: es => registered es

/-- What one call does to the registered handlers. -/
def Event.edit : Event κ → MessageHandlers κ → MessageHandlers κ
  | .addMessageHandler messageType messageID callback, hs => hs ++ [⟨messageType, messageID, callback⟩]
  | .removeAllMessageHandlers messageID, hs => hs.removeAllMessageHandlers messageID
  | .clearMessageHandlers, _ => []
  | .handleMessage .., hs => hs
  | .proceed _, hs => hs

/-- A call removes exactly the handlers with its ID. -/
theorem edit_cons (e : Event κ) (h : MessageHandler κ) (hs : MessageHandlers κ) :
    e.edit (h :: hs) = if e.removes h.messageID then e.edit hs else h :: e.edit hs := by
  cases e with
  | addMessageHandler messageType messageID callback => rfl
  | removeAllMessageHandlers messageID =>
      by_cases hid : h.messageID = messageID
      · simp [Event.edit, Event.removes, MessageHandlers.removeAllMessageHandlers, hid]
      · simp [Event.edit, Event.removes, MessageHandlers.removeAllMessageHandlers, hid, Ne.symm hid]
  | clearMessageHandlers => rfl
  | handleMessage m senderID => rfl
  | proceed k => rfl

theorem registered_snoc (es : List (Event κ)) (e : Event κ) :
    registered (es ++ [e]) = e.edit (registered es) := by
  induction es with
  | nil => cases e <;> rfl
  | cons e' es ih =>
      cases e' with
      | addMessageHandler messageType messageID callback =>
          rw [List.cons_append, registered, registered, List.any_append, ih]
          by_cases hlater : es.any (Event.removes messageID) = true
          · simp [hlater]
          · rw [Bool.not_eq_true] at hlater
            rw [hlater, Bool.false_or, List.any_cons, List.any_nil, Bool.or_false]
            simp only [Bool.false_eq_true, if_false]
            exact (edit_cons e ⟨messageType, messageID, callback⟩ (registered es)).symm
      | removeAllMessageHandlers messageID => exact ih
      | clearMessageHandlers               => exact ih
      | handleMessage m senderID           => exact ih
      | proceed k                          => exact ih

/-! ## The vector of pointers -/

/-- The pointers lead to these handlers. -/
def Points (objects : List (MessageHandler κ)) : List Nat → MessageHandlers κ → Prop :=
  List.Forall₂ fun a h => objects[a]? = some h

variable {objects : List (MessageHandler κ)} {v : List Nat} {hs : MessageHandlers κ}

/-- Objects are created behind the others, and stay. -/
theorem Points.append (h : Points objects v hs) (objects' : List (MessageHandler κ)) :
    Points (objects ++ objects') v hs := by
  refine List.Forall₂.imp ?_ h
  intro a hd ha
  exact List.getElem?_append_left (List.getElem?_eq_some_iff.mp ha).1 ▸ ha

/-- The loop of `removeAllMessageHandlers` has passed the elements `v`, and keeps the right ones of the
    rest. -/
theorem eraseLoop_eq (messageID : MessageID) {w : List Nat} {gs : MessageHandlers κ}
    (h : Points objects w gs) (v : List Nat) :
    ∃ w', eraseLoop objects messageID (v ++ w) v.length = some (v ++ w') ∧
      Points objects w' (gs.removeAllMessageHandlers messageID) := by
  induction h generalizing v with
  | nil =>
      refine ⟨[], ?_, List.Forall₂.nil⟩
      unfold eraseLoop
      simp
  | @cons a g w gs ha hrest ih =>
      unfold eraseLoop
      have hlt : v.length < (v ++ a :: w).length := by simp
      have hget : (v ++ a :: w)[v.length] = a := by simp
      rw [dif_pos hlt, hget, ha]
      dsimp only
      by_cases hid : g.messageID = messageID
      · -- `erase` puts the next element where the iterator is
        have herase : (v ++ a :: w).eraseIdx v.length = v ++ w := by
          rw [List.eraseIdx_append_of_length_le (Nat.le_refl _), Nat.sub_self]
          rfl
        obtain ⟨w', hw', hpoints⟩ := ih v
        refine ⟨w', ?_, ?_⟩
        · rw [if_pos hid, herase]
          exact hw'
        · simpa [MessageHandlers.removeAllMessageHandlers, hid] using hpoints
      · obtain ⟨w', hw', hpoints⟩ := ih (v ++ [a])
        rw [List.append_assoc, List.length_append] at hw'
        refine ⟨a :: w', ?_, ?_⟩
        · rw [if_neg hid]
          simpa using hw'
        · have hkeep : MessageHandlers.removeAllMessageHandlers (g :: gs) messageID =
              g :: MessageHandlers.removeAllMessageHandlers gs messageID := by
            simp [MessageHandlers.removeAllMessageHandlers, hid]
          rw [hkeep]
          exact List.Forall₂.cons ha hpoints

/-! ## A dispatch -/

/-- The calls that a message makes of some handlers, in order. -/
def callsOf (hs : MessageHandlers κ) (m : MessageData) (senderID : PlayerID) : List (Call κ) :=
  (hs.callbacks m.contentType m.messageID).map fun callback => ⟨callback, m, senderID⟩

/-- One of the handlers is for the message. -/
def matched (hs : MessageHandlers κ) (m : MessageData) : Bool :=
  hs.any fun h => h.handles m.contentType m.messageID

/-- The dispatch of a message over the handlers `hs` is behind those in `past`. -/
structure Walks (objects : List (MessageHandler κ)) (hs : MessageHandlers κ) (m : MessageData)
    (senderID : PlayerID) (d : Dispatch κ) : Prop where
  message   : d.messageData = m
  sender    : d.senderID = senderID
  passed    : ∃ past rest, hs = past ++ rest ∧ Points objects d.remaining rest ∧
    d.calls = callsOf past m senderID ∧ d.handlerFound = matched past m
  suitable  : d.unsuitable = false
  ended     : d.finished = true → d.remaining = []
  unhandled : d.noHandler = (d.finished && !d.handlerFound)

variable {m : MessageData} {senderID : PlayerID} {d d' : Dispatch κ}

theorem walks_begin (h : Points objects v hs) (m : MessageData) (senderID : PlayerID) :
    Walks objects hs m senderID ⟨m, senderID, v, false, [], false, false, false⟩ :=
  ⟨rfl, rfl, ⟨[], hs, rfl, h, rfl, rfl⟩, rfl, fun hd => (Bool.false_ne_true hd).elim, rfl⟩

theorem Walks.append (h : Walks objects hs m senderID d) (objects' : List (MessageHandler κ)) :
    Walks (objects ++ objects') hs m senderID d := by
  obtain ⟨past, rest, hsplit, hpoints, hcalls, hfound⟩ := h.passed
  exact ⟨h.message, h.sender, ⟨past, rest, hsplit, hpoints.append objects', hcalls, hfound⟩,
    h.suitable, h.ended, h.unhandled⟩

theorem callsOf_snoc (past : MessageHandlers κ) (g : MessageHandler κ) (m : MessageData)
    (senderID : PlayerID) :
    callsOf (past ++ [g]) m senderID = callsOf past m senderID ++ callsOf [g] m senderID := by
  unfold callsOf
  rw [MessageHandlers.callbacks_append, List.map_append]

theorem matched_snoc (past : MessageHandlers κ) (g : MessageHandler κ) (m : MessageData) :
    matched (past ++ [g]) m = (matched past m || g.handles m.contentType m.messageID) := by
  unfold matched
  simp

/-- `MessageHandler::handle` of a handler for the message: never the unsuitable one, and the call of its
    callback. -/
theorem handle_eq {g : MessageHandler κ}
    (hg : g.handles d.messageData.contentType d.messageData.messageID = true) :
    handle d g = { d with calls := d.calls ++ callsOf [g] d.messageData d.senderID } := by
  unfold handle callsOf
  rw [hg]
  cases hcallback : g.messageHandlerCallback with
  | none =>
      have hnone : MessageHandlers.callbacks [g] d.messageData.contentType d.messageData.messageID = [] := by
        simp [MessageHandlers.callbacks, hg, hcallback]
      simp [hnone]
  | some callback =>
      rw [MessageHandlers.callbacks_singleton hg hcallback]
      simp

/-- **One round** of the loop: the next handler, which is called if and only if it is for the message. -/
theorem Walks.proceed_of_cons (h : Walks objects hs m senderID d) (hrunning : d.finished = false)
    {a : Nat} {w : List Nat} (hremaining : d.remaining = a :: w) :
    ∃ d', proceed objects d = some d' ∧ Walks objects hs m senderID d' ∧ d'.finished = false ∧
      d'.remaining = w := by
  obtain ⟨past, rest, hsplit, hpoints, hcalls, hfound⟩ := h.passed
  rw [hremaining] at hpoints
  cases hpoints with
  | @cons _ g _ gs ha hpoints =>
      have hnext : hs = (past ++ [g]) ++ gs := by
        rw [hsplit, List.append_assoc]
        rfl
      unfold proceed
      simp only [hrunning, Bool.false_eq_true, if_false, hremaining, ha, Option.bind_eq_bind,
        Option.bind_some]
      cases hhandles : g.handles d.messageData.contentType d.messageData.messageID with
      | false =>
          have hm := h.message ▸ hhandles
          refine ⟨_, rfl, ⟨h.message, h.sender, ⟨past ++ [g], gs, hnext, hpoints, ?_, ?_⟩, h.suitable,
            fun hd => (Bool.false_ne_true hd).elim, ?_⟩, rfl, rfl⟩
          · rw [callsOf_snoc]
            unfold callsOf at hcalls ⊢
            rw [MessageHandlers.callbacks_singleton_of_not hm]
            simpa using hcalls
          · rw [matched_snoc, hm, Bool.or_false]
            exact hfound
          · simpa [hrunning] using h.unhandled
      | true =>
          have hm := h.message ▸ hhandles
          simp only [Bool.not_true, Bool.false_eq_true, if_false, handle_eq hhandles]
          refine ⟨_, rfl, ⟨h.message, h.sender, ⟨past ++ [g], gs, hnext, hpoints, ?_, ?_⟩, h.suitable,
            fun hd => absurd (hrunning.symm.trans hd) Bool.false_ne_true, ?_⟩, hrunning, rfl⟩
          · rw [callsOf_snoc, ← hcalls, ← h.message, ← h.sender]
          · rw [matched_snoc, hm, Bool.or_true]
          · simpa [hrunning] using h.unhandled

/-- After the last handler the loop ends. -/
theorem Walks.proceed_of_nil (h : Walks objects hs m senderID d) (hrunning : d.finished = false)
    (hremaining : d.remaining = []) :
    ∃ d', proceed objects d = some d' ∧ Walks objects hs m senderID d' ∧ d'.finished = true := by
  obtain ⟨past, rest, hsplit, hpoints, hcalls, hfound⟩ := h.passed
  unfold proceed
  simp only [hrunning, Bool.false_eq_true, if_false, hremaining]
  rw [hremaining] at hpoints
  exact ⟨_, rfl, ⟨h.message, h.sender, ⟨past, rest, hsplit, hpoints, hcalls, hfound⟩, h.suitable,
    fun _ => rfl, rfl⟩, rfl⟩

theorem Walks.proceed (h : Walks objects hs m senderID d) (hrunning : d.finished = false) :
    ∃ d', GameNetworkInterface.proceed objects d = some d' ∧ Walks objects hs m senderID d' := by
  cases hremaining : d.remaining with
  | nil =>
      obtain ⟨d', hd', hwalks, -⟩ := h.proceed_of_nil hrunning hremaining
      exact ⟨d', hd', hwalks⟩
  | cons a w =>
      obtain ⟨d', hd', hwalks, -⟩ := h.proceed_of_cons hrunning hremaining
      exact ⟨d', hd', hwalks⟩

/-- A dispatch whose loop has ended has called all it had to, and reported when there was nothing. -/
theorem Walks.result (h : Walks objects hs m senderID d) (hfinished : d.finished = true) :
    d.calls = callsOf hs m senderID ∧ d.noHandler = !matched hs m := by
  obtain ⟨past, rest, hsplit, hpoints, hcalls, hfound⟩ := h.passed
  rw [h.ended hfinished] at hpoints
  cases hpoints
  rw [List.append_nil] at hsplit
  rw [h.unhandled, hfinished, hfound, hsplit]
  exact ⟨hcalls, rfl⟩

theorem Walks.calls_isPrefix (h : Walks objects hs m senderID d) : d.calls <+: callsOf hs m senderID := by
  obtain ⟨past, rest, hsplit, -, hcalls, -⟩ := h.passed
  rw [hcalls, hsplit]
  unfold callsOf
  rw [MessageHandlers.callbacks_append, List.map_append]
  exact List.prefix_append _ _

/-! ## Runs -/

variable {s t : GameNetworkInterface κ} {es : List (Event κ)} {e : Event κ} {k : Nat}

/-- A step of any kind leaves the dispatches that are there on their way. -/
theorem step_walks (h : step s e = some t) (hd : s.dispatches[k]? = some d)
    (hwalks : Walks s.objects hs m senderID d) :
    ∃ d', t.dispatches[k]? = some d' ∧ Walks t.objects hs m senderID d' := by
  cases e with
  | addMessageHandler messageType messageID callback =>
      cases h
      exact ⟨d, hd, hwalks.append _⟩
  | removeAllMessageHandlers messageID =>
      obtain ⟨v, -, rfl⟩ := Option.map_eq_some_iff.mp h
      exact ⟨d, hd, hwalks⟩
  | clearMessageHandlers =>
      cases h
      exact ⟨d, hd, hwalks⟩
  | handleMessage m' senderID' =>
      cases h
      refine ⟨d, ?_, hwalks⟩
      exact List.getElem?_append_left (List.getElem?_eq_some_iff.mp hd).1 ▸ hd
  | proceed k' =>
      obtain ⟨d₁, hd₁, h⟩ := Option.bind_eq_some_iff.mp h
      obtain ⟨d₂, hd₂, h⟩ := Option.bind_eq_some_iff.mp h
      cases h
      by_cases hk : k' = k
      · subst hk
        obtain rfl : d = d₁ := Option.some.inj (hd.symm.trans hd₁)
        have hrunning : d.finished = false := by
          cases hfinished : d.finished with
          | false => rfl
          | true => simp [GameNetworkInterface.proceed, hfinished] at hd₂
        obtain ⟨d', hd', hwalks'⟩ := hwalks.proceed hrunning
        obtain rfl : d' = d₂ := Option.some.inj (hd'.symm.trans hd₂)
        refine ⟨d', ?_, hwalks'⟩
        exact List.getElem?_set_self (List.getElem?_eq_some_iff.mp hd).1
      · refine ⟨d, ?_, hwalks⟩
        exact (List.getElem?_set_ne hk).trans hd

/-- How many dispatches have begun. -/
def begun (es : List (Event κ)) : Nat :=
  es.countP fun e => e matches .handleMessage ..

theorem begun_snoc (es : List (Event κ)) (e : Event κ) :
    begun (es ++ [e]) = begun es + begun [e] := List.countP_append

/-- What a history of calls makes of the interface. -/
structure Agrees (es : List (Event κ)) (s : GameNetworkInterface κ) : Prop where
  handlers   : Points s.objects s.messageHandlers (registered es)
  begins     : s.dispatches.length = begun es
  dispatches : ∀ before m senderID after, es = before ++ .handleMessage m senderID :: after →
    ∃ d, s.dispatches[begun before]? = some d ∧ Walks s.objects (registered before) m senderID d

theorem agrees_new : Agrees [] (new : GameNetworkInterface κ) := by
  refine ⟨List.Forall₂.nil, rfl, ?_⟩
  intro before m senderID after h
  simp at h

/-- The registry after a step. -/
theorem step_handlers (h : step s e = some t) (hpoints : Points s.objects s.messageHandlers hs) :
    Points t.objects t.messageHandlers (e.edit hs) := by
  cases e with
  | addMessageHandler messageType messageID callback =>
      cases h
      refine List.rel_append (hpoints.append _) (List.Forall₂.cons ?_ List.Forall₂.nil)
      simp
  | removeAllMessageHandlers messageID =>
      obtain ⟨v, hv, rfl⟩ := Option.map_eq_some_iff.mp h
      obtain ⟨w, hw, hw'⟩ := eraseLoop_eq messageID hpoints []
      obtain rfl : w = v := Option.some.inj (hw.symm.trans hv)
      exact hw'
  | clearMessageHandlers =>
      cases h
      exact List.Forall₂.nil
  | handleMessage m senderID =>
      cases h
      exact hpoints
  | proceed k =>
      obtain ⟨d, -, h⟩ := Option.bind_eq_some_iff.mp h
      obtain ⟨d', -, h⟩ := Option.bind_eq_some_iff.mp h
      cases h
      exact hpoints

theorem step_begins (h : step s e = some t) :
    t.dispatches.length = s.dispatches.length + begun [e] := by
  cases e with
  | addMessageHandler messageType messageID callback =>
      cases h
      rfl
  | removeAllMessageHandlers messageID =>
      obtain ⟨v, -, rfl⟩ := Option.map_eq_some_iff.mp h
      rfl
  | clearMessageHandlers =>
      cases h
      rfl
  | handleMessage m senderID =>
      cases h
      exact List.length_append
  | proceed k =>
      obtain ⟨d, -, h⟩ := Option.bind_eq_some_iff.mp h
      obtain ⟨d', -, h⟩ := Option.bind_eq_some_iff.mp h
      cases h
      exact List.length_set

theorem Agrees.step (ha : Agrees es s) (h : GameNetworkInterface.step s e = some t) :
    Agrees (es ++ [e]) t := by
  refine ⟨?_, ?_, ?_⟩
  · rw [registered_snoc]
    exact step_handlers h ha.handlers
  · rw [begun_snoc, step_begins h, ha.begins]
  · intro before m senderID after hsplit
    obtain rfl | ⟨after', e', rfl⟩ := List.eq_nil_or_concat after
    · -- the step is the one that begins the dispatch
      obtain ⟨rfl, he⟩ := List.append_inj' hsplit rfl
      cases he
      cases h
      refine ⟨_, ?_, walks_begin ha.handlers m senderID⟩
      rw [← ha.begins]
      simp [GameNetworkInterface.handleMessage]
    · rw [List.concat_eq_append, ← List.cons_append, ← List.append_assoc] at hsplit
      obtain ⟨hes, -⟩ := List.append_inj' hsplit rfl
      obtain ⟨d, hd, hwalks⟩ := ha.dispatches before m senderID after' hes
      exact step_walks h hd hwalks

theorem agrees (h : exec step new es = some s) : Agrees es s :=
  exec_trace (P := Agrees) agrees_new (fun _ ha hstep => ha.step hstep) h

/-- Each dispatch was begun by some call. -/
theorem exists_of_lt_begun (h : k < begun es) :
    ∃ before m senderID after, es = before ++ .handleMessage m senderID :: after ∧ begun before = k := by
  induction es using List.reverseRecOn with
  | nil => simp [begun] at h
  | append_singleton es e ih =>
      by_cases hk : k < begun es
      · obtain ⟨before, m, senderID, after, rfl, hbefore⟩ := ih hk
        exact ⟨before, m, senderID, after ++ [e], by simp, hbefore⟩
      · rw [begun_snoc] at h
        cases e with
        | handleMessage m senderID =>
            have hone : begun [(.handleMessage m senderID : Event κ)] = 1 := rfl
            exact ⟨es, m, senderID, [], rfl, by omega⟩
        | addMessageHandler messageType messageID callback => exact absurd h hk
        | removeAllMessageHandlers messageID               => exact absurd h hk
        | clearMessageHandlers                             => exact absurd h hk
        | proceed k'                                       => exact absurd h hk

theorem Agrees.walks (ha : Agrees es s) (hd : s.dispatches[k]? = some d) :
    ∃ hs m senderID, Walks s.objects hs m senderID d := by
  have hk := (List.getElem?_eq_some_iff.mp hd).1
  rw [ha.begins] at hk
  obtain ⟨before, m, senderID, after, hes, rfl⟩ := exists_of_lt_begun hk
  obtain ⟨d', hd', hwalks⟩ := ha.dispatches before m senderID after hes
  obtain rfl : d' = d := Option.some.inj (hd'.symm.trans hd)
  exact ⟨_, m, senderID, hwalks⟩

/-- The loop of the dispatch that the event goes on with is not at its end; other calls can always be
    made. -/
def Possible (s : GameNetworkInterface κ) : Event κ → Prop
  | .proceed k => ∃ d, s.dispatches[k]? = some d ∧ d.finished = false
  | _          => True

/-- No call gets stuck. -/
theorem Agrees.step_isSome (ha : Agrees es s) (hpossible : Possible s e) :
    (GameNetworkInterface.step s e).isSome := by
  cases e with
  | addMessageHandler messageType messageID callback => rfl
  | removeAllMessageHandlers messageID =>
      obtain ⟨w, hw, -⟩ := eraseLoop_eq messageID ha.handlers []
      have hloop : eraseLoop s.objects messageID s.messageHandlers 0 = some w := hw
      simp [GameNetworkInterface.step, GameNetworkInterface.removeAllMessageHandlers, hloop]
  | clearMessageHandlers => rfl
  | handleMessage m senderID => rfl
  | proceed k =>
      obtain ⟨d, hd, hrunning⟩ := hpossible
      obtain ⟨hs, m, senderID, hwalks⟩ := ha.walks hd
      obtain ⟨d', hd', -⟩ := hwalks.proceed hrunning
      simp [GameNetworkInterface.step, hd, hd']

/-- Left alone, a dispatch comes to its end. -/
theorem exec_proceed {n : Nat} (hd : s.dispatches[k]? = some d) (hrunning : d.finished = false)
    (hwalks : Walks s.objects hs m senderID d) (hn : d.remaining.length = n) :
    ∃ t d', exec step s (List.replicate (n + 1) (.proceed k)) = some t ∧
      t.dispatches[k]? = some d' ∧ d'.finished = true := by
  have hk := (List.getElem?_eq_some_iff.mp hd).1
  induction n generalizing s d with
  | zero =>
      obtain ⟨d', hd', -, hfinished⟩ := hwalks.proceed_of_nil hrunning (List.length_eq_zero_iff.mp hn)
      have hstep : step s (.proceed k) = some { s with dispatches := s.dispatches.set k d' } := by
        simp [GameNetworkInterface.step, hd, hd']
      refine ⟨{ s with dispatches := s.dispatches.set k d' }, d', ?_, List.getElem?_set_self hk,
        hfinished⟩
      rw [List.replicate_one, exec_cons, hstep]
      rfl
  | succ n ih =>
      obtain ⟨a, w, hremaining⟩ := List.exists_cons_of_length_eq_add_one hn
      obtain ⟨d', hd', hwalks', hrunning', rfl⟩ := hwalks.proceed_of_cons hrunning hremaining
      have hstep : step s (.proceed k) = some { s with dispatches := s.dispatches.set k d' } := by
        simp [GameNetworkInterface.step, hd, hd']
      have hlen : d'.remaining.length = n := by
        rw [hremaining] at hn
        simpa using hn
      have hset : (s.dispatches.set k d')[k]? = some d' := List.getElem?_set_self hk
      obtain ⟨t, d'', ht, hd'', hfinished⟩ :=
        ih (s := { s with dispatches := s.dispatches.set k d' }) hset hrunning' hwalks' hlen
          (by simpa using hk)
      refine ⟨t, d'', ?_, hd'', hfinished⟩
      rw [List.replicate_succ, exec_cons, hstep]
      exact ht

/-- **Dispatch is exact.** In every run, a `handleMessage` makes the calls of the handlers that were
    registered when it began, in order, and no others: some of them while its loop runs, all of them when
    the loop has ended. It finds no unsuitable handler, and reports a missing one if and only if none was
    for the message. No call gets stuck, and a loop that is left alone ends. -/
theorem dispatch_exact (before after : List (Event κ)) (m : MessageData) (senderID : PlayerID)
    (h : exec step new (before ++ .handleMessage m senderID :: after) = some s) :
    (∃ d, s.dispatches[begun before]? = some d ∧
      d.calls <+: callsOf (registered before) m senderID ∧ d.unsuitable = false ∧
      (if d.finished then
        d.calls = callsOf (registered before) m senderID ∧
        d.noHandler = !matched (registered before) m
      else
        d.noHandler = false ∧
        ∃ t d', exec step s (List.replicate (d.remaining.length + 1) (.proceed (begun before))) = some t ∧
          t.dispatches[begun before]? = some d' ∧ d'.finished = true)) ∧
    ∀ e, Possible s e → (step s e).isSome := by
  have ha := agrees h
  obtain ⟨d, hd, hwalks⟩ := ha.dispatches before m senderID after rfl
  refine ⟨⟨d, hd, hwalks.calls_isPrefix, hwalks.suitable, ?_⟩, fun e => ha.step_isSome⟩
  by_cases hfinished : d.finished = true
  · rw [if_pos hfinished]
    exact hwalks.result hfinished
  · rw [if_neg hfinished]
    rw [Bool.not_eq_true] at hfinished
    refine ⟨?_, exec_proceed hd hfinished hwalks rfl⟩
    rw [hwalks.unhandled, hfinished, Bool.false_and]

/-- A handler for all types and IDs and one for the message's are called, although all are removed and
    another one is added in the meantime. -/
theorem dispatch_exact_removed :
    ∃ s d, exec step (new (κ := String))
        ([.addMessageHandler messageAllTypes messageIDAll (some "all"),
          .addMessageHandler 2 5 (some "five"), .addMessageHandler 2 6 (some "six")] ++
          .handleMessage ⟨⟨5, 2, 0, 0⟩, .zero, none⟩ 4 ::
          [.proceed 0, .clearMessageHandlers, .addMessageHandler 2 5 (some "new"), .proceed 0,
            .proceed 0, .proceed 0]) = some s ∧
      s.dispatches[0]? = some d ∧ d.calls.map Call.callback = ["all", "five"] ∧ d.noHandler = false := by
  refine ⟨_, _, rfl, rfl, ?_⟩
  obtain ⟨⟨d, hd, -, -, hresult⟩, -⟩ := dispatch_exact (κ := String)
    [.addMessageHandler messageAllTypes messageIDAll (some "all"),
      .addMessageHandler 2 5 (some "five"), .addMessageHandler 2 6 (some "six")]
    [.proceed 0, .clearMessageHandlers, .addMessageHandler 2 5 (some "new"), .proceed 0, .proceed 0,
      .proceed 0] ⟨⟨5, 2, 0, 0⟩, .zero, none⟩ 4 rfl
  cases hd
  exact ⟨congrArg (List.map Call.callback) hresult.1, hresult.2⟩

end GameNetworkInterface

end Footscreen
