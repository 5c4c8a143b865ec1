import Footscreen.Game.Correctness.Obedience

/-!
# `Game.Correctness.Spectators` — a third player watches

The units of a level belong to the first two players that there have been. Everybody else, also a player
that has lost its connection and come back, has a later ID and is sent the game, but commands no unit:
whatever requests it makes, the server is at the end in exactly the state that it would be in without
them (`spectators_watch`).
-/

namespace Footscreen

open Lib

variable {F : Type}

/-! ## Sides -/

/-- The ID of one of the two players that have units. -/
def OnSide (p : PlayerID) : Prop := p = idFirstClient ∨ p = idFirstClient + 1

instance (p : PlayerID) : Decidable (OnSide p) := inferInstanceAs (Decidable (_ ∨ _))

namespace Game

variable [FloatArith F]

theorem loadUnits_onSide {owner : PlayerID} (isHunting : Bool) (ps : List Point) (number : UInt8)
    (s : Game F × Context F) (howner : OnSide owner)
    (hs : ∀ u ∈ s.1.gameUnits, OnSide u.owner) :
    ∀ u ∈ (loadUnits owner isHunting ps number s).1.gameUnits, OnSide u.owner := by
  induction ps generalizing number s with
  | nil => exact hs
  | cons p ps ih =>
      obtain ⟨g, c⟩ := s
      apply ih (number + 1) _
      intro u hu
      rcases List.mem_append.mp hu with hu | hu
      · exact hs u hu
      · rw [List.mem_singleton.mp hu]
        exact howner

/-- A load gives all units to the two. -/
theorem load_onSide (g : Game F) (c : Context F) (levelNumber : Int) (clock : Nat → F) :
    ∀ u ∈ (g.load c levelNumber clock).1.gameUnits, OnSide u.owner := by
  let l := level levelNumber
  let s₁ := loadUnits idFirstClient false l.unitPositionsPlayer1 1 (g.reset c)
  let s₂ := loadUnits (idFirstClient + 1) true l.unitPositionsPlayer2 1 s₁
  have h₁ : ∀ u ∈ s₁.1.gameUnits, OnSide u.owner :=
    loadUnits_onSide _ _ _ _ (Or.inl rfl) fun u hu => by cases hu
  have h₂ : ∀ u ∈ s₂.1.gameUnits, OnSide u.owner := loadUnits_onSide _ _ _ _ (Or.inr rfl) h₁
  have hunits := (loadObstacles_loaded [] (l.obstaclePositions.zip l.obstacleRadii) s₂).2.2
  intro u hu
  apply h₂ u
  rw [← hunits]
  exact hu

omit [FloatArith F] in
theorem Keeps.onSide {f : Game F → Game F} (hf : Keeps f) {g : Game F}
    (h : ∀ u ∈ g.gameUnits, OnSide u.owner) : ∀ u ∈ (f g).gameUnits, OnSide u.owner := by
  intro u hu
  have hmem : u.identity ∈ identities g.gameUnits := (hf g).1 ▸ List.mem_map_of_mem hu
  obtain ⟨v, hv, heq⟩ := List.mem_map.mp hmem
  have howner : v.owner = u.owner := congrArg Prod.snd heq
  exact howner ▸ h v hv

end Game

/-! ## The server -/

namespace GameServer

variable [FloatArith F] {s s' : GameServer F} {e : Event F} {S : SessionID → Bool}

/-- The event is a message of one of these sessions. -/
def Event.isFrom (S : SessionID → Bool) : Event F → Bool
  | .handleMessageReceived session _ => S session
  | _                                => false

/-- None of these sessions has a player that has units. -/
def Spectating (S : SessionID → Bool) (s : GameServer F) : Prop :=
  ∀ q ∈ s.playerProfiles, S q.session = true → ¬ OnSide q.playerID

instance (S : SessionID → Bool) (s : GameServer F) : Decidable (s.Spectating S) :=
  inferInstanceAs (Decidable (∀ q ∈ s.playerProfiles, _ → _))

/-- All units belong to the two players. -/
structure Sided (s : GameServer F) : Prop where
  ready : s.Ready
  units : ∀ g, s.game = some g → ∀ u ∈ g.gameUnits, OnSide u.owner

omit [FloatArith F] in
theorem sided_run (unset : Nat → Unset F) : (run unset).Sided := ⟨Or.inl ⟨rfl, rfl⟩, nofun⟩

omit [FloatArith F] in
theorem Sided.mapGame {f : Game F → Game F} (h : s.Sided) (hf : Game.Keeps f) : (s.mapGame f).Sided := by
  refine ⟨h.ready.mapGame hf, ?_⟩
  intro g' hg'
  obtain ⟨g, hg, rfl⟩ := Option.map_eq_some_iff.mp hg'
  exact hf.onSide (h.units g hg)

/-- **One call** keeps the sides, and every player. -/
theorem Sided.step (h : s.Sided) (he : e.Requests) (hstep : s.step e = some s') :
    s'.Sided ∧ ∀ q ∈ s.playerProfiles, q ∈ s'.playerProfiles := by
  have hready := ready_step h.ready hstep
  cases e with
  | loadGame levelNumber clock =>
      cases hstep
      refine ⟨⟨hready, ?_⟩, fun q hq => hq⟩
      rintro _ ⟨⟩
      exact Game.load_onSide (Game.new s.context clock).1 _ levelNumber fun i => clock (i + 2)
  | startGame clock =>
      cases hstep
      exact ⟨h.mapGame (Game.start_keeps clock), fun q hq => hq⟩
  | proceed clock =>
      cases hstep
      exact ⟨h.mapGame (Game.proceed_keeps clock), fun q hq => hq⟩
  | synchronize =>
      obtain ⟨_, _, rfl⟩ := synchronize_inv hstep
      exact ⟨⟨hready, h.units⟩, fun q hq => hq⟩
  | handleSessionAccepted session =>
      obtain ⟨g, p, -, rfl⟩ := handleSessionAccepted_inv hstep
      exact ⟨⟨hready, h.units⟩, fun q hq => List.mem_append_left _ hq⟩
  | handleMessageReceived session m =>
      have hsome : (if (s.playerProfileBySession session).isSome
        then s.handleMessageReceived session m else none) = some s' := hstep
      split at hsome
      · obtain ⟨f, hf, rfl⟩ := h.ready.request he hsome
        exact ⟨h.mapGame hf, fun q hq => hq⟩
      · cases hsome

/-- A request of a spectator changes nothing. -/
theorem Sided.spectator {session : SessionID} {m : GameMessage F} (h : s.Sided) (hm : IsRequest m)
    (hS : S session = true) (hspectating : s.Spectating S)
    (hstep : s.step (.handleMessageReceived session m) = some s') : s' = s := by
  have hsome : (if (s.playerProfileBySession session).isSome
    then s.handleMessageReceived session m else none) = some s' := hstep
  split at hsome
  · obtain ⟨t, ht, heffect⟩ := h.ready.request_effect hm session
    obtain rfl := Option.some.inj (ht.symm.trans hsome)
    have hno : ∀ {p : PlayerProfile} {g : Game F} {u : GameUnit F},
        s.playerProfileBySession session = some p → s.game = some g → u ∈ g.gameUnits →
        u.owner ≠ p.playerID := by
      intro p g u hp hg hu howner
      obtain ⟨hmem, rfl⟩ := mem_of_playerProfileBySession hp
      exact hspectating p hmem hS (howner ▸ h.units g hg u hu)
    cases heffect with
    | refused => rfl
    | accelerated u a hp hg hu howner => exact absurd howner (hno hp hg hu)
    | highlighted u b hp hg hu howner => exact absurd howner (hno hp hg hu)
  · cases hsome

/-- **Spectators watch.** A run in which clients send requests only leads to the very same state of the
    server, game, broadcasts and all, without those of sessions whose players have no units. -/
theorem spectators_watch (S : SessionID → Bool) (unset : Nat → Unset F) {events : List (Event F)}
    (hrequests : ∀ e ∈ events, e.Requests) (h : exec step (run unset) events = some s)
    (hspectating : s.Spectating S) :
    exec step (run unset) (events.filter fun e => !e.isFrom S) = some s := by
  have hguarded : Guarded step (fun _ e => e.Requests) (run unset) events :=
    guarded_of_mem fun e he _ => hrequests e he
  refine (exec_history (P := fun events s => s.Sided ∧ (s.Spectating S →
    exec step (run unset) (events.filter fun e => !e.isFrom S) = some s))
    ⟨sided_run unset, fun _ => rfl⟩ ?_ hguarded h).2 hspectating
  rintro events s e s' - he ⟨hsided, ih⟩ hstep
  obtain ⟨hsided', hkept⟩ := hsided.step he hstep
  refine ⟨hsided', fun hspectating' => ?_⟩
  have hspectating : s.Spectating S := fun q hq => hspectating' q (hkept q hq)
  rw [List.filter_append, List.filter_cons]
  split
  · have hlast : exec step s [e] = some s' := by rw [exec_cons, hstep]; rfl
    exact exec_append_of (ih hspectating) hlast
  · next hfrom =>
      cases e with
      | handleMessageReceived session m =>
          have hS : S session = true := by simpa [Event.isFrom] using hfrom
          rw [hsided.spectator he hS hspectating hstep, List.filter_nil, List.append_nil]
          exact ih hspectating
      | loadGame _ _ | startGame _ | proceed _ | synchronize | handleSessionAccepted _ =>
          exact absurd rfl hfrom

/-- A third client connects to a game for two, and tries to steer. -/
def thirdClient : List (Event Int) :=
  [.loadGame 1 fun _ => 0, .handleSessionAccepted 7, .handleSessionAccepted 8,
   .handleSessionAccepted 9, .startGame fun _ => 0,
   .handleMessageReceived 9 ⟨messageIDEvent, .moveRequest ⟨1, 0, 1⟩, none⟩,
   .handleMessageReceived 7 ⟨messageIDEvent, .highlightRequest ⟨1, true⟩, none⟩,
   .proceed fun _ => 0, .synchronize]

theorem thirdClient_isSome : (exec step (run zeroed) thirdClient).isSome = true := by decide +kernel

/-- The server at the end. -/
def watched : GameServer Int := (exec step (run zeroed) thirdClient).get thirdClient_isSome

theorem watched_eq : exec step (run zeroed) thirdClient = some watched :=
  (Option.some_get thirdClient_isSome).symm

/-- It might as well not have tried. -/
theorem spectators_watch_thirdClient :
    exec step (run zeroed) (thirdClient.eraseIdx 5) = some watched := by
  have hwithout : thirdClient.filter (fun e => !e.isFrom (· == 9)) = thirdClient.eraseIdx 5 := rfl
  rw [← hwithout]
  exact spectators_watch (· == 9) zeroed (by decide) watched_eq (by decide +kernel)

end GameServer

end Footscreen
