import Footscreen.Application.Installation
import Footscreen.Application.Correctness.Play
import Footscreen.Game.Correctness.Uplink

/-!
# `Application.Correctness.Installation` — from a touch to the units on the server

A run of the installation is a run of the program beside a run of the server with its connections, in which
the session's client asks for what the rounds of the program come to (`Runs`). `round_obeyed` follows a
touch all the way: from the camera over the homography, the nearest unit, the requests and their bytes to
the units of the server.
-/

namespace Footscreen

open FloatArith Lib

/-! ## The last of some requests -/

namespace Controls

variable {F : Type} {k : UInt8}

/-- A lamp that all of the requests for it switch the same way. -/
theorem lastHighlight_const (is : List UInt8) (b : Bool) (hk : k ∈ is) :
    lastHighlight (is.map fun i => (.highlight ⟨i, b⟩ : Request F)) k = some b := by
  induction is using List.reverseRecOn with
  | nil => cases hk
  | append_singleton is i ih =>
      rw [List.map_append, lastHighlight_append, List.map_singleton, lastHighlight_one]
      by_cases hi : k = i
      · have hlast : (Request.highlight ⟨i, b⟩ : Request F).highlightOf k = some b := if_pos hi
        rw [hlast]
        rfl
      · have hlast : (Request.highlight ⟨i, b⟩ : Request F).highlightOf k = none := if_neg hi
        have hmem : k ∈ is := (List.mem_append.mp hk).resolve_right fun h => hi (List.mem_singleton.mp h)
        rw [hlast, ih hmem]
        rfl

end Controls

namespace Installation

variable {F B : Type} {session : SessionID} {clock : Nat → F} {memory : Nat → Memory}
  {commands : List (Command F)} {us : List (Uplink.Event F (GameServer.Event F))}

/-! ## Commands -/

/-- The request in a command. -/
def requestOf : Command F → Option (Controls.Request F)
  | .startGame => none
  | .send m    => m.request

/-- What a round asks for. -/
theorem asked_performAll (session : SessionID) (clock : Nat → F) (memory : Nat → Memory)
    (commands : List (Command F)) :
    Uplink.asked session (performAll session clock memory commands) = commands.filterMap requestOf := by
  induction commands generalizing memory with
  | nil => rfl
  | cons command commands ih =>
      rw [performAll, Uplink.asked_append, ih, List.filterMap_cons]
      cases command with
      | startGame => rfl
      | send m =>
          dsimp only [perform, requestOf]
          cases m.request with
          | none   => rfl
          | some r =>
              show Uplink.asked session [.ask session r _ _ _] ++ _ = _
              rw [Uplink.asked, if_pos rfl]
              rfl

/-- What carries out commands is no failure, and no load. -/
theorem performAll_harmless {u : Uplink.Event F (GameServer.Event F)}
    (hu : u ∈ performAll session clock memory commands) :
    u.isSound = true ∧ ∀ e, u = .call e → e.InLevel := by
  induction commands generalizing memory with
  | nil => cases hu
  | cons command commands ih =>
      rcases List.mem_append.mp hu with hu | hu
      · cases command with
        | startGame =>
            obtain rfl := Option.some.inj (Option.mem_toList.mp hu)
            refine ⟨rfl, ?_⟩
            rintro e ⟨⟩
            trivial
        | send m =>
            obtain ⟨r, -, rfl⟩ := Option.map_eq_some_iff.mp (Option.mem_toList.mp hu)
            exact ⟨rfl, nofun⟩
      · exact ih hu

theorem mem_calls {e : GameServer.Event F} (he : e ∈ Uplink.calls us) : .call e ∈ us := by
  induction us with
  | nil => cases he
  | cons u us ih =>
      cases u with
      | call e' =>
          rcases List.mem_cons.mp he with rfl | he
          · exact List.mem_cons_self
          · exact List.mem_cons_of_mem _ (ih he)
      | ask _ _ _ _ _ | network _ _ => exact List.mem_cons_of_mem _ (ih he)

/-! ## Runs -/

/-- What happens to the program. -/
def applicationEvents (events : List (Event F B)) : List (Application.Event F B Nat) :=
  events.filterMap fun
    | .application e _ _ => some e
    | .uplink _          => none

/-- A round of the program's loop. -/
def Event.isRound : Event F B → Bool
  | .application (.loop _ _) _ _ => true
  | _                            => false

/-- No read or write of the network fails here. -/
def Event.isSound : Event F B → Bool
  | .uplink u => u.isSound
  | _         => true

/-- What is called on the server by others than the program. -/
def Event.called : Event F B → Option (GameServer.Event F)
  | .uplink (.call e) => some e
  | _                 => none

variable [FloatArith F] [SteeringArith F] [FloatBytes F] {s s₁ s' : Installation F B}
  {perspective : Quad F → Quad F → Matrix (Fin 3) (Fin 3) F} {vision : Vision F Nat}
  {events before after : List (Event F B)} {e : Event F B}

/-- A run of the installation, as a run of each of its parts. -/
structure Runs (session : SessionID) (perspective : Quad F → Quad F → Matrix (Fin 3) (Fin 3) F)
    (vision : Vision F Nat) (s : Installation F B) (events : List (Event F B)) (s' : Installation F B)
    (us : List (Uplink.Event F (GameServer.Event F))) : Prop where
  application : exec (Application.step perspective vision) s.application (applicationEvents events) =
    some s'.application
  uplink      : exec (Uplink.step GameServer.host) s.uplink us = some s'.uplink
  origin      : ∀ u ∈ us, .uplink u ∈ events ∨ u.isSound = true ∧ ∀ e, u = .call e → e.InLevel
  quiet       : (∀ e ∈ events, e.isRound = false) → Uplink.asked session us = []

omit [FloatArith F] [SteeringArith F] [FloatBytes F] in
theorem asked_of_not_asks {u : Uplink.Event F (GameServer.Event F)} (hu : asks session u = false) :
    Uplink.asked session [u] = [] := by
  cases u with
  | call _ | network _ _ => rfl
  | ask t r _ _ _ => exact if_neg (by simpa [asks] using hu)

/-- **One event.** -/
theorem Runs.step (h : Runs session perspective vision s events s₁ us)
    (hstep : s₁.step session perspective vision e = some s') :
    ∃ us', Runs session perspective vision s (events ++ [e]) s' (us ++ us') := by
  cases e with
  | application e clock memory =>
      obtain ⟨application, happlication, hstep⟩ := Option.bind_eq_some_iff.mp hstep
      obtain ⟨uplink, huplink, hstep⟩ := Option.bind_eq_some_iff.mp hstep
      cases hstep
      refine ⟨performAll session clock memory (commandsOf perspective vision s₁.application e), ?_, ?_, ?_,
        ?_⟩
      · unfold applicationEvents
        rw [List.filterMap_append]
        exact exec_snoc.mpr ⟨s₁.application, h.application, happlication⟩
      · exact exec_append_of h.uplink huplink
      · intro u hu
        rcases List.mem_append.mp hu with hu | hu
        · exact (h.origin u hu).imp_left (List.mem_append_left _)
        · exact Or.inr (performAll_harmless hu)
      · intro hquiet
        rw [Uplink.asked_append, h.quiet fun e he => hquiet e (List.mem_append_left _ he), List.nil_append]
        have hround := hquiet _ (List.mem_append_right _ List.mem_cons_self)
        cases e with
        | loop key frames => cases hround
        | mouseCallback _ _ _ | receive _ => rfl
  | uplink u =>
      rw [Installation.step] at hstep
      split at hstep
      · cases hstep
      · next hasks =>
          obtain ⟨uplink, huplink, rfl⟩ := Option.map_eq_some_iff.mp hstep
          refine ⟨[u], ?_, exec_snoc.mpr ⟨s₁.uplink, h.uplink, huplink⟩, ?_, ?_⟩
          · unfold applicationEvents
            rw [List.filterMap_append]
            exact (List.append_nil _).symm ▸ h.application
          · intro v hv
            rcases List.mem_append.mp hv with hv | hv
            · exact (h.origin v hv).imp_left (List.mem_append_left _)
            · rw [List.mem_singleton.mp hv]
              exact Or.inl (List.mem_append_right _ List.mem_cons_self)
          · intro hquiet
            rw [Uplink.asked_append, h.quiet fun e he => hquiet e (List.mem_append_left _ he),
              asked_of_not_asks (Bool.eq_false_iff.mpr hasks)]
            rfl

/-- **Every run** is one of the program and one of the server. -/
theorem exists_runs (h : exec (step session perspective vision) s events = some s') :
    ∃ us, Runs session perspective vision s events s' us := by
  refine exec_trace (P := fun events s' => ∃ us, Runs session perspective vision s events s' us)
    ⟨[], rfl, rfl, nofun, fun _ => rfl⟩ ?_ h
  rintro events s₁ e s' - ⟨us, hruns⟩ hstep
  obtain ⟨us', hruns'⟩ := hruns.step hstep
  exact ⟨_, hruns'⟩

/-! ## A round -/

omit [SteeringArith F] [FloatBytes F] in
/-- The loop over the units selects one of them. -/
theorem selected_mem {game : Game F} {touch : Vec2 F} {nearest : Int × F} {requests : List (GameMessage F)}
    (h : Application.selectUnit game touch [0, 1, 2, 3, 4] (-1, ofInt 0) = some (nearest, requests)) :
    nearest.1 ∈ ([0, 1, 2, 3, 4] : List Int) := by
  obtain ⟨unit, rest, -, hrest, -⟩ := Application.selectUnit_inv h
  have hfirst : Application.nearer touch unit 0 (-1, ofInt 0) = (0, (touch.sub ⟨unit.x, unit.y⟩).norm) := by
    unfold Application.nearer
    exact if_pos (Or.inl rfl)
  rw [hfirst] at hrest
  rcases Application.selectUnit_index hrest with heq | hmem
  · exact List.mem_cons.mpr (Or.inl heq)
  · exact List.mem_cons_of_mem 0 hmem

omit [SteeringArith F] [FloatBytes F] in
/-- What a round asks for last: the lamps of the first five units, and the lever of the selected one. -/
theorem last_of_frame {requests : List (GameMessage F)} {i : Nat} {angle : F} (hi : i < 5)
    (hrequests : requests = [0, 1, 2, 3, 4].map (Game.highlightUnit · false) ++
      [Game.moveUnit i angle (ofInt 1 / ofInt 10), Game.highlightUnit i true])
    (earlier : List (Controls.Request F)) (k : UInt8) :
    (k.toNat < 5 → Controls.lastHighlight (earlier ++ (requests.map Command.send).filterMap requestOf) k =
        some (decide (k.toNat = i))) ∧
      (k.toNat = i → Controls.lastMove (earlier ++ (requests.map Command.send).filterMap requestOf) k =
        some ⟨k, angle, ofInt 1 / ofInt 10⟩) := by
  have hindex : (UInt8.ofInt i).toNat = i := Application.index_toNat hi
  have hasked : (requests.map Command.send).filterMap requestOf =
      ([0, 1, 2, 3, 4] : List UInt8).map (fun j => (.highlight ⟨j, false⟩ : Controls.Request F)) ++
        [.move ⟨UInt8.ofInt i, angle, ofInt 1 / ofInt 10⟩] ++ [.highlight ⟨UInt8.ofInt i, true⟩] := by
    rw [hrequests]
    rfl
  have hk : k.toNat = i ↔ k = UInt8.ofInt i := by rw [← UInt8.toNat_inj, hindex]
  rw [hasked]
  constructor
  · intro hk5
    rw [← List.append_assoc, ← List.append_assoc, Controls.lastHighlight_append,
      Controls.lastHighlight_append, Controls.lastHighlight_append, Controls.lastHighlight_one,
      Controls.lastHighlight_one]
    by_cases heq : k = UInt8.ofInt i
    · have hlast : (Controls.Request.highlight ⟨UInt8.ofInt i, true⟩ : Controls.Request F).highlightOf k =
          some true := if_pos heq
      rw [hlast, decide_eq_true (hk.mpr heq)]
      rfl
    · have hlast : (Controls.Request.highlight ⟨UInt8.ofInt i, true⟩ : Controls.Request F).highlightOf k =
          none := if_neg heq
      have hmem : k ∈ ([0, 1, 2, 3, 4] : List UInt8) := by
        simp only [List.mem_cons, List.not_mem_nil, or_false, ← UInt8.toNat_inj]
        show k.toNat = 0 ∨ k.toNat = 1 ∨ k.toNat = 2 ∨ k.toNat = 3 ∨ k.toNat = 4
        omega
      rw [hlast, Controls.lastHighlight_const _ _ hmem, decide_eq_false (mt hk.mp heq)]
      rfl
  · intro heq
    rw [← List.append_assoc, ← List.append_assoc, Controls.lastMove_append, Controls.lastMove_append,
      Controls.lastMove_one, Controls.lastMove_one]
    have hlast : (Controls.Request.move ⟨UInt8.ofInt i, angle, ofInt 1 / ofInt 10⟩ :
        Controls.Request F).moveOf k = some ⟨UInt8.ofInt i, angle, ofInt 1 / ofInt 10⟩ :=
      if_pos (hk.mp heq)
    rw [hlast, ← hk.mp heq]
    rfl

/-- **A round**: the touch selects a unit, and the client asks for what that means. -/
theorem round_inv {key : Option Char} {frames : Nat → Image F B × Image F Nat} {clock : Nat → F}
    {memory : Nat → Memory} (hfollows : Application.Follows perspective (applicationEvents events) s.application)
    (hover : Application.Over (applicationEvents events)) (hkey : key ≠ some 'q')
    (hstep : s.step session perspective vision (.application (.loop key frames) clock memory) = some s') :
    ∃ (projector camera : Quad F) (i : Nat) (unit : GameUnit F) (requests : List (GameMessage F)),
      let touch := perspectiveTransform (perspective camera Calibration.corners)
        (s.application.detected vision key frames).2
      (Application.clicks (applicationEvents events)).take 8 = List.ofFn projector ++ List.ofFn camera ∧
      i < 5 ∧
      (Application.selectUnit s.application.gameClient.game touch [0, 1, 2, 3, 4] (-1, ofInt 0)).map
        (fun r => r.1.1) = some (i : Int) ∧
      s.application.gameClient.game.ownUnitByIndex (UInt8.ofInt i) = some unit ∧
      requests = [0, 1, 2, 3, 4].map (Game.highlightUnit · false) ++
        [Game.moveUnit i (Application.steeringAngle unit touch) (ofInt 1 / ofInt 10),
         Game.highlightUnit i true] ∧
      exec (Uplink.step GameServer.host) s.uplink (performAll session clock memory
        (Application.keyCommands key ++ requests.map .send)) = some s'.uplink := by
  obtain ⟨application, happlication, hstep⟩ := Option.bind_eq_some_iff.mp hstep
  obtain ⟨uplink, huplink, hstep⟩ := Option.bind_eq_some_iff.mp hstep
  cases hstep
  have hplay := hfollows.inPlay.mpr hover
  obtain ⟨projector, camera, htake, hcomputed⟩ := hfollows.tracks.computed hplay
  rw [Application.step] at happlication
  split at happlication
  · cases happlication
  · next hrunning =>
      obtain ⟨⟨a', commands⟩, hloop, rfl⟩ := Option.map_eq_some_iff.mp happlication
      have hcommands : commandsOf perspective vision s.application (.loop key frames) = commands := by
        rw [commandsOf, hloop]
        rfl
      have hgame : s.application.gameLoop vision key frames = some (a', commands) := by
        rw [← hloop, Application.loop, hplay]
        rfl
      rw [hcommands] at huplink
      obtain ⟨m, requests, -, hm, hrequests, rfl⟩ :=
        Application.gameLoop_inv (Bool.eq_false_iff.mpr hrunning) hkey hgame
      obtain rfl : perspective camera Calibration.corners = m :=
        Option.some.inj (hcomputed.cameraToPhysical.symm.trans hm)
      obtain ⟨nearest, unit, hselect, hunit, rfl⟩ := Application.requestsFor_inv hrequests
      obtain ⟨i, hi, hnearest⟩ := Application.exists_index (selected_mem hselect)
      rw [hnearest] at hunit huplink
      refine ⟨projector, camera, i, unit, _, htake, hi, ?_, hunit, rfl, huplink⟩
      rw [hselect, Option.map_some, hnearest]

theorem Runs.sound (h : Runs session perspective vision s events s' us)
    (hsound : ∀ e ∈ events, e.isSound = true) : ∀ u ∈ us, u.isSound = true := by
  intro u hu
  rcases h.origin u hu with hmem | ⟨hharmless, -⟩
  · exact hsound _ hmem
  · exact hharmless

theorem Runs.inLevel (h : Runs session perspective vision s events s' us)
    (hlevel : ∀ e ∈ events, ∀ c ∈ e.called, c.InLevel) : ∀ e ∈ Uplink.calls us, e.InLevel := by
  intro e he
  rcases h.origin _ (mem_calls he) with hmem | ⟨-, hharmless⟩
  · exact hlevel _ hmem e rfl
  · exact hharmless e rfl

/-- **From a touch to the server.** In a run in which no read or write fails and all loads come before the
    first round, a round that is in play selects a unit for its touch. Once the network can do nothing more
    for the session, and if no other session plays for the same player, exactly the unit with its index is
    highlighted among the first five of the player's units on the server, and it is accelerated as the round
    asks for, as long as it is living and has not arrived. -/
theorem round_obeyed (unset : Nat → Unset F) (loop : ReadLoop) {a : Application F B Nat}
    (hnew : a.calibration = .new) {setup before after : List (Event F B)} {key : Option Char}
    {frames : Nat → Image F B × Image F Nat} {clock : Nat → F} {memory : Nat → Memory}
    (h₁ : exec (step session perspective vision) ⟨a, Uplink.start (GameServer.run unset) loop⟩
      (setup ++ before) = some s₁)
    (h : exec (step session perspective vision) s₁
      (.application (.loop key frames) clock memory :: after) = some s)
    (hsetup : ∀ e ∈ setup, e.isRound = false) (hafter : ∀ e ∈ after, e.isRound = false)
    (hsound : ∀ e ∈ setup ++ (before ++ after), e.isSound = true)
    (hlevel : ∀ e ∈ before ++ after, ∀ c ∈ e.called, c.InLevel)
    (hover : Application.Over (applicationEvents (setup ++ before))) (hkey : key ≠ some 'q') :
    ∃ (projector camera : Quad F) (i : Nat) (unit : GameUnit F),
      let touch := perspectiveTransform (perspective camera Calibration.corners)
        (s₁.application.detected vision key frames).2
      (Application.clicks (applicationEvents (setup ++ before))).take 8 =
        List.ofFn projector ++ List.ofFn camera ∧
      (Application.selectUnit s₁.application.gameClient.game touch [0, 1, 2, 3, 4] (-1, ofInt 0)).map
        (fun r => r.1.1) = some (i : Int) ∧
      s₁.application.gameClient.game.ownUnitByIndex (UInt8.ofInt i) = some unit ∧
      ∀ q, s.uplink.host.playerProfileBySession session = some q →
        (∀ q' ∈ s.uplink.host.playerProfiles, q'.playerID = q.playerID → q'.session = session) →
        Uplink.Resting GameServer.host s.uplink session →
        ∀ g, s.uplink.host.game = some g → ∀ k v, g.unitByIndex q.playerID k = some v →
        (k.toNat < 5 → v.gameUnitData.isHighlighted = decide (k.toNat = i)) ∧
        (k.toNat = i → v.isLiving = true → v.hasArrived = false → v.acceleration =
          requestedAcceleration ⟨k, Application.steeringAngle unit touch, ofInt 1 / ofInt 10⟩) := by
  obtain ⟨us, hruns⟩ := exists_runs h₁
  have hfollows := Application.follows_exec hnew hruns.application
  rw [exec_append] at h₁
  obtain ⟨s₀, hs₀, h₁⟩ := Option.bind_eq_some_iff.mp h₁
  obtain ⟨s₂, hround, h₂⟩ := Option.bind_eq_some_iff.mp h
  obtain ⟨us₀, hruns₀⟩ := exists_runs hs₀
  obtain ⟨us₁, hruns₁⟩ := exists_runs h₁
  obtain ⟨us₂, hruns₂⟩ := exists_runs h₂
  obtain ⟨projector, camera, i, unit, requests, htake, hi, hselect, hunit, hrequests, hexec⟩ :=
    round_inv hfollows hover hkey hround
  obtain ⟨rs, hrs⟩ : ∃ rs, rs = performAll session clock memory
    (Application.keyCommands key ++ requests.map .send) := ⟨_, rfl⟩
  rw [← hrs] at hexec
  have hmore : exec (Uplink.step GameServer.host) s₀.uplink (us₁ ++ rs ++ us₂) = some s.uplink :=
    exec_append_of (exec_append_of hruns₁.uplink hexec) hruns₂.uplink
  rw [List.forall_mem_append, List.forall_mem_append] at hsound
  obtain ⟨hsound₀, hsound₁, hsound₂⟩ := hsound
  have hall : ∀ u ∈ us₀ ++ (us₁ ++ rs ++ us₂), u.isSound = true := by
    rw [List.forall_mem_append, List.forall_mem_append, List.forall_mem_append]
    refine ⟨hruns₀.sound hsound₀, ⟨hruns₁.sound hsound₁, ?_⟩, hruns₂.sound hsound₂⟩
    intro u hu
    exact (performAll_harmless (hrs ▸ hu)).1
  rw [List.forall_mem_append] at hlevel
  obtain ⟨hlevel₁, hlevel₂⟩ := hlevel
  have hcalls : ∀ e ∈ Uplink.calls (us₁ ++ rs ++ us₂), e.InLevel := by
    rw [Uplink.calls_append, Uplink.calls_append, List.forall_mem_append, List.forall_mem_append]
    refine ⟨⟨hruns₁.inLevel hlevel₁, ?_⟩, hruns₂.inLevel hlevel₂⟩
    intro e he
    exact (performAll_harmless (hrs ▸ mem_calls he)).2 e rfl
  have hasked : Uplink.asked session (us₀ ++ (us₁ ++ rs ++ us₂)) =
      (Uplink.asked session us₁ ++ (Application.keyCommands key).filterMap requestOf) ++
        (requests.map Command.send).filterMap requestOf := by
    rw [Uplink.asked_append, Uplink.asked_append, Uplink.asked_append, hruns₀.quiet hsetup,
      hruns₂.quiet hafter, hrs, asked_performAll, List.filterMap_append, List.nil_append, List.append_nil,
      List.append_assoc]
  obtain ⟨es₀, htraced₀⟩ := Uplink.traced_run hruns₀.uplink
  obtain ⟨es₁, htraced⟩ := htraced₀.run_append hmore
  have hopen := Uplink.open_run hall (exec_append_of hruns₀.uplink hmore) session
  refine ⟨projector, camera, i, unit, htake, hselect, hunit, ?_⟩
  intro q hq honly hrest g hg k v hv
  have hsteered := htraced₀.steered htraced hopen (hruns₀.quiet hsetup) hcalls hq honly hrest hg hv
  rw [hasked] at hsteered
  obtain ⟨hhighlight, hmove⟩ := last_of_frame hi hrequests
    (Uplink.asked session us₁ ++ (Application.keyCommands key).filterMap requestOf) k
  constructor
  · intro hk
    rw [hsteered.isHighlighted, hhighlight hk]
    rfl
  · intro hk hliving harrived
    rw [hsteered.acceleration hliving harrived, hmove hk]
    rfl

/-! ## A foot on the floor -/

instance : SteeringArith Int32 where
  atan2 _ _ := 0
  pi        := 3

/-- A unit of the client. -/
def diagonalUnit (address : Nat) : GameUnit Int32 where
  address      := address
  messageID    := messageIDFirst
  gameUnitData :=
    ⟨50 * Int32.ofNat address, 50 * Int32.ofNat address, 1, idFirstClient, false, true, false⟩
  velocity     := .zero
  acceleration := .zero
  isHunting    := false

/-- The program at its start, with a client that knows its units. -/
def switchedOn : Application Int32 Unit Nat where
  gameClient        :=
    { context :=
        { messageHandlers := [], nextMessageID := messageIDFirst, nextAddress := 6
          unset := fun _ => ⟨⟨0, 0, 0, 0, false, false, false⟩, false, ⟨0, 0, 0⟩⟩ }
      game :=
        { address := 0, hasStarted := true, hasFinished := false, timer := 0, durationTimer := 0
          lastUnitTime := -1, gameUnits := [1, 2, 3, 4, 5].map diagonalUnit, gameObstacles := []
          ownPlayerID := idFirstClient } }
  calibration       := .new
  bgrImage          := fun _ => ()
  depthImage        := fun _ => 0
  calibrationImage  := fun _ => 0
  isFinished        := false
  isTouchCalibrated := false
  isTouching        := false

def identity : Matrix (Fin 3) (Fin 3) Int32 := fun i j => if i = j then 1 else 0

/-- There is a foot at (100, 100). -/
def foot : Vision Int32 Nat := ⟨id, id, fun _ _ => [⟨10, ⟨100, 100⟩, 1, 1⟩]⟩

def still (_ : Nat) : Image Int32 Unit × Image Int32 Nat := (fun _ => (), fun _ => 0)

def zeroMemory (_ : Nat) : Memory := ⟨0, fun _ => 0, .zero⟩

/-- A level is loaded, and the client has connected. -/
def newLevel : List (Event Int32 Unit) :=
  [.uplink (.call (.loadGame 1 fun _ => 0)), .uplink (.call (.handleSessionAccepted 7))]

/-- The wizard gets its clicks, and the game is started with a key. -/
def wizardClicks : List (Event Int32 Unit) :=
  (List.range 8).map (fun i : Nat => .application (.mouseCallback 1 (10 * i) 20) (fun _ => 0) zeroMemory) ++
    [.application (.loop none still) (fun _ => 0) zeroMemory]

/-- The bytes of one message go over. -/
def pass (length : Nat) : List (Event Int32 Unit) :=
  [.uplink (.network 7 (.transmit 0 length)), .uplink (.network 7 (.completeRead .success)),
   .uplink (.network 7 (.completeRead .success)), .uplink (.network 7 (.completeWrite 0 false))]

/-- All requests of a round go over. -/
def delivery : List (Event Int32 Unit) :=
  [8, 8, 8, 8, 8, 18, 8].flatMap pass ++ [.uplink (.call (.proceed fun _ => 0))]

/-- The installation before the round, and after it. -/
def installed : Option (Installation Int32 Unit) :=
  exec (step 7 (fun _ _ => identity) foot)
    ⟨switchedOn, Uplink.start (GameServer.run ByteLink.zeroed) Connection.idleLoop⟩ (newLevel ++ wizardClicks)

theorem installed_isSome : installed.isSome = true := by decide +kernel

def touched : Option (Installation Int32 Unit) :=
  exec (step 7 (fun _ _ => identity) foot) (installed.get installed_isSome)
    (.application (.loop (some 'r') still) (fun _ => 0) zeroMemory :: delivery)

theorem touched_isSome : touched.isSome = true := by decide +kernel

/-- The second unit is the nearest, and is highlighted on the server. -/
theorem round_obeyed_touched :
    ∃ s g v, touched = some s ∧ s.uplink.host.game = some g ∧ g.unitByIndex idFirstClient 1 = some v ∧
      v.gameUnitData.isHighlighted = true := by
  have hunit : ((touched.get touched_isSome).uplink.host.game.bind
      (·.unitByIndex idFirstClient 1)).isSome = true := by decide +kernel
  obtain ⟨v, hv⟩ := Option.isSome_iff_exists.mp hunit
  obtain ⟨g, hg, hv⟩ := Option.bind_eq_some_iff.mp hv
  have hq : (touched.get touched_isSome).uplink.host.playerProfileBySession 7 =
      some ⟨idFirstClient, 7⟩ := by decide +kernel
  have hsetup : ∀ e ∈ newLevel, e.isRound = false := by decide
  have hafter : ∀ e ∈ delivery, e.isRound = false := by decide
  have hsound : ∀ e ∈ newLevel ++ (wizardClicks ++ delivery), e.isSound = true := by decide
  have hlevel : ∀ e ∈ wizardClicks ++ delivery, ∀ c ∈ e.called, c.InLevel := by decide
  have hover : Application.Over (applicationEvents (newLevel ++ wizardClicks)) :=
    ⟨(List.range 8).map fun i : Nat => .mouseCallback 1 (10 * i) 20, none, still, [], rfl, by decide⟩
  obtain ⟨projector, camera, i, unit, -, hselect, -, hobeyed⟩ :=
    round_obeyed ByteLink.zeroed Connection.idleLoop rfl (Option.some_get installed_isSome).symm
      (Option.some_get touched_isSome).symm hsetup hafter hsound hlevel hover (by decide)
  have hrest : Uplink.Resting GameServer.host (touched.get touched_isSome).uplink 7 :=
    Uplink.resting_of (by decide +kernel) (by decide +kernel)
  have hfound : (Application.selectUnit (installed.get installed_isSome).application.gameClient.game
      (perspectiveTransform identity
        ((installed.get installed_isSome).application.detected foot (some 'r') still).2)
      [0, 1, 2, 3, 4] (-1, ofInt 0)).map (fun r => r.1.1) = some 1 := by decide +kernel
  obtain rfl : i = 1 := Int.ofNat_inj.mp (Option.some.inj (hselect.symm.trans hfound))
  exact ⟨_, g, v, (Option.some_get touched_isSome).symm, hg, hv, (hobeyed _ hq (by decide +kernel) hrest g hg 1 v hv).1 (by decide)⟩

end Installation

end Footscreen
