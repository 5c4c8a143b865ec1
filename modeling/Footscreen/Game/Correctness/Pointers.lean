import Footscreen.Game.Correctness.ServerRuns
import Footscreen.Game.ServerThreads
import Footscreen.Lib.Mutex
import Footscreen.Lib.Precedence

/-!
# `Game.Correctness.Pointers` — the server's two pointers, over all interleavings

What a step does is one of four things (`Effect`): it goes on, locks the mutex, unlocks it, or ends in a
fault. The mutex keeps the threads inside its region apart and is given back by every call that returns
(`Inv.locked`), and `m_game` is never emptied again once a thread has tested it (`Inv.tested`). So a step
ends in a fault if and only if it uses a pointer that is empty before it, and a run is free of faults if
and only if `loadGame` comes early enough in it and `stop` late enough (`safe_iff`).
-/

namespace Footscreen

open Lib

namespace ServerThreads

variable {F : Type} [FloatArith F] {s s' : ServerThreads F} {t : ThreadID} {e : Event F}
  {es : List (Event F)} {p : Statement F}

/-! ## Statements -/

/-- Between `m_stopMutex.lock()` and `m_stopMutex.unlock()`. -/
def Statement.Inside : Statement F → Prop
  | .loopTest | .loopTestGame | .loopProceed | .loopSynchronize | .loopUnlock => True
  | .stopGame | .stopNetworkServer | .stopDelete | .stopUnlock => True
  | _ => False

def Statement.Ended : Statement F → Prop
  | .ended => True
  | _      => False

/-- The thread has found `m_game` set, or has set it. -/
def Statement.Tested : Statement F → Prop
  | .loopProceed | .load _ | .start | .requestUnit .. => True
  | _ => False

/-- The mutex, and the tests of `m_game`. -/
structure Inv (s : ServerThreads F) : Prop where
  locked : Locked Statement.Inside Statement.Ended s.threads s.stopMutex
  tested : ∀ t, (s.threads t).Tested → s.server.game.isSome = true

/-- The event finds the pointer that it uses. -/
def Finds (s : ServerThreads F) (e : Event F) : Prop :=
  match e.access with
  | .useGame          => s.server.game.isSome = true
  | .useNetworkServer => s.networkServer = true
  | _                 => True

/-- What a step does. -/
inductive Effect (s : ServerThreads F) (e : Event F) : ServerThreads F → Prop
  | go (t : ThreadID) {server : GameServer F} {networkServer : Bool} {p : Statement F}
      (hfinds : Finds s e) (ht : ¬ (s.threads t).Ended) (hp : p.Inside ↔ (s.threads t).Inside)
      (htested : p.Tested → server.game.isSome = true)
      (hgame : server.game.isSome = true ↔ s.server.game.isSome = true ∨ e.access = .assignGame)
      (hnet : networkServer = true ↔ s.networkServer = true ∧ ¬ e.access = .clearNetworkServer) :
      Effect s e ({ s with server := server, networkServer := networkServer }.goto t p)
  | lock (t : ThreadID) {p : Statement F} (he : e.access = .other) (hfree : s.stopMutex = none)
      (hp : p.Inside) (htested : ¬ p.Tested) :
      Effect s e { s.goto t p with stopMutex := some t }
  | unlock (t : ThreadID) {p : Statement F} (he : e.access = .other) (ht : (s.threads t).Inside)
      (hp : ¬ p.Inside) (htested : ¬ p.Tested) :
      Effect s e { s.goto t p with stopMutex := none }
  | fault (t : ThreadID) (f : Fault) (hlost : ¬ Finds s e) : Effect s e (s.fault t f)

/-! ### What a step preserves -/

omit [FloatArith F] in
theorem goto_tested (h : ∀ u, (s.threads u).Tested → s'.server.game.isSome = true)
    (hp : p.Tested → s'.server.game.isSome = true) (u : ThreadID)
    (hu : (Function.update s.threads t p u).Tested) : s'.server.game.isSome = true := by
  by_cases hut : u = t
  · subst hut
    rw [Function.update_self] at hu
    exact hp hu
  · rw [Function.update_of_ne hut] at hu
    exact h u hu

omit [FloatArith F] in
theorem Effect.inv (h : Effect s e s') (hinv : Inv s) : Inv s' := by
  cases h with
  | go t hfinds ht hp htested hgame hnet =>
      refine ⟨hinv.locked.go ht hp, goto_tested ?_ htested⟩
      exact fun u hu => hgame.mpr (Or.inl (hinv.tested u hu))
  | lock t he hfree hp htested =>
      exact ⟨hinv.locked.lock hfree hp, goto_tested hinv.tested fun h => absurd h htested⟩
  | unlock t he ht hp htested =>
      exact ⟨hinv.locked.unlock ht hp, goto_tested hinv.tested fun h => absurd h htested⟩
  | fault t f hlost =>
      refine ⟨hinv.locked.finish ?_ ?_, goto_tested hinv.tested ?_⟩
      · trivial
      · exact fun h => h
      · exact fun h => h.elim

omit [FloatArith F] in
theorem finds_of_not_use (hgame : e.access ≠ .useGame) (hnet : e.access ≠ .useNetworkServer) :
    Finds s e := by
  unfold Finds
  split
  · next he => exact absurd he hgame
  · next he => exact absurd he hnet
  · trivial

omit [FloatArith F] in
theorem finds_of_other (he : e.access = .other) : Finds s e :=
  finds_of_not_use (by simp [he]) (by simp [he])

omit [FloatArith F] in
/-- `m_game` is set by `loadGame`, and stays set. -/
theorem Effect.game (h : Effect s e s') :
    s'.server.game.isSome = true ↔ s.server.game.isSome = true ∨ e.access = .assignGame := by
  cases h with
  | go t hfinds ht hp htested hgame hnet => exact hgame
  | lock t he => simp [goto, he]
  | unlock t he => simp [goto, he]
  | fault t f hlost =>
      have hother : e.access ≠ .assignGame := fun he =>
        hlost (finds_of_not_use (by simp [he]) (by simp [he]))
      simp [ServerThreads.fault, goto, hother]

omit [FloatArith F] in
/-- `m_gameNetworkServer` is cleared by `stop`, and stays null. -/
theorem Effect.net (h : Effect s e s') :
    s'.networkServer = true ↔ s.networkServer = true ∧ ¬ e.access = .clearNetworkServer := by
  cases h with
  | go t hfinds ht hp htested hgame hnet => exact hnet
  | lock t he => simp [goto, he]
  | unlock t he => simp [goto, he]
  | fault t f hlost =>
      have hother : e.access ≠ .clearNetworkServer := fun he =>
        hlost (finds_of_not_use (by simp [he]) (by simp [he]))
      simp [ServerThreads.fault, goto, hother]

omit [FloatArith F] in
theorem Effect.faults (h : Effect s e s') (hsafe : s.faults = []) : s'.faults = [] ↔ Finds s e := by
  cases h with
  | go t hfinds => exact iff_of_true hsafe hfinds
  | lock t he => exact iff_of_true hsafe (finds_of_other he)
  | unlock t he => exact iff_of_true hsafe (finds_of_other he)
  | fault t f hlost => exact iff_of_false (by simp [ServerThreads.fault]) hlost

/-! ### What each statement does -/

omit [FloatArith F] in
/-- A statement that leaves the two pointers as they are. -/
theorem Effect.keep {q : Statement F} {server : GameServer F} (a : Access) (he : e.access = a)
    (ha : a ≠ .assignGame ∧ a ≠ .clearNetworkServer) (hfinds : Finds s e) (hq : s.threads t = q)
    (hend : ¬ q.Ended) (hp : p.Inside ↔ q.Inside) (htested : p.Tested → s.server.game.isSome = true)
    (hgame : server.game.isSome = s.server.game.isSome) :
    Effect s e ({ s with server := server }.goto t p) := by
  subst he hq
  refine .go t hfinds hend hp ?_ ?_ ?_
  · rw [hgame]
    exact htested
  · rw [hgame]
    simp [ha.1]
  · simp [ha.2]

omit [FloatArith F] in
/-- A statement that only goes on to the next one. -/
theorem Effect.move {q : Statement F} (a : Access) (he : e.access = a)
    (ha : a ≠ .assignGame ∧ a ≠ .clearNetworkServer) (hfinds : Finds s e) (hq : s.threads t = q)
    (hend : ¬ q.Ended) (hp : p.Inside ↔ q.Inside) (htested : p.Tested → s.server.game.isSome = true) :
    Effect s e (s.goto t p) :=
  Effect.keep a he ha hfinds hq hend hp htested rfl

omit [FloatArith F] in
/-- A call returns; its thread is outside the mutex. -/
theorem Effect.leave {q : Statement F} {server : GameServer F} (a : Access) (he : e.access = a)
    (ha : a ≠ .assignGame ∧ a ≠ .clearNetworkServer) (hfinds : Finds s e) (hinv : Inv s)
    (hq : s.threads t = q) (hend : ¬ q.Ended) (hout : ¬ q.Inside)
    (hgame : server.game.isSome = s.server.game.isSome) :
    Effect s e ({ s with server := server }.leave t .idle) := by
  have hmutex : s.stopMutex ≠ some t := hinv.locked.not_held (by rwa [hq]) (by rwa [hq])
  rw [ServerThreads.leave, if_neg hmutex]
  exact .keep a he ha hfinds hq hend (iff_of_false id hout) False.elim hgame

omit [FloatArith F] in
theorem effect_useGame {f : Game F → ServerThreads F} (he : e.access = .useGame)
    (hf : ∀ g, s.server.game = some g → Finds s e → Effect s e (f g)) :
    Effect s e (s.useGame t f) := by
  have hfinds : Finds s e ↔ s.server.game.isSome = true := by rw [Finds, he]
  cases hg : s.server.game with
  | none =>
      rw [useGame, hg]
      exact .fault t .emptyGame (by rw [hfinds, hg]; exact Bool.false_ne_true)
  | some g =>
      rw [useGame, hg]
      exact hf g hg (by rw [hfinds, hg]; rfl)

omit [FloatArith F] in
/-- Once tested, `m_game` is there. -/
theorem effect_useGame_tested {f : Game F → ServerThreads F} (hinv : Inv s)
    (ht : (s.threads t).Tested) (hf : ∀ g, s.server.game = some g → Effect s e (f g)) :
    Effect s e (s.useGame t f) := by
  obtain ⟨g, hg⟩ := Option.isSome_iff_exists.mp (hinv.tested t ht)
  rw [useGame, hg]
  exact hf g hg

omit [FloatArith F] in
/-- `if (m_game)` in a call that returns otherwise. -/
theorem effect_testGame {q : Statement F} (he : e.access = .other) (hinv : Inv s)
    (hq : s.threads t = q) (hend : ¬ q.Ended) (hout : ¬ q.Inside) (hp : ¬ p.Inside) :
    Effect s e (if s.server.game.isSome then s.goto t p else s.leave t .idle) := by
  have hfinds : Finds s e := finds_of_other he
  by_cases hsome : s.server.game.isSome = true
  · rw [if_pos hsome]
    exact .move .other he (by decide) hfinds hq hend (iff_of_false hp hout) fun _ => hsome
  · rw [if_neg hsome]
    exact .leave .other he (by decide) hfinds hinv hq hend hout rfl

omit [FloatArith F] in
theorem effect_useNetworkServer (he : e.access = .useNetworkServer)
    (hs' : Finds s e → Effect s e s') : Effect s e (s.useNetworkServer t s') := by
  have hfinds : Finds s e ↔ s.networkServer = true := by rw [Finds, he]
  by_cases hnet : s.networkServer = true
  · rw [useNetworkServer, if_pos hnet]
    exact hs' (hfinds.mpr hnet)
  · rw [useNetworkServer, if_neg hnet]
    exact .fault t .nullNetworkServer (by rwa [hfinds])

omit [FloatArith F] in
theorem effect_lock (h : s.lock t p = some s') (he : e.access = .other) (hp : p.Inside)
    (htested : ¬ p.Tested) : Effect s e s' := by
  unfold lock at h
  split at h
  · next hfree =>
      cases h
      exact .lock t he hfree hp htested
  · cases h

theorem proceed_isSome (server : GameServer F) (clock : Nat → F) :
    (server.proceed clock).game.isSome = server.game.isSome := Option.isSome_map

omit [FloatArith F] in
theorem startGame_isSome (server : GameServer F) (clock : Nat → F) :
    (server.startGame clock).game.isSome = server.game.isSome := Option.isSome_map

/-- A request changes the game's units, and leaves a game a game. -/
theorem Request.handle_isSome {server server' : GameServer F} {session : SessionID} {r : Request F}
    (h : r.handle server session = some server') : server'.game.isSome = server.game.isSome := by
  have heffect : server.RequestEffect session server' := by
    cases r with
    | moveRequest r =>
        obtain ⟨s₁, hs₁, heffect⟩ := GameServer.handleMoveRequest_effect
          (m := ⟨messageIDEvent, .moveRequest r, some session⟩) rfl rfl
        obtain rfl := Option.some.inj (hs₁.symm.trans h)
        exact heffect
    | highlightRequest r =>
        obtain ⟨s₁, hs₁, heffect⟩ := GameServer.handleHighlightRequest_effect
          (m := ⟨messageIDEvent, .highlightRequest r, some session⟩) rfl rfl
        obtain rfl := Option.some.inj (hs₁.symm.trans h)
        exact heffect
  obtain ⟨f, _, rfl⟩ := heffect.mapGame
  exact Option.isSome_map

theorem execute_effect (hinv : Inv s) (hp : s.threads t = p) {clock : Nat → F}
    (h : s.execute t clock p = some s') : Effect s (.step t p.access clock) s' := by
  cases p with
  | idle => cases h
  | ended => cases h
  | loopLock => exact effect_lock h rfl trivial id
  | loopTest =>
      cases h
      cases hnet : s.networkServer with
      | true =>
          rw [if_pos rfl]
          exact .move .useNetworkServer rfl (by decide) hnet hp id Iff.rfl False.elim
      | false =>
          -- the thread holds the mutex that it does not give back
          have hmutex : s.stopMutex = some t := hinv.locked.holds t (by rw [hp]; trivial)
          rw [if_neg Bool.false_ne_true, leave, if_pos hmutex]
          exact .fault t .returnedLocked fun hup => absurd (hnet.symm.trans hup) Bool.false_ne_true
  | loopTestGame =>
      cases h
      cases hg : s.server.game with
      | none =>
          exact .move .other rfl (by decide) trivial hp id Iff.rfl False.elim
      | some g =>
          have hsome : s.server.game.isSome = true := by rw [hg]; rfl
          exact .move .other rfl (by decide) trivial hp id Iff.rfl fun _ => hsome
  | loopProceed =>
      cases h
      apply effect_useGame_tested hinv (by rw [hp]; trivial)
      intro g hg
      show Effect s _ ({ s with server := s.server.proceed clock }.goto t .loopSynchronize)
      exact .keep .other rfl (by decide) trivial hp id (iff_of_true trivial trivial) False.elim
        (proceed_isSome _ clock)
  | loopSynchronize =>
      cases hg : s.server.game with
      | none =>
          rw [execute, GameServer.synchronize_none hg] at h
          cases h
          refine .fault t .emptyGame ?_
          intro hsome
          have hsome' : s.server.game.isSome = true := hsome
          rw [hg] at hsome'
          cases hsome'
      | some g =>
          rw [execute, GameServer.synchronize_eq hg] at h
          cases h
          have hfinds : s.server.game.isSome = true := by rw [hg]; rfl
          exact .keep .useGame rfl (by decide) hfinds hp id (iff_of_true trivial trivial) False.elim rfl
  | loopUnlock =>
      cases h
      exact .unlock t rfl (by rw [hp]; trivial) id id
  | stopLock => exact effect_lock h rfl trivial id
  | stopGame =>
      cases h
      apply effect_useGame rfl
      intro g hg hfinds
      show Effect s _ ({ s with server := _ }.goto t .stopNetworkServer)
      exact .keep .useGame rfl (by decide) hfinds hp id (iff_of_true trivial trivial) False.elim
        (by rw [hg]; rfl)
  | stopNetworkServer =>
      cases h
      apply effect_useNetworkServer rfl
      intro hfinds
      show Effect s _ ({ s with server := _ }.goto t .stopDelete)
      exact .keep .useNetworkServer rfl (by decide) hfinds hp id (iff_of_true trivial trivial) False.elim
        rfl
  | stopDelete =>
      cases h
      have hp' : ¬ (s.threads t).Ended ∧ (s.threads t).Inside := by
        rw [hp]
        exact ⟨id, trivial⟩
      refine .go t trivial hp'.1 (iff_of_true trivial hp'.2) False.elim ?_ ?_
      · simp [Event.access, Statement.access]
      · simp [Event.access, Statement.access]
  | stopUnlock =>
      cases h
      exact .unlock t rfl (by rw [hp]; trivial) id id
  | newGame levelNumber =>
      cases h
      apply effect_useNetworkServer rfl
      intro hfinds
      exact .keep .useNetworkServer rfl (by decide) hfinds hp id (iff_of_false id id) False.elim rfl
  | assignGame g levelNumber =>
      cases h
      have hp' : ¬ (s.threads t).Ended ∧ ¬ (s.threads t).Inside := by
        rw [hp]
        exact ⟨id, id⟩
      refine .go t trivial hp'.1 (iff_of_false id hp'.2) (fun _ => rfl) ?_ ?_
      · simp [Event.access, Statement.access]
      · simp [Event.access, Statement.access]
  | load levelNumber =>
      cases h
      apply effect_useGame_tested hinv (by rw [hp]; trivial)
      intro g hg
      show Effect s _ ({ s with server := _ }.leave t .idle)
      exact .leave .other rfl (by decide) trivial hinv hp id id (by rw [hg]; rfl)
  | startTestGame =>
      cases h
      exact effect_testGame rfl hinv hp id id id
  | start =>
      cases h
      apply effect_useGame_tested hinv (by rw [hp]; trivial)
      intro g hg
      show Effect s _ ({ s with server := s.server.startGame clock }.leave t .idle)
      exact .leave .other rfl (by decide) trivial hinv hp id id (startGame_isSome _ clock)
  | acceptedProfile session =>
      cases h
      apply effect_useNetworkServer rfl
      intro hfinds
      -- a session without a profile ends the call
      cases hprofile : s.server.playerProfileBySession session with
      | none => exact .leave .useNetworkServer rfl (by decide) hfinds hinv hp id id rfl
      | some playerProfile =>
          exact .move .useNetworkServer rfl (by decide) hfinds hp id (iff_of_false id id) False.elim
  | acceptedPlayerID session playerID =>
      cases h
      show Effect s _ ({ s with server := _ }.goto t (.acceptedSynchronize session))
      exact .keep .other rfl (by decide) trivial hp id (iff_of_false id id) False.elim rfl
  | acceptedSynchronize session =>
      cases h
      apply effect_useGame rfl
      intro g hg hfinds
      rw [GameServer.foldl_sendTo_session]
      exact .leave .useGame rfl (by decide) hfinds hinv hp id id rfl
  | requestProfile session r =>
      cases h
      apply effect_useNetworkServer rfl
      intro hfinds
      -- a session without a profile ends the call
      cases hprofile : s.server.playerProfileBySession session with
      | none => exact .leave .useNetworkServer rfl (by decide) hfinds hinv hp id id rfl
      | some playerProfile =>
          exact .move .useNetworkServer rfl (by decide) hfinds hp id (iff_of_false id id) False.elim
  | requestTestGame session r =>
      cases h
      exact effect_testGame rfl hinv hp id id id
  | requestUnit session r =>
      obtain ⟨server, hserver, rfl⟩ := Option.map_eq_some_iff.mp h
      apply effect_useGame_tested hinv (by rw [hp]; trivial)
      intro g hg
      show Effect s _ ({ s with server := server }.leave t .idle)
      exact .leave .other rfl (by decide) trivial hinv hp id id (Request.handle_isSome hserver)

/-! ## Steps -/

omit [FloatArith F] in
theorem begin_effect (hidle : s.threads t = .idle) (c : Call F) :
    Effect s (.call t c) (s.begin t c) := by
  cases c with
  | loadGame levelNumber =>
      exact .move .other rfl (by decide) trivial hidle id (iff_of_false id id) False.elim
  | startGame => exact .move .other rfl (by decide) trivial hidle id (iff_of_false id id) False.elim
  | handleSessionAccepted session =>
      refine .keep .other rfl (by decide) trivial hidle id (iff_of_false id id) False.elim ?_
      split
      · rfl
      · rfl
  | handleRequest session r =>
      exact .move .other rfl (by decide) trivial hidle id (iff_of_false id id) False.elim
  | stop => exact .move .other rfl (by decide) trivial hidle id (iff_of_false id id) False.elim

theorem step_effect (hinv : Inv s) (h : s.step e = some s') : Effect s e s' := by
  cases e with
  | call t c =>
      rw [step] at h
      split at h
      · next hidle =>
          cases h
          exact begin_effect hidle c
      · cases h
  | step t access clock =>
      rw [step] at h
      split at h
      · next haccess =>
          subst haccess
          exact execute_effect hinv rfl h
      · cases h

omit [FloatArith F] in
theorem run_inv (unset : Nat → Unset F) : Inv (run unset) := by
  have hpoint : ∀ t, ¬ ((run unset).threads t).Inside ∧ ¬ ((run unset).threads t).Tested := by
    intro t
    show ¬ (if t = loopThread then Statement.loopLock else .idle : Statement F).Inside ∧
      ¬ (if t = loopThread then Statement.loopLock else .idle : Statement F).Tested
    split
    · exact ⟨id, id⟩
    · exact ⟨id, id⟩
  refine ⟨⟨?_, ?_⟩, ?_⟩
  · exact fun t ht => absurd ht (hpoint t).1
  · intro t ht
    cases ht
  · exact fun t ht => absurd ht (hpoint t).2

theorem inv_step (hinv : Inv s) (h : s.step e = some s') : Inv s' := (step_effect hinv h).inv hinv

theorem inv_run (unset : Nat → Unset F) (h : exec step (run unset) es = some s) : Inv s :=
  exec_invariant inv_step (run_inv unset) h

/-- Two threads are never between `lock` and `unlock` at once. -/
theorem run_exclusive (unset : Nat → Unset F) (h : exec step (run unset) es = some s) {t u : ThreadID}
    (ht : (s.threads t).Inside) (hu : (s.threads u).Inside) : t = u :=
  (inv_run unset h).locked.exclusive ht hu

/-- A mutex that has been returned with is never unlocked again. -/
theorem stuck (hinv : Inv s) (hend : (s.threads t).Ended) (hmutex : s.stopMutex = some t)
    (h : exec step s es = some s') : s'.stopMutex = some t := by
  have hstep : ∀ {u : ServerThreads F} {e : Event F} {v : ServerThreads F},
      (Inv u ∧ (u.threads t).Ended ∧ u.stopMutex = some t) → u.step e = some v →
        Inv v ∧ (v.threads t).Ended ∧ v.stopMutex = some t := by
    rintro u e v ⟨hu, huend, humutex⟩ huv
    have heffect := step_effect hu huv
    refine ⟨heffect.inv hu, ?_⟩
    cases heffect with
    | go r hfinds hr =>
        have hne : t ≠ r := by
          rintro rfl
          exact hr huend
        refine ⟨?_, humutex⟩
        show (Function.update u.threads r _ t).Ended
        rwa [Function.update_of_ne hne]
    | lock r he hfree =>
        rw [humutex] at hfree
        cases hfree
    | unlock r he hr =>
        obtain rfl : t = r := Option.some.inj (humutex.symm.trans (hu.locked.holds r hr))
        cases hp : u.threads t with
        | ended =>
            rw [hp] at hr
            exact hr.elim
        | _ =>
            rw [hp] at huend
            exact huend.elim
    | fault r f hlost =>
        refine ⟨?_, humutex⟩
        show (Function.update u.threads r .ended t).Ended
        by_cases hrt : t = r
        · rw [hrt, Function.update_self]
          trivial
        · rwa [Function.update_of_ne hrt]
  exact (exec_invariant hstep ⟨hinv, hend, hmutex⟩ h).2.2

/-! ## Calls that nothing interrupts

They are the operations of `GameServer`. -/

theorem exec_loadGame (hidle : s.threads t = .idle) (hnet : s.networkServer = true)
    (hmutex : s.stopMutex ≠ some t) (levelNumber : Int) (clock : Nat → F) :
    exec step s [.call t (.loadGame levelNumber), .step t .useNetworkServer clock,
        .step t .assignGame clock, .step t .other fun i => clock (i + 2)] =
      some { s with server := s.server.loadGame levelNumber clock } := by
  cases hg : s.server.game with
  | none =>
      simp [step, hidle, begin, goto, Statement.access, execute, useNetworkServer, hnet, useGame, leave,
        hmutex, GameServer.loadGame, hg]
  | some g =>
      simp [step, hidle, begin, goto, Statement.access, execute, useNetworkServer, hnet, useGame, leave,
        hmutex, GameServer.loadGame, hg]

theorem exec_handleSessionAccepted {g : Game F} (hidle : s.threads t = .idle)
    (hnet : s.networkServer = true) (hmutex : s.stopMutex ≠ some t) (hg : s.server.game = some g)
    (session : SessionID) (clock : Nat → F) :
    exec step s [.call t (.handleSessionAccepted session), .step t .useNetworkServer clock,
        .step t .other clock, .step t .useGame clock] =
      (s.server.handleSessionAccepted session).map fun server => { s with server := server } := by
  obtain ⟨p, hp, hsend⟩ := GameServer.handleSessionAccepted_eq session hg
  have hg' : ((s.server.addProfile session).sendTo session (newPlayerIDMessage p.playerID)).game =
      some g := hg
  rw [hsend, Option.map_some]
  simp only [exec_cons, step, hidle, begin, hnet, goto, Statement.access, execute, useNetworkServer, hp,
    useGame, hg', Function.update_self, Option.bind_some, if_true, GameServer.foldl_sendTo_session]
  simp [leave, hmutex, goto, hidle, hg, GameServer.sendTo, GameServer.addProfile]

theorem exec_handleRequest {profile : PlayerProfile} {g : Game F} {session : SessionID}
    (hidle : s.threads t = .idle) (hnet : s.networkServer = true) (hmutex : s.stopMutex ≠ some t)
    (hprofile : s.server.playerProfileBySession session = some profile) (hg : s.server.game = some g)
    (r : Request F) (clock : Nat → F) :
    exec step s [.call t (.handleRequest session r), .step t .useNetworkServer clock,
        .step t .other clock, .step t .other clock] =
      (r.handle s.server session).map fun server => { s with server := server } := by
  cases hr : r.handle s.server session with
  | none =>
      simp [step, hidle, begin, goto, Statement.access, execute, useNetworkServer, hnet, hprofile, hg, hr]
  | some server =>
      simp [step, hidle, begin, goto, Statement.access, execute, useNetworkServer, hnet, hprofile,
        useGame, hg, hr, leave, hmutex]

/-- An iteration of `loop`. -/
theorem exec_loop (hloop : s.threads t = .loopLock) (hnet : s.networkServer = true)
    (hmutex : s.stopMutex = none) {server : GameServer F} (clock : Nat → F)
    (h : (s.server.proceed clock).synchronize = some server) :
    exec step s [.step t .other clock, .step t .useNetworkServer clock, .step t .other clock,
        .step t .other clock, .step t .useGame clock, .step t .other clock] =
      some { s with server := server } := by
  cases hg : s.server.game with
  | none =>
      have hno : (s.server.proceed clock).game = none := by
        rw [GameServer.proceed, hg]
        rfl
      rw [GameServer.synchronize_none hno] at h
      cases h
  | some g =>
      simp [step, hloop, goto, lock, Statement.access, execute, hnet, useGame, hmutex, hg, h]

/-! ## Runs without a fault -/

def Event.is (a : Access) (e : Event F) : Bool := decide (e.access = a)

omit [FloatArith F] in
theorem finds_iff : Finds s e ↔
    (e.is .useGame = true → s.server.game.isSome = true) ∧
      (e.is .useNetworkServer = true → s.networkServer = true) := by
  unfold Finds Event.is
  cases e.access with
  | _ => simp

omit [FloatArith F] in
theorem is_disjoint {a b : Access} (hab : a ≠ b) (e : Event F) (he : e.is a = true) :
    e.is b = false := by
  unfold Event.is at he ⊢
  rw [decide_eq_true_iff] at he
  rw [decide_eq_false_iff_not, he]
  exact hab

/-- **The pointers' lifetimes.** After `run`, no step dereferences an empty pointer and no call returns
    with the mutex locked if and only if `m_game` is used without a test only after a `loadGame` has set
    it, and `m_gameNetworkServer` only before a `stop` has cleared it. -/
theorem safe_iff (unset : Nat → Unset F) (h : exec step (run unset) es = some s) :
    (∀ past, past <+: es → ∀ u, exec step (run unset) past = some u → u.faults = []) ↔
      OnlyAfter (Event.is .assignGame) (Event.is .useGame) es ∧
        NeverFrom (Event.is .clearNetworkServer) (Event.is .useNetworkServer) es := by
  have hgame := guarded_iff_onlyAfter (fun u => u.server.game.isSome = true)
    (is_disjoint (F := F) (a := .assignGame) (b := .useGame) (by decide)) (run_inv unset)
    Bool.false_ne_true inv_step (fun hu hut => by simpa [Event.is] using (step_effect hu hut).game) h
  have hnet := guarded_iff_neverFrom (fun u => u.networkServer = true)
    (is_disjoint (F := F) (a := .clearNetworkServer) (b := .useNetworkServer) (by decide))
    (run_inv unset) rfl inv_step
    (fun hu hut => by simpa [Event.is] using (step_effect hu hut).net) h
  rw [← hgame, ← hnet, exec_always_iff (I := fun u => u.faults = []) (J := Inv) rfl (run_inv unset)
    inv_step (fun hu hsafe hut => (step_effect hu hut).faults hsafe) h]
  constructor
  · intro hg
    exact ⟨hg.imp fun hu => (finds_iff.mp hu).1, hg.imp fun hu => (finds_iff.mp hu).2⟩
  · rintro ⟨hg, hg'⟩
    exact (hg.and hg').imp fun hu => finds_iff.mpr hu

/-- A schedule of one loop and no `loadGame`, and one that stops before the loop's next iteration. -/
def firstIteration : List (Event Int) :=
  [.step loopThread .other fun _ => 0, .step loopThread .useNetworkServer fun _ => 0,
   .step loopThread .other fun _ => 0, .step loopThread .useGame fun _ => 0]

def loadThenStop : List (Event Int) :=
  [.call 1 (.loadGame 1), .step 1 .useNetworkServer fun _ => 0, .step 1 .assignGame fun _ => 0,
   .step 1 .other fun _ => 0,
   .call 1 .stop, .step 1 .other fun _ => 0, .step 1 .useGame fun _ => 0,
   .step 1 .useNetworkServer fun _ => 0, .step 1 .clearNetworkServer fun _ => 0,
   .step 1 .other fun _ => 0,
   .step loopThread .other fun _ => 0, .step loopThread .useNetworkServer fun _ => 0]

theorem run_faults :
    (∃ s ∈ exec step (run GameServer.zeroed) firstIteration, s.faults = [(loopThread, .emptyGame)]) ∧
      ∃ s ∈ exec step (run GameServer.zeroed) loadThenStop,
        s.faults = [(loopThread, .returnedLocked)] ∧ s.stopMutex = some loopThread := by
  decide +kernel

/-- A level is loaded, a player joins and moves a unit, the loop runs, and the server is stopped. -/
def lifetime : List (Event Int) :=
  [.call 1 (.loadGame 1), .step 1 .useNetworkServer fun _ => 0, .step loopThread .other fun _ => 0,
   .step 1 .assignGame fun _ => 0, .step loopThread .useNetworkServer fun _ => 0,
   .step 1 .other fun _ => 0, .call 2 (.handleSessionAccepted 0), .step 2 .useNetworkServer fun _ => 0,
   .step loopThread .other fun _ => 0, .step 2 .other fun _ => 0, .step 2 .useGame fun _ => 0,
   .step loopThread .other fun _ => 0, .call 1 .startGame, .step 1 .other fun _ => 0,
   .step loopThread .useGame fun _ => 0, .step 1 .other fun _ => 0,
   .step loopThread .other fun _ => 0, .call 2 (.handleRequest 0 (.moveRequest ⟨0, 0, 1⟩)),
   .step 2 .useNetworkServer fun _ => 0, .call 1 .stop, .step 1 .other fun _ => 0,
   .step 2 .other fun _ => 0, .step 1 .useGame fun _ => 0, .step 2 .other fun _ => 0,
   .step 1 .useNetworkServer fun _ => 0, .step 1 .clearNetworkServer fun _ => 0,
   .step 1 .other fun _ => 0]

theorem safe_iff_lifetime :
    ∃ s, exec step (run GameServer.zeroed) lifetime = some s ∧
      ∀ past, past <+: lifetime →
        ∀ u, exec step (run GameServer.zeroed) past = some u → u.faults = [] := by
  have hrun : (exec step (run GameServer.zeroed) lifetime).isSome = true := by decide +kernel
  obtain ⟨s, hs⟩ := Option.isSome_iff_exists.mp hrun
  exact ⟨s, hs, (safe_iff GameServer.zeroed hs).mpr (by decide +kernel)⟩

end ServerThreads

end Footscreen
