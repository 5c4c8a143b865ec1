import Footscreen.Lib.Counter
import Footscreen.Game.Correctness.Lifetime

/-!
# `Game.Correctness.Generation` — message IDs that are generated

All messages of a process take their IDs from one counter of 16 bits. `Process` notes beside the objects
which of them have generated an ID, in order, so the `n`-th is known by its number. `Turn` is what a step
does to the objects, their handlers and the numbers, with one lemma for each kind of step; `Accounted` is
the invariant of runs in which no message generates twice.

`Unique` is what the IDs are for. It holds at every point of a run if and only if every number that is
given out is `Available`: not at the counter's reserved values, and not a multiple of 65536 after that of
a message that is still alive.
-/

namespace Footscreen

open FloatArith Lib

variable {F : Type}

/-! ## The IDs of a level -/

namespace Game

theorem idAfter_counted (first : MessageID) (n k : Nat) :
    idAfter (counted first n) k = counted first (n + k) := by
  induction k generalizing n with
  | zero => rfl
  | succ k ih =>
      unfold idAfter
      rw [← counted_succ, ih, Nat.add_assoc, Nat.add_comm 1 k]

theorem length_idsFrom (messageID : MessageID) (k : Nat) : (idsFrom messageID k).length = k := by
  induction k generalizing messageID with
  | zero => rfl
  | succ k ih => exact congrArg (· + 1) (ih (messageID + 1))

theorem getElem?_idsFrom (first : MessageID) (n : Nat) {i k : Nat} (hi : i < k) :
    (idsFrom (counted first n) k)[i]? = some (counted first (n + i)) := by
  induction k generalizing n i with
  | zero => exact absurd hi (Nat.not_lt_zero i)
  | succ k ih =>
      cases i with
      | zero => rfl
      | succ i =>
          unfold idsFrom
          rw [List.getElem?_cons_succ, ← counted_succ, ih (n + 1) (Nat.lt_of_succ_lt_succ hi),
            Nat.add_assoc, Nat.add_comm 1 i]

variable [FloatArith F]

/-- The entities of a load have the next IDs, in order. -/
theorem load_keys (g : Game F) (c : Context F) (levelNumber : Int) (clock : Nat → F) :
    (g.load c levelNumber clock).1.keys.map Prod.fst =
        idsFrom c.nextMessageID (level levelNumber).entityCount ∧
      (g.load c levelNumber clock).2.nextMessageID =
        idAfter c.nextMessageID (level levelNumber).entityCount := by
  have hload : g.load c levelNumber clock =
      (g.reset c).1.load (g.reset c).2 levelNumber clock := rfl
  obtain ⟨hloaded, hunits, hobstacles⟩ := load_loaded (g := (g.reset c).1) (c := (g.reset c).2)
    (g.reset c).2.messageHandlers levelNumber clock rfl rfl
  have hnext : (g.reset c).2.nextMessageID = c.nextMessageID := (release_rest _ _).1
  have hcounter := hloaded.counter
  rw [← hload, hnext] at hunits hobstacles hcounter
  refine ⟨?_, hcounter⟩
  rw [messageIDs_eq, hunits, hobstacles]
  exact (idsFrom_add _ _ _).symm

end Game

namespace LiveObjects

/-- All messages, those of the game included, with their IDs and addresses. -/
def objects (s : LiveObjects F) : List (MessageID × Nat) := s.messages ++ s.entities

theorem addresses_eq_objects (s : LiveObjects F) : s.addresses = s.objects.map Prod.snd := by
  unfold addresses objects
  rw [List.map_append]

/-- There is one object at an address. -/
theorem Placed.object_eq {s : LiveObjects F} (h : s.Placed) {m m' : MessageID × Nat}
    (hm : m ∈ s.objects) (hm' : m' ∈ s.objects) (heq : m.2 = m'.2) : m = m' := by
  have hnodup := h.addresses
  rw [addresses_eq_objects] at hnodup
  exact List.inj_on_of_nodup_map hnodup hm hm' heq

theorem mem_addresses {s : LiveObjects F} {m : MessageID × Nat} (hm : m ∈ s.objects) :
    m.2 ∈ s.addresses := by
  rw [addresses_eq_objects]
  exact List.mem_map_of_mem hm

/-- Where the objects are that a step does not destroy. -/
def survivors (s : LiveObjects F) : Event F → List Nat
  | .loadGame .. | .load .. | .stop => s.messages.map Prod.snd
  | .destroy address                => s.addresses.filter (· != address)
  | _                               => s.addresses

theorem mem_addresses_of_survivors {s : LiveObjects F} {e : Event F} {a : Nat}
    (h : a ∈ s.survivors e) : a ∈ s.addresses := by
  cases e with
  | loadGame levelNumber clock => exact List.mem_append_left _ h
  | load levelNumber clock     => exact List.mem_append_left _ h
  | stop                       => exact List.mem_append_left _ h
  | destroy address            => exact (List.mem_filter.mp h).1
  | _                          => exact h

/-- Which objects generate an ID in a step that leads to `t`, in order. -/
def issues (t : LiveObjects F) : Event F → List Nat
  | .loadGame .. | .load ..     => t.entities.map Prod.snd
  | .generateMessageID address  => [address]
  | _                           => []

/-- How many IDs a step generates. -/
def count : Event F → Nat
  | .loadGame levelNumber _ | .load levelNumber _ => (Game.level levelNumber).entityCount
  | .generateMessageID _                          => 1
  | _                                             => 0

end LiveObjects

open LiveObjects

/-- The objects of a process, and where those are or were that have generated an ID, in order. -/
structure Process (F : Type) where
  live   : LiveObjects F
  issued : List Nat

namespace Process

/-- A process after `run`. -/
def run (unset : Nat → Unset F) : Process F := ⟨LiveObjects.run unset, []⟩

/-- The messages that have generated their ID. -/
def generated (s : Process F) : List (MessageID × Nat) :=
  s.live.objects.filter fun m => decide (m.2 ∈ s.issued)

/-- Messages are created, generate an ID at most once, and are destroyed, with any loads in between. -/
def Once (s : Process F) : Event F → Prop
  | .generateMessageID address             => address ∉ s.issued
  | .setMessageID .. | .createFromData ..  => False
  | _                                      => True

/-- The numbers that the step gives out fit in: none is reserved, and none comes a multiple of 65536 after
    that of a message that is still alive. -/
def Available (s : Process F) (e : Event F) : Prop :=
  ∀ i < count e, (s.issued.length + i) % 2 ^ 16 < 2 ^ 16 - messageIDFirst.toNat ∧
    ∀ m, (∃ a, s.issued[m]? = some a ∧ a ∈ s.live.survivors e) →
      (s.issued.length + i) % 2 ^ 16 ≠ m % 2 ^ 16

/-- What generated IDs are for: they are distinct and unreserved, each message has the only handler
    registered under its ID, and its destructor leaves those of the others. -/
structure Unique (s : Process F) : Prop where
  distinct   : (s.generated.map Prod.fst).Nodup
  unreserved : ∀ m ∈ s.generated, messageIDFirst ≤ m.1
  own        : ∀ m ∈ s.generated, entityHandler m ∈ s.live.handlers ∧
    ∀ h ∈ s.live.handlers, h.messageID = m.1 → h = entityHandler m
  others     : ∀ m ∈ s.generated, ∀ m' ∈ s.generated, m' ≠ m →
    entityHandler m' ∈ (s.live.server.context.release m.1).messageHandlers

variable [FloatArith F]

def step (s : Process F) (e : Event F) : Option (Process F) :=
  (LiveObjects.step s.live e).map fun t => ⟨t, s.issued ++ issues t e⟩

omit [FloatArith F]

/-! ## Steps -/

/-- What a step does: the objects with numbers `xs` are new among those that have generated an ID, handlers
    with IDs in `ids` are removed, and the handlers `new` are added. -/
structure Turn (e : Event F) (s t : Process F) (xs : List Nat) (ids : List MessageID)
    (new : MessageHandlers Callback) : Prop where
  placed      : t.live.Placed
  issued      : t.issued = s.issued ++ xs
  count       : xs.length = LiveObjects.count e
  nodup       : xs.Nodup
  later       : ∀ a ∈ xs, a ∉ s.issued
  numbers     : ∀ i a, xs[i]? = some a →
    (counted messageIDFirst (s.issued.length + i), a) ∈ t.live.objects
  counter     : t.live.server.context.nextMessageID =
    counted messageIDFirst (s.issued.length + xs.length)
  nextAddress : s.live.server.context.nextAddress ≤ t.live.server.context.nextAddress
  objects     : ∀ m, m.2 ∈ s.issued →
    (m ∈ t.live.objects ↔ m ∈ s.live.objects ∧ m.2 ∈ s.live.survivors e)
  plain       : ∀ m ∈ t.live.messages, m.2 ∉ t.issued → m.1 = messageIDNone
  owned       : ∀ m ∈ t.live.entities, m.2 ∈ t.issued
  handlers    : t.live.handlers =
    (s.live.handlers.filter fun h =>
      !(decide (messageIDFirst ≤ h.messageID) && decide (h.messageID ∈ ids))) ++ new
  ids         : ∀ id, id ∈ ids ↔ ∃ d ∈ s.live.objects, d.1 = id ∧ d.2 ∉ s.live.survivors e
  new         : ∀ h, (h ∈ new ∧ messageIDFirst ≤ h.messageID) ↔
    ∃ m ∈ t.live.objects, m.2 ∈ xs ∧ messageIDFirst ≤ m.1 ∧ h = entityHandler m

/-- A process in which no message has generated twice. -/
structure Accounted (s : Process F) : Prop where
  placed   : s.live.Placed
  nodup    : s.issued.Nodup
  bound    : ∀ a ∈ s.issued, a < s.live.server.context.nextAddress
  counter  : s.live.server.context.nextMessageID = counted messageIDFirst s.issued.length
  numbered : ∀ m ∈ s.live.objects, ∀ n, s.issued[n]? = some m.2 → m.1 = counted messageIDFirst n
  plain    : ∀ m ∈ s.live.messages, m.2 ∉ s.issued → m.1 = messageIDNone
  owned    : ∀ m ∈ s.live.entities, m.2 ∈ s.issued
  handlers : ∀ h ∈ s.live.handlers, messageIDFirst ≤ h.messageID →
    ∃ m ∈ s.generated, h = entityHandler m

variable {e : Event F} {s t : Process F} {xs : List Nat} {ids : List MessageID}
  {new : MessageHandlers Callback} {m m' : MessageID × Nat}

theorem mem_generated : m ∈ s.generated ↔ m ∈ s.live.objects ∧ m.2 ∈ s.issued := by
  unfold generated
  rw [List.mem_filter, decide_eq_true_iff]

theorem Turn.accounted (hs : s.Accounted) (h : Turn e s t xs ids new) : t.Accounted where
  placed := h.placed
  nodup := by
    rw [h.issued]
    refine List.nodup_append.mpr ⟨hs.nodup, h.nodup, ?_⟩
    rintro a ha b hb rfl
    exact h.later a hb ha
  bound := by
    intro a ha
    rw [h.issued] at ha
    rcases List.mem_append.mp ha with ha | ha
    · exact Nat.lt_of_lt_of_le (hs.bound a ha) h.nextAddress
    · obtain ⟨i, hi⟩ := List.mem_iff_getElem?.mp ha
      exact h.placed.fresh a (mem_addresses (h.numbers i a hi))
  counter := by
    rw [h.counter, h.issued, List.length_append]
  numbered := by
    intro m hm n hn
    rw [h.issued] at hn
    by_cases hlt : n < s.issued.length
    · rw [List.getElem?_append_left hlt] at hn
      exact hs.numbered m ((h.objects m (List.mem_of_getElem? hn)).mp hm).1 n hn
    · rw [List.getElem?_append_right (Nat.not_lt.mp hlt)] at hn
      have hobject := h.numbers _ _ hn
      rw [Nat.add_sub_cancel' (Nat.not_lt.mp hlt)] at hobject
      rw [h.placed.object_eq hm hobject rfl]
  plain := h.plain
  owned := h.owned
  handlers := by
    intro hd hhd hfirst
    rw [h.handlers] at hhd
    rcases List.mem_append.mp hhd with hhd | hhd
    · obtain ⟨hhd, hkept⟩ := List.mem_filter.mp hhd
      obtain ⟨m, hm, rfl⟩ := hs.handlers hd hhd hfirst
      obtain ⟨hobject, hissued⟩ := mem_generated.mp hm
      have hfirst' : messageIDFirst ≤ m.1 := hfirst
      -- its ID is not removed, so its object survives
      have hsurvives : m.2 ∈ s.live.survivors e := by
        by_contra hno
        have hid : m.1 ∈ ids := (h.ids m.1).mpr ⟨m, hobject, rfl, hno⟩
        simp [entityHandler, hfirst', hid] at hkept
      refine ⟨m, mem_generated.mpr ⟨(h.objects m hissued).mpr ⟨hobject, hsurvives⟩, ?_⟩, rfl⟩
      rw [h.issued]
      exact List.mem_append_left _ hissued
    · obtain ⟨m, hm, hnew, -, heq⟩ := (h.new hd).mp ⟨hhd, hfirst⟩
      refine ⟨m, mem_generated.mpr ⟨hm, ?_⟩, heq⟩
      rw [h.issued]
      exact List.mem_append_right _ hnew

/-! ## Numbers in use -/

/-- The number is that of a message that is alive. -/
def Used (s : Process F) (n : Nat) : Prop := ∃ a, s.issued[n]? = some a ∧ a ∈ s.live.addresses

theorem Accounted.exists_generated (h : s.Accounted) {n : Nat} (hn : s.Used n) :
    ∃ m ∈ s.generated, s.issued[n]? = some m.2 ∧ m.1 = counted messageIDFirst n := by
  obtain ⟨a, hn, ha⟩ := hn
  rw [addresses_eq_objects] at ha
  obtain ⟨m, hm, rfl⟩ := List.mem_map.mp ha
  exact ⟨m, mem_generated.mpr ⟨hm, List.mem_of_getElem? hn⟩, hn, h.numbered m hm n hn⟩

theorem Accounted.exists_number (h : s.Accounted) (hm : m ∈ s.generated) :
    ∃ n, s.Used n ∧ s.issued[n]? = some m.2 ∧ m.1 = counted messageIDFirst n := by
  obtain ⟨hobject, hissued⟩ := mem_generated.mp hm
  obtain ⟨n, hn⟩ := List.mem_iff_getElem?.mp hissued
  exact ⟨n, ⟨m.2, hn, mem_addresses hobject⟩, hn, h.numbered m hobject n hn⟩

/-- The IDs are distinct and unreserved exactly if the numbers of the living are spaced. -/
theorem Accounted.spaced_iff (h : s.Accounted) :
    Spaced messageIDFirst s.Used ↔
      (s.generated.map Prod.fst).Nodup ∧ ∀ m ∈ s.generated, messageIDFirst ≤ m.1 := by
  have hgenerated : s.generated.Nodup := by
    have hnodup := h.placed.addresses
    rw [addresses_eq_objects] at hnodup
    exact (hnodup.of_map _).filter _
  constructor
  · intro hspaced
    constructor
    · refine hgenerated.map_on ?_
      intro m hm m' hm' heq
      obtain ⟨n, hused, hn, hid⟩ := h.exists_number hm
      obtain ⟨n', hused', hn', hid'⟩ := h.exists_number hm'
      rw [hid, hid'] at heq
      obtain rfl := (hspaced n hused).2 n' hused' heq
      exact h.placed.object_eq (mem_generated.mp hm).1 (mem_generated.mp hm').1
        (Option.some.inj (hn.symm.trans hn'))
    · intro m hm
      obtain ⟨n, hused, -, hid⟩ := h.exists_number hm
      rw [hid]
      exact (hspaced n hused).1
  · rintro ⟨hdistinct, hunreserved⟩ n hn
    obtain ⟨m, hm, hissued, hid⟩ := h.exists_generated hn
    refine ⟨hid ▸ hunreserved m hm, ?_⟩
    intro n' hn' heq
    obtain ⟨m', hm', hissued', hid'⟩ := h.exists_generated hn'
    obtain rfl : m = m' := by
      apply List.inj_on_of_nodup_map hdistinct hm hm'
      rw [hid, hid', heq]
    exact (List.getElem?_inj (List.getElem?_eq_some_iff.mp hissued).1 h.nodup).mp
      (hissued.trans hissued'.symm)

/-- **The numbers of a step** fit in exactly if they are available. -/
theorem Turn.spaced_iff (h : Turn e s t xs ids new)
    (hspaced : Spaced messageIDFirst s.Used) : Spaced messageIDFirst t.Used ↔ Available s e := by
  unfold Available
  refine hspaced.extend_iff (by decide) ?_ ?_ ?_
  · rintro n ⟨a, hn, ha⟩
    exact ⟨a, hn, mem_addresses_of_survivors ha⟩
  · intro n
    unfold Used
    rw [h.issued]
    by_cases hlt : n < s.issued.length
    · rw [List.getElem?_append_left hlt]
      constructor
      · rintro ⟨a, hn, ha⟩
        rw [addresses_eq_objects] at ha
        obtain ⟨m, hm, rfl⟩ := List.mem_map.mp ha
        exact Or.inl ⟨m.2, hn, ((h.objects m (List.mem_of_getElem? hn)).mp hm).2⟩
      · rintro (⟨a, hn, ha⟩ | ⟨hle, -⟩)
        · have hin := mem_addresses_of_survivors ha
          rw [addresses_eq_objects] at hin
          obtain ⟨m, hm, rfl⟩ := List.mem_map.mp hin
          exact ⟨m.2, hn, mem_addresses ((h.objects m (List.mem_of_getElem? hn)).mpr ⟨hm, ha⟩)⟩
        · omega
    · rw [List.getElem?_append_right (Nat.not_lt.mp hlt), ← h.count]
      constructor
      · rintro ⟨a, hn, -⟩
        have hlength := (List.getElem?_eq_some_iff.mp hn).1
        exact Or.inr ⟨by omega, by omega⟩
      · rintro (⟨a, hn, -⟩ | ⟨hle, hlength⟩)
        · exact absurd (List.getElem?_eq_some_iff.mp hn).1 hlt
        · have hn : xs[n - s.issued.length]? = some xs[n - s.issued.length] :=
            List.getElem?_eq_getElem (by omega)
          exact ⟨_, hn, mem_addresses (h.numbers _ _ hn)⟩
  · rintro n ⟨a, hn, -⟩
    exact (List.getElem?_eq_some_iff.mp hn).1

/-! ## Handlers of their own -/

/-- Distinct IDs and a handler for each are all that is asked for. -/
theorem Accounted.unique (h : s.Accounted) (hdistinct : (s.generated.map Prod.fst).Nodup)
    (hunreserved : ∀ m ∈ s.generated, messageIDFirst ≤ m.1)
    (hown : ∀ m ∈ s.generated, entityHandler m ∈ s.live.handlers) : s.Unique := by
  refine ⟨hdistinct, hunreserved, ?_, ?_⟩
  · intro m hm
    refine ⟨hown m hm, ?_⟩
    intro hd hhd hid
    obtain ⟨m', hm', rfl⟩ := h.handlers hd hhd (hid ▸ hunreserved m hm)
    rw [List.inj_on_of_nodup_map hdistinct hm' hm hid]
  · intro m hm m' hm' hne
    have hrelease := Game.release_handlers [m.1] s.live.server.context
    rw [List.foldl_cons, List.foldl_nil] at hrelease
    rw [hrelease]
    refine List.mem_filter.mpr ⟨hown m' hm', ?_⟩
    have hid : m'.1 ≠ m.1 := fun heq => hne (List.inj_on_of_nodup_map hdistinct hm' hm heq)
    simp [entityHandler, hid]

/-- **One step.** -/
theorem Turn.unique_iff (hs : s.Accounted) (h : Turn e s t xs ids new) (hunique : s.Unique) :
    t.Unique ↔ Available s e := by
  have hspaced := hs.spaced_iff.mpr ⟨hunique.distinct, hunique.unreserved⟩
  rw [← h.spaced_iff hspaced, (h.accounted hs).spaced_iff]
  constructor
  · exact fun ht => ⟨ht.distinct, ht.unreserved⟩
  · rintro ⟨hdistinct, hunreserved⟩
    refine (h.accounted hs).unique hdistinct hunreserved ?_
    intro m hm
    obtain ⟨hobject, hissued⟩ := mem_generated.mp hm
    rw [h.handlers]
    rw [h.issued] at hissued
    rcases List.mem_append.mp hissued with hold | hnew
    · obtain ⟨hobject', hsurvives⟩ := (h.objects m hold).mp hobject
      have hm' := mem_generated.mpr ⟨hobject', hold⟩
      refine List.mem_append_left _ (List.mem_filter.mpr ⟨(hunique.own m hm').1, ?_⟩)
      -- an object that dies has another ID, or none
      have hid : m.1 ∉ ids := by
        intro hin
        obtain ⟨d, hd, hid, hdies⟩ := (h.ids m.1).mp hin
        by_cases hissued : d.2 ∈ s.issued
        · obtain rfl := List.inj_on_of_nodup_map hunique.distinct (mem_generated.mpr ⟨hd, hissued⟩)
            hm' hid
          exact hdies hsurvives
        · have hfirst := hunreserved m hm
          rcases List.mem_append.mp hd with hd | hd
          · rw [← hid, hs.plain d hd hissued] at hfirst
            exact absurd hfirst (by decide)
          · exact hissued (hs.owned d hd)
      simp [entityHandler, hid]
    · exact List.mem_append_right _
        ((h.new _).mpr ⟨m, hobject, hnew, hunreserved m hm, rfl⟩).1

/-! ## What each step does -/

/-- A step that generates no ID. -/
theorem Accounted.quiet (hs : s.Accounted) (hcount : LiveObjects.count e = 0) (hplaced : t.live.Placed)
    (hissued : t.issued = s.issued)
    (hcounter : t.live.server.context.nextMessageID = s.live.server.context.nextMessageID)
    (hnext : s.live.server.context.nextAddress ≤ t.live.server.context.nextAddress)
    (hobjects : ∀ m, m.2 ∈ s.issued →
      (m ∈ t.live.objects ↔ m ∈ s.live.objects ∧ m.2 ∈ s.live.survivors e))
    (hplain : ∀ m ∈ t.live.messages, m ∈ s.live.messages ∨ m.1 = messageIDNone)
    (howned : ∀ m ∈ t.live.entities, m ∈ s.live.entities)
    (hhandlers : t.live.handlers = s.live.handlers.filter fun h =>
      !(decide (messageIDFirst ≤ h.messageID) && decide (h.messageID ∈ ids)))
    (hids : ∀ id, id ∈ ids ↔ ∃ d ∈ s.live.objects, d.1 = id ∧ d.2 ∉ s.live.survivors e) :
    Turn e s t [] ids [] where
  placed := hplaced
  issued := by rw [hissued, List.append_nil]
  count := hcount.symm
  nodup := List.nodup_nil
  later := nofun
  numbers i a hi := by cases hi
  counter := hcounter.trans hs.counter
  nextAddress := hnext
  objects := hobjects
  plain := by
    intro m hm hno
    rw [hissued] at hno
    rcases hplain m hm with hm | hnone
    · exact hs.plain m hm hno
    · exact hnone
  owned := by
    intro m hm
    rw [hissued]
    exact hs.owned m (howned m hm)
  handlers := by rw [hhandlers, List.append_nil]
  ids := hids
  new := by
    intro h
    constructor
    · rintro ⟨hnone, -⟩
      cases hnone
    · rintro ⟨m, -, hnone, -⟩
      cases hnone

/-- No object dies, so no handler is removed. -/
theorem no_ids {s : LiveObjects F} {e : Event F} (h : s.survivors e = s.addresses) (id : MessageID) :
    id ∈ ([] : List MessageID) ↔ ∃ d ∈ s.objects, d.1 = id ∧ d.2 ∉ s.survivors e := by
  rw [h]
  constructor
  · intro hnone
    cases hnone
  · rintro ⟨d, hd, -, hno⟩
    exact absurd (mem_addresses hd) hno

theorem filter_no_ids (hs : MessageHandlers Callback) :
    (hs.filter fun h =>
      !(decide (messageIDFirst ≤ h.messageID) && decide (h.messageID ∈ ([] : List MessageID)))) = hs := by
  simp

theorem Accounted.newMessage (hs : s.Accounted) (hplaced : s.live.newMessage.Placed) :
    Turn .newMessage s ⟨s.live.newMessage, s.issued⟩ [] [] [] := by
  refine hs.quiet rfl hplaced rfl rfl (Nat.le_succ _) ?_ ?_ (fun m hm => hm) (filter_no_ids _).symm
    (no_ids rfl)
  · intro m hissued
    have hne : m ≠ (messageIDNone, s.live.server.context.nextAddress) := by
      rintro rfl
      exact Nat.lt_irrefl _ (hs.bound _ hissued)
    have hmem : m ∈ s.live.newMessage.objects ↔ m ∈ s.live.objects := by
      show m ∈ (s.live.messages ++ [_]) ++ s.live.entities ↔ m ∈ s.live.messages ++ s.live.entities
      simp [hne]
    rw [hmem]
    exact ⟨fun hm => ⟨hm, mem_addresses hm⟩, And.left⟩
  · intro m hm
    rcases List.mem_append.mp hm with hm | hm
    · exact Or.inl hm
    · rw [List.mem_singleton.mp hm]
      exact Or.inr rfl

theorem Accounted.destroy (hs : s.Accounted) {address : Nat} {u : LiveObjects F}
    (h : s.live.destroy address = some u) :
    ∃ ids, Turn (.destroy address) s ⟨u, s.issued⟩ [] ids [] := by
  obtain ⟨messageID, hmem, hchange, hplaced⟩ := destroy_change hs.placed h
  obtain ⟨d, -, hu⟩ := Option.bind_eq_some_iff.mp h
  have hobject : (messageID, address) ∈ s.live.objects := List.mem_append_left _ hmem
  have hcontext : u.server.context = s.live.server.context.release d.1 ∧
      u.messages = (s.live.messages.filter fun m => m.2 != address) ∧ u.entities = s.live.entities := by
    cases hu
    exact ⟨rfl, rfl, rfl⟩
  obtain ⟨hcontext, hmessages, hentities⟩ := hcontext
  have hrest := Game.release_rest [d.1] s.live.server.context
  rw [List.foldl_cons, List.foldl_nil, ← hcontext] at hrest
  -- the objects that are left are those at other addresses
  have hleft : ∀ m, m ∈ u.objects ↔ m ∈ s.live.objects ∧ m.2 ≠ address := by
    intro m
    unfold objects
    rw [hmessages, hentities, List.mem_append, List.mem_append, List.mem_filter, bne_iff_ne]
    constructor
    · rintro (⟨hm, hne⟩ | hm)
      · exact ⟨Or.inl hm, hne⟩
      · refine ⟨Or.inr hm, ?_⟩
        rintro rfl
        have hdisjoint := (List.nodup_append.mp hs.placed.addresses).2.2
        exact hdisjoint _ (List.mem_map_of_mem hmem) _ (List.mem_map_of_mem hm) rfl
    · rintro ⟨hm | hm, hne⟩
      · exact Or.inl ⟨hm, hne⟩
      · exact Or.inr hm
  have hsurvives : ∀ m ∈ s.live.objects, m.2 ∈ s.live.survivors (.destroy address) ↔ m.2 ≠ address := by
    intro m hm
    show m.2 ∈ s.live.addresses.filter (· != address) ↔ _
    rw [List.mem_filter, bne_iff_ne]
    exact ⟨And.right, fun hne => ⟨mem_addresses hm, hne⟩⟩
  refine ⟨[messageID], hs.quiet rfl hplaced rfl hrest.1 (Nat.le_of_eq hrest.2.symm) ?_ ?_ ?_ ?_ ?_⟩
  · intro m _
    rw [hleft]
    exact and_congr_right fun hm => (hsurvives m hm).symm
  · intro m hm
    have hm' : m ∈ u.messages := hm
    rw [hmessages] at hm'
    exact Or.inl (List.mem_filter.mp hm').1
  · intro m hm
    have hm' : m ∈ u.entities := hm
    rwa [hentities] at hm'
  · exact hchange.handlers.trans (List.append_nil _)
  · intro id
    rw [List.mem_singleton]
    constructor
    · rintro rfl
      exact ⟨_, hobject, rfl, fun hin => (hsurvives _ hobject).mp hin rfl⟩
    · rintro ⟨m, hm, rfl, hno⟩
      have haddress : m.2 = address := by
        by_contra hne
        exact hno ((hsurvives m hm).mpr hne)
      rw [hs.placed.object_eq hm hobject haddress]

/-- The game's entities die, and no others. -/
theorem dead_entities {s : LiveObjects F} (h : s.Placed) (id : MessageID) :
    id ∈ s.entities.map Prod.fst ↔ ∃ d ∈ s.objects, d.1 = id ∧ d.2 ∉ s.messages.map Prod.snd := by
  constructor
  · intro hid
    obtain ⟨d, hd, rfl⟩ := List.mem_map.mp hid
    refine ⟨d, List.mem_append_right _ hd, rfl, ?_⟩
    intro hin
    exact (List.nodup_append.mp h.addresses).2.2 _ hin _ (List.mem_map_of_mem hd) rfl
  · rintro ⟨d, hd, rfl, hno⟩
    rcases List.mem_append.mp hd with hd | hd
    · exact absurd (List.mem_map_of_mem hd) hno
    · exact List.mem_map_of_mem hd

/-- Of the objects so far, those that no game owns are left when the game's entities are replaced. -/
theorem mem_objects_of_replaced {s u : LiveObjects F} (h : s.Placed) (hmessages : u.messages = s.messages)
    (hfresh : ∀ m ∈ u.entities, s.server.context.nextAddress ≤ m.2) {m : MessageID × Nat}
    (hm : m.2 < s.server.context.nextAddress) :
    m ∈ u.objects ↔ m ∈ s.objects ∧ m.2 ∈ s.messages.map Prod.snd := by
  unfold objects
  rw [hmessages, List.mem_append, List.mem_append]
  constructor
  · rintro (hin | hin)
    · exact ⟨Or.inl hin, List.mem_map_of_mem hin⟩
    · exact absurd (hfresh m hin) (Nat.not_le.mpr hm)
  · rintro ⟨hin | hin, hmessage⟩
    · exact Or.inl hin
    · exact absurd rfl ((List.nodup_append.mp h.addresses).2.2 _ hmessage _ (List.mem_map_of_mem hin))

theorem Accounted.stop (hs : s.Accounted) {u : LiveObjects F} (h : s.live.stop = some u)
    (hplaced : u.Placed) : ∃ ids, Turn .stop s ⟨u, s.issued⟩ [] ids [] := by
  obtain ⟨g, hg, hu⟩ := Option.bind_eq_some_iff.mp h
  obtain ⟨hchange, -⟩ := hs.placed.replace hg (stop_filled g s.live.server.context) (t := u) (by
    cases hu
    rfl)
  have hentities : u.entities = [] ∧ u.messages = s.live.messages := by
    cases hu
    exact ⟨rfl, rfl⟩
  obtain ⟨hentities, hmessages⟩ := hentities
  have hrest : u.server.context.nextMessageID = s.live.server.context.nextMessageID ∧
      u.server.context.nextAddress = s.live.server.context.nextAddress := by
    cases hu
    exact Game.release_rest _ _
  refine ⟨_, hs.quiet rfl hplaced rfl hrest.1 (Nat.le_of_eq hrest.2.symm) ?_ ?_ ?_
    (hchange.handlers.trans (List.append_nil _)) (dead_entities hs.placed)⟩
  · intro m hm
    refine mem_objects_of_replaced hs.placed hmessages ?_ (hs.bound _ hm)
    rw [hentities]
    exact nofun
  · intro m hm
    have hm' : m ∈ u.messages := hm
    rw [hmessages] at hm'
    exact Or.inl hm'
  · intro m hm
    have hm' : m ∈ u.entities := hm
    rw [hentities] at hm'
    cases hm'

theorem Accounted.generateMessageID (hs : s.Accounted) {address : Nat} (honce : address ∉ s.issued)
    {u : LiveObjects F} (h : s.live.generateMessageID address = some u) (hplaced : u.Placed) :
    ∃ new, Turn (.generateMessageID address) s ⟨u, s.issued ++ [address]⟩ [address] [] new := by
  obtain ⟨messageID, hid⟩ : ∃ id, id = s.live.server.context.nextMessageID := ⟨_, rfl⟩
  -- an entity has generated its ID, so the object is one that no game owns
  have hmessage : (s.live.messages.any fun m => m.2 == address) = true ∧
      u.messages = s.live.messages.map (fun m => if m.2 = address then (messageID, m.2) else m) ∧
      u.entities = s.live.entities ∧
      u.server.context = { s.live.server.context with
        nextMessageID := messageID + 1 }.setMessageID address messageID := by
    unfold LiveObjects.generateMessageID LiveObjects.setMessageID at h
    dsimp only at h
    split at h
    · next hany =>
        cases h
        rw [hid]
        exact ⟨hany, rfl, rfl, rfl⟩
    · obtain ⟨g, hg, h⟩ := Option.bind_eq_some_iff.mp h
      have hentity : ∀ m ∈ g.keys, m.2 ≠ address := by
        rintro m hm rfl
        refine honce (hs.owned m ?_)
        unfold entities
        rw [hg]
        exact hm
      split at h
      · next hunit =>
          obtain ⟨v, hv, haddress⟩ := List.any_eq_true.mp hunit
          exact absurd (beq_iff_eq.mp haddress)
            (hentity v.key (Game.mem_keys.mpr (Or.inl ⟨v, hv, rfl⟩)))
      · split at h
        · next hobstacle =>
            obtain ⟨o, ho, haddress⟩ := List.any_eq_true.mp hobstacle
            exact absurd (beq_iff_eq.mp haddress)
              (hentity o.key (Game.mem_keys.mpr (Or.inr ⟨o, ho, rfl⟩)))
        · cases h
  obtain ⟨hany, hmessages, hentities, hcontext⟩ := hmessage
  have hnew : (messageID, address) ∈ u.objects := by
    obtain ⟨m, hm, haddress⟩ := List.any_eq_true.mp hany
    refine List.mem_append_left _ ?_
    rw [hmessages]
    exact List.mem_map.mpr ⟨m, hm, by rw [if_pos (beq_iff_eq.mp haddress), beq_iff_eq.mp haddress]⟩
  have hcounted : messageID = counted messageIDFirst s.issued.length := hid.trans hs.counter
  have hold : ∀ m, m.2 ≠ address → (m ∈ u.messages ↔ m ∈ s.live.messages) := by
    intro m hne
    rw [hmessages, List.mem_map]
    constructor
    · rintro ⟨m', hm', rfl⟩
      split at hne
      · next heq => exact absurd heq hne
      · next heq =>
          rw [if_neg heq]
          exact hm'
    · intro hm
      exact ⟨m, hm, if_neg hne⟩
  have hrest : u.server.context.nextMessageID = messageID + 1 ∧
      u.server.context.nextAddress = s.live.server.context.nextAddress := by
    rw [hcontext]
    unfold Context.setMessageID
    split <;> exact ⟨rfl, rfl⟩
  refine ⟨handlerOf address messageID, hplaced, rfl, rfl, List.nodup_singleton _, ?_, ?_, ?_,
    Nat.le_of_eq hrest.2.symm, ?_, ?_, ?_, ?_, no_ids rfl, ?_⟩
  · intro a ha
    rwa [List.mem_singleton.mp ha]
  · intro i a hi
    cases i with
    | zero =>
        cases hi
        exact hcounted ▸ hnew
    | succ i => cases hi
  · rw [hrest.1, hcounted, ← counted_succ]
    rfl
  · intro m hm
    have hne : m.2 ≠ address := fun heq => honce (heq ▸ hm)
    have hmem : m ∈ u.objects ↔ m ∈ s.live.objects := by
      unfold objects
      rw [List.mem_append, List.mem_append, hold m hne, hentities]
    exact hmem.trans ⟨fun hin => ⟨hin, mem_addresses hin⟩, And.left⟩
  · intro m hm hno
    rw [List.mem_append, List.mem_singleton, not_or] at hno
    exact hs.plain m ((hold m hno.2).mp hm) hno.1
  · intro m hm
    have hm' : m ∈ u.entities := hm
    rw [hentities] at hm'
    exact List.mem_append_left _ (hs.owned m hm')
  · rw [filter_no_ids]
    show u.server.context.messageHandlers = _
    rw [hcontext]
    exact setMessageID_handlers _ _ _
  · intro hd
    constructor
    · rintro ⟨hhd, hfirst⟩
      unfold handlerOf at hhd
      split at hhd
      · next hle =>
          exact ⟨_, hnew, List.mem_singleton.mpr rfl, hle, List.mem_singleton.mp hhd⟩
      · cases hhd
    · rintro ⟨m, hm, haddress, hfirst, rfl⟩
      obtain rfl : m = (messageID, address) :=
        hplaced.object_eq hm hnew (List.mem_singleton.mp haddress)
      have hfirst' : messageIDFirst ≤ messageID := hfirst
      unfold handlerOf
      rw [if_pos hfirst']
      exact ⟨List.mem_singleton.mpr rfl, hfirst⟩

/-- The game's entities are replaced by those of a level, with the next IDs. -/
theorem Accounted.reload (hs : s.Accounted) (base : MessageHandlers Callback) {u : LiveObjects F}
    {g : Game F} {k : Nat} {es : List (MessageID × Nat)} (hcount : LiveObjects.count e = k)
    (hsurvivors : s.live.survivors e = s.live.messages.map Prod.snd) (hplaced : u.Placed)
    (hmessages : u.messages = s.live.messages) (hg : u.server.game = some g)
    (hkeys : g.keys.map Prod.fst = Game.idsFrom s.live.server.context.nextMessageID k)
    (hcounter : u.server.context.nextMessageID =
      Game.idAfter s.live.server.context.nextMessageID k)
    (hnext : s.live.server.context.nextAddress ≤ u.server.context.nextAddress)
    (hfresh : ∀ m ∈ g.keys, s.live.server.context.nextAddress ≤ m.2)
    (hentities : ∀ m, m ∈ es ↔ m ∈ g.keys ∧ messageIDFirst ≤ m.1)
    (hbase : ∀ h ∈ base, ¬ messageIDFirst ≤ h.messageID)
    (hhandlers : u.handlers = (s.live.handlers.filter fun h =>
      !(decide (messageIDFirst ≤ h.messageID) &&
        decide (h.messageID ∈ s.live.entities.map Prod.fst))) ++ (base ++ es.map entityHandler)) :
    Turn e s ⟨u, s.issued ++ u.entities.map Prod.snd⟩ (u.entities.map Prod.snd)
      (s.live.entities.map Prod.fst) (base ++ es.map entityHandler) := by
  have hu : u.entities = g.keys := by
    unfold entities
    rw [hg]
  rw [hs.counter] at hkeys hcounter
  have hlength : g.keys.length = k := by
    rw [← List.length_map (f := Prod.fst), hkeys, Game.length_idsFrom]
  refine ⟨hplaced, rfl, ?_, ?_, ?_, ?_, ?_, hnext, ?_, ?_, ?_, hhandlers, ?_, ?_⟩
  · rw [hu, List.length_map, hlength, hcount]
  · exact (List.nodup_append.mp hplaced.addresses).2.1
  · intro a ha hin
    rw [hu] at ha
    obtain ⟨m, hm, rfl⟩ := List.mem_map.mp ha
    exact absurd (hs.bound _ hin) (Nat.not_lt.mpr (hfresh m hm))
  · intro i a hi
    rw [hu, List.getElem?_map] at hi
    obtain ⟨m, hm, rfl⟩ := Option.map_eq_some_iff.mp hi
    have hlt : i < k := hlength ▸ (List.getElem?_eq_some_iff.mp hm).1
    have hid : (g.keys.map Prod.fst)[i]? = some m.1 := by
      rw [List.getElem?_map, hm]
      rfl
    rw [hkeys, Game.getElem?_idsFrom _ _ hlt] at hid
    refine List.mem_append_right _ ?_
    rw [hu, Option.some.inj hid]
    exact List.mem_of_getElem? hm
  · rw [hcounter, Game.idAfter_counted, hu, List.length_map, hlength]
  · intro m hm
    rw [hsurvivors]
    refine mem_objects_of_replaced hs.placed hmessages ?_ (hs.bound _ hm)
    rw [hu]
    exact hfresh
  · intro m hm hno
    have hm' : m ∈ u.messages := hm
    rw [hmessages] at hm'
    exact hs.plain m hm' fun hin => hno (List.mem_append_left _ hin)
  · intro m hm
    exact List.mem_append_right _ (List.mem_map_of_mem hm)
  · rw [hsurvivors]
    exact dead_entities hs.placed
  · intro hd
    constructor
    · rintro ⟨hhd, hfirst⟩
      rcases List.mem_append.mp hhd with hhd | hhd
      · exact absurd hfirst (hbase hd hhd)
      · obtain ⟨m, hm, rfl⟩ := List.mem_map.mp hhd
        obtain ⟨hkey, hle⟩ := (hentities m).mp hm
        have hin : m ∈ u.entities := hu ▸ hkey
        exact ⟨m, List.mem_append_right _ hin, List.mem_map_of_mem hin, hle, rfl⟩
    · rintro ⟨m, hm, hin, hfirst, rfl⟩
      obtain ⟨m', hm', haddress⟩ := List.mem_map.mp hin
      obtain rfl := hplaced.object_eq hm (List.mem_append_right _ hm') haddress.symm
      exact ⟨List.mem_append_right _ (List.mem_map_of_mem ((hentities m).mpr ⟨hu ▸ hm', hfirst⟩)), hfirst⟩

section Runs

variable [FloatArith F]

/-- The entities of a new game have the next IDs, too. -/
theorem loadGame_keys (s : LiveObjects F) (levelNumber : Int) (clock : Nat → F) :
    ∃ g, (s.loadGame levelNumber clock).server.game = some g ∧
      g.keys.map Prod.fst = Game.idsFrom s.server.context.nextMessageID
        (Game.level levelNumber).entityCount ∧
      (s.loadGame levelNumber clock).server.context.nextMessageID =
        Game.idAfter s.server.context.nextMessageID (Game.level levelNumber).entityCount := by
  unfold LiveObjects.loadGame GameServer.loadGame
  cases s.server.game with
  | none =>
      exact ⟨_, rfl, Game.load_keys _ (Game.new s.server.context clock).2 levelNumber _⟩
  | some old =>
      have hnext : (old.reset (Game.new s.server.context clock).2).2.nextMessageID =
          s.server.context.nextMessageID := (Game.release_rest _ _).1
      rw [← hnext]
      exact ⟨_, rfl, Game.load_keys _ _ levelNumber _⟩

/-- **Every step** is a turn. -/
theorem Accounted.turn (hs : s.Accounted) (honce : Once s e) (hstep : step s e = some t) :
    ∃ xs ids new, Turn e s t xs ids new := by
  obtain ⟨u, hu, rfl⟩ := Option.map_eq_some_iff.mp hstep
  have hplaced : u.Placed := (step_bound hs.placed hu).1
  cases e with
  | newMessage =>
      cases hu
      rw [show issues s.live.newMessage .newMessage = [] from rfl, List.append_nil]
      exact ⟨_, _, _, hs.newMessage hplaced⟩
  | setMessageID address messageID => exact honce.elim
  | createFromData address m => exact honce.elim
  | destroy address =>
      obtain ⟨ids, hturn⟩ := hs.destroy hu
      rw [show issues u (.destroy address) = [] from rfl, List.append_nil]
      exact ⟨_, _, _, hturn⟩
  | stop =>
      obtain ⟨ids, hturn⟩ := hs.stop hu hplaced
      rw [show issues u .stop = [] from rfl, List.append_nil]
      exact ⟨_, _, _, hturn⟩
  | generateMessageID address =>
      obtain ⟨new, hturn⟩ := hs.generateMessageID honce hu hplaced
      exact ⟨_, _, _, hturn⟩
  | load levelNumber clock =>
      obtain ⟨g, hg, hu⟩ := Option.bind_eq_some_iff.mp hu
      cases hu
      obtain ⟨es, hf⟩ := Game.load_filled g s.live.server.context levelNumber clock
      obtain ⟨hchange, -⟩ := hs.placed.replace hg hf rfl
      obtain ⟨hkeys, hcounter⟩ := Game.load_keys g s.live.server.context levelNumber clock
      exact ⟨_, _, _, hs.reload [] rfl rfl hplaced rfl rfl hkeys hcounter hf.nextAddress
        (fun m hm => (hf.fresh m hm).1) hf.entities nofun hchange.handlers⟩
  | loadGame levelNumber clock =>
      cases hu
      obtain ⟨g, c, es, hg, hf, hnext, hchange, -⟩ := loadGame_change hs.placed levelNumber clock
      obtain ⟨g', hg', hkeys, hcounter⟩ := loadGame_keys s.live levelNumber clock
      obtain rfl : g = g' := Option.some.inj (hg.symm.trans hg')
      have hle : s.live.server.context.nextAddress ≤ c.nextAddress := hnext ▸ Nat.le_succ _
      refine ⟨_, _, _, hs.reload _ rfl rfl hplaced rfl hg hkeys hcounter
        (Nat.le_trans hle hf.nextAddress) (fun m hm => Nat.le_trans hle (hf.fresh m hm).1) hf.entities
        ?_ hchange.handlers⟩
      -- a game's own handlers are for all IDs
      have hall : ¬ messageIDFirst ≤ messageIDAll := by decide
      intro hd hhd
      simp only [Game.gameHandlers, List.mem_cons, List.not_mem_nil, or_false] at hhd
      rcases hhd with rfl | rfl | rfl <;> exact hall

omit [FloatArith F] in
theorem accounted_run (unset : Nat → Unset F) : (run unset).Accounted ∧ (run unset).Unique := by
  have haccounted : (run unset).Accounted := by
    refine ⟨placed_run unset, List.nodup_nil, nofun, counted_zero.symm, nofun, nofun, nofun, ?_⟩
    intro h hh hfirst
    rcases List.mem_cons.mp hh with rfl | hh
    · exact absurd hfirst (by decide)
    · rw [List.mem_singleton.mp hh] at hfirst
      exact absurd hfirst (by decide)
  exact ⟨haccounted, haccounted.unique List.nodup_nil nofun nofun⟩

/-- **Generated IDs are unique and unreserved**, with a handler each, at every point of exactly the runs in
    which every number is available when it is given out. -/
theorem unique_always_iff (unset : Nat → Unset F) {events : List (Event F)}
    (honce : Guarded step Once (run unset) events) (hrun : exec step (run unset) events = some s) :
    (∀ past, past <+: events → ∀ t, exec step (run unset) past = some t → t.Unique) ↔
      Guarded step Available (run unset) events := by
  refine exec_always_iff_of (I := fun s => s.Accounted ∧ s.Unique) (accounted_run unset) And.right ?_ ?_
    honce hrun
  · intro u e t hbase hu hstep hok
    obtain ⟨_, _, _, hturn⟩ := hu.1.turn hbase hstep
    exact ⟨hturn.accounted hu.1, (hturn.unique_iff hu.1 hu.2).mpr hok⟩
  · intro u e t hbase hu hstep hunique
    obtain ⟨_, _, _, hturn⟩ := hu.1.turn hbase hstep
    exact (hturn.unique_iff hu.1 hu.2).mp hunique

omit [FloatArith F] in
/-- The first 65533 numbers are available whenever they are given out. -/
theorem available_of_few (h : s.issued.length + count e ≤ 2 ^ 16 - messageIDFirst.toNat) :
    Available s e := by
  have hbound : 2 ^ 16 - messageIDFirst.toNat ≤ 2 ^ 16 := Nat.sub_le _ _
  intro i hi
  refine ⟨Nat.lt_of_le_of_lt (Nat.mod_le _ _) (by omega), ?_⟩
  rintro m ⟨a, hm, -⟩
  have hlt := (List.getElem?_eq_some_iff.mp hm).1
  rw [Nat.mod_eq_of_lt (by omega), Nat.mod_eq_of_lt (by omega)]
  omega

end Runs

/-! ## The counter wraps around -/

instance (s : Process F) : ∀ e : Event F, Decidable (Once s e)
  | .generateMessageID address            => inferInstanceAs (Decidable (address ∉ s.issued))
  | .setMessageID .. | .createFromData .. => inferInstanceAs (Decidable False)
  | .loadGame .. | .load .. | .stop | .newMessage | .destroy _ => inferInstanceAs (Decidable True)

/-- An object gets an ID beside those of a level. -/
theorem unique_onceEach :
    ∃ s, exec step (run GameServer.zeroed) onceEach = some s ∧
      ∀ past, past <+: onceEach → ∀ t, exec step (run GameServer.zeroed) past = some t → t.Unique := by
  have hrun : (exec step (run GameServer.zeroed) onceEach).isSome = true := by decide +kernel
  obtain ⟨s, hs⟩ := Option.isSome_iff_exists.mp hrun
  have hfew : Guarded step (fun (s : Process Int) e =>
      s.issued.length + count e ≤ 2 ^ 16 - messageIDFirst.toNat) (run GameServer.zeroed) onceEach := by
    decide +kernel
  exact ⟨s, hs, (unique_always_iff GameServer.zeroed (by decide +kernel) hs).mpr
    (hfew.imp fun h => available_of_few h)⟩

/-- Level 1 is loaded again and again. -/
def reloads (n : Nat) : List (Event Int) := List.replicate n (.loadGame 1 fun _ => 0)

theorem reloads_succ (n : Nat) : reloads (n + 1) = reloads n ++ [.loadGame 1 fun _ => 0] :=
  List.replicate_succ'

/-- Each load takes 16 numbers. -/
theorem Accounted.reload_step {s : Process Int} (hs : s.Accounted) :
    ∃ t xs ids new, step s (.loadGame 1 fun _ => 0) = some t ∧
      Turn (.loadGame 1 fun _ => 0) s t xs ids new ∧ xs.length = 16 := by
  obtain ⟨xs, ids, new, hturn⟩ := hs.turn (e := .loadGame 1 fun _ => 0) trivial rfl
  exact ⟨_, xs, ids, new, rfl, hturn, hturn.count.trans (by decide)⟩

theorem reloads_run (n : Nat) :
    ∃ s, exec step (run GameServer.zeroed) (reloads n) = some s ∧ s.Accounted ∧
      s.issued.length = 16 * n := by
  induction n with
  | zero => exact ⟨_, rfl, (accounted_run _).1, rfl⟩
  | succ n ih =>
      obtain ⟨s, hs, haccounted, hlength⟩ := ih
      obtain ⟨t, xs, _, _, hstep, hturn, hcount⟩ := haccounted.reload_step
      rw [reloads_succ]
      refine ⟨t, exec_snoc.mpr ⟨s, hs, hstep⟩, hturn.accounted haccounted, ?_⟩
      rw [hturn.issued, List.length_append, hlength, hcount]
      rfl

/-- **The counter wraps around** in the 4096th load: one of its entities gets the ID 0. -/
theorem reloads_wrap :
    ∃ s, Guarded step Once (run GameServer.zeroed) (reloads 4096) ∧
      exec step (run GameServer.zeroed) (reloads 4096) = some s ∧
      (∃ m ∈ s.generated, m.1 = messageIDNone) ∧ ¬ s.Unique := by
  obtain ⟨s, hs, haccounted, hlength⟩ := reloads_run 4095
  obtain ⟨t, xs, _, _, hstep, hturn, hcount⟩ := haccounted.reload_step
  have hmem : (messageIDNone, xs[13]) ∈ t.generated := by
    have hx : xs[13]? = some xs[13] := List.getElem?_eq_getElem _
    have hobject := hturn.numbers 13 _ hx
    have hwrap : counted messageIDFirst (s.issued.length + 13) = messageIDNone := by
      rw [hlength]
      decide
    rw [hwrap] at hobject
    refine mem_generated.mpr ⟨hobject, ?_⟩
    rw [hturn.issued]
    exact List.mem_append_right _ (List.mem_of_getElem? hx)
  refine ⟨t, guarded_of_mem ?_, ?_, ⟨_, hmem, rfl⟩, ?_⟩
  · intro e he u
    rw [List.eq_of_mem_replicate he]
    trivial
  · rw [reloads_succ 4095]
    exact exec_snoc.mpr ⟨s, hs, hstep⟩
  · intro hunique
    have hreserved : ¬ messageIDFirst ≤ messageIDNone := by decide
    exact hreserved (hunique.unreserved _ hmem)

end Process

end Footscreen
