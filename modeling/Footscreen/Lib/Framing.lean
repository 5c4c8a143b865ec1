import Footscreen.Lib.Run

/-!
# `Lib.Framing` — streams of length-prefixed frames

A frame is a header of fixed length followed by a body whose length the header announces. `Format`
describes the header codec over an arbitrary alphabet `β`; `Reader` is the abstract machine that takes
a stream apart, one header and one body at a time.

* `reads_wires` — a machine that simulates the reader on acceptable headers reads the frames of a
  list, written one after the other, back in two steps each and stops where they end;
* `Reader.Split` / `advance_split` — whatever the stream, what the reader has consumed is a list of
  complete frames, plus the header it is waiting on;
* `frames_unique` — written frames can be taken apart in one way only.
-/

namespace Footscreen
namespace Lib

/-- A header codec: headers of a fixed length, each announcing the length of its body. Every word of
    that length is a header. -/
structure Format (H β : Type*) where
  headerLength : Nat
  encode       : H → List β
  decode       : List β → H
  bodyLength   : H → Nat
  encode_length : ∀ h, (encode h).length = headerLength
  decode_encode : ∀ h, decode (encode h) = h
  encode_decode : ∀ w, w.length = headerLength → encode (decode w) = w

namespace Framing

variable {H β : Type*} (fmt : Format H β)

/-- A header with the word that follows it. -/
abbrev Frame (H β : Type*) := H × List β

/-- The body has the length that the header announces. -/
def Exact (f : Frame H β) : Prop := f.2.length = fmt.bodyLength f.1

/-- A frame as it is written. -/
def wire (f : Frame H β) : List β := fmt.encode f.1 ++ f.2

/-- The frames of a list, written one after the other. -/
def wires (fs : List (Frame H β)) : List β := fs.flatMap (wire fmt)

@[simp] theorem wires_nil : wires fmt [] = [] := rfl

@[simp] theorem wires_cons (f : Frame H β) (fs : List (Frame H β)) :
    wires fmt (f :: fs) = wire fmt f ++ wires fmt fs := rfl

theorem wires_append (fs gs : List (Frame H β)) :
    wires fmt (fs ++ gs) = wires fmt fs ++ wires fmt gs := List.flatMap_append

theorem wires_snoc (fs : List (Frame H β)) (f : Frame H β) :
    wires fmt (fs ++ [f]) = wires fmt fs ++ wire fmt f := by
  rw [wires_append, wires_cons, wires_nil, List.append_nil]

/-! ## The reader -/

/-- What the reader waits for: a header, or the body that a header announced. -/
inductive Phase (H : Type*) where
  | header
  | body (h : H)

/-- The reader: what it waits for, the rest of the stream, the frames read so far. -/
structure Reader (H β : Type*) where
  phase  : Phase H
  rest   : List β
  frames : List (Frame H β)

/-- A reader at the start of a stream. -/
def Reader.start (stream : List β) : Reader H β := ⟨.header, stream, []⟩

/-- Read the next header or body; `none` while the stream is too short for it. -/
def advance (r : Reader H β) : Option (Reader H β) :=
  match r.phase with
  | .header =>
      if fmt.headerLength ≤ r.rest.length then
        some { r with phase := .body (fmt.decode (r.rest.take fmt.headerLength)),
                      rest := r.rest.drop fmt.headerLength }
      else none
  | .body h =>
      if fmt.bodyLength h ≤ r.rest.length then
        some { phase := .header, rest := r.rest.drop (fmt.bodyLength h),
               frames := r.frames ++ [(h, r.rest.take (fmt.bodyLength h))] }
      else none

variable {fmt}

theorem advance_header {h : H} {w : List β} {fs : List (Frame H β)} :
    advance fmt ⟨.header, fmt.encode h ++ w, fs⟩ = some ⟨.body h, w, fs⟩ := by
  have hlen := fmt.encode_length h
  have htake : (fmt.encode h ++ w).take fmt.headerLength = fmt.encode h := by
    rw [← hlen, List.take_left]
  have hdrop : (fmt.encode h ++ w).drop fmt.headerLength = w := by
    rw [← hlen, List.drop_left]
  simp only [advance, List.length_append, hlen, Nat.le_add_right, if_true, htake, hdrop,
    fmt.decode_encode]

theorem advance_body {f : Frame H β} {w : List β} {fs : List (Frame H β)} (hf : Exact fmt f) :
    advance fmt ⟨.body f.1, f.2 ++ w, fs⟩ = some ⟨.header, w, fs ++ [f]⟩ := by
  have hlen : f.2.length = fmt.bodyLength f.1 := hf
  simp only [advance, List.length_append, ← hlen, Nat.le_add_right, if_true, List.take_left,
    List.drop_left]

/-- **A machine that follows the reader on acceptable headers reads written frames back**, in two
    steps each, up to where they end. `R` relates its states to the reader's. -/
theorem reads_wires {τ γ : Type*} {ok : H → Prop} {R : τ → Reader H β → Prop}
    {mstep : τ → γ → Option τ} {c : γ}
    (hsim : ∀ {t r r'}, R t r → advance fmt r = some r' → (∀ h, r'.phase = .body h → ok h) →
      ∃ t', mstep t c = some t' ∧ R t' r') :
    ∀ {fs gs : List (Frame H β)} {w : List β} {t : τ}, (∀ f ∈ fs, Exact fmt f ∧ ok f.1) →
      R t ⟨.header, wires fmt fs ++ w, gs⟩ →
      ∃ t', exec mstep t (List.replicate (2 * fs.length) c) = some t' ∧
        R t' ⟨.header, w, gs ++ fs⟩ := by
  intro fs
  induction fs with
  | nil =>
      intro gs w t _ hR
      exact ⟨t, rfl, by rwa [List.append_nil]⟩
  | cons f fs ih =>
      intro gs w t hfs hR
      obtain ⟨hexact, hok⟩ := hfs f List.mem_cons_self
      -- one read for the header, one for the body
      have htwo : List.replicate (2 * (f :: fs).length) c =
          c :: c :: List.replicate (2 * fs.length) c := by
        rw [List.length_cons, Nat.mul_succ, List.replicate_succ, List.replicate_succ]
      rw [wires_cons, wire, List.append_assoc, List.append_assoc] at hR
      obtain ⟨t₁, hstep₁, hR₁⟩ := hsim hR advance_header fun h hh => by
        rw [Phase.body.injEq] at hh
        exact hh ▸ hok
      obtain ⟨t₂, hstep₂, hR₂⟩ := hsim hR₁ (advance_body hexact) fun h hh => nomatch hh
      obtain ⟨t', hrun, hR'⟩ := ih (fun g hg => hfs g (List.mem_cons_of_mem f hg)) hR₂
      refine ⟨t', ?_, ?_⟩
      · rw [htwo, exec_cons, hstep₁, Option.bind_some, exec_cons, hstep₂, Option.bind_some, hrun]
      · rwa [List.append_assoc, List.singleton_append] at hR'

/-! ## What the reader has consumed -/

/-- What the reader has consumed of `stream`: complete frames, then the header it waits on, all with
    acceptable headers. -/
def Reader.Split (fmt : Format H β) (ok : H → Prop) (stream : List β) (r : Reader H β) : Prop :=
  (∀ f ∈ r.frames, Exact fmt f ∧ ok f.1) ∧
    match r.phase with
    | .header => stream = wires fmt r.frames ++ r.rest
    | .body h => ok h ∧ stream = wires fmt r.frames ++ (fmt.encode h ++ r.rest)

variable {ok : H → Prop}

theorem split_start (stream : List β) : (Reader.start (H := H) stream).Split fmt ok stream :=
  ⟨fun _ hf => absurd hf List.not_mem_nil, rfl⟩

/-- Where a complete header can be read, it stands in the stream right after the frames read so far. -/
theorem split_header {stream : List β} {rest : List β} {frames : List (Frame H β)}
    (hr : Reader.Split fmt ok stream ⟨.header, rest, frames⟩)
    (hle : fmt.headerLength ≤ rest.length) :
    stream = wires fmt frames ++ (fmt.encode (fmt.decode (rest.take fmt.headerLength)) ++
      rest.drop fmt.headerLength) := by
  have hword : (rest.take fmt.headerLength).length = fmt.headerLength := by
    rw [List.length_take, Nat.min_eq_left hle]
  rw [fmt.encode_decode _ hword, List.take_append_drop]
  exact hr.2

/-- A step keeps `Split` as long as the header it reads is acceptable. -/
theorem advance_split {stream : List β} {r r' : Reader H β} (hr : r.Split fmt ok stream)
    (h : advance fmt r = some r') (hok : ∀ hd, r'.phase = .body hd → ok hd) :
    r'.Split fmt ok stream := by
  obtain ⟨phase, rest, frames⟩ := r
  cases phase with
  | header =>
      simp only [advance, Option.ite_none_right_eq_some, Option.some.injEq] at h
      obtain ⟨hle, rfl⟩ := h
      exact ⟨hr.1, hok _ rfl, split_header hr hle⟩
  | body hd =>
      simp only [advance, Option.ite_none_right_eq_some, Option.some.injEq] at h
      obtain ⟨hle, rfl⟩ := h
      obtain ⟨hframes, hhd, hsplit⟩ := hr
      have hexact : Exact fmt (hd, rest.take (fmt.bodyLength hd)) := by
        rw [Exact, List.length_take, Nat.min_eq_left hle]
      refine ⟨?_, ?_⟩
      · intro f hf
        rcases List.mem_append.mp hf with hf | hf
        · exact hframes f hf
        · exact List.mem_singleton.mp hf ▸ ⟨hexact, hhd⟩
      · show stream = _
        rw [wires_snoc, wire, List.append_assoc, List.append_assoc, List.take_append_drop]
        exact hsplit

/-- What has been consumed stays consumed when the stream goes on. -/
theorem Reader.Split.arrive {stream : List β} {r : Reader H β} (hr : r.Split fmt ok stream)
    (w : List β) : Reader.Split fmt ok (stream ++ w) { r with rest := r.rest ++ w } := by
  obtain ⟨phase, rest, frames⟩ := r
  refine ⟨hr.1, ?_⟩
  cases phase with
  | header =>
      have hstream : stream = wires fmt frames ++ rest := hr.2
      show stream ++ w = wires fmt frames ++ (rest ++ w)
      rw [hstream, List.append_assoc]
  | body h =>
      obtain ⟨hhd, hstream⟩ := hr.2
      refine ⟨hhd, ?_⟩
      show stream ++ w = wires fmt frames ++ (fmt.encode h ++ (rest ++ w))
      rw [hstream, List.append_assoc, List.append_assoc]

/-! ## Unique decoding -/

/-- A header at the start of written frames is that of the first one. -/
theorem header_unique {h : H} {w : List β} {gs : List (Frame H β)} (hpos : 0 < fmt.headerLength)
    (hw : fmt.encode h ++ w <+: wires fmt gs) :
    ∃ body gs', gs = (h, body) :: gs' ∧ w <+: body ++ wires fmt gs' := by
  cases gs with
  | nil =>
      have hlen := hw.length_le
      rw [List.length_append, fmt.encode_length, wires_nil, List.length_nil] at hlen
      omega
  | cons g gs =>
      rw [wires_cons, wire, List.append_assoc] at hw
      -- both headers are the word of that length
      have hword : fmt.encode h = fmt.encode g.1 := by
        have hpre := (List.prefix_append _ _).trans hw
        have hlen : (fmt.encode h).length = (fmt.encode g.1).length := by
          rw [fmt.encode_length, fmt.encode_length]
        exact (List.prefix_of_prefix_length_le hpre (List.prefix_append _ _)
          (Nat.le_of_eq hlen)).eq_of_length hlen
      obtain rfl : h = g.1 := by rw [← fmt.decode_encode h, hword, fmt.decode_encode]
      exact ⟨g.2, gs, rfl, (List.prefix_append_right_inj _).mp hw⟩

/-- **Written frames can be taken apart in one way.** Frames at the start of written ones are the first of
    them. -/
theorem frames_unique {fs gs : List (Frame H β)} {w : List β} (hpos : 0 < fmt.headerLength)
    (hfs : ∀ f ∈ fs, Exact fmt f) (hgs : ∀ g ∈ gs, Exact fmt g)
    (hw : wires fmt fs ++ w <+: wires fmt gs) :
    ∃ gs', gs = fs ++ gs' ∧ w <+: wires fmt gs' := by
  induction fs generalizing gs with
  | nil => exact ⟨gs, rfl, hw⟩
  | cons f fs ih =>
      obtain ⟨hf, hfs⟩ := List.forall_mem_cons.mp hfs
      rw [wires_cons, wire, List.append_assoc, List.append_assoc] at hw
      obtain ⟨body, gs', rfl, hbody⟩ := header_unique hpos hw
      obtain ⟨hg, hgs'⟩ := List.forall_mem_cons.mp hgs
      -- the header announces the length of both bodies
      have hlen : f.2.length = body.length := by
        have hf : f.2.length = fmt.bodyLength f.1 := hf
        have hg : body.length = fmt.bodyLength f.1 := hg
        rw [hf, hg]
      obtain rfl : f.2 = body := by
        have hpre := (List.prefix_append _ _).trans hbody
        exact (List.prefix_of_prefix_length_le hpre (List.prefix_append _ _)
          (Nat.le_of_eq hlen)).eq_of_length hlen
      obtain ⟨gs, rfl, hrest⟩ := ih hfs hgs' ((List.prefix_append_right_inj _).mp hbody)
      exact ⟨gs, rfl, hrest⟩

end Framing
end Lib
end Footscreen
