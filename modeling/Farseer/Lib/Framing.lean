import Mathlib

/-! Frames in a byte stream that arrives in pieces. A call takes the whole frames off the
front of a buffer and leaves the start of the frame that is not complete yet. If a call does
so for whole buffers, then calls after every piece deliver the same frames in the same order,
wherever the stream was cut. -/

namespace Framing

variable {σ φ β : Type}

/-- The start of a frame that is not all of it; nothing at all counts as such. -/
def Unfinished (Started : φ → Prop) (encode : φ → List β) (tail : List β) : Prop :=
  tail = [] ∨ ∃ f, Started f ∧ tail <+: encode f ∧ tail.length < (encode f).length

/-- Pieces are appended to a buffer, and after each of them a call changes state and buffer. -/
inductive Fed (call : σ → List β → σ → List β → Prop) : σ → List β → List (List β) → σ → List β → Prop
  | nil (s : σ) (buffer : List β) : Fed call s buffer [] s buffer
  | cons {s s' s'' : σ} {buffer buffer' buffer'' chunk : List β} {chunks : List (List β)}
      (hcall : call s (buffer ++ chunk) s' buffer') (hrest : Fed call s' buffer' chunks s'' buffer'') :
      Fed call s buffer (chunk :: chunks) s'' buffer''

/-- A call on whole frames with the start of another one behind them delivers the frames. -/
def Delivers (Good Started : φ → Prop) (encode : φ → List β) (deliver : σ → φ → σ) (Inv : σ → Prop)
    (call : σ → List β → σ → List β → Prop) : Prop :=
  ∀ (s : σ) (fs : List φ) (tail : List β), Inv s → (∀ f ∈ fs, Good f) → Unfinished Started encode tail →
    call s (fs.flatMap encode ++ tail) (fs.foldl deliver s) tail

/-- The buffer between two calls: a proper start of the next frame, or of what is left at the end. -/
def Waiting (encode : φ → List β) (buffer tail : List β) : List φ → Prop
  | [] => buffer <+: tail
  | f :: _ => buffer <+: encode f ∧ buffer.length < (encode f).length

variable {Good Started : φ → Prop} {encode : φ → List β} {deliver : σ → φ → σ} {Inv : σ → Prop}
  {call : σ → List β → σ → List β → Prop}

/-- Any front part of a stream is whole frames and a proper start of what follows them. -/
theorem split_front (fs : List φ) (tail front : List β) (h : front <+: fs.flatMap encode ++ tail) :
    ∃ done todo rest, fs = done ++ todo ∧ front = done.flatMap encode ++ rest ∧
      Waiting encode rest tail todo := by
  induction fs generalizing front with
  | nil =>
    have hfront : front <+: tail := by simpa using h
    exact ⟨[], [], front, rfl, rfl, hfront⟩
  | cons f fs ih =>
    rw [List.flatMap_cons, List.append_assoc] at h
    rcases Nat.lt_or_ge front.length (encode f).length with hlt | hge
    · have hfront : front <+: encode f :=
        List.prefix_of_prefix_length_le h (List.prefix_append _ _) (le_of_lt hlt)
      exact ⟨[], f :: fs, front, rfl, rfl, hfront, hlt⟩
    · obtain ⟨front', rfl⟩ := List.prefix_of_prefix_length_le (List.prefix_append _ _) h hge
      obtain ⟨done, todo, rest, rfl, rfl, hwait⟩ := ih front' ((List.prefix_append_right_inj _).mp h)
      exact ⟨f :: done, todo, rest, rfl, by rw [List.flatMap_cons, List.append_assoc], hwait⟩

theorem Waiting.unfinished {rest tail : List β} {todo : List φ} (h : Waiting encode rest tail todo)
    (hstarted : ∀ f ∈ todo, Started f) (htail : Unfinished Started encode tail) :
    Unfinished Started encode rest := by
  cases todo with
  | cons f todo => exact .inr ⟨f, hstarted f (by simp), h⟩
  | nil =>
    rcases htail with rfl | ⟨f, hf, hstart, hlt⟩
    · exact .inl (List.prefix_nil.mp h)
    · exact .inr ⟨f, hf, h.trans hstart, lt_of_le_of_lt h.length_le hlt⟩

/-- A buffer that waits goes on to wait when frames are added behind. -/
theorem Waiting.append {buffer : List β} {fs more : List φ} (h : Waiting encode buffer [] fs)
    (hmore : fs = [] → ∀ f ∈ more.head?, 0 < (encode f).length) : Waiting encode buffer [] (fs ++ more) := by
  cases fs with
  | cons f fs => exact h
  | nil =>
    obtain rfl := List.prefix_nil.mp h
    cases more with
    | nil => exact h
    | cons f more => exact ⟨List.nil_prefix, hmore rfl f rfl⟩

/-- However the stream is cut into pieces, every frame is delivered once and in order. -/
theorem Delivers.fed (hcall : Delivers Good Started encode deliver Inv call)
    (hstarted : ∀ f, Good f → Started f) (hinv : ∀ s f, Inv s → Good f → Inv (deliver s f))
    {tail : List β} (htail : Unfinished Started encode tail)
    (chunks : List (List β)) (fs : List φ) (hfs : ∀ f ∈ fs, Good f) (s : σ) (hs : Inv s) (buffer : List β)
    (hbuffer : Waiting encode buffer tail fs) (hchunks : buffer ++ chunks.flatten = fs.flatMap encode ++ tail) :
    Fed call s buffer chunks (fs.foldl deliver s) tail := by
  induction chunks generalizing fs s buffer with
  | nil =>
    rw [List.flatten_nil, List.append_nil] at hchunks
    cases fs with
    | nil =>
      rw [hchunks]
      exact .nil s tail
    | cons f fs =>
      -- a buffer that waits for a frame cannot hold that frame
      have hlen := congrArg List.length hchunks
      have hlt := hbuffer.2
      rw [List.flatMap_cons, List.length_append, List.length_append] at hlen
      omega
  | cons chunk chunks ih =>
    rw [List.flatten_cons, ← List.append_assoc] at hchunks
    obtain ⟨done, todo, rest, rfl, hfront, hwait⟩ := split_front fs tail (buffer ++ chunk) ⟨_, hchunks⟩
    have hdone : ∀ f ∈ done, Good f := fun f hf => hfs f (List.mem_append_left _ hf)
    have htodo : ∀ f ∈ todo, Good f := fun f hf => hfs f (List.mem_append_right _ hf)
    have hstate : Inv (done.foldl deliver s) := by
      clear hfront hwait hchunks hbuffer hfs
      induction done generalizing s with
      | nil => exact hs
      | cons f done ihd => exact ihd (deliver s f) (hinv s f hs (hdone f (by simp))) fun g hg => hdone g (by simp [hg])
    have hrest : rest ++ chunks.flatten = todo.flatMap encode ++ tail := by
      rw [hfront, List.flatMap_append, List.append_assoc, List.append_assoc] at hchunks
      exact List.append_cancel_left hchunks
    rw [List.foldl_append]
    refine .cons ?_ (ih todo htodo _ hstate rest hwait hrest)
    rw [hfront]
    exact hcall s done rest hs hdone (hwait.unfinished (fun f hf => hstarted f (htodo f hf)) htail)

end Framing
