import Farseer.Windows.ConcurrentScheduler

/-! The accounting of `state_`: in every reachable state its low bits count what is outstanding, and when the
consumer thread finds only the flag there, nothing is. -/

namespace Farseer.Windows

open FlaggedCounter

@[simp] theorem operationsOf_nil : operationsOf [] = [] := rfl

@[simp] theorem operationsOf_cons (packet : Packet) (entries : List Packet) :
    operationsOf (packet :: entries) = packet.operations ++ operationsOf entries := rfl

@[simp] theorem operationsOf_append (entries rest : List Packet) :
    operationsOf (entries ++ rest) = operationsOf entries ++ operationsOf rest := List.flatMap_append

theorem length_entries (entries : List Packet) :
    entries.length = (operationsOf entries).length + abortsOf entries := by
  induction entries with
  | nil => rfl
  | cons packet entries ih =>
    unfold abortsOf at ih ⊢
    cases packet with
    | abort => simp; omega
    | operation number => simp; omega

namespace ConcurrentScheduler

variable {s s' : ConcurrentScheduler}

/-- A step leaves `state_` and the count as they are, or sets the flag, or changes both by one. -/
theorem Step.accesses (h : Step s s') :
    (s'.state = s.state ∧ s'.outstanding = s.outstanding) ∨
    (s'.state = s.state ||| abortingFlag ∧ s'.outstanding = s.outstanding) ∨
    (s'.state = s.state + 1 ∧ s'.outstanding = s.outstanding + 1) ∨
    (s'.state = s.state - 1 ∧ s.outstanding = s'.outstanding + 1) := by
  unfold outstanding threadsBetween waiting
  cases h with
  | enter => exact .inr (.inr (.inl ⟨rfl, by simp [entered]; omega⟩))
  | postUser before after number h | complete before after number h => exact .inl ⟨rfl, by simp [h]; omega⟩
  | postUserFailed before after number h => exact .inl ⟨rfl, by simp [h]⟩
  | correct before after call h => exact .inr (.inr (.inr ⟨rfl, by simp [h]; omega⟩))
  | abort h => exact .inr (.inl ⟨rfl, by simp [h]⟩)
  | countAbort h => exact .inr (.inr (.inl ⟨rfl, by simp [h]; omega⟩))
  | postAbort h => exact .inl ⟨rfl, by simp [h]; omega⟩
  | postAbortFailed h => exact .inl ⟨rfl, by simp [h]⟩
  | correctAbort h => exact .inr (.inr (.inr ⟨rfl, by simp [h]; omega⟩))
  | returnDrained h | loop h | timeout h | drainFailed h | dequeueFailed h | batchDone h | discard _ _ h =>
    exact .inl ⟨rfl, by simp [h]⟩
  | dequeue entries rest h hentries =>
    refine .inl ⟨rfl, ?_⟩
    simp [h, hentries]
    omega
  | drain _ _ h | consume _ _ h | postSystem _ _ _ h | postSystemFailed _ _ _ h | reschedule _ _ h =>
    refine .inl ⟨rfl, ?_⟩
    simp [h]
    try omega
  | startDraining _ h =>
    exact .inr (.inl ⟨rfl, by simp [h]⟩)
  | scheduleSystem _ _ h =>
    refine .inr (.inr (.inl ⟨rfl, ?_⟩))
    simp [h]
    omega
  | receiveAbort _ h | correctSystem _ _ _ h | decrement _ h =>
    refine .inr (.inr (.inr ⟨rfl, ?_⟩))
    simp [h]
    try omega

/-- Operations are created, and otherwise move. -/
theorem Step.operations (h : Step s s') :
    (s'.created = s.created ∧ (s'.live ++ s'.freed).Perm (s.live ++ s.freed)) ∨
    (s'.created = s.created + 1 ∧ s.live.length < maximumNumberOfOperations ∧
      (s'.live ++ s'.freed).Perm (s.live ++ s.freed ++ [s.created])) := by
  simp only [List.perm_iff_count]
  unfold live
  cases h with
  | enter hroom =>
    refine .inr ⟨rfl, hroom, fun number => ?_⟩
    unfold entered
    split_ifs <;> simp [List.count_cons] <;> omega
  | scheduleSystem number entries h hroom =>
    refine .inr ⟨rfl, hroom, fun number => ?_⟩
    simp [h, List.count_cons]
    omega
  | postUser before after number h | postUserFailed before after number h | correct before after call h
  | complete before after number h =>
    refine .inl ⟨rfl, fun number => ?_⟩
    simp [h, List.count_cons]
    try omega
  | abort h | countAbort h | postAbort h | postAbortFailed h | correctAbort h => exact .inl ⟨rfl, fun _ => by simp⟩
  | returnDrained h | loop h | timeout h | drainFailed h | dequeueFailed h | batchDone h =>
    exact .inl ⟨rfl, fun _ => by simp [h]⟩
  | dequeue entries rest h hentries =>
    refine .inl ⟨rfl, fun number => ?_⟩
    simp [h, hentries]
    omega
  | drain _ _ h | receiveAbort _ h | startDraining _ h | consume _ _ h | postSystem _ _ _ h | postSystemFailed _ _ _ h
  | correctSystem _ _ _ h | reschedule _ _ h | discard _ _ h | decrement _ h =>
    refine .inl ⟨rfl, fun number => ?_⟩
    simp [h, List.count_cons]
    try omega

theorem Step.freed_grows (h : Step s s') : s.freed <+: s'.freed := by
  cases h with
  | correct | drain | correctSystem | discard => exact List.prefix_append _ _
  | _ => exact List.prefix_refl _

theorem Step.posted_live (h : Step s s') {number : OperationNumber} (hposted : number ∈ s'.posted) :
    number ∈ s.posted ∨ number ∈ s.live := by
  unfold live
  cases h with
  | postUser before after _ h | postSystem _ _ _ h | reschedule _ _ h =>
    rcases List.mem_append.mp hposted with hposted | hposted
    · exact .inl hposted
    · rw [List.mem_singleton.mp hposted]
      simp [h]
  | _ => exact .inl hposted

theorem Step.postings (h : Step s s')
    (hs : s.posted.Perm (s.dequeued ++ operationsOf s.completionPort ++ s.pending)) :
    s'.posted.Perm (s'.dequeued ++ operationsOf s'.completionPort ++ s'.pending) := by
  simp only [List.perm_iff_count] at hs ⊢
  intro number
  have hnumber := hs number
  cases h with
  | enter => simpa [entered] using hnumber
  | postUser | postAbort | postSystem | reschedule =>
    simp [List.count_cons] at hnumber ⊢
    omega
  | dequeue entries rest h hentries =>
    simp [hentries] at hnumber ⊢
    omega
  | complete before after number h =>
    simp [h, List.count_cons] at hnumber ⊢
    omega
  | _ => exact hnumber

/-- The abort packet is posted once. -/
def Aborts (s : ConcurrentScheduler) : Prop :=
  abortsOf s.completionPort + abortsOf s.consumerThread.entries + s.destructor.between ≤
    match s.destructor with
    | .notCalled | .flagSet => 0
    | .posting | .postFailed | .joining => 1

theorem Step.aborts (h : Step s s') (hs : s.Aborts) : s'.Aborts := by
  unfold Aborts abortsOf at hs ⊢
  cases h with
  | abort h | countAbort h | postAbort h | postAbortFailed h | correctAbort h =>
    simp [h] at hs ⊢
    try omega
  | enter | postUserFailed | correct => exact hs
  | postUser | complete => simpa using hs
  | dequeue entries rest h hentries =>
    simp [h, hentries] at hs ⊢
    omega
  | returnDrained h | loop h | timeout h | drainFailed h | dequeueFailed h | batchDone h | startDraining _ h
  | postSystem _ _ _ h | postSystemFailed _ _ _ h | correctSystem _ _ _ h | reschedule _ _ h | discard _ _ h
  | decrement _ h | scheduleSystem _ _ h => simpa [h] using hs
  | drain packet entries h | receiveAbort entries h | consume number entries h =>
    simp [h, List.count_cons] at hs ⊢
    omega

structure Balanced (s : ConcurrentScheduler) : Prop where
  counts : ∃ flag, Holds s.state flag s.outstanding
  operations : (s.live ++ s.freed).Perm (List.range s.created)
  known : ∀ number ∈ s.posted, number < s.created
  postings : s.posted.Perm (s.dequeued ++ operationsOf s.completionPort ++ s.pending)
  aborts : s.Aborts
  room : s.live.length ≤ maximumNumberOfOperations

theorem Aborts.le_one (h : s.Aborts) :
    abortsOf s.completionPort + abortsOf s.consumerThread.entries + s.destructor.between ≤ 1 := by
  unfold Aborts at h
  split at h <;> omega

/-- Beside the operations that exist, one abort packet and one operation that was destroyed are counted. -/
theorem Aborts.outstanding_le (h : s.Aborts) : s.outstanding ≤ s.live.length + 2 := by
  have hone := h.le_one
  have hport := length_entries s.completionPort
  have hentries := length_entries s.consumerThread.entries
  have hthread : (operationsOf s.consumerThread.entries).length + s.consumerThread.between +
      s.consumerThread.beingConsumed ≤ s.consumerThread.operations.length + 1 := by
    cases s.consumerThread <;> simp
  simp only [outstanding, threadsBetween, waiting, live, List.length_append, List.length_map]
  omega

theorem new_balanced : new.Balanced where
  counts := ⟨false, Holds.zero⟩
  operations := .refl _
  known := nofun
  postings := .refl _
  aborts := Nat.le_refl 0
  room := Nat.zero_le _

theorem Balanced.live_lt (h : s.Balanced) {number : OperationNumber} (hlive : number ∈ s.live) :
    number < s.created := List.mem_range.mp (h.operations.subset (List.mem_append_left _ hlive))

theorem Step.balanced (h : Step s s') (hs : s.Balanced) : s'.Balanced := by
  have haborts := h.aborts hs.aborts
  have hcreated : s.created ≤ s'.created := by
    rcases h.operations with ⟨hcreated, -⟩ | ⟨hcreated, -⟩ <;> omega
  refine ⟨?_, ?_, fun number hposted => ?_, h.postings hs.postings, haborts, ?_⟩
  · obtain ⟨flag, hflag⟩ := hs.counts
    rcases h.accesses with ⟨hstate, hcount⟩ | ⟨hstate, hcount⟩ | ⟨hstate, hcount⟩ | ⟨hstate, hcount⟩
    · rw [hstate, hcount]
      exact ⟨flag, hflag⟩
    · rw [hstate, hcount]
      exact ⟨true, hflag.setFlag⟩
    · have hle := hs.aborts.outstanding_le
      have hroom := hs.room
      have hmax : maximumNumberOfOperations + 3 < 2 ^ 63 := by decide
      rw [hstate, hcount]
      exact ⟨flag, hflag.increment (by omega)⟩
    · rw [hcount] at hflag
      rw [hstate]
      exact ⟨flag, hflag.decrement⟩
  · rcases h.operations with ⟨hsame, hperm⟩ | ⟨hnew, -, hperm⟩
    · rw [hsame]
      exact hperm.trans hs.operations
    · rw [hnew, List.range_succ]
      exact hperm.trans (hs.operations.append_right _)
  · rcases h.posted_live hposted with hposted | hlive
    · exact (hs.known number hposted).trans_le hcreated
    · exact (hs.live_lt hlive).trans_le hcreated
  · have hfreed := h.freed_grows.length_le
    have hroom := hs.room
    rcases h.operations with ⟨-, hperm⟩ | ⟨-, hfits, hperm⟩
    · have hlength := hperm.length_eq
      simp only [List.length_append] at hlength
      omega
    · have hlength := hperm.length_eq
      simp only [List.length_append, List.length_singleton] at hlength
      omega

theorem Reachable.balanced (h : s.Reachable) : s.Balanced := by
  induction h with
  | refl => exact new_balanced
  | tail _ hlast ih => exact hlast.balanced ih

/-- The thread has drained the port, and no call will post again. -/
structure Drained (s : ConcurrentScheduler) : Prop where
  returned : s.consumerThread = .drained
  flagged : isFlagged s.state = true
  calls : ∀ number, .posting number ∉ s.calls
  port : operationsOf s.completionPort = []
  pending : s.pending = []
  freed : s.posted ⊆ s.freed

theorem Balanced.empty (h : s.Balanced) (hstate : s.state = abortingFlag) :
    isFlagged s.state = true ∧ s.calls = [] ∧ s.completionPort = [] ∧ s.pending = [] := by
  obtain ⟨flag, hflag⟩ := h.counts
  obtain ⟨rfl, hzero⟩ := hflag.eq_flagBit.mp hstate
  simp only [outstanding, threadsBetween, waiting] at hzero
  exact ⟨hflag.isFlagged_eq, List.length_eq_zero_iff.mp (by omega), List.length_eq_zero_iff.mp (by omega),
    List.length_eq_zero_iff.mp (by omega)⟩

theorem Balanced.returnDrained (h : s.Balanced) (hthread : s.consumerThread = .checking)
    (hstate : s.state = abortingFlag) : Drained { s with consumerThread := .drained } := by
  obtain ⟨hflagged, hcalls, hport, hpending⟩ := h.empty hstate
  have hlive : s.live = [] := by simp [live, hthread, hcalls, hport, hpending]
  refine ⟨rfl, hflagged, fun number => ?_, ?_, hpending, fun number hposted => ?_⟩
  · simp [hcalls]
  · rw [hport, operationsOf_nil]
  · have hfreed := h.operations
    rw [hlive, List.nil_append] at hfreed
    exact hfreed.symm.subset (List.mem_range.mpr (h.known number hposted))

/-- The flag stays set. -/
theorem Step.flagged (h : Step s s') (hs : s.Balanced) (hflagged : isFlagged s.state = true) :
    isFlagged s'.state = true := by
  obtain ⟨flag, hflag⟩ := hs.counts
  obtain rfl : flag = true := hflag.isFlagged_eq.symm.trans hflagged
  obtain ⟨flag', hflag'⟩ := (h.balanced hs).counts
  rcases h.accesses with ⟨hstate, -⟩ | ⟨hstate, -⟩ | ⟨hstate, hcount⟩ | ⟨hstate, hcount⟩
  · rwa [hstate]
  · rw [hstate]
    exact hflag.setFlag.isFlagged_eq
  · rw [hstate]
    exact (hflag.increment (by rw [← hcount]; exact hflag'.fits)).isFlagged_eq
  · rw [hcount] at hflag
    rw [hstate]
    exact hflag.decrement.isFlagged_eq

/-- After the thread has returned, calls are rejected, and the abort packet is all that can be posted. -/
theorem Step.drained (h : Step s s') (hs : s.Balanced) (hdrained : s.Drained) :
    s'.Drained ∧ s'.posted = s.posted := by
  have hflagged' := h.flagged hs hdrained.flagged
  obtain ⟨hthread, hflagged, hcalls, hport, hpending, hfreed⟩ := hdrained
  cases h with
  | enter =>
    refine ⟨⟨hthread, hflagged', fun number hmem => ?_, hport, hpending, hfreed⟩, rfl⟩
    rw [entered, if_pos hflagged] at hmem
    rcases List.mem_cons.mp hmem with hmem | hmem
    · cases hmem
    · exact hcalls number hmem
  | postUser before after number h | postUserFailed before after number h =>
    exact absurd (by simp [h]) (hcalls number)
  | correct before after call h =>
    refine ⟨⟨hthread, hflagged', fun number hmem => hcalls number ?_, hport, hpending,
      fun number hposted => List.mem_append_left _ (hfreed hposted)⟩, rfl⟩
    rw [h]
    rcases List.mem_append.mp hmem with hmem | hmem <;> simp [hmem]
  | abort | countAbort | postAbortFailed | correctAbort =>
    exact ⟨⟨hthread, hflagged', hcalls, hport, hpending, hfreed⟩, rfl⟩
  | postAbort => exact ⟨⟨hthread, hflagged', hcalls, by simpa using hport, hpending, hfreed⟩, rfl⟩
  | complete before after number h =>
    rw [hpending] at h
    simp at h
  | _ => simp_all

theorem Drained.later (h : Relation.ReflTransGen Step s s') (hs : s.Balanced) (hdrained : s.Drained) :
    s'.Drained ∧ s'.posted = s.posted := by
  have hlater : s'.Balanced ∧ s'.Drained ∧ s'.posted = s.posted := by
    induction h with
    | refl => exact ⟨hs, hdrained, rfl⟩
    | tail _ hlast ih =>
      obtain ⟨hbalanced, hdrained, hposted⟩ := ih
      obtain ⟨hdrained', hposted'⟩ := hlast.drained hbalanced hdrained
      exact ⟨hlast.balanced hbalanced, hdrained', hposted'.trans hposted⟩
  exact hlater.2

theorem Reachable.drained (h : s.Reachable) (hthread : s.consumerThread = .drained) : s.Drained := by
  induction h with
  | refl => cases hthread
  | @tail s s' hprev hlast ih =>
    have hbalanced := Reachable.balanced hprev
    by_cases hbefore : s.consumerThread = .drained
    · exact (hlast.drained hbalanced (ih hbefore)).1
    · cases hlast with
      | returnDrained h hdraining hstate => exact hbalanced.returnDrained h hstate
      | enter | postUser | postUserFailed | correct | abort | countAbort | postAbort | postAbortFailed | correctAbort
      | complete => exact absurd hthread hbefore
      | _ => cases hthread

/-- In every state that any interleaving of the threads reaches, the low bits of `state_` count the
threads that are between an increment and their post or correction, the packets that are posted, pending or
dequeued, and the operation that is being consumed. No decrement borrows from the flag. When the consumer
thread has returned because only the flag was left, every operation that was posted was dequeued as
often and freed once, and no operation is posted afterwards. -/
theorem outstandingOperations_counted (s : ConcurrentScheduler) (h : s.Reachable) :
    lowBits s.state = s.threadsBetween + s.waiting + s.consumerThread.beingConsumed ∧
    (∀ s', Step s s' → s'.state = s.state - 1 →
      lowBits s.state = lowBits s'.state + 1 ∧ isFlagged s'.state = isFlagged s.state) ∧
    (s.consumerThread = .drained →
      s.dequeued.Perm s.posted ∧ (∀ number ∈ s.posted, s.freed.count number = 1) ∧
        ∀ s', Relation.ReflTransGen Step s s' → s'.posted = s.posted) := by
  have hbalanced := h.balanced
  obtain ⟨flag, hflag⟩ := hbalanced.counts
  refine ⟨hflag.lowBits_eq, fun s' hstep hdecrement => ?_, fun hthread => ?_⟩
  · have hcount : s.outstanding = s'.outstanding + 1 := by
      rcases hstep.accesses with ⟨hstate, -⟩ | ⟨hstate, -⟩ | ⟨hstate, -⟩ | ⟨-, hcount⟩
      · rw [hstate] at hdecrement
        bv_omega
      · have hset := hflag.setFlag.toNat
        have hfits := hflag.fits
        have hvalue := hflag.toNat
        rw [hstate] at hdecrement
        rw [show s.state ||| flagBit 63 = s.state - 1 from hdecrement, if_pos rfl] at hset
        split_ifs at hvalue <;> bv_omega
      · rw [hstate] at hdecrement
        bv_omega
      · exact hcount
    rw [hcount] at hflag
    have hflag' := hflag.decrement
    rw [hdecrement, hflag.lowBits_eq, hflag'.lowBits_eq, hflag.isFlagged_eq, hflag'.isFlagged_eq]
    exact ⟨rfl, rfl⟩
  · have hdrained := h.drained hthread
    have hpostings := hbalanced.postings
    rw [hdrained.port, hdrained.pending, List.append_nil, List.append_nil] at hpostings
    have hnodup : (s.live ++ s.freed).Nodup := hbalanced.operations.nodup_iff.mpr List.nodup_range
    exact ⟨hpostings.symm, fun number hposted =>
      List.count_eq_one_of_mem (List.nodup_append.mp hnodup).2.1 (hdrained.freed hposted),
      fun s' hlater => (Drained.later hlater hbalanced hdrained).2⟩

/-- An operation schedules a receive and ends; the destructor posts its packet before the receive is
cancelled, and both come in one batch. -/
theorem drainedScheduler_counted : ∃ s : ConcurrentScheduler, s.consumerThread = .drained ∧ s.posted = [0, 1] ∧
    s.dequeued.Perm s.posted ∧ ∀ number ∈ s.posted, s.freed.count number = 1 := by
  have hposted := ((Relation.ReflTransGen.refl (r := Step) (a := new)).tail (.enter _ (by decide))).tail
    (.postUser _ [] [] 0 rfl)
  have hexecuting := ((hposted.tail (.loop _ rfl (by decide))).tail
    (.dequeue _ [.operation 0] [] rfl rfl (by decide))).tail (.consume _ 0 [] rfl rfl)
  have hscheduled := (hexecuting.tail (.scheduleSystem _ 0 [] rfl (by decide))).tail (.postSystem _ 0 1 [] rfl)
  have hconsumed := ((hscheduled.tail (.discard _ 0 [] rfl)).tail (.decrement _ [] rfl)).tail (.batchDone _ rfl)
  have haborted := ((hconsumed.tail (.abort _ rfl)).tail (.countAbort _ rfl)).tail (.postAbort _ rfl)
  have hbatch := ((haborted.tail (.complete _ [] [] 1 rfl)).tail (.loop _ rfl (by decide))).tail
    (.dequeue _ [.abort, .operation 1] [] rfl rfl (by decide))
  have hdraining := (hbatch.tail (.receiveAbort _ [.operation 1] rfl rfl)).tail (.startDraining _ [.operation 1] rfl)
  have hfreed := (hdraining.tail (.drain _ (.operation 1) [] rfl rfl)).tail (.decrement _ [] rfl)
  have hdrained := (hfreed.tail (.batchDone _ rfl)).tail (.returnDrained _ rfl rfl (by decide))
  obtain ⟨-, -, hreturned⟩ := outstandingOperations_counted _ hdrained
  obtain ⟨hdequeued, honce, -⟩ := hreturned rfl
  exact ⟨_, rfl, rfl, hdequeued, honce⟩

end ConcurrentScheduler

end Farseer.Windows
