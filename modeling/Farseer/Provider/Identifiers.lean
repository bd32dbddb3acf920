import Farseer.Linux.Identifiers
import Farseer.Windows.Identifiers

/-! How long socket identifiers stay valid and unique, on Linux and on Windows: until the sequencer has gone round. It
never looks whether it has, and `invalidSocketIdentifier` is the identifier that it generates then. -/

namespace Farseer

open Numbering Relation

variable {υ : Type}

/-- In every run of either backend: all identifiers that are generated are fresh, if and only if there are fewer of them
than the identifiers have values, those counted that other threads get and those that are lost. -/
theorem identifiers_fresh_iff [Ballotin] (registry : ProtocolRegistry) :
    (∀ start b : Linux.Ledger υ, start.Initial → ReflTransGen (Linux.Ledger.Step registry) start b →
      ((∀ a a', ReflTransGen (Linux.Ledger.Step registry) start a → Linux.Ledger.Step registry a a' →
          ReflTransGen (Linux.Ledger.Step registry) a' b → a.Fresh a') ↔
        b.total < 2 ^ 64)) ∧
    ∀ start b : Windows.Ledger υ, start.Initial → ReflTransGen (Windows.Ledger.Step registry) start b →
      ((∀ a a', ReflTransGen (Windows.Ledger.Step registry) start a → Windows.Ledger.Step registry a a' →
          ReflTransGen (Windows.Ledger.Step registry) a' b → a.Fresh a') ↔
        b.total < 2 ^ 32) :=
  ⟨fun _ _ hstart hrun => Linux.Ledger.fresh_run_iff hstart hrun,
    fun _ _ hstart hrun => Windows.Ledger.fresh_run_iff hstart hrun⟩

namespace Windows

def listen : Operation Unit := .listen 1 "127.0.0.1" 8080 fun _ _ => pure ()

def waiting (taken : ℕ) : Ledger Unit where
  scheduler := (Ledger.generated ((OperationScheduler.new ()).withScript { identifiersTaken := [taken] })).scheduled listen
  total := 1
  inFlight := []
  calls := []

/-- It listens, and has posted an accept. -/
def listening (taken : ℕ) : Ledger Unit :=
  let _ := referenceBallotin
  { scheduler := (waiting taken).scheduler.consumed Linux.emptyRegistry [] [] listen (.succeeded [])
    total := 1 + taken + 1
    inFlight := givenIdentifiers (2 ^ 32) 1 [taken]
    calls := (waiting taken).consumeCalls [] [] listen (.succeeded []) }

theorem listening_run (taken : ℕ) : ∃ start : Ledger Unit, start.Initial ∧
    ReflTransGen (@Ledger.Step Unit referenceBallotin Linux.emptyRegistry) start (waiting taken) ∧
    @Ledger.Step Unit referenceBallotin Linux.emptyRegistry (waiting taken) (listening taken) := by
  let _ := referenceBallotin
  refine ⟨_, ⟨(), rfl⟩, ?_, Ledger.Step.consume (waiting taken) [] [] listen (.succeeded []) rfl rfl fun _ => rfl⟩
  refine ((ReflTransGen.refl.tail (.outcomes _ { identifiersTaken := [taken] })).tail (.generate _)).tail ?_
  exact .schedule _ listen [] rfl rfl (.refl _)

end Windows

namespace Linux

def openLoop : EventLoop Unit :=
  { (Ledger.generated (EventLoop.new 3 4 ())).performed emptyRegistry [.listen 1 "127.0.0.1" 8080 silent] [] with
    control := .waiting }

def waiting (taken : ℕ) : Ledger Unit where
  loop := (openLoop.withScript { accepts := [.accepted 9 (.address "127.0.0.1" 5000)], identifiersTaken := [taken] }).waited
    [{ fileDescriptor := 8, events := EPOLLIN }]
  total := 1
  inFlight := []
  calls := []

/-- The client was accepted, or its identifier was used. -/
def accepting (taken : ℕ) : Ledger Unit :=
  let _ := referenceBallotin
  { loop := (waiting taken).loop.handled emptyRegistry { fileDescriptor := 8, events := EPOLLIN } []
    total := after 1 ((waiting taken).loop.calls.map World.takenByOthers)
    inFlight := [] ++ givenIdentifiers (2 ^ 64) 1 ((waiting taken).loop.calls.map World.takenByOthers)
    calls := (waiting taken).loop.calls }

theorem accepting_run (taken : ℕ) : ∃ start : Ledger Unit, start.Initial ∧
    ReflTransGen (@Ledger.Step Unit referenceBallotin emptyRegistry) start (waiting taken) ∧
    @Ledger.Step Unit referenceBallotin emptyRegistry (waiting taken) (accepting taken) := by
  let _ := referenceBallotin
  set start : Ledger Unit := { loop := EventLoop.new 3 4 (), total := 0, inFlight := [], calls := [] }
  have hwake : start.loop.Reports [{ fileDescriptor := 4, events := EPOLLIN }] :=
    ⟨by decide, by decide, fun e he => by rw [List.mem_singleton.mp he]; decide⟩
  refine ⟨start, ⟨EventLoop.new_initial 3 4 (), rfl, rfl, rfl⟩, ?_, ?_⟩
  · have hgenerated := (.refl : ReflTransGen (Ledger.Step emptyRegistry) start start).tail (.generate start)
    have hinserted := hgenerated.tail
      (.insertTask _ (some (.listen 1 "127.0.0.1" 8080 silent)) .success [] (.refl _))
    have hwaited := hinserted.tail (.turn _ _ (.wait _ [{ fileDescriptor := 4, events := EPOLLIN }] rfl
      ⟨hwake.size, hwake.distinct, hwake.subscribed⟩) nofun)
    have htransferred := hwaited.tail (.turn _ _ (.transfer _ _ [] .success rfl rfl) nofun)
    have hexecuted := htransferred.tail (.turn _ _ (.executeTask _ (.listen 1 "127.0.0.1" 8080 silent) [] [] rfl) nofun)
    have hdone := hexecuted.tail (.turn _ _ (.tasksDone _ [] rfl) nofun)
    have hready := hdone.tail (.turn _ _ (.batchDone _ rfl) nofun)
    have hscript := hready.tail (.outcomes _
      { accepts := [.accepted 9 (.address "127.0.0.1" 5000)], identifiersTaken := [taken] })
    refine hscript.tail (.turn _ _ (.wait _ [{ fileDescriptor := 8, events := EPOLLIN }] rfl ⟨?_, ?_, ?_⟩) nofun)
    · exact (by decide +kernel : 1 ≤ min (openLoop.world.sockets.size + 1) maximumNumberOfEvents)
    · exact List.nodup_singleton _
    · intro e he
      rw [List.mem_singleton.mp he]
      exact (by decide +kernel : openLoop.world.kernel.interestList.contains 8 = true)
  · refine .turn (waiting taken) _ (.socketEvents _ _ [] rfl (show (8 : ℕ) ≠ 4 by decide)) ?_
    change (EventLoop.handled emptyRegistry (waiting taken).loop _ []).control ≠ .batch [_]
    unfold EventLoop.handled
    split <;> nofun

end Linux

/-- When all identifiers but one were taken a client is accepted, and an accept is posted, under the one that is not
valid. -/
theorem identifiers_wrap :
    (∃ start b : Linux.Ledger Unit, start.Initial ∧
      ReflTransGen (@Linux.Ledger.Step Unit referenceBallotin Linux.emptyRegistry) start b ∧
      b.loop.world.sockets.contains invalidSocketIdentifier = true ∧
      ¬ ∀ a a', ReflTransGen (@Linux.Ledger.Step Unit referenceBallotin Linux.emptyRegistry) start a →
        @Linux.Ledger.Step Unit referenceBallotin Linux.emptyRegistry a a' →
        ReflTransGen (@Linux.Ledger.Step Unit referenceBallotin Linux.emptyRegistry) a' b → a.Fresh a') ∧
    ∃ start b : Windows.Ledger Unit, start.Initial ∧
      ReflTransGen (@Windows.Ledger.Step Unit referenceBallotin Linux.emptyRegistry) start b ∧
      b.scheduler.world.sockets.contains invalidSocketIdentifier = true ∧
      ¬ ∀ a a', ReflTransGen (@Windows.Ledger.Step Unit referenceBallotin Linux.emptyRegistry) start a →
        @Windows.Ledger.Step Unit referenceBallotin Linux.emptyRegistry a a' →
        ReflTransGen (@Windows.Ledger.Step Unit referenceBallotin Linux.emptyRegistry) a' b → a.Fresh a' := by
  constructor
  · obtain ⟨start, hstart, hbefore, hstep⟩ := Linux.accepting_run (2 ^ 64 - 2)
    refine ⟨start, _, hstart, hbefore.tail hstep, by decide +kernel, fun hfresh => ?_⟩
    have htotal : (Linux.accepting (2 ^ 64 - 2)).total = 2 ^ 64 := by decide +kernel
    exact (hfresh _ _ hbefore hstep .refl).valid (zero_mem_handed (by decide) (le_of_eq htotal.symm))
  · obtain ⟨start, hstart, hbefore, hstep⟩ := Windows.listening_run (2 ^ 32 - 2)
    refine ⟨start, _, hstart, hbefore.tail hstep, by decide +kernel, fun hfresh => ?_⟩
    have htotal : (Windows.listening (2 ^ 32 - 2)).total = 2 ^ 32 := by decide +kernel
    exact (hfresh _ _ hbefore hstep .refl).valid (zero_mem_handed (by decide) (le_of_eq htotal.symm))

/-- Where no other thread takes one they are fresh. -/
theorem identifiers_start :
    (∃ start b : Linux.Ledger Unit, start.Initial ∧ b.total = 2 ∧
      ∀ a a', ReflTransGen (@Linux.Ledger.Step Unit referenceBallotin Linux.emptyRegistry) start a →
        @Linux.Ledger.Step Unit referenceBallotin Linux.emptyRegistry a a' →
        ReflTransGen (@Linux.Ledger.Step Unit referenceBallotin Linux.emptyRegistry) a' b → a.Fresh a') ∧
    ∃ start b : Windows.Ledger Unit, start.Initial ∧ b.total = 2 ∧
      ∀ a a', ReflTransGen (@Windows.Ledger.Step Unit referenceBallotin Linux.emptyRegistry) start a →
        @Windows.Ledger.Step Unit referenceBallotin Linux.emptyRegistry a a' →
        ReflTransGen (@Windows.Ledger.Step Unit referenceBallotin Linux.emptyRegistry) a' b → a.Fresh a' := by
  obtain ⟨hlinux, hwindows⟩ := @identifiers_fresh_iff Unit referenceBallotin Linux.emptyRegistry
  constructor
  · obtain ⟨start, hstart, hbefore, hstep⟩ := Linux.accepting_run 0
    have htotal : (Linux.accepting 0).total = 2 := by decide +kernel
    exact ⟨start, _, hstart, htotal, (hlinux start _ hstart (hbefore.tail hstep)).mpr (by rw [htotal]; norm_num)⟩
  · obtain ⟨start, hstart, hbefore, hstep⟩ := Windows.listening_run 0
    have htotal : (Windows.listening 0).total = 2 := by decide +kernel
    exact ⟨start, _, hstart, htotal, (hwindows start _ hstart (hbefore.tail hstep)).mpr (by rw [htotal]; norm_num)⟩

end Farseer
