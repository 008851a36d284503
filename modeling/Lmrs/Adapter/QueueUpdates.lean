import Lmrs.Adapter.EstimateChat
import Lmrs.Lib.Linearizable
import Lmrs.Lib.Transition

/-!
# Overlapping updates of the queue

Source: `lmrs/adapter/registration.py`, `_QueueHolder`, `ChatCommand.delegate`, `CancelCommand.delegate`;
`lmrs/commands.py`, `CanonicalChatHandler.chat`.

A chat takes the holder's queue when it is called, measures the capacity later, and puts the queue it
took, with its entry added, back into the holder when it is asked to wait. A cancellation replaces the
holder's queue at once. A `QueueService` is the adapter with the chats that are between these points;
its `clock` and its `history` of finished updates are not in the program.

* `chat_alone`: with nothing in between, the three points are the chat command.
* `recorded_step`: what one event keeps.
* `queue_updates_linearizable`: when no chat puts back a queue that has been replaced since it took it,
  the queue is at every moment what the finished updates give in an order consistent with real time.
-/

namespace Lmrs

open Python Transition Linearizable

/-- An update of the queue. -/
inductive QueueUpdate where
  | add (entry : QueueEntry)
  | cancel (requestId : String)

/-- One update. -/
def QueueUpdate.apply (queue : RequestQueue) : QueueUpdate → RequestQueue
  | .add entry => queue.add entry
  | .cancel requestId => queue.cancel requestId

/-- A chat between its call and its verdict. -/
structure QueueChat where
  plan : ChatPlan
  /-- The queue it took from the holder. -/
  captured : RequestQueue
  /-- When it took it. -/
  since : Nat
  /-- The capacity it measured, once it has. -/
  capacity : Option CapacitySnapshot := none

/-- The adapter, the chats running in it, and the updates of the queue that have finished. -/
structure QueueService where
  adapter : AdapterState
  chats : List QueueChat := []
  clock : Nat := 0
  history : List (Timed QueueUpdate) := []

/-- What happens. -/
inductive HolderEvent where
  /-- A chat is called: it is sized and takes the queue. -/
  | capture (params : Dict Value) (r : Readings)
  /-- The `i`-th running chat measures the capacity. -/
  | measure (i : Nat) (r : Readings)
  /-- The `i`-th running chat gets its verdict and, when it is to wait, replaces the queue. -/
  | settle (i : Nat)
  | cancel (params : Dict Value)
  /-- Something else changes the facts, the residency record or the running switches. -/
  | elsewhere (facts : VramFactsStore.File) (residency : Option ModelResidency)
      (switches : List String)

namespace QueueService

/-- The verdict of a running chat that has measured. -/
def verdict (c : QueueService) (chat : QueueChat) (capacity : CapacitySnapshot) :
    Except PyException ChatStep :=
  (chatHandler c.adapter).chatStep chat.captured chat.plan.requestMetadata chat.plan.queueMetadata
    (chat.plan.request capacity)

/-- One event, but for the clock. -/
def act (c : QueueService) : HolderEvent → QueueService
  | .capture params r =>
      match ChatCommand.plan r params with
      | .ok (.inr plan) =>
          { c with chats := c.chats ++ [{ plan, captured := c.adapter.queue, since := c.clock }] }
      | _ => c
  | .measure i r =>
      match c.chats[i]? with
      | none => c
      | some chat =>
          match capacitySnapshot c.adapter r chat.plan.modelName with
          | .error _ => { c with adapter := c.adapter.measured r, chats := c.chats.eraseIdx i }
          | .ok capacity =>
              { c with adapter := c.adapter.measured r
                       chats := c.chats.set i { chat with capacity := some capacity } }
  | .settle i =>
      match c.chats[i]? with
      | none => c
      | some chat =>
          match chat.capacity with
          | none => c
          | some capacity =>
              match c.verdict chat capacity with
              | .ok (.queued updated entry _) =>
                  { c with adapter := { c.adapter with queue := updated }
                           chats := c.chats.eraseIdx i
                           history := c.history ++ [⟨.add entry, chat.since, c.clock⟩] }
              | _ => { c with chats := c.chats.eraseIdx i }
  | .cancel params =>
      match param params "request_id" with
      | .error _ => c
      | .ok requestId =>
          { c with adapter := (CancelCommand.delegate c.adapter params).state
                   history := c.history ++ [⟨.cancel requestId, c.clock, c.clock⟩] }
  | .elsewhere facts residency switches =>
      { c with adapter := { c.adapter with facts, residency, switches } }

/-- One event. -/
def step (c : QueueService) (e : HolderEvent) : QueueService :=
  { c.act e with clock := c.clock + 1 }

/-- A queue is put back only while the holder still has the queue that was taken. -/
def PutsBackTaken (c : QueueService) : HolderEvent → Prop
  | .settle i => ∀ chat capacity updated entry result, c.chats[i]? = some chat →
      chat.capacity = some capacity →
      c.verdict chat capacity = .ok (.queued updated entry result) →
      c.adapter.queue = chat.captured
  | _ => True

/-- An adapter with no chat running. -/
def start (s : AdapterState) : QueueService := { adapter := s }

/-- **The queue is accounted for**: it is what the finished updates give in an order consistent with
real time; an entry that was queued at the start or added since is in it, unless a cancellation named
its request; and what a cancellation named is not in it, unless a chat added it. -/
structure Accounted (queue : RequestQueue) (c : QueueService) : Prop where
  explained : Explains QueueUpdate.apply queue c.history c.adapter.queue
  kept : ∀ entry, (entry ∈ queue.entries ∨ ∃ a ∈ c.history, a.op = .add entry) →
    (∀ a ∈ c.history, a.op ≠ .cancel entry.requestId) → entry ∈ c.adapter.queue.entries
  gone : ∀ requestId, (∃ a ∈ c.history, a.op = .cancel requestId) →
    (∀ a ∈ c.history, ∀ entry, a.op = .add entry → entry.requestId ≠ requestId) →
    ∀ entry ∈ c.adapter.queue.entries, entry.requestId ≠ requestId

/-! ## What one event keeps -/

/-- What holds of every state of a run that puts back only what it took. -/
structure Recorded (queue : RequestQueue) (c : QueueService) : Prop where
  order : InFinishOrder c.clock c.history
  since : ∀ chat ∈ c.chats, chat.since ≤ c.clock
  queue_eq : c.adapter.queue = applyAll QueueUpdate.apply queue c.history

section recorded

variable {queue : RequestQueue} {c d : QueueService}

/-- An event that leaves the queue and the history as they were. -/
theorem Recorded.keep (h : c.Recorded queue) (hqueue : d.adapter.queue = c.adapter.queue)
    (hhistory : d.history = c.history) (hsince : ∀ chat ∈ d.chats, chat.since ≤ c.clock) :
    Recorded queue { d with clock := c.clock + 1 } := by
  constructor
  · show InFinishOrder (c.clock + 1) d.history
    rw [hhistory]
    exact h.order.tick
  · intro chat hchat
    exact Nat.le_succ_of_le (hsince chat hchat)
  · show d.adapter.queue = applyAll QueueUpdate.apply queue d.history
    rw [hqueue, hhistory]
    exact h.queue_eq

/-- An event that applies one update. -/
theorem Recorded.record (h : c.Recorded queue) (update : QueueUpdate) {started : Nat}
    (hstarted : started ≤ c.clock) (hqueue : d.adapter.queue = update.apply c.adapter.queue)
    (hhistory : d.history = c.history ++ [⟨update, started, c.clock⟩])
    (hsince : ∀ chat ∈ d.chats, chat.since ≤ c.clock) :
    Recorded queue { d with clock := c.clock + 1 } := by
  constructor
  · show InFinishOrder (c.clock + 1) d.history
    rw [hhistory]
    exact h.order.concat hstarted
  · intro chat hchat
    exact Nat.le_succ_of_le (hsince chat hchat)
  · show d.adapter.queue = applyAll QueueUpdate.apply queue d.history
    rw [hqueue, hhistory, applyAll_concat, ← h.queue_eq]

/-- Every running chat took its queue before now. -/
theorem Recorded.since_of_mem (h : c.Recorded queue) {i : Nat} {chat : QueueChat}
    (hchat : c.chats[i]? = some chat) : chat.since ≤ c.clock :=
  h.since chat (List.mem_of_getElem? hchat)

/-- The chats left when one ends took their queue before now. -/
theorem Recorded.since_eraseIdx (h : c.Recorded queue) (i : Nat) :
    ∀ chat ∈ c.chats.eraseIdx i, chat.since ≤ c.clock :=
  fun chat hchat => h.since chat (List.mem_of_mem_eraseIdx hchat)

/-- A chat is called. -/
theorem recorded_capture (h : c.Recorded queue) (params : Dict Value) (r : Readings) :
    (c.step (.capture params r)).Recorded queue := by
  simp only [step, act]
  split
  · apply h.keep (d := { c with chats := c.chats ++ _ }) rfl rfl
    intro chat hchat
    rcases List.mem_append.mp hchat with hold | hnew
    · exact h.since chat hold
    · rw [List.mem_singleton.mp hnew]
  · exact h.keep rfl rfl h.since

/-- A running chat measures the capacity. -/
theorem recorded_measure (h : c.Recorded queue) (i : Nat) (r : Readings) :
    (c.step (.measure i r)).Recorded queue := by
  simp only [step, act]
  split
  · exact h.keep rfl rfl h.since
  · next chat hchat =>
      split
      · exact h.keep (d := { c with adapter := c.adapter.measured r
                                    chats := c.chats.eraseIdx i }) rfl rfl (h.since_eraseIdx i)
      · next capacity _ =>
          apply h.keep (d := { c with adapter := c.adapter.measured r
                                      chats := c.chats.set i _ }) rfl rfl
          intro other hother
          rcases List.mem_or_eq_of_mem_set hother with hold | rfl
          · exact h.since other hold
          · have hsince : chat.since ≤ c.clock := h.since_of_mem hchat
            exact hsince

/-- A running chat gets its verdict. The queue it puts back is the one it took with its entry added, so
the guard makes this an addition to the queue of the holder. -/
theorem recorded_settle (h : c.Recorded queue) {i : Nat} (hguard : c.PutsBackTaken (.settle i)) :
    (c.step (.settle i)).Recorded queue := by
  have hsame : Recorded queue { c with clock := c.clock + 1 } := h.keep rfl rfl h.since
  simp only [step, act]
  split
  · exact hsame
  · next chat hchat =>
      split
      · exact hsame
      · next capacity hcapacity =>
          split
          · next updated entry result hverdict =>
              have htaken := hguard chat capacity updated entry result hchat hcapacity hverdict
              have hupdated : updated = chat.captured.add entry :=
                (CanonicalChatHandler.chatStep_queued hverdict).1
              rw [← htaken] at hupdated
              exact h.record (d := { c with adapter := { c.adapter with queue := updated }
                                            chats := c.chats.eraseIdx i
                                            history := c.history ++ _ })
                (.add entry) (h.since_of_mem hchat) hupdated rfl (h.since_eraseIdx i)
          · exact h.keep (d := { c with chats := c.chats.eraseIdx i }) rfl rfl (h.since_eraseIdx i)

/-- A request is cancelled. -/
theorem recorded_cancel (h : c.Recorded queue) (params : Dict Value) :
    (c.step (.cancel params)).Recorded queue := by
  simp only [step, act]
  split
  · exact h.keep rfl rfl h.since
  · next requestId hid =>
      have hqueue : (CancelCommand.delegate c.adapter params).state.queue =
          c.adapter.queue.cancel requestId := by
        unfold CancelCommand.delegate
        rw [hid]
      exact h.record (d := { c with adapter := (CancelCommand.delegate c.adapter params).state
                                    history := c.history ++ _ })
        (.cancel requestId) le_rfl hqueue rfl h.since

/-- **One event keeps the record** when it puts back only what was taken. -/
theorem recorded_step (h : c.Recorded queue) {e : HolderEvent} (hguard : c.PutsBackTaken e) :
    (c.step e).Recorded queue := by
  cases e with
  | capture params r => exact recorded_capture h params r
  | measure i r => exact recorded_measure h i r
  | settle i => exact recorded_settle h hguard
  | cancel params => exact recorded_cancel h params
  | elsewhere facts residency switches =>
      exact h.keep (d := { c with adapter := { c.adapter with facts, residency, switches } }) rfl rfl
        h.since

end recorded

/-! ## What the updates of a list leave -/

section updates

variable {queue : RequestQueue} {ops : List QueueUpdate} {entry : QueueEntry} {requestId : String}

/-- An entry is left that was there or is added, when nothing cancels its request. -/
theorem mem_foldl_apply (hcancel : ∀ u ∈ ops, u ≠ .cancel entry.requestId)
    (hentry : entry ∈ queue.entries ∨ .add entry ∈ ops) :
    entry ∈ (ops.foldl QueueUpdate.apply queue).entries := by
  induction ops generalizing queue with
  | nil =>
      rcases hentry with hold | hnew
      · exact hold
      · exact absurd hnew List.not_mem_nil
  | cons u ops ih =>
      rw [List.foldl_cons]
      apply ih
      · exact fun u' hu' => hcancel u' (List.mem_cons_of_mem u hu')
      · rcases hentry with hold | hnew
        · left
          cases u with
          | add other => exact List.mem_append_left [other] hold
          | cancel other =>
              have hne : entry.requestId ≠ other := by
                rintro rfl
                exact hcancel _ (List.mem_cons_self ..) rfl
              exact RequestQueue.mem_cancel.mpr ⟨hold, hne⟩
        · rcases List.mem_cons.mp hnew with rfl | hlater
          · exact Or.inl (List.mem_append_right queue.entries (List.mem_singleton_self entry))
          · exact Or.inr hlater

/-- Nothing of a request is left that is cancelled, or was not there, and is not added. -/
theorem not_mem_foldl_apply (hadd : ∀ entry, .add entry ∈ ops → entry.requestId ≠ requestId)
    (hgone : (∀ entry ∈ queue.entries, entry.requestId ≠ requestId) ∨ .cancel requestId ∈ ops) :
    ∀ entry ∈ (ops.foldl QueueUpdate.apply queue).entries, entry.requestId ≠ requestId := by
  induction ops generalizing queue with
  | nil =>
      rcases hgone with hold | hnew
      · exact hold
      · exact absurd hnew List.not_mem_nil
  | cons u ops ih =>
      rw [List.foldl_cons]
      apply ih
      · exact fun entry hentry => hadd entry (List.mem_cons_of_mem u hentry)
      · rcases hgone with hold | hnew
        · left
          intro entry hentry
          cases u with
          | add other =>
              rcases List.mem_append.mp hentry with hbefore | hadded
              · exact hold entry hbefore
              · rw [List.mem_singleton.mp hadded]
                exact hadd other (List.mem_cons_self ..)
          | cancel other => exact hold entry (RequestQueue.mem_cancel.mp hentry).1
        · rcases List.mem_cons.mp hnew with rfl | hlater
          · exact Or.inl fun entry hentry => (RequestQueue.mem_cancel.mp hentry).2
          · exact Or.inr hlater

end updates

/-- A permutation of a history has its operations. -/
theorem mem_ops_iff {order history : List (Timed QueueUpdate)} (hperm : order.Perm history)
    {u : QueueUpdate} : u ∈ order.map Timed.op ↔ ∃ a ∈ history, a.op = u := by
  rw [(hperm.map Timed.op).mem_iff, List.mem_map]

/-- **An explained queue is accounted for.** -/
theorem accounted_of_explained {queue : RequestQueue} {c : QueueService}
    (h : Explains QueueUpdate.apply queue c.history c.adapter.queue) : c.Accounted queue := by
  constructor
  · exact h
  · intro entry hentry hcancel
    apply h.of_forall_order (P := fun q => entry ∈ q.entries)
    intro order hperm
    apply mem_foldl_apply
    · intro u hu heq
      obtain ⟨a, ha, rfl⟩ := (mem_ops_iff hperm).mp hu
      exact hcancel a ha heq
    · rcases hentry with hold | hadded
      · exact Or.inl hold
      · exact Or.inr ((mem_ops_iff hperm).mpr hadded)
  · intro requestId hcancelled hadd
    apply h.of_forall_order (P := fun q => ∀ entry ∈ q.entries, entry.requestId ≠ requestId)
    intro order hperm
    apply not_mem_foldl_apply
    · intro entry hentry
      obtain ⟨a, ha, hop⟩ := (mem_ops_iff hperm).mp hentry
      exact hadd a ha entry hop
    · exact Or.inr ((mem_ops_iff hperm).mpr hcancelled)

/-! ## The chat command, in one piece -/

/-- **With nothing in between, the three points of a chat are the chat command**: they leave the state
it leaves. -/
theorem chat_alone (s : AdapterState) (r : Readings) (params : Dict Value) :
    (runAll step (start s) [.capture params r, .measure 0 r, .settle 0]).adapter =
      (ChatCommand.delegate s r params).state := by
  cases hplan : ChatCommand.plan r params with
  | error exc => simp [runAll, step, act, start, ChatCommand.delegate, hplan]
  | ok planned =>
      cases planned with
      | inl refusal => simp [runAll, step, act, start, ChatCommand.delegate, hplan]
      | inr plan =>
          rw [ChatCommand.delegate_of_plan hplan]
          cases hcapacity : capacitySnapshot s r plan.modelName with
          | error exc => simp [runAll, step, act, start, hplan, hcapacity]
          | ok capacity =>
              have hhandler : chatHandler (s.measured r) = chatHandler s := rfl
              cases hverdict : (chatHandler s).chatStep s.queue plan.requestMetadata
                  plan.queueMetadata (plan.request capacity) with
              | error exc =>
                  simp [runAll, step, act, start, verdict, hplan, hcapacity, hhandler, hverdict]
              | ok outcome =>
                  cases outcome
                  all_goals
                    simp [runAll, step, act, start, verdict, hplan, hcapacity, hhandler, hverdict]

end QueueService

open QueueService

/-- **Overlapping chats and cancellations.** In every state of every run of chats, cancellations and
whatever else changes the adapter, over any queue at the start, in which no chat puts back a queue that
has been replaced since it took it: the queue is what the chats that were asked to wait and the
cancellations that have finished give in an order consistent with real time. Nothing added is lost, and
nothing cancelled comes back. -/
theorem queue_updates_linearizable (s : AdapterState) (events : List HolderEvent) (c : QueueService)
    (hrun : Run (Guarded PutsBackTaken (ofFun step)) (start s) events c) : c.Accounted s.queue := by
  have hstart : (start s).Recorded s.queue :=
    ⟨.nil, fun chat hchat => absurd hchat List.not_mem_nil, rfl⟩
  have hrecorded : c.Recorded s.queue := by
    apply hrun.invariant hstart
    rintro c e d hbefore ⟨hguard, rfl⟩
    exact recorded_step hbefore hguard
  apply accounted_of_explained
  rw [hrecorded.queue_eq]
  exact hrecorded.order.explains

/-- The small host's queue with one entry that reserves all but fifty bytes of a thousand. -/
def nearlyFull : RequestQueue :=
  ⟨[{ requestId := "old", sessionId := "adapter", modelName := "small", requiredTokens := 1
      requiredDynamicVramBytes := 950, admittedAt := "", expiresAt := "" }]⟩

/-- A chat of 88 bytes with the small model. -/
def waitingChat (requestId : String) : Dict Value :=
  ("request_id", .str requestId) :: smallChat "hello" 20

/-- Two chats that overlap, one asked to wait and one executed before that, and a cancellation while both run that
names no request of theirs. -/
theorem queue_updates_linearizable_small :
    (runAll step (start { queue := nearlyFull })
      [.capture (waitingChat "a") (smallHost 1000), .capture (smallChat "hello" 10) (smallHost 1000),
        .cancel [("request_id", .str "none")], .measure 0 (smallHost 1000), .measure 1 (smallHost 1000),
        .settle 1, .settle 0]).Accounted nearlyFull := by
  have hfirst : Run (Guarded PutsBackTaken (ofFun step)) (start { queue := nearlyFull }) [] _ := .nil
  have hwaiting := hfirst.snoc (a := HolderEvent.capture (waitingChat "a") (smallHost 1000)) ⟨trivial, rfl⟩
  have hother := hwaiting.snoc (a := HolderEvent.capture (smallChat "hello" 10) (smallHost 1000)) ⟨trivial, rfl⟩
  have hcancelled := hother.snoc (a := HolderEvent.cancel [("request_id", .str "none")]) ⟨trivial, rfl⟩
  have hmeasured := (hcancelled.snoc (a := HolderEvent.measure 0 (smallHost 1000)) ⟨trivial, rfl⟩).snoc
    (a := HolderEvent.measure 1 (smallHost 1000)) ⟨trivial, rfl⟩
  have hexecuted := hmeasured.snoc (a := HolderEvent.settle 1) ⟨?_, rfl⟩
  · refine queue_updates_linearizable _ _ _ (hexecuted.snoc (a := HolderEvent.settle 0) ⟨?_, rfl⟩)
    intro chat capacity updated entry result hchat _ _
    cases hchat
    rfl
  · -- the verdict of the second chat is to execute
    intro chat capacity updated entry result hchat hcapacity hverdict
    cases hchat
    cases hcapacity
    cases hverdict

/-- The update adds an entry. -/
def QueueUpdate.isAdd : QueueUpdate → Bool
  | .add _ => true
  | .cancel _ => false

/-- **A queued request is lost**: two chats take the queue, both are asked to wait, and the second puts
back the queue without the first one's entry. -/
theorem queued_request_lost :
    ¬ ∀ (s : AdapterState) (events : List HolderEvent),
        (runAll step (start s) events).Accounted s.queue := by
  intro h
  have haccounted := h { queue := nearlyFull }
    [.capture (waitingChat "a") (smallHost 1000), .capture (waitingChat "b") (smallHost 1000),
      .measure 0 (smallHost 1000), .measure 1 (smallHost 1000), .settle 0, .settle 0]
  generalize hc : runAll step (start { queue := nearlyFull }) _ = c at haccounted
  have hadded : ∃ entry, (∃ a ∈ c.history, a.op = .add entry) ∧ entry.requestId = "a" := by
    subst hc
    exact ⟨_, ⟨_, List.mem_cons_self .., rfl⟩, rfl⟩
  have hadds : c.history.all (fun a => a.op.isAdd) = true := by
    subst hc
    rfl
  have hleft : c.adapter.queue.entries.map QueueEntry.requestId = ["old", "b"] := by
    subst hc
    rfl
  obtain ⟨entry, hentry, hid⟩ := hadded
  have hkept : entry ∈ c.adapter.queue.entries := by
    apply haccounted.kept entry (Or.inr hentry)
    intro a ha hcancel
    have hadd := List.all_eq_true.mp hadds a ha
    rw [hcancel] at hadd
    cases hadd
  have hmem : "a" ∈ c.adapter.queue.entries.map QueueEntry.requestId :=
    List.mem_map.mpr ⟨entry, hkept, hid⟩
  rw [hleft] at hmem
  exact absurd hmem (by decide)

end Lmrs
