import BlobStorage.Traffic

/-!
# Histories of calls

A run is a list of events in any order: calls start, transports settle, bodies are read, signals
abort, timers fire.  `Traffic.after` is what one event leads to, and `stage?_after` says once what
it does to the stage of a call that has started; everything about a single call is derived from
that.
-/

namespace BlobStorage

/-- One event of a run.  `settle`, `conclude` and `readBody` are what a call waited for and its going
on in one, so what happens between the two comes before them in a run.  `elapse` lets the first timer
fire that is due up to an instant, or brings the clock there if none is. -/
inductive Event (κ : Type) where
  | signal
  | exchange (client : Client) (uri verb : Text) (mutator : Client.Mutator) (body : Value)
      (caller : Option SignalId)
  | delete (client : Client) (builder : DeleteBlob.Builder κ) (caller : Option SignalId)
  | delegate (endpoint : Text) (builder : DeleteBlob.Builder κ) (caller : Option SignalId)
  | watch (call : CallId)
  | settle (call : CallId) (completion : Completion Reply)
  | conclude (call : CallId) (ending : DeleteBlob.Performed)
  | readBody (call : CallId)
  | abort (signal : SignalId) (reason : Value)
  | elapse (limit : Number)

/-- The call that an event takes further. -/
def Event.call? {κ : Type} : Event κ → Option CallId
  | .watch call | .settle call _ | .conclude call _ | .readBody call => some call
  | _ => none

namespace World

def addSignal (world : World) : World := { world with signals := world.signals.create.1 }

/-- A transport listens on a signal, if it was given one. -/
def listen (world : World) (signal : Option SignalId) (call : CallId) : World :=
  match signal with
  | some signal => { world with signals := world.signals.listen signal (.transport call) }
  | none => world

/-- The first timer fires that is due up to an instant; without one the clock reaches it. -/
def elapse (world : World) (limit : Number) : World :=
  match world.fire? limit with
  | some (fired, .expire signal milliseconds) => (fired.expire signal milliseconds).1
  | some (fired, .reply _) => fired
  | none => { world with clock := if world.clock.less limit then limit else world.clock }

end World

namespace Traffic

variable {κ : Type}

/-- What an event leads to: the calls and their world, the log entries, and the request that is sent
on it. -/
def after (traffic : Traffic) : Event κ → Traffic × List LogEntry × Option WireRequest
  | .signal => ({ traffic with world := traffic.world.addSignal }, [], none)
  | .exchange client uri verb mutator body caller =>
      traffic.exchange client .exchange uri verb mutator body caller
  | .delete client builder caller => traffic.delete client builder caller
  | .delegate endpoint builder caller =>
      let (next, entries, _) := traffic.delegate endpoint builder caller
      (next, entries, none)
  | .watch call =>
      let signal := (traffic.calls[call]?).bind Call.signal
      ({ traffic with world := traffic.world.listen signal call }, [], none)
  | .settle call completion =>
      let (next, entries) := traffic.settle call completion
      (next, entries, none)
  | .conclude call ending => (traffic.conclude call ending, [], none)
  | .readBody call =>
      let (next, entries) := traffic.readBody call
      (next, entries, none)
  | .abort signal reason => ((traffic.abort signal reason).1, [], none)
  | .elapse limit => ({ traffic with world := traffic.world.elapse limit }, [], none)

/-- A call is added behind those that were started before. -/
def Extends (traffic next : Traffic) : Prop := ∃ call, next.calls = traffic.calls ++ [call]

theorem extends_exchange (traffic : Traffic) (client : Client) (purpose : Purpose)
    (uri verb : Text) (mutator : Client.Mutator) (body : Value) (caller : Option SignalId) :
    traffic.Extends (traffic.exchange client purpose uri verb mutator body caller).1 := by
  unfold exchange
  split
  · exact ⟨_, rfl⟩
  · exact ⟨_, rfl⟩
  · exact ⟨_, rfl⟩

theorem extends_delete (traffic : Traffic) (client : Client) (builder : DeleteBlob.Builder κ)
    (caller : Option SignalId) : traffic.Extends (traffic.delete client builder caller).1 := by
  unfold delete
  split
  · exact ⟨_, rfl⟩
  · exact ⟨_, rfl⟩
  · exact extends_exchange ..

theorem extends_delegate (traffic : Traffic) (endpoint : Text) (builder : DeleteBlob.Builder κ)
    (caller : Option SignalId) : traffic.Extends (traffic.delegate endpoint builder caller).1 := by
  unfold delegate
  split
  · exact ⟨_, rfl⟩
  · exact ⟨_, rfl⟩
  · exact ⟨_, rfl⟩

theorem Extends.stage?_eq {traffic next : Traffic} (more : traffic.Extends next) {id : CallId}
    {stage : Stage} (found : traffic.stage? id = some stage) : next.stage? id = some stage := by
  obtain ⟨call, calls⟩ := more
  obtain ⟨own, present, rfl⟩ := Option.map_eq_some_iff.mp found
  have inside : id < traffic.calls.length := (List.getElem?_eq_some_iff.mp present).1
  rw [stage?, calls, List.getElem?_append_left inside, present, Option.map_some]

theorem stage?_setStage (traffic : Traffic) (id other : CallId) (stage : Stage) :
    (traffic.setStage id stage).stage? other =
      if id = other then (traffic.stage? other).map fun _ => stage else traffic.stage? other := by
  unfold setStage stage?
  rw [List.getElem?_modify]
  by_cases same : id = other
  · simp [same, Function.comp_def]
  · simp [same]

end Traffic

namespace Stage

variable {κ : Type}

/-- The stage of a call after an event, in the world before it.  Only the call's own events count,
and of these only the one that its stage waits for. -/
def after (stage : Stage) (world : World) (id : CallId) : Event κ → Stage
  | .settle call completion =>
      match stage with
      | .exchanging purpose exchange =>
          if call = id then .afterConclusion purpose (exchange.conclude world completion).2.2
          else stage
      | _ => stage
  | .conclude call ending =>
      match stage with
      | .delegated parameters => if call = id then .afterPerformed parameters ending else stage
      | _ => stage
  | .readBody call =>
      match stage with
      | .reading parameters reply =>
          if call = id then .deleted (DeleteBlob.afterBody parameters reply).2 else stage
      | _ => stage
  | _ => stage

theorem after_of_isEnded {stage : Stage} (ended : stage.isEnded) (world : World) (id : CallId)
    (event : Event κ) : stage.after world id event = stage := by
  cases stage with
  | performed outcome => cases event <;> rfl
  | deleted outcome => cases event <;> rfl
  | _ => cases ended

/-- An event that does not take a call further leaves it alone. -/
theorem after_of_other {event : Event κ} {id : CallId} (other : event.call? ≠ some id)
    (stage : Stage) (world : World) : stage.after world id event = stage := by
  cases event with
  | settle call | conclude call | readBody call =>
      have different : call ≠ id := fun same => other (congrArg some same)
      cases stage <;> simp [after, different]
  | _ => rfl

end Stage

namespace Traffic

variable {κ : Type}

/-- What a call was waiting for happens: it goes on from its stage. -/
theorem stage?_after_of_own {traffic : Traffic} {id : CallId} {stage : Stage} {event : Event κ}
    (own : event.call? = some id) (found : traffic.stage? id = some stage) :
    (traffic.after event).1.stage? id = some (stage.after traffic.world id event) := by
  have moved (next : Stage) : (traffic.setStage id next).stage? id = some next := by
    rw [stage?_setStage, if_pos rfl, found, Option.map_some]
  cases event with
  | watch call => exact found
  | settle call completion =>
      obtain rfl := Option.some.inj own
      simp only [after, settle, found]
      cases stage with
      | exchanging purpose exchange =>
          simp only [Stage.after, if_true]
          exact moved _
      | _ => exact found
  | conclude call ending =>
      obtain rfl := Option.some.inj own
      simp only [after, conclude, found]
      cases stage with
      | delegated parameters =>
          simp only [Stage.after, if_true]
          exact moved _
      | _ => exact found
  | readBody call =>
      obtain rfl := Option.some.inj own
      simp only [after, readBody, found]
      cases stage with
      | reading parameters reply =>
          simp only [Stage.after, if_true]
          exact moved _
      | _ => exact found
  | _ => cases own

theorem stage?_after_of_other {traffic : Traffic} {id : CallId} {stage : Stage} {event : Event κ}
    (other : event.call? ≠ some id) (found : traffic.stage? id = some stage) :
    (traffic.after event).1.stage? id = some stage := by
  have elsewhere {call : CallId} (different : call ≠ id) (next : Stage) :
      (traffic.setStage call next).stage? id = some stage := by
    rw [stage?_setStage, if_neg different, found]
  cases event with
  | exchange client uri verb mutator body caller =>
      exact (extends_exchange ..).stage?_eq found
  | delete client builder caller => exact (extends_delete ..).stage?_eq found
  | delegate endpoint builder caller => exact (extends_delegate ..).stage?_eq found
  | settle call | conclude call | readBody call =>
      have different : call ≠ id := fun same => other (congrArg some same)
      simp only [after, settle, conclude, readBody]
      split
      · exact elsewhere different _
      · exact found
  | _ => exact found

/-- One event moves a call that has started as its stage says, and no event of others does. -/
theorem stage?_after {traffic : Traffic} {id : CallId} {stage : Stage}
    (found : traffic.stage? id = some stage) (event : Event κ) :
    (traffic.after event).1.stage? id = some (stage.after traffic.world id event) := by
  by_cases own : event.call? = some id
  · exact stage?_after_of_own own found
  · rw [Stage.after_of_other own]
    exact stage?_after_of_other own found

theorem Extends.length_le {traffic next : Traffic} (more : traffic.Extends next) :
    traffic.calls.length ≤ next.calls.length := by
  obtain ⟨call, calls⟩ := more
  simp [calls]

@[simp] theorem length_setStage (traffic : Traffic) (id : CallId) (stage : Stage) :
    (traffic.setStage id stage).calls.length = traffic.calls.length := by
  simp [setStage]

theorem length_le_after (traffic : Traffic) (event : Event κ) :
    traffic.calls.length ≤ (traffic.after event).1.calls.length := by
  cases event with
  | exchange client uri verb mutator body caller => exact (extends_exchange ..).length_le
  | delete client builder caller => exact (extends_delete ..).length_le
  | delegate endpoint builder caller => exact (extends_delegate ..).length_le
  | settle call completion =>
      simp only [after, settle]
      split <;> simp
  | conclude call ending =>
      simp only [after, conclude]
      split <;> simp
  | readBody call =>
      simp only [after, readBody]
      split <;> simp
  | _ => exact Nat.le_refl _

theorem length_lt_of_sent (traffic : Traffic) {event : Event κ} {request : WireRequest}
    (sent : (traffic.after event).2.2 = some request) :
    traffic.calls.length < (traffic.after event).1.calls.length := by
  cases event with
  | exchange client uri verb mutator body caller =>
      obtain ⟨call, calls⟩ := extends_exchange traffic client .exchange uri verb mutator body caller
      simp [after, calls]
  | delete client builder caller =>
      obtain ⟨call, calls⟩ := extends_delete traffic client builder caller
      simp [after, calls]
  | _ => simp [after] at sent

end Traffic

/-- A run as far as it has come: the calls and their world, the requests that were sent, each with
the call that sent it, and the log entries. -/
structure History where
  traffic : Traffic
  sent : List (CallId × WireRequest)
  entries : List LogEntry

namespace History

variable {κ : Type}

def start (origin : Number) : History := ⟨.start origin, [], []⟩

/-- One more event.  A request that is sent on it is one of the call that it starts. -/
def step (history : History) (event : Event κ) : History :=
  let (traffic, entries, request?) := history.traffic.after event
  { traffic
    sent := history.sent ++ (request?.map (history.traffic.calls.length, ·)).toList
    entries := history.entries ++ entries }

def run (history : History) (events : List (Event κ)) : History := events.foldl step history

def requestsOf (history : History) (id : CallId) : List WireRequest :=
  (history.sent.filter (·.1 == id)).map (·.2)

@[simp] theorem run_cons (history : History) (event : Event κ) (events : List (Event κ)) :
    history.run (event :: events) = (history.step event).run events := rfl

theorem run_append (history : History) (events later : List (Event κ)) :
    history.run (events ++ later) = (history.run events).run later :=
  List.foldl_append ..

theorem requestsOf_run {history : History} {id : CallId}
    (started : id < history.traffic.calls.length) (events : List (Event κ)) :
    (history.run events).requestsOf id = history.requestsOf id := by
  induction events generalizing history with
  | nil => rfl
  | cons event events induction =>
      have later : id < (history.step event).traffic.calls.length :=
        Nat.lt_of_lt_of_le started (history.traffic.length_le_after event)
      rw [run_cons, induction later]
      have other : history.traffic.calls.length ≠ id := Nat.ne_of_gt started
      unfold requestsOf step
      cases (history.traffic.after event).2.2 <;> simp [other]

/-- Every request that was sent belongs to a call that has started. -/
def SentByStarted (history : History) : Prop :=
  ∀ pair ∈ history.sent, pair.1 < history.traffic.calls.length

theorem SentByStarted.step {history : History} (sound : history.SentByStarted)
    (event : Event κ) : (history.step event).SentByStarted := by
  intro pair member
  simp only [History.step, List.mem_append, Option.mem_toList, Option.map_eq_some_iff] at member
  rcases member with earlier | ⟨request, sent, rfl⟩
  · exact Nat.lt_of_lt_of_le (sound pair earlier) (history.traffic.length_le_after event)
  · exact history.traffic.length_lt_of_sent sent

theorem SentByStarted.run {history : History} (sound : history.SentByStarted)
    (events : List (Event κ)) : (history.run events).SentByStarted := by
  induction events generalizing history with
  | nil => exact sound
  | cons event events induction => exact induction (sound.step event)

theorem SentByStarted.requestsOf_eq_nil {history : History} (sound : history.SentByStarted)
    {id : CallId} (fresh : history.traffic.calls.length ≤ id) : history.requestsOf id = [] := by
  unfold requestsOf
  rw [List.map_eq_nil_iff, List.filter_eq_nil_iff]
  intro pair member
  rw [beq_iff_eq]
  exact Nat.ne_of_lt (Nat.lt_of_lt_of_le (sound pair member) fresh)

theorem sentByStarted_start (origin : Number) : (start origin).SentByStarted := by
  simp [SentByStarted, start]

/-- What a run can come to. -/
def Reachable (κ : Type) (history : History) : Prop :=
  ∃ origin, ∃ events : List (Event κ), history = (start origin).run events

theorem Reachable.sentByStarted {history : History} (reachable : Reachable κ history) :
    history.SentByStarted := by
  obtain ⟨origin, events, rfl⟩ := reachable
  exact (sentByStarted_start origin).run events

/-- A delete has sent what it sent when it started, and nothing else. -/
theorem requestsOf_run_delete {before : History} (reachable : Reachable κ before)
    (client : Client) (builder : DeleteBlob.Builder κ) (caller : Option SignalId)
    (later : List (Event κ)) :
    (before.run (.delete client builder caller :: later)).requestsOf before.traffic.calls.length =
      (before.traffic.delete client builder caller).2.2.toList := by
  have started : before.traffic.calls.length <
      (before.step (.delete client builder caller)).traffic.calls.length := by
    obtain ⟨call, calls⟩ := before.traffic.extends_delete client builder caller
    simp [step, Traffic.after, calls]
  have nothing := reachable.sentByStarted.requestsOf_eq_nil (Nat.le_refl _)
  rw [run_cons, requestsOf_run started]
  unfold requestsOf at nothing ⊢
  simp only [step, Traffic.after, List.filter_append, List.map_append, nothing]
  cases (before.traffic.delete client builder caller).2.2 <;> simp

/-- What the transport of a call settles with first. -/
def answer? (id : CallId) : List (Event κ) → Option (Completion Reply)
  | [] => none
  | .settle call completion :: events => if call = id then some completion else answer? id events
  | _ :: events => answer? id events

theorem stage?_step {history : History} {id : CallId} {stage : Stage}
    (found : history.traffic.stage? id = some stage) (event : Event κ) :
    (history.step event).traffic.stage? id =
      some (stage.after history.traffic.world id event) :=
  history.traffic.stage?_after found event

theorem answer?_cons_of_unsettled {id : CallId} {event : Event κ}
    (other : ∀ completion, event ≠ .settle id completion) (events : List (Event κ)) :
    answer? id (event :: events) = answer? id events := by
  cases event with
  | settle call completion =>
      have different : call ≠ id := by
        rintro rfl
        exact other completion rfl
      simp [answer?, different]
  | _ => rfl

theorem mem_of_answer?_eq_some {id : CallId} {completion : Completion Reply}
    {events : List (Event κ)} (answered : answer? id events = some completion) :
    .settle id completion ∈ events := by
  induction events with
  | nil => cases answered
  | cons event events induction =>
      by_cases own : ∃ settled, event = .settle id settled
      · obtain ⟨settled, rfl⟩ := own
        simp only [answer?, if_true, Option.some.injEq] at answered
        subst settled
        exact List.mem_cons_self
      · rw [answer?_cons_of_unsettled fun settled same => own ⟨settled, same⟩] at answered
        exact List.mem_cons_of_mem _ (induction answered)

theorem stage?_run_of_isEnded {history : History} {id : CallId} {stage : Stage}
    (found : history.traffic.stage? id = some stage) (ended : stage.isEnded)
    (events : List (Event κ)) : (history.run events).traffic.stage? id = some stage := by
  induction events generalizing history with
  | nil => exact found
  | cons event events induction =>
      have same := Stage.after_of_isEnded ended history.traffic.world id event
      exact induction (same ▸ stage?_step found event)

/-- A call whose body is being read goes on reading, or has ended with what the body led to. -/
theorem stage?_run_of_reading {history : History} {id : CallId}
    {parameters : DeleteBlob.Parameters} {reply : Option Reply}
    (found : history.traffic.stage? id = some (.reading parameters reply))
    (events : List (Event κ)) :
    (history.run events).traffic.stage? id = some (.reading parameters reply) ∨
      (history.run events).traffic.stage? id =
        some (.deleted (DeleteBlob.afterBody parameters reply).2) := by
  induction events generalizing history with
  | nil => exact .inl found
  | cons event events induction =>
      have next := stage?_step found event
      by_cases own : event = .readBody id
      · subst event
        simp only [Stage.after, if_true] at next
        exact .inr (stage?_run_of_isEnded next rfl events)
      · have same : (Stage.reading parameters reply).after history.traffic.world id event =
            .reading parameters reply := by
          cases event with
          | readBody call =>
              have different : call ≠ id := by
                rintro rfl
                exact own rfl
              simp [Stage.after, different]
          | _ => rfl
        exact induction (same ▸ next)

theorem stage?_step_of_unsettled {history : History} {id : CallId} {purpose : Purpose}
    {exchange : Exchange}
    (found : history.traffic.stage? id = some (.exchanging purpose exchange)) {event : Event κ}
    (unsettled : ∀ completion, event ≠ .settle id completion) :
    (history.step event).traffic.stage? id = some (.exchanging purpose exchange) := by
  have same : (Stage.exchanging purpose exchange).after history.traffic.world id event =
      .exchanging purpose exchange := by
    cases event with
    | settle call completion =>
        have different : call ≠ id := by
          rintro rfl
          exact unsettled completion rfl
        simp [Stage.after, different]
    | _ => rfl
  exact same ▸ stage?_step found event

/-- A call whose transport has not settled goes on waiting, or there was a moment at which the
transport settled, and the run went on from there. -/
theorem stage?_run_of_exchanging {history : History} {id : CallId} {purpose : Purpose}
    {exchange : Exchange}
    (found : history.traffic.stage? id = some (.exchanging purpose exchange))
    (events : List (Event κ)) :
    (answer? id events = none ∧
        (history.run events).traffic.stage? id = some (.exchanging purpose exchange)) ∨
      ∃ completion world middle, ∃ rest : List (Event κ),
        answer? id events = some completion ∧ history.run events = History.run middle rest ∧
          middle.traffic.stage? id =
            some (.afterConclusion purpose (exchange.conclude world completion).2.2) := by
  induction events generalizing history with
  | nil => exact .inl ⟨rfl, found⟩
  | cons event events induction =>
      by_cases own : ∃ completion, event = .settle id completion
      · obtain ⟨completion, rfl⟩ := own
        have next := stage?_step found (.settle id completion : Event κ)
        simp only [Stage.after, if_true] at next
        exact .inr ⟨completion, history.traffic.world, _, events, by simp [answer?], rfl, next⟩
      · have other : ∀ completion, event ≠ .settle id completion :=
          fun completion same => own ⟨completion, same⟩
        rw [answer?_cons_of_unsettled other]
        exact induction (stage?_step_of_unsettled found other)

end History

end BlobStorage
