import BlobStorage.Proofs.BuilderCalls
import BlobStorage.Simulation.Run

/-!
# Builders under names

A simulated run keeps its builders under names.  A name is written only by the two steps that make
a builder, and everything else that happens in a run keeps all builders as they are.  So a builder
goes on answering as it did, whatever is made of it.
-/

namespace BlobStorage

namespace Record

theorem find?_put {α : Type} (entries : List (Text × α)) (name other : Text) (value : α) :
    ((put entries name value).find? (·.1 == other)).map (·.2) =
      if name = other then some value else (entries.find? (·.1 == other)).map (·.2) := by
  unfold put
  split
  · rename_i present
    have keys : ((·.1 == other) ∘ fun entry : Text × α =>
        if entry.1 == name then (name, value) else entry) = (·.1 == other) := by
      funext entry
      by_cases replaced : entry.1 = name <;> simp [replaced]
    rw [List.find?_map, keys, Option.map_map]
    cases found : entries.find? (·.1 == other) with
    | none =>
        have different : name ≠ other := by
          rintro rfl
          obtain ⟨entry, member, own⟩ := List.any_eq_true.mp present
          exact List.find?_eq_none.mp found entry member own
        simp [different]
    | some entry =>
        have own : entry.1 = other := by simpa using List.find?_some found
        by_cases same : name = other
        · simp [own, same]
        · simp [own, same, Ne.symm same]
  · rename_i absent
    rw [List.find?_append]
    by_cases same : name = other
    · have nothing : entries.find? (·.1 == other) = none := by
        rw [← same, List.find?_eq_none]
        exact fun entry member own => absent (List.any_eq_true.mpr ⟨entry, member, own⟩)
      simp [nothing, same]
    · simp [same]

end Record

namespace Simulation

namespace Step

/-- The name under which a step makes a builder, unless it is refused. -/
def built? : Step → Option Text
  | .builder name _ | .set _ name _ _ => some name
  | _ => none

/-- The builder that a step asks, when nothing else comes of the step. -/
def asked? : Step → Option Text
  | .view name | .get name _ | .clientOf name | .toRequest name => some name
  | _ => none

end Step

namespace Run

/-- All builders are what they were, and so are the clients that were there. -/
structure Keeps (before after : Run) : Prop where
  builders : after.builders = before.builders
  clients : before.clients <+: after.clients

namespace Keeps

variable {before middle after : Run}

theorem refl (run : Run) : run.Keeps run := ⟨rfl, List.prefix_rfl⟩

theorem trans (first : before.Keeps middle) (second : middle.Keeps after) : before.Keeps after :=
  ⟨second.builders.trans first.builders, first.clients.trans second.clients⟩

theorem foldl {α : Type} {change : Run → α → Run}
    (keeps : ∀ (run : Run) item, run.Keeps (change run item))
    (run : Run) (items : List α) : run.Keeps (items.foldl change run) := by
  induction items generalizing run with
  | nil => exact refl run
  | cons item items induction => exact (keeps run item).trans (induction (change run item))

theorem builder? (keeps : before.Keeps after) (name : Text) :
    after.builder? name = before.builder? name := by
  simp [Run.builder?, keeps.builders]

end Keeps

theorem Keeps.traffic (run : Run) (traffic : Traffic) : run.Keeps { run with traffic } :=
  ⟨rfl, List.prefix_rfl⟩

theorem keeps_withWorld (run : Run) (world : World) : run.Keeps (run.withWorld world) :=
  .traffic run _

theorem Keeps.record {before after : Run} (keeps : before.Keeps after) (client : Nat)
    (entries : List LogEntry) : before.Keeps (after.record client entries) := by
  refine keeps.trans ?_
  unfold Run.record
  split
  · split
    · exact ⟨rfl, List.prefix_rfl⟩
    · exact .refl after
  · exact .refl after

theorem keeps_conclude (run : Run) (id : CallId) (completion : Completion Reply) :
    run.Keeps (run.conclude id completion) := by
  unfold conclude
  split
  · exact .refl run
  · exact .traffic run _
  · dsimp only
    exact (Keeps.traffic run _).record ..

theorem keeps_readBody (run : Run) (id : CallId) : run.Keeps (run.readBody id) := by
  unfold readBody
  cases run.carriers[id]? with
  | none => exact .refl run
  | some carrier =>
      dsimp only
      split
      · exact .refl run
      · exact (Keeps.traffic run _).record ..

theorem keeps_settle (run : Run) (id : CallId) (completion : Completion Reply) :
    run.Keeps (run.settle id completion) :=
  (keeps_conclude run id completion).trans (keeps_readBody _ id)

theorem keeps_tell (run : Run) (id : CallId) : run.Keeps (run.tell id) := by
  unfold tell
  split
  · exact keeps_conclude ..
  · exact .refl run

theorem keeps_tellAll (run : Run) (told : List CallId) : run.Keeps (run.tellAll told) :=
  (Keeps.foldl keeps_tell run told).trans (.foldl keeps_readBody _ told)

theorem keeps_watch (run : Run) (signal : Option SignalId) (id : CallId) :
    run.Keeps (run.watch signal id) := by
  cases signal with
  | none => exact .refl run
  | some signal => exact keeps_withWorld ..

theorem keeps_transmit (run : Run) (id : CallId) (script : Script) (signal : Option SignalId) :
    run.Keeps (run.transmit id script signal) := by
  unfold transmit
  dsimp only
  split
  · split
    · exact keeps_withWorld ..
    · exact (keeps_withWorld ..).trans (keeps_watch ..)
  · split
    · exact keeps_settle ..
    · exact keeps_watch ..
  · exact keeps_watch ..
  · split
    · exact .refl run
    · exact keeps_settle ..
  · exact keeps_settle ..

theorem keeps_carrier (run : Run) (place : Nat) (script : Script) (traffic : Traffic)
    (entries : List LogEntry) :
    run.Keeps (({ run with traffic, carriers := run.carriers ++ [⟨place, script⟩] } : Run).record
      place entries) := by
  have carried : run.Keeps { run with traffic, carriers := run.carriers ++ [⟨place, script⟩] } :=
    ⟨rfl, List.prefix_rfl⟩
  exact carried.record place entries

theorem keeps_dispatch (run : Run) (place : Nat) (script : Script)
    (started : Traffic × List LogEntry × Option WireRequest) :
    run.Keeps (run.dispatch place script started).1 := by
  obtain ⟨traffic, entries, sent?⟩ := started
  cases sent? with
  | none => exact keeps_carrier ..
  | some request => exact (keeps_carrier ..).trans (keeps_transmit ..)

theorem keeps_dispatchDelegated (run : Run) (place : Nat) (options : CallOptions)
    (caller : Option SignalId)
    (started : Traffic × List LogEntry × Option DeleteBlob.Request) :
    run.Keeps (run.dispatchDelegated place options caller started).1 := by
  obtain ⟨traffic, entries, sent?⟩ := started
  cases sent? with
  | none => exact keeps_carrier ..
  | some request => exact (keeps_carrier ..).trans (keeps_transmit ..)

theorem keeps_fireDue (limit : Number) (count : Nat) (run : Run) :
    run.Keeps (fireDue limit count run) := by
  induction count generalizing run with
  | zero => exact .refl run
  | succ count induction =>
      unfold fireDue
      split
      · exact .refl run
      · exact ((keeps_withWorld ..).trans (keeps_settle ..)).trans (induction _)
      · exact ((keeps_withWorld ..).trans (keeps_tellAll ..)).trans (induction _)

theorem keeps_advance (run : Run) (milliseconds : Number) : run.Keeps (run.advance milliseconds) :=
  (keeps_fireDue ..).trans (keeps_withWorld ..)

theorem keeps_abort (run : Run) (signal : SignalId) (reason : Value) :
    run.Keeps (run.abort signal reason) :=
  (Keeps.traffic run _).trans (keeps_tellAll ..)

theorem keeps_meanwhile (run : Run) (event : Meanwhile) : run.Keeps (run.meanwhile event) := by
  cases event with
  | advance milliseconds => exact keeps_advance ..
  | abort name reason =>
      simp only [meanwhile]
      split
      · exact keeps_abort ..
      · exact .refl run

theorem keeps_report (started : Run × CallId × List RequestView) (options : CallOptions) :
    started.1.Keeps (report started options).1 := by
  obtain ⟨run, id, requests⟩ := started
  have keeps := Keeps.foldl keeps_meanwhile run options.meanwhile
  simp only [report]
  split
  · exact keeps
  · exact keeps

theorem keeps_openJournal (run : Run) : run.Keeps run.openJournal := ⟨rfl, List.prefix_rfl⟩

theorem keeps_finalize (run : Run) (builder : DeleteBlob.Builder Nat) (options : CallOptions) :
    run.Keeps (run.finalize builder options).1 := by
  unfold finalize
  split
  · exact .refl run
  · exact .refl run
  · refine (keeps_openJournal run).trans (Keeps.trans ?_ (keeps_report ..))
    split
    · exact keeps_dispatch ..
    · exact keeps_dispatchDelegated ..

theorem keeps_perform (run : Run) (place : Nat) (client : Client) (uri verb : Text)
    (mutator : Client.Mutator) (body : Value) (caller : Option SignalId) (options : CallOptions) :
    run.Keeps (run.perform place client uri verb mutator body caller options).1 :=
  ((keeps_openJournal run).trans (keeps_dispatch ..)).trans (keeps_report ..)

theorem keeps_addClient (run : Run) (name : Text) (settings : Settings) (logger : Logger) :
    run.Keeps (run.addClient name settings logger).1 := by
  unfold addClient
  split
  · exact ⟨rfl, List.prefix_append ..⟩
  · exact .refl run
  · exact .refl run

theorem keeps_addScriptedClient (run : Run) (name endpoint : Text) (level : Value) :
    run.Keeps (run.addScriptedClient name endpoint level).1 := by
  unfold addScriptedClient
  split
  · exact ⟨rfl, List.prefix_append ..⟩
  · exact .refl run
  · exact .refl run

theorem keeps_withBuilder {run : Run} {step : DeleteBlob.Builder Nat → Run × Answer}
    (keeps : ∀ builder, run.Keeps (step builder).1) (name : Text) :
    run.Keeps (run.withBuilder name step).1 := by
  unfold withBuilder
  split
  · exact keeps _
  · exact .refl run

/-- The client of every builder is one of the run. -/
def Housed (run : Run) : Prop :=
  ∀ name builder, run.builder? name = some builder → builder.client < run.clients.length

theorem client?_lt_length {run : Run} {name : Text} {place : Nat} {client : SimulatedClient}
    (found : run.client? name = some (place, client)) : place < run.clients.length := by
  obtain ⟨⟨owner, position⟩, first, same⟩ := Option.map_eq_some_iff.mp found
  obtain ⟨rfl, rfl⟩ := Prod.mk.inj same
  have member := List.mem_reverse.mp (List.mem_of_find?_eq_some first)
  obtain ⟨-, inside, -⟩ := List.mem_zipIdx member
  simpa using inside

/-- A step keeps all builders, or it puts one under the name that it says. -/
theorem step_cases {run : Run} (housed : run.Housed) (step : Step) :
    run.Keeps (run.step step).1 ∨
      ∃ name builder, step.built? = some name ∧ builder.client < run.clients.length ∧
        (run.step step).1 = (run.nameBuilder name builder).1 := by
  cases step with
  | builder name client =>
      simp only [Run.step]
      split
      · rename_i place owner found
        exact .inr ⟨name, _, rfl, client?_lt_length found, rfl⟩
      · exact .inl (.refl run)
  | set source name field value =>
      simp only [Run.step, withBuilder]
      split
      · rename_i builder found
        split
        · rename_i next accepted
          refine .inr ⟨name, next, rfl, ?_, rfl⟩
          rw [DeleteBlob.Builder.client_set accepted]
          exact housed source builder found
        · exact .inl (.refl run)
        · exact .inl (.refl run)
      · exact .inl (.refl run)
  | controller name => exact .inl ⟨rfl, List.prefix_rfl⟩
  | abort name reason =>
      left
      simp only [Run.step]
      split
      · exact keeps_abort ..
      · exact .refl run
  | timeoutSignal name milliseconds =>
      left
      simp only [Run.step]
      split
      · exact ⟨rfl, List.prefix_rfl⟩
      · exact .refl run
  | merge name names =>
      left
      simp only [Run.step]
      split
      · exact ⟨rfl, List.prefix_rfl⟩
      · exact .refl run
  | clear name =>
      left
      simp only [Run.step]
      split
      · exact keeps_withWorld ..
      · exact .refl run
  | advance milliseconds => exact .inl (keeps_advance ..)
  | client name settings logger => exact .inl (keeps_addClient ..)
  | scriptedClient name endpoint level => exact .inl (keeps_addScriptedClient ..)
  | view name => exact .inl (keeps_withBuilder (fun _ => .refl run) name)
  | get name field => exact .inl (keeps_withBuilder (fun _ => .refl run) name)
  | clientOf name => exact .inl (keeps_withBuilder (fun _ => .refl run) name)
  | toRequest name => exact .inl (keeps_withBuilder (fun _ => .refl run) name)
  | finalize name options =>
      exact .inl (keeps_withBuilder (fun builder => keeps_finalize run builder options) name)
  | perform name uri verb mutator body options =>
      left
      simp only [Run.step]
      split
      · exact keeps_perform ..
      all_goals exact .refl run

theorem builder?_nameBuilder (run : Run) (name other : Text) (builder : DeleteBlob.Builder Nat) :
    (run.nameBuilder name builder).1.builder? other =
      if name = other then some builder else run.builder? other :=
  Record.find?_put ..

theorem Housed.step {run : Run} (housed : run.Housed) (step : Step) : (run.step step).1.Housed := by
  intro other builder found
  rcases step_cases housed step with keeps | ⟨name, made, -, inside, next⟩
  · rw [keeps.builder?] at found
    exact Nat.lt_of_lt_of_le (housed other builder found) keeps.clients.length_le
  · rw [next, builder?_nameBuilder] at found
    rw [next]
    split at found
    · exact Option.some.inj found ▸ inside
    · exact housed other builder found

theorem housed_start (origin : Number) : (start origin).Housed := by
  simp [Housed, builder?, start]

theorem steps_cons (run : Run) (step : Step) (steps : List Step) :
    (run.steps (step :: steps)).1 = ((run.step step).1.steps steps).1 := rfl

theorem steps_append (run : Run) (steps later : List Step) :
    (run.steps (steps ++ later)).1 = ((run.steps steps).1.steps later).1 := by
  induction steps generalizing run with
  | nil => rfl
  | cons step steps induction => exact induction (run.step step).1

theorem Housed.steps {run : Run} (housed : run.Housed) (steps : List Step) :
    (run.steps steps).1.Housed := by
  induction steps generalizing run with
  | nil => exact housed
  | cons step steps induction => exact induction (housed.step step)

theorem builder?_steps {run : Run} (housed : run.Housed) {steps : List Step} {name : Text}
    (others : ∀ step ∈ steps, step.built? ≠ some name) :
    (run.steps steps).1.builder? name = run.builder? name ∧
      run.clients <+: (run.steps steps).1.clients := by
  induction steps generalizing run with
  | nil => exact ⟨rfl, List.prefix_rfl⟩
  | cons step steps induction =>
      obtain ⟨same, more⟩ := induction (housed.step step)
        fun later member => others later (List.mem_cons_of_mem _ member)
      rw [steps_cons]
      rcases step_cases housed step with keeps | ⟨other, builder, built, -, next⟩
      · exact ⟨same.trans (keeps.builder? name), keeps.clients.trans more⟩
      · have different : other ≠ name := by
          rintro rfl
          exact others step List.mem_cons_self built
        rw [next] at same more ⊢
        rw [builder?_nameBuilder, if_neg different] at same
        exact ⟨same, more⟩

/-- A builder answers what it is asked alone from what it is and from its client. -/
theorem answer_eq {run later : Run} (housed : run.Housed) {name : Text}
    (same : later.builder? name = run.builder? name) (more : run.clients <+: later.clients)
    {question : Step} (asks : question.asked? = some name) :
    (later.step question).2 = (run.step question).2 := by
  have ask : ∀ answer answer' : DeleteBlob.Builder Nat → Answer,
      (∀ builder, builder.client < run.clients.length → answer builder = answer' builder) →
        (later.withBuilder name fun builder => (later, answer builder)).2 =
          (run.withBuilder name fun builder => (run, answer' builder)).2 := by
    intro answer answer' equal
    unfold withBuilder
    rw [same]
    cases found : run.builder? name with
    | none => rfl
    | some builder => exact equal builder (housed name builder found)
  have client : ∀ builder : DeleteBlob.Builder Nat, builder.client < run.clients.length →
      later.clients[builder.client]? = run.clients[builder.client]? := by
    intro builder inside
    obtain ⟨others, all⟩ := more
    rw [← all, List.getElem?_append_left inside]
  cases question with
  | view asked =>
      obtain rfl := Option.some.inj asks
      exact ask _ _ fun _ _ => rfl
  | get asked field =>
      obtain rfl := Option.some.inj asks
      exact ask _ _ fun _ _ => rfl
  | clientOf asked =>
      obtain rfl := Option.some.inj asks
      exact ask _ _ fun builder inside => by rw [client builder inside]
  | toRequest asked =>
      obtain rfl := Option.some.inj asks
      exact ask _ _ fun builder inside => by rw [client builder inside]
  | _ => cases asks

theorem answer_steps {run : Run} (housed : run.Housed) {steps : List Step} {name : Text}
    (others : ∀ step ∈ steps, step.built? ≠ some name) {question : Step}
    (asks : question.asked? = some name) :
    ((run.steps steps).1.step question).2 = (run.step question).2 := by
  obtain ⟨same, more⟩ := builder?_steps housed others
  exact answer_eq housed same more asks

end Run

end Simulation

end BlobStorage
