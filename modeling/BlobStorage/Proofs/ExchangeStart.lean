import BlobStorage.Proofs.Session
import BlobStorage.Proofs.SignalTable

/-!
# What the start of an exchange leaves in the world

An exchange with a deadline makes a signal that aborts with its timer, and a second one that aborts
with the first of that and the signal of the caller.  `Opened` says once what the start of an
exchange comes to; `World.Quiet` is what every event but an abort and the firing of a timer has in
common.
-/

namespace BlobStorage

namespace Signals

theorem append_listen {signals : Signals} {id : SignalId} (inside : id < signals.length)
    (more : Signals) (listener : Listener) :
    signals.listen id listener ++ more = listen (signals ++ more) id listener := by
  apply List.ext_getElem?
  intro place
  unfold listen
  rcases Nat.lt_or_ge place signals.length with here | beyond
  · rw [List.getElem?_append_left (by simpa using here), List.getElem?_modify, List.getElem?_modify,
      List.getElem?_append_left here]
  · have other : id ≠ place := Nat.ne_of_lt (Nat.lt_of_lt_of_le inside beyond)
    rw [List.getElem?_append_right (by simpa using beyond), List.getElem?_modify,
      List.getElem?_append_right beyond, List.length_modify]
    simp [other]

/-- The table when the signal of a timer is added and tied to the signal of a caller: the merged
signal comes last, and it listens to both, unless the caller's has aborted. -/
def tie (signals : Signals) (caller : Option SignalId) : Signals :=
  let timed := signals.length
  let target := timed + 1
  match caller with
  | none => signals ++ [⟨none, []⟩]
  | some caller =>
      match signals.reason? caller with
      | some reason => signals ++ [⟨none, []⟩] ++ [⟨some (relayedReason reason), []⟩]
      | none =>
          listen (listen (signals ++ [⟨none, []⟩] ++ [⟨none, [.release]⟩]) caller (.relay target))
            timed (.relay target)

theorem length_tie (signals : Signals) (caller : Option SignalId) :
    (signals.tie caller).length = signals.length + if caller.isSome then 2 else 1 := by
  unfold tie
  split
  · simp
  · split <;> simp

theorem length_lt_length_tie (signals : Signals) (caller : Option SignalId) :
    signals.length < (signals.tie caller).length := by
  rw [length_tie]
  split <;> omega

theorem merge_timed {signals : Signals} {caller : SignalId} (inside : caller < signals.length) :
    merge (signals ++ [⟨none, []⟩]) [some caller, some signals.length] =
      (signals.tie (some caller),
        some ⟨signals.length + 1, .detach (signals.length + 1)⟩) := by
  have created : reason? (signals ++ [⟨none, []⟩]) caller = signals.reason? caller :=
    reason?_append_left _ inside
  have timed : reason? (signals ++ [⟨none, []⟩]) signals.length = none :=
    reason?_append_length _
  have room : (signals ++ [(⟨none, []⟩ : Signal)]).length = signals.length + 1 := by simp
  unfold tie
  simp only [merge, List.filterMap_cons, List.filterMap_nil, id, List.findSome?_cons, created,
    timed, List.findSome?_nil, room]
  cases signals.reason? caller with
  | some reason => rfl
  | none =>
      simp only [List.foldl_cons, List.foldl_nil]
      rw [append_listen (by simp), append_listen (by simpa using Nat.lt_succ_of_lt inside)]

theorem Quiet.listen_relay {before after : Signals} {gone : SignalId → Prop}
    (quiet : Quiet before after gone) {source target : SignalId} (new : before.length ≤ target)
    (inside : target < after.length) (above : source < target) :
    Quiet before (after.listen source (.relay target)) gone where
  length_le := by simpa using quiet.length_le
  reason?_eq known := by rw [reason?_listen, quiet.reason?_eq known]
  relays := by
    intro other goal member
    rw [length_listen]
    rw [listenersOf_listen] at member
    split at member
    · rename_i own
      rcases List.mem_append.mp member with earlier | now
      · exact quiet.relays earlier
      · obtain rfl : goal = target := by simpa using now
        exact .inr ⟨new, inside, own.1 ▸ above⟩
    · exact quiet.relays member
  stays := by
    intro other listener member others
    have kept := quiet.stays member others
    rw [listenersOf_listen]
    split
    · exact List.mem_append_left _ kept
    · exact kept

theorem quiet_tie (signals : Signals) {caller : Option SignalId}
    (inside : ∀ signal ∈ caller, signal < signals.length) (gone : SignalId → Prop) :
    Quiet signals (signals.tie caller) gone := by
  have timed : Quiet signals (signals ++ [⟨none, []⟩]) gone := .append _ _ (by simp)
  unfold tie
  split
  · exact timed
  · rename_i caller
    have known : caller < signals.length := inside caller rfl
    split
    · exact timed.trans (.append _ _ (by simp))
    · have both : Quiet signals (signals ++ [⟨none, []⟩] ++ [⟨none, [.release]⟩]) gone :=
        timed.trans (.append _ _ (by simp))
      have above : caller < signals.length + 1 := Nat.lt_succ_of_lt known
      refine (both.listen_relay ?_ ?_ above).listen_relay ?_ ?_ (Nat.lt_succ_self _)
      all_goals simp

theorem listenersOf_tie_waiting {signals : Signals} {caller : SignalId}
    (inside : caller < signals.length) (waiting : signals.reason? caller = none) (id : SignalId) :
    (signals.tie (some caller)).listenersOf id =
      if id = signals.length + 1 then [.release]
      else if id = signals.length then [.relay (signals.length + 1)]
      else if id = caller then signals.listenersOf id ++ [.relay (signals.length + 1)]
      else signals.listenersOf id := by
  have different : caller ≠ signals.length := Nat.ne_of_lt inside
  unfold tie
  simp only [waiting]
  simp only [listenersOf_listen, listenersOf_append_singleton, length_listen, List.length_append,
    List.length_singleton]
  have last : listenersOf signals signals.length = [] :=
    listenersOf_eq_nil_of_length_le (Nat.le_refl _)
  grind

theorem reason?_tie_timed (signals : Signals) (caller : Option SignalId) :
    (signals.tie caller).reason? signals.length = none := by
  unfold tie
  split
  · exact reason?_append_length _
  · split
    · rw [reason?_append_left _ (by simp), reason?_append_length]
    · rw [reason?_listen, reason?_listen, reason?_append_left _ (by simp), reason?_append_length]

theorem reason?_tie_merged (signals : Signals) (caller : SignalId) :
    (signals.tie (some caller)).reason? (signals.length + 1) =
      (signals.reason? caller).map relayedReason := by
  have last : (signals ++ [(⟨none, []⟩ : Signal)]).length = signals.length + 1 := by simp
  unfold tie
  cases aborted : signals.reason? caller with
  | some reason =>
      simp only [aborted]
      rw [← last, reason?_append_length]
      rfl
  | none =>
      simp only [aborted]
      rw [reason?_listen, reason?_listen, ← last, reason?_append_length]
      rfl

/-- A tie puts at most one listener on a signal: a relay to the merged signal on its two sources, and
on the merged signal itself the one that takes those away. -/
theorem listenersOf_tie {signals : Signals} {caller : Option SignalId}
    (inside : ∀ signal ∈ caller, signal < signals.length) (source : SignalId) :
    (signals.tie caller).listenersOf source = signals.listenersOf source ∨
      (source = signals.length + 1 ∧ (signals.tie caller).listenersOf source = [.release]) ∨
        (∃ own, caller = some own ∧ (source = own ∨ source = signals.length)) ∧
          (signals.tie caller).listenersOf source =
            signals.listenersOf source ++ [.relay (signals.length + 1)] := by
  have beyond : ∀ {more : Signals} {id}, more.length = id → more.listenersOf id = [] :=
    fun same => listenersOf_eq_nil_of_length_le (Nat.le_of_eq same)
  have added : ∀ (more : Signals) (reason : Option Value),
      listenersOf (more ++ [⟨reason, []⟩]) source = more.listenersOf source := by
    intro more reason
    rw [listenersOf_append_singleton]
    split
    · rename_i last
      exact (beyond last.symm).symm
    · rfl
  cases caller with
  | none => exact .inl (added signals none)
  | some caller =>
      cases waiting : signals.reason? caller with
      | some reason =>
          simp only [tie, waiting]
          exact .inl ((added _ _).trans (added _ _))
      | none =>
          rw [listenersOf_tie_waiting (inside caller rfl) waiting]
          split
          · rename_i merged
            exact .inr (.inl ⟨merged, rfl⟩)
          · split
            · rename_i timed
              exact .inr (.inr ⟨⟨caller, rfl, .inr timed⟩, by rw [timed, beyond rfl]; rfl⟩)
            · split
              · rename_i own
                exact .inr (.inr ⟨⟨caller, rfl, .inl own⟩, rfl⟩)
              · exact .inl rfl

theorem relay_tie {signals : Signals} {caller : Option SignalId}
    (inside : ∀ signal ∈ caller, signal < signals.length) {source target : SignalId}
    (member : .relay target ∈ (signals.tie caller).listenersOf source) :
    .relay target ∈ signals.listenersOf source ∨
      target = signals.length + 1 ∧
        ∃ own, caller = some own ∧ (source = own ∨ source = signals.length) := by
  rcases listenersOf_tie inside source with same | ⟨-, same⟩ | ⟨sources, same⟩
  · exact .inl (same ▸ member)
  · rw [same] at member
    simp at member
  · rw [same] at member
    rcases List.mem_append.mp member with earlier | last
    · exact .inl earlier
    · exact .inr ⟨by simpa using last, sources⟩

end Signals

namespace World

/-- The signal that the transport of an exchange is given, with what keeps it armed. -/
def mergedWith (world : World) (caller : Option SignalId) : Clearable :=
  match caller with
  | none => ⟨world.signals.length, .nothing⟩
  | some _ => ⟨world.signals.length + 1, .detach (world.signals.length + 1)⟩

/-- What a world becomes when an exchange with a deadline starts in it, whose timer is the next one.
-/
def tether (world : World) (deadline : Deadline) (caller : Option SignalId) : World :=
  { world with
    signals := world.signals.tie caller
    timers := (world.timers.arm deadline.due
      (.expire world.signals.length deadline.milliseconds)).1 }

/-- The timer and the listeners of an exchange that starts. -/
def arm? (world : World) (timeout : Value) (caller : Option SignalId) :
    Option (World × Option Clearable × Option Clearable) :=
  (world.timeoutSignal? timeout).map fun (world, timeout) =>
    let (world, merged) := world.merge [caller, timeout.map Clearable.signal]
    (world, timeout, merged)

theorem arm?_of_falsy {timeout : Value} (falsy : timeout.isTruthy = false) (world : World)
    (caller : Option SignalId) :
    world.arm? timeout caller = some (world, none, caller.map (⟨·, .nothing⟩)) := by
  unfold arm? timeoutSignal?
  simp only [falsy, Bool.not_false, if_true, Option.map_some]
  cases caller <;> rfl

theorem arm?_of_truthy {timeout : Value} (truthy : timeout.isTruthy = true) (world : World)
    {caller : Option SignalId} (inside : ∀ signal ∈ caller, signal < world.signals.length) :
    world.arm? timeout caller = (world.deadline? timeout).map fun deadline =>
      (world.tether deadline caller, some ⟨world.signals.length, .disarm world.timers.next⟩,
        some (world.mergedWith caller)) := by
  unfold arm? timeoutSignal? deadline?
  simp only [truthy, Bool.not_true, Bool.false_eq_true, if_false, if_true]
  cases timeout.toNumber? with
  | none => rfl
  | some delay =>
      simp only [Option.map_some, Option.some.injEq]
      cases caller with
      | none => rfl
      | some signal =>
          have merged := Signals.merge_timed (inside signal rfl)
          simp only [World.merge, Signals.create, merged]
          rfl

/-- An exchange that starts arms at most one timer, and leaves the clock as it is. -/
theorem arm?_fixed {world : World} {timeout : Value} {caller : Option SignalId} {next : World}
    {timer merged : Option Clearable}
    (armed : world.arm? timeout caller = some (next, timer, merged)) :
    next.clock = world.clock ∧ next.origin = world.origin ∧
      next.timers.next ≤ world.timers.next + 1 := by
  unfold arm? timeoutSignal? at armed
  split at armed
  · obtain ⟨rfl, -, -⟩ := armed
    exact ⟨rfl, rfl, Nat.le_succ _⟩
  · obtain ⟨⟨armed, clearable⟩, made, result⟩ := Option.map_eq_some_iff.mp armed
    obtain ⟨delay, -, made⟩ := Option.map_eq_some_iff.mp made
    obtain ⟨rfl, rfl⟩ := made
    obtain ⟨rfl, -, -⟩ := result
    exact ⟨rfl, rfl, Nat.le_refl _⟩

/-- A timer of a timeout signal that is made after the signals of a world. -/
def NewTimer (before after : World) (timer : Timer) : Prop :=
  before.timers.next ≤ timer.id ∧ timer.id < after.timers.next ∧
    ∃ target text, timer.task = .expire target text ∧ before.signals.length ≤ target ∧
      target < after.signals.length ∧ ∀ source, .relay target ∈ after.signals.listenersOf source →
        .relay target ∈ before.signals.listenersOf source

/-- A change of the world in which no signal aborts and no timer fires: timers may be armed for new
signals, and all timers stay but those that are `gone`. -/
structure Quiet (before after : World) (gone : Release → Prop) : Prop where
  signals : Signals.Quiet before.signals after.signals fun target => gone (.detach target)
  next_le : before.timers.next ≤ after.timers.next
  armed : ∀ {timer}, timer ∈ after.timers.armed →
    timer ∈ before.timers.armed ∨ NewTimer before after timer
  stays : ∀ {timer}, timer ∈ before.timers.armed → ¬ gone (.disarm timer.id) →
    timer ∈ after.timers.armed
  apart : (∀ timer ∈ before.timers.armed, timer.id < before.timers.next) →
    before.timers.armed.Pairwise (·.id ≠ ·.id) → after.timers.armed.Pairwise (·.id ≠ ·.id)

namespace Quiet

variable {before after : World} {gone : Release → Prop}

theorem ofSignals (timers : after.timers = before.timers)
    (quiet : Signals.Quiet before.signals after.signals fun target => gone (.detach target)) :
    Quiet before after gone where
  signals := quiet
  next_le := by simp [timers]
  armed member := .inl (timers ▸ member)
  stays member _ := timers ▸ member
  apart _ pairwise := timers ▸ pairwise

theorem refl (world : World) (gone : Release → Prop) : Quiet world world gone :=
  .ofSignals rfl (.refl ..)

theorem mono {wider : Release → Prop} (quiet : Quiet before after gone)
    (includes : ∀ {release}, gone release → wider release) : Quiet before after wider where
  signals := quiet.signals.mono includes
  next_le := quiet.next_le
  armed := quiet.armed
  stays member here := quiet.stays member fun away => here (includes away)
  apart := quiet.apart

theorem armed_of_expire (quiet : Quiet before after gone) {timer : Timer} {signal : SignalId}
    {text : Text} (inside : signal < before.signals.length) (member : timer ∈ after.timers.armed)
    (task : timer.task = .expire signal text) : timer ∈ before.timers.armed := by
  rcases quiet.armed member with old | ⟨-, -, target, text', task', new, -⟩
  · exact old
  · obtain ⟨rfl, -⟩ := Task.expire.inj (task.symm.trans task')
    exact absurd inside (Nat.not_lt_of_le new)

theorem release (world : World) (release : Release) :
    Quiet world (world.release release) (· = release) := by
  cases release with
  | nothing => exact .refl ..
  | detach target =>
      refine .ofSignals rfl ((Signals.Quiet.detach world.signals target).mono ?_)
      rintro _ rfl
      rfl
  | disarm timer =>
      exact {
        signals := .refl ..
        next_le := Nat.le_refl _
        armed := fun member => .inl (List.mem_filter.mp member).1
        stays := fun member here => List.mem_filter.mpr
          ⟨member, bne_iff_ne.mpr fun same => here (congrArg Release.disarm same)⟩
        apart := fun _ pairwise => pairwise.filter _ }

theorem allotted (quiet : Quiet before after gone)
    (bound : ∀ timer ∈ before.timers.armed, timer.id < before.timers.next) :
    ∀ timer ∈ after.timers.armed, timer.id < after.timers.next := by
  intro timer member
  rcases quiet.armed member with old | ⟨-, below, -⟩
  · exact Nat.lt_of_lt_of_le (bound timer old) quiet.next_le
  · exact below

theorem trans {last : World} (first : Quiet before after gone) (second : Quiet after last gone) :
    Quiet before last gone where
  signals := first.signals.trans second.signals
  next_le := Nat.le_trans first.next_le second.next_le
  armed := by
    intro timer member
    rcases second.armed member with middle | ⟨above, below, target, text, task, new, room, free⟩
    · rcases first.armed middle with old | ⟨above, below, target, text, task, new, room, free⟩
      · exact .inl old
      · refine .inr ⟨above, Nat.lt_of_lt_of_le below second.next_le, target, text, task, new,
          second.signals.lt_length room, ?_⟩
        intro source relayed
        exact free source (second.signals.relay_old room relayed)
    · refine .inr ⟨Nat.le_trans first.next_le above, below, target, text, task,
        Nat.le_trans first.signals.length_le new, room, ?_⟩
      intro source relayed
      rcases first.signals.relays (free source relayed) with old | ⟨-, early, -⟩
      · exact old
      · exact absurd early (Nat.not_lt_of_le new)
  stays member here := second.stays (first.stays member here) here
  apart bound pairwise := second.apart (first.allotted bound) (first.apart bound pairwise)

theorem tether (world : World) (deadline : Deadline) {caller : Option SignalId}
    (inside : ∀ signal ∈ caller, signal < world.signals.length) (gone : Release → Prop) :
    Quiet world (world.tether deadline caller) gone where
  signals := Signals.quiet_tie world.signals inside _
  next_le := Nat.le_succ _
  armed := by
    intro timer member
    rcases List.mem_append.mp member with old | new
    · exact .inl old
    · right
      obtain rfl := List.mem_singleton.mp new
      refine ⟨Nat.le_refl _, Nat.lt_succ_self _, world.signals.length, _, rfl, Nat.le_refl _,
        Signals.length_lt_length_tie .., ?_⟩
      intro source relayed
      rcases Signals.relay_tie inside relayed with old | ⟨merged, -⟩
      · exact old
      · exact absurd merged (Nat.ne_of_lt (Nat.lt_succ_self _))
  stays member _ := List.mem_append_left _ member
  apart bound pairwise := by
    refine List.pairwise_append.mpr ⟨pairwise, List.pairwise_singleton .., ?_⟩
    intro old member new last
    obtain rfl := List.mem_singleton.mp last
    exact Nat.ne_of_lt (bound old member)

end Quiet

end World

namespace Exchange

/-- What keeps the signal of an exchange armed. -/
def releases (exchange : Exchange) : List Release :=
  (exchange.timeout.toList ++ exchange.merged.toList).map Clearable.release

theorem release_eq_foldl (exchange : Exchange) (world : World) :
    exchange.release world = exchange.releases.foldl World.release world := by
  obtain ⟨verb, uri, signal, timeout, merged⟩ := exchange
  cases timeout <;> cases merged <;> rfl

theorem view_release {α : Type} (view : World → α) (exchange : Exchange)
    (kept : ∀ (world : World) (release : Release), view (world.release release) = view world)
    (world : World) : view (exchange.release world) = view world := by
  rw [release_eq_foldl]
  generalize exchange.releases = releases
  induction releases generalizing world with
  | nil => rfl
  | cons release releases induction => rw [List.foldl_cons, induction, kept]

theorem quiet_release (exchange : Exchange) (world : World) :
    World.Quiet world (exchange.release world) (· ∈ exchange.releases) := by
  have folded : ∀ (releases : List Release) (world : World),
      World.Quiet world (releases.foldl World.release world) (· ∈ releases) := by
    intro releases
    induction releases with
    | nil => exact fun world => .refl ..
    | cons release releases induction =>
        intro world
        have first : World.Quiet world (world.release release) (· ∈ release :: releases) :=
          (World.Quiet.release world release).mono (by simp +contextual)
        exact first.trans ((induction _).mono (List.mem_cons_of_mem _))
  rw [release_eq_foldl]
  exact folded exchange.releases world

end Exchange

namespace Client.Mutator

/-- What a mutator throws can be seen by a condition. -/
def Truthful (mutator : Client.Mutator) : Prop :=
  ∀ headers reason, mutator headers = .threw reason → reason.isTruthy

end Client.Mutator

namespace Stage

/-- The exchange of a stage whose transport has not settled. -/
def exchange? : Stage → Option Exchange
  | exchanging _ exchange => some exchange
  | delegated _ | reading _ _ | performed _ | deleted _ => none

@[simp] theorem exchange?_broken (reason : Value) (purpose : Purpose) :
    (broken reason purpose).exchange? = none := by
  cases purpose <;> rfl

@[simp] theorem exchange?_afterPerformed (parameters : DeleteBlob.Parameters)
    (ending : DeleteBlob.Performed) : (afterPerformed parameters ending).exchange? = none := by
  unfold afterPerformed
  split <;> rfl

@[simp] theorem exchange?_afterConclusion (purpose : Purpose) (conclusion : Conclusion) :
    (afterConclusion purpose conclusion).exchange? = none := by
  cases purpose with
  | exchange => cases conclusion <;> rfl
  | delete parameters => cases conclusion <;> simp [afterConclusion]

end Stage

namespace Traffic

/-- The exchange of a call whose transport has not settled. -/
def exchange? (traffic : Traffic) (id : CallId) : Option Exchange :=
  (traffic.stage? id).bind Stage.exchange?

theorem exchange?_of_stage? {traffic : Traffic} {id : CallId} {purpose : Purpose}
    {exchange : Exchange} (found : traffic.stage? id = some (.exchanging purpose exchange)) :
    traffic.exchange? id = some exchange := by
  rw [exchange?, found]
  rfl

/-- The call of an exchange that waits for its transport. -/
def waitingCall (purpose : Purpose) (verb uri : Text) (timeout merged : Option Clearable) : Call :=
  let signal := merged.map Clearable.signal
  ⟨signal, .exchanging purpose ⟨verb, uri, signal, timeout, merged⟩⟩

/-- An exchange starts in one of four ways: its header fields are refused; its timeout is none; its
header fields are missing without a reason that can be seen, which comes out when it is bounded
already; or its request is sent. -/
theorem exchange_eq (traffic : Traffic) (client : Client) (purpose : Purpose) (uri verb : Text)
    (mutator : Client.Mutator) (body : Value) (caller : Option SignalId) :
    traffic.exchange client purpose uri verb mutator body caller =
      match (client.assemble traffic.world.instant? mutator).guarded,
        traffic.world.arm? client.requestTimeout caller with
      | .error reason, _ =>
          (traffic.add ⟨none, .afterConclusion purpose
            (.failed (Failure.transport (Exchange.refusedMessage verb) (some reason)))⟩, [], none)
      | .ok _, none => (traffic.add ⟨none, .broken .typeError purpose⟩, [], none)
      | .ok none, some (world, _, _) =>
          ({ traffic with world }.add ⟨none, .broken .typeError purpose⟩, [], none)
      | .ok (some headers), some (world, timeout, merged) =>
          ({ traffic with world }.add (waitingCall purpose verb uri timeout merged),
            [Exchange.sentEntry verb uri headers],
            some ⟨uri, verb, headers, body, merged.map Clearable.signal⟩) := by
  unfold exchange Exchange.start World.arm?
  cases (client.assemble traffic.world.instant? mutator).guarded with
  | error reason => rfl
  | ok headers? =>
      cases traffic.world.timeoutSignal? client.requestTimeout with
      | none => rfl
      | some armed => cases headers? <;> rfl

/-- What the start of a call comes to: a call that waits for no transport, or one that does. -/
inductive Opened (traffic : Traffic) (timeout : Value) (mutator : Client.Mutator)
    (caller : Option SignalId) : Traffic → Prop where
  | idle {call : Call} (still : call.stage.exchange? = none) :
      Opened traffic timeout mutator caller (traffic.add call)
  | leaked {call : Call} {world : World} {timer merged : Option Clearable}
      (still : call.stage.exchange? = none)
      (armed : traffic.world.arm? timeout caller = some (world, timer, merged))
      (thrown : ¬ mutator.Truthful) :
      Opened traffic timeout mutator caller ({ traffic with world }.add call)
  | waiting {purpose : Purpose} {verb uri : Text} {world : World}
      {timer merged : Option Clearable}
      (armed : traffic.world.arm? timeout caller = some (world, timer, merged)) :
      Opened traffic timeout mutator caller
        ({ traffic with world }.add (waitingCall purpose verb uri timer merged))

theorem opened_exchange (traffic : Traffic) (client : Client) (purpose : Purpose)
    (uri verb : Text) (mutator : Client.Mutator) (body : Value) (caller : Option SignalId) :
    Opened traffic client.requestTimeout mutator caller
      (traffic.exchange client purpose uri verb mutator body caller).1 := by
  rw [exchange_eq]
  split
  · exact .idle (Stage.exchange?_afterConclusion ..)
  · exact .idle (Stage.exchange?_broken ..)
  · rename_i assembled armed
    refine .leaked (Stage.exchange?_broken ..) armed fun truthful => ?_
    unfold Client.assemble at assembled
    cases base : client.baseHeaders? traffic.world.instant? with
    | none => simp [base, Completion.guarded, Value.typeError, Value.isTruthy] at assembled
    | some headers =>
        rw [base] at assembled
        cases mutated : mutator headers with
        | returned headers => simp [mutated, Completion.guarded] at assembled
        | threw reason =>
            simp [mutated, Completion.guarded, truthful headers reason mutated] at assembled
  · rename_i armed
    exact .waiting armed

end Traffic

namespace DeleteBlob

theorem setField_raised (name : Text) (value : Value) (headers : Headers) :
    (∃ next, setField name value headers = .ok next) ∨
      setField name value headers = .raised .typeError := by
  unfold setField
  cases value.toText?.bind (headers.set? name) with
  | some next => exact .inl ⟨next, rfl⟩
  | none => exact .inr rfl

theorem setOptionalField_raised (name : Text) (value : Value) (headers : Headers) :
    (∃ next, setOptionalField name value headers = .ok next) ∨
      setOptionalField name value headers = .raised .typeError := by
  unfold setOptionalField
  split
  · exact .inl ⟨headers, rfl⟩
  · exact setField_raised ..

theorem mutator_truthful (parameters : Parameters) : (mutator parameters).Truthful := by
  intro headers reason thrown
  have raised : (∃ next, addHeaders parameters headers = .ok next) ∨
      addHeaders parameters headers = .raised .typeError := by
    unfold addHeaders
    rcases setField_raised snapshotsHeader parameters.deleteSnapshotsMethod headers with
      ⟨first, set⟩ | raised
    · rcases setOptionalField_raised leaseHeader parameters.leaseId first with
        ⟨second, set'⟩ | raised
      · simp only [set, set', bind, Outcome.bind]
        exact setOptionalField_raised ..
      · simp [set, raised, bind, Outcome.bind]
    · simp [raised, bind, Outcome.bind]
  unfold mutator at thrown
  rcases raised with ⟨next, added⟩ | raised
  · simp [added] at thrown
  · simp only [raised, Completion.threw.injEq] at thrown
    subst thrown
    rfl

end DeleteBlob

namespace Traffic

variable {κ : Type}

theorem opened_delete (traffic : Traffic) (client : Client) (builder : DeleteBlob.Builder κ)
    (caller : Option SignalId) :
    ∃ mutator : Client.Mutator, mutator.Truthful ∧
      Opened traffic client.requestTimeout mutator caller
        (traffic.delete client builder caller).1 := by
  unfold delete
  split
  · exact ⟨.returned, by simp [Client.Mutator.Truthful], .idle rfl⟩
  · exact ⟨.returned, by simp [Client.Mutator.Truthful], .idle rfl⟩
  · rename_i parameters request prepared
    exact ⟨DeleteBlob.mutator parameters, DeleteBlob.mutator_truthful parameters,
      opened_exchange ..⟩

theorem delegate_still (traffic : Traffic) (endpoint : Text) (builder : DeleteBlob.Builder κ)
    (caller : Option SignalId) :
    ∃ call : Call, call.stage.exchange? = none ∧
      (traffic.delegate endpoint builder caller).1 = traffic.add call := by
  unfold delegate
  split
  · exact ⟨_, rfl, rfl⟩
  · exact ⟨_, rfl, rfl⟩
  · exact ⟨_, rfl, rfl⟩

end Traffic

end BlobStorage
