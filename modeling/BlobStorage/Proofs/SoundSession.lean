import BlobStorage.Proofs.SessionEffect

/-!
# What holds in every session

`Sound` collects what all events keep: signals and timers are in order, every exchange that waits is
bounded as its opening says, and no two of them are bounded by the same timer or the same merged
signal.  Hence no call takes away what bounds another.
-/

namespace BlobStorage

namespace World

/-- What a release is about exists already. -/
def Knows (world : World) : Release → Prop
  | .nothing => True
  | .detach target => target < world.signals.length
  | .disarm timer => timer < world.timers.next

variable {world : World} {made : List SignalId} {fired : List Nat} {exchange : Exchange}

theorem knows_of_bounded {opening : Opening}
    (bounded : exchange.Bounded world made fired opening) {release : Release}
    (own : release ∈ exchange.releases) : world.Knows release := by
  obtain ⟨verb, uri, signal, timeout, merged⟩ := exchange
  obtain ⟨caller, deadline⟩ := opening
  obtain ⟨-, -, timed, follows⟩ := bounded
  simp only at timed follows
  generalize timeout.map Clearable.signal = timerSignal at follows
  have ofTimer : ∀ clearable ∈ timeout, world.Knows clearable.release := by
    rintro clearable ⟨⟩
    cases timed with
    | armed ticking => exact ticking.allotted
  have ofMerged : ∀ clearable ∈ merged, world.Knows clearable.release := by
    rintro clearable ⟨⟩
    cases follows with
    | caller => trivial
    | timer => trivial
    | both linked => exact linked.inside
  unfold Exchange.releases at own
  obtain ⟨clearable, member, rfl⟩ := List.mem_map.mp own
  rcases List.mem_append.mp member with inTimer | inMerged
  · exact ofTimer clearable (Option.mem_toList.mp inTimer)
  · exact ofMerged clearable (Option.mem_toList.mp inMerged)

theorem not_knows_of_arm? {timeout : Value} {caller : Option SignalId} {next : World}
    {timer merged : Option Clearable}
    (inside : ∀ signal ∈ caller, signal < world.signals.length)
    (armed : world.arm? timeout caller = some (next, timer, merged)) (verb uri : Text)
    {release : Release}
    (own : release ∈
      Exchange.releases ⟨verb, uri, merged.map Clearable.signal, timer, merged⟩) :
    release = .nothing ∨ ¬ world.Knows release := by
  cases truthy : timeout.isTruthy with
  | false =>
      rw [arm?_of_falsy truthy] at armed
      obtain ⟨rfl, rfl, rfl⟩ := armed
      cases caller with
      | none => simp [Exchange.releases] at own
      | some caller => exact .inl (by simpa [Exchange.releases] using own)
  | true =>
      rw [arm?_of_truthy truthy world inside] at armed
      obtain ⟨deadline, -, result⟩ := Option.map_eq_some_iff.mp armed
      obtain ⟨rfl, rfl, rfl⟩ := result
      cases caller with
      | none =>
          obtain rfl | rfl : release = .disarm world.timers.next ∨ release = .nothing := by
            simpa [Exchange.releases, mergedWith] using own
          · exact .inr (Nat.lt_irrefl _)
          · exact .inl rfl
      | some caller =>
          obtain rfl | rfl : release = .disarm world.timers.next ∨
              release = .detach (world.signals.length + 1) := by
            simpa [Exchange.releases, mergedWith] using own
          · exact .inr (Nat.lt_irrefl _)
          · exact .inr (Nat.not_lt_of_le (Nat.le_succ _))

end World

namespace Session

variable {κ : Type}

/-- What all events of a session keep. -/
structure Sound (session : Session) : Prop where
  orderly : session.world.Orderly session.made session.fired
  length_eq : session.openings.length = session.traffic.calls.length
  bounded : ∀ {id exchange opening}, session.traffic.exchange? id = some exchange →
    session.openings[id]? = some opening →
      exchange.Bounded session.world session.made session.fired opening
  apart : ∀ {id other exchange others release}, session.traffic.exchange? id = some exchange →
    session.traffic.exchange? other = some others → release ∈ exchange.releases →
      release ∈ others.releases → release ≠ .nothing → id = other

/-- A call is started together with its opening. -/
theorem length_openings_step {session : Session}
    (length_eq : session.openings.length = session.traffic.calls.length) (event : Event κ) :
    (session.step event).openings.length = (session.step event).traffic.calls.length := by
  have extended : ∀ {next : Traffic}, session.traffic.Extends next →
      ∀ opening, (session.openings ++ [opening]).length = next.calls.length := by
    rintro next ⟨call, calls⟩ opening
    simp [calls, length_eq]
  have same : ∀ next : Traffic, next.calls.length = session.traffic.calls.length →
      (session.openings ++ []).length = next.calls.length := by
    intro next calls
    rw [List.append_nil, calls, length_eq]
  cases event with
  | exchange client uri verb mutator body caller =>
      exact extended (Traffic.extends_exchange ..) _
  | delete client builder caller => exact extended (Traffic.extends_delete ..) _
  | delegate endpoint builder caller => exact extended (Traffic.extends_delegate ..) _
  | settle call completion =>
      refine same (session.traffic.settle call completion).1 ?_
      unfold Traffic.settle
      split <;> simp
  | conclude call ending =>
      refine same (session.traffic.conclude call ending) ?_
      unfold Traffic.conclude
      split <;> simp
  | readBody call =>
      refine same (session.traffic.readBody call).1 ?_
      unfold Traffic.readBody
      split <;> simp
  | _ => exact same _ rfl

namespace Sound

variable {before after : Session}

theorem opening_of_exchange? (sound : before.Sound) {id : CallId} {exchange : Exchange}
    (waiting : before.traffic.exchange? id = some exchange) :
    ∃ opening, before.openings[id]? = some opening ∧
      exchange.Bounded before.world before.made before.fired opening := by
  have inside : id < before.openings.length := by
    rw [sound.length_eq]
    exact Traffic.lt_length_of_exchange? waiting
  have opened := List.getElem?_eq_getElem inside
  exact ⟨_, opened, sound.bounded waiting opened⟩

theorem opened_step (sound : before.Sound) {event : Event κ} {opening : Opening}
    (opens : event.opening? before.world = some opening) :
    (before.step event).openings[before.traffic.calls.length]? = some opening := by
  rw [← sound.length_eq]
  simp [Session.step, opens]

theorem getElem?_of_prefix (sound : before.Sound) {openings : List Opening}
    (more : before.openings <+: openings) {id : CallId} {exchange : Exchange} {opening : Opening}
    (waiting : before.traffic.exchange? id = some exchange)
    (opened : openings[id]? = some opening) : before.openings[id]? = some opening := by
  obtain ⟨later, rfl⟩ := more
  obtain ⟨own, earlier, -⟩ := sound.opening_of_exchange? waiting
  rwa [List.getElem?_append_left (List.getElem?_eq_some_iff.mp earlier).1] at opened

/-- Nothing is released: the exchanges that waited go on waiting, as they were. -/
theorem quiet (sound : before.Sound)
    (change : before.world.Quiet after.world fun _ => False)
    (orderly : after.world.Orderly after.made after.fired)
    (length_eq : after.openings.length = after.traffic.calls.length)
    (waiting : ∀ id, after.traffic.exchange? id = before.traffic.exchange? id)
    (kept : ∀ signal ∈ before.made, signal ∈ after.made)
    (made : ∀ signal ∈ after.made, signal ∈ before.made ∨ before.world.signals.length ≤ signal)
    (openings : before.openings <+: after.openings) (fired : after.fired = before.fired) :
    after.Sound where
  orderly := orderly
  length_eq := length_eq
  bounded := by
    intro id exchange opening own opened
    rw [waiting] at own
    rw [fired]
    exact (sound.bounded own (sound.getElem?_of_prefix openings own opened)).quiet sound.orderly
      change (fun _ _ _ gone => gone) kept made
  apart := by
    intro id other exchange others release own foreign
    rw [waiting] at own foreign
    exact sound.apart own foreign

theorem starts (sound : before.Sound) {timeout : Value} {caller : Option SignalId}
    {timer merged : Option Clearable} {verb uri : Text}
    (known : ∀ signal ∈ caller, signal ∈ before.made)
    (armed : before.world.arm? timeout caller = some (after.world, timer, merged))
    (waiting : ∀ id, after.traffic.exchange? id =
      if id = before.traffic.calls.length then
        some ⟨verb, uri, merged.map Clearable.signal, timer, merged⟩
      else before.traffic.exchange? id)
    (made : after.made = before.made)
    (openings : after.openings = before.openings ++ [⟨caller, before.world.deadline? timeout⟩])
    (fired : after.fired = before.fired)
    (length_eq : after.openings.length = after.traffic.calls.length) : after.Sound := by
  have inside : ∀ signal ∈ caller, signal < before.world.signals.length :=
    fun signal own => sound.orderly.inside signal (known signal own)
  have change := World.quiet_arm inside armed fun _ => False
  -- What an exchange that waits is bounded by was there before the new one.
  have different : ∀ {id exchange release}, before.traffic.exchange? id = some exchange →
      release ∈ exchange.releases →
      release ∈ Exchange.releases ⟨verb, uri, merged.map Clearable.signal, timer, merged⟩ →
      release = .nothing := by
    intro id exchange release own earlier now
    obtain ⟨opening, -, bounded⟩ := sound.opening_of_exchange? own
    rcases World.not_knows_of_arm? inside armed verb uri now with nothing | unknown
    · exact nothing
    · exact absurd (World.knows_of_bounded bounded earlier) unknown
  refine ⟨?_, length_eq, ?_, ?_⟩
  · rw [made, fired]
    exact sound.orderly.quiet change
  · intro id exchange opening own opened
    rw [waiting] at own
    rw [made, fired]
    split at own
    · rename_i last
      obtain rfl := Option.some.inj own
      have same : opening = ⟨caller, before.world.deadline? timeout⟩ := by
        rw [openings, last, ← sound.length_eq] at opened
        simpa using opened.symm
      rw [same]
      exact sound.orderly.bounded_arm known armed verb uri
    · have earlier := sound.getElem?_of_prefix (openings ▸ List.prefix_append ..) own opened
      exact (sound.bounded own earlier).quiet sound.orderly change (fun _ _ _ gone => gone)
        (fun _ member => member) (fun _ member => .inl member)
  · intro id other exchange others release own foreign first second something
    rw [waiting] at own foreign
    split at own <;> split at foreign
    · rename_i last last'
      rw [last, last']
    · obtain rfl := Option.some.inj own
      exact absurd (different foreign second first) something
    · obtain rfl := Option.some.inj foreign
      exact absurd (different own first second) something
    · exact sound.apart own foreign first second something

theorem settles (sound : before.Sound) {id : CallId} {exchange : Exchange}
    (mine : before.traffic.exchange? id = some exchange)
    (world : after.world = exchange.release before.world)
    (waiting : ∀ other, after.traffic.exchange? other =
      if id = other then none else before.traffic.exchange? other)
    (made : after.made = before.made) (openings : after.openings = before.openings)
    (fired : after.fired = before.fired)
    (length_eq : after.openings.length = after.traffic.calls.length) : after.Sound := by
  have change := exchange.quiet_release before.world
  rw [← world] at change
  have waited : ∀ {other exchange}, after.traffic.exchange? other = some exchange →
      id ≠ other ∧ before.traffic.exchange? other = some exchange := by
    intro other exchange own
    rw [waiting] at own
    split at own
    · cases own
    · rename_i different
      exact ⟨different, own⟩
  refine ⟨?_, length_eq, ?_, ?_⟩
  · rw [made, fired]
    exact sound.orderly.quiet change
  · intro other others opening own opened
    obtain ⟨different, own⟩ := waited own
    rw [openings] at opened
    rw [made, fired]
    refine (sound.bounded own opened).quiet sound.orderly change ?_ (fun _ member => member)
      (fun _ member => .inl member)
    intro release theirs something gone
    exact different (sound.apart mine own gone theirs something)
  · intro first second exchange others release own foreign
    exact sound.apart (waited own).2 (waited foreign).2

theorem keeps (sound : before.Sound) (orderly : after.world.Orderly after.made after.fired)
    (length_eq : after.openings.length = after.traffic.calls.length)
    (waiting : ∀ id, after.traffic.exchange? id = before.traffic.exchange? id)
    (openings : after.openings = before.openings)
    (bounded : ∀ {exchange : Exchange} {opening : Opening},
      exchange.Bounded before.world before.made before.fired opening →
        exchange.Bounded after.world after.made after.fired opening) : after.Sound where
  orderly := orderly
  length_eq := length_eq
  bounded := by
    intro id exchange opening own opened
    rw [waiting] at own
    rw [openings] at opened
    exact bounded (sound.bounded own opened)
  apart := by
    intro id other exchange others release own foreign
    rw [waiting] at own foreign
    exact sound.apart own foreign

theorem step (sound : before.Sound) {event : Event κ} (admitted : before.Admits event) :
    (before.step event).Sound := by
  have length_eq := length_openings_step sound.length_eq event
  have effect := effect_step sound.orderly admitted
  generalize before.step event = after at length_eq effect
  -- One case for each thing that an event can do to the world; most of them are quiet.
  cases effect with
  | still change waiting made openings fired =>
      refine sound.quiet change.quiet ?_ length_eq waiting ?_ ?_ openings fired
      · rw [made, fired]
        exact sound.orderly.quiet change.quiet
      · exact fun signal member => made ▸ member
      · exact fun signal member => .inl (made ▸ member)
  | makes world waiting made openings fired =>
      have still := World.Still.addSignal before.world
      rw [← world] at still
      refine sound.quiet still.quiet ?_ length_eq waiting ?_ ?_ (openings ▸ List.prefix_rfl) fired
      · rw [world, made, fired]
        exact sound.orderly.addSignal
      · intro signal member
        exact made ▸ List.mem_append_left _ member
      · intro signal member
        rw [made] at member
        rcases List.mem_append.mp member with earlier | new
        · exact .inl earlier
        · exact .inr (Nat.le_of_eq (List.mem_singleton.mp new).symm)
  | leaks thrown known armed waiting made openings fired =>
      have inside := fun signal own => sound.orderly.inside signal (known signal own)
      have change := World.quiet_arm inside armed fun _ => False
      refine sound.quiet change ?_ length_eq waiting ?_ ?_ openings fired
      · rw [made, fired]
        exact sound.orderly.quiet change
      · exact fun signal member => made ▸ member
      · exact fun signal member => .inl (made ▸ member)
  | starts known armed waiting made openings fired =>
      exact sound.starts known armed waiting made openings fired length_eq
  | settles mine world waiting made openings fired =>
      exact sound.settles mine world waiting made openings fired length_eq
  | aborts cause caller abort world waiting made openings fired =>
      refine sound.keeps ?_ length_eq waiting openings ?_
      · rw [world, made, fired]
        exact sound.orderly.aborts abort
      · intro exchange opening bounded
        rw [world, made, fired]
        exact bounded.aborts abort caller
  | fires cause first fires waiting made openings fired =>
      refine sound.keeps ?_ length_eq waiting openings ?_
      · rw [made, fired]
        exact sound.orderly.fires fires
      · intro exchange opening bounded
        rw [made, fired]
        exact bounded.fires fires

end Sound

theorem sound_start (origin : Number) : (start origin).Sound where
  orderly := {
    ascending := by simp [Signals.Ascending, start, History.start, Traffic.start, World.start,
      Signals.listenersOf]
    unmade := by simp [start]
    inside := by simp [start]
    allotted := by simp [start, History.start, Traffic.start, World.start, Timers.none]
    apart := by simp [start, History.start, Traffic.start, World.start, Timers.none]
    expiring := by simp [start, History.start, Traffic.start, World.start, Timers.none]
    past := by simp [start] }
  length_eq := rfl
  bounded := by simp [start, History.start, Traffic.start, Traffic.exchange?, Traffic.stage?]
  apart := by simp [start, History.start, Traffic.start, Traffic.exchange?, Traffic.stage?]

theorem Sound.run {session : Session} (sound : session.Sound) {events : List (Event κ)}
    (admitted : session.AdmitsAll events) : (session.run events).Sound := by
  induction events generalizing session with
  | nil => exact sound
  | cons event events induction => exact induction (sound.step admitted.1) admitted.2

end Session

end BlobStorage
