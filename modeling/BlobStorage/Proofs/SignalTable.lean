import BlobStorage.Signal.Basic

/-!
# The table of signals

What the operations on the table of signals do to the reason and to the listeners of each signal in
it.  A change is `Quiet` if it aborts nothing that was there and adds relays to new signals only.
-/

namespace BlobStorage

namespace Signals

/-- The listeners of a signal; a signal that does not exist has none. -/
def listenersOf (signals : Signals) (id : SignalId) : List Listener :=
  (signals[id]?.map Signal.listeners).getD []

section Access

variable {signals : Signals} {id other : SignalId}

theorem reason?_eq_none_of_length_le (outside : signals.length ≤ id) :
    signals.reason? id = none := by
  simp [reason?, outside]

theorem listenersOf_eq_nil_of_length_le (outside : signals.length ≤ id) :
    signals.listenersOf id = [] := by
  simp [listenersOf, outside]

theorem lt_length_of_reason? {reason : Value} (aborted : signals.reason? id = some reason) :
    id < signals.length := by
  refine Nat.lt_of_not_le fun outside => ?_
  rw [reason?_eq_none_of_length_le outside] at aborted
  cases aborted

theorem lt_length_of_mem_listenersOf {listener : Listener}
    (member : listener ∈ signals.listenersOf id) : id < signals.length := by
  refine Nat.lt_of_not_le fun outside => ?_
  rw [listenersOf_eq_nil_of_length_le outside] at member
  cases member

theorem isAborted_iff : signals.isAborted id ↔ ∃ reason, signals.reason? id = some reason := by
  rw [isAborted, Option.isSome_iff_exists]

theorem isAborted_eq_false_iff : signals.isAborted id = false ↔ signals.reason? id = none := by
  simp [isAborted]

theorem reason?_append_left (more : Signals) (inside : id < signals.length) :
    reason? (signals ++ more) id = signals.reason? id := by
  simp [reason?, List.getElem?_append_left inside]

theorem listenersOf_append_left (more : Signals) (inside : id < signals.length) :
    listenersOf (signals ++ more) id = signals.listenersOf id := by
  simp [listenersOf, List.getElem?_append_left inside]

@[simp] theorem reason?_append_length (signal : Signal) :
    reason? (signals ++ [signal]) signals.length = signal.reason := by
  simp [reason?]

@[simp] theorem listenersOf_append_length (signal : Signal) :
    listenersOf (signals ++ [signal]) signals.length = signal.listeners := by
  simp [listenersOf]

theorem listenersOf_append_singleton (signal : Signal) :
    listenersOf (signals ++ [signal]) id =
      if id = signals.length then signal.listeners else signals.listenersOf id := by
  unfold listenersOf
  split
  · rename_i last
    simp [last]
  · rename_i other
    rw [List.getElem?_append]
    split
    · rfl
    · have beyond : signals.length < id := by grind
      simp [Nat.le_of_lt beyond, Nat.sub_ne_zero_of_lt beyond]

/-- What is read from a signal after another one was put in a place. -/
theorem read_set {β : Type} (read : Option Signal → β) (signal : Signal) :
    read (signals.set id signal)[other]? =
      if id = other ∧ id < signals.length then read (some signal) else read signals[other]? := by
  rw [List.getElem?_set]
  by_cases same : id = other
  · subst other
    by_cases inside : id < signals.length
    · simp [inside]
    · simp [inside]
  · simp [same]

theorem reason?_set (signal : Signal) :
    reason? (signals.set id signal) other =
      if id = other ∧ id < signals.length then signal.reason else signals.reason? other :=
  read_set (·.bind Signal.reason) signal

theorem listenersOf_set (signal : Signal) :
    listenersOf (signals.set id signal) other =
      if id = other ∧ id < signals.length then signal.listeners else signals.listenersOf other :=
  read_set (fun signal? => (signal?.map Signal.listeners).getD []) signal

@[simp] theorem length_listen (listener : Listener) :
    (signals.listen id listener).length = signals.length := by
  simp [listen]

@[simp] theorem reason?_listen (listener : Listener) :
    (signals.listen id listener).reason? other = signals.reason? other := by
  unfold listen reason?
  rw [List.getElem?_modify]
  by_cases same : id = other
  · cases signals[other]? <;> simp [same]
  · simp [same]

theorem listenersOf_listen (listener : Listener) :
    (signals.listen id listener).listenersOf other =
      if id = other ∧ id < signals.length then signals.listenersOf other ++ [listener]
      else signals.listenersOf other := by
  unfold listen listenersOf
  rw [List.getElem?_modify]
  by_cases same : id = other
  · subst other
    by_cases inside : id < signals.length
    · simp [inside]
    · simp [inside]
  · simp [same]

@[simp] theorem length_detach : (signals.detach id).length = signals.length := by
  simp [detach]

@[simp] theorem reason?_detach : (signals.detach id).reason? other = signals.reason? other := by
  unfold detach reason?
  rw [List.getElem?_map]
  cases signals[other]? <;> rfl

@[simp] theorem listenersOf_detach :
    (signals.detach id).listenersOf other =
      (signals.listenersOf other).filter (· != .relay id) := by
  unfold detach listenersOf
  rw [List.getElem?_map]
  cases signals[other]? <;> rfl

end Access

/-- A change of the table that aborts none of its signals: signals may be added, listeners too, but
relays only to signals that are added.  All listeners stay but relays to signals that are `gone`. -/
structure Quiet (before after : Signals) (gone : SignalId → Prop) : Prop where
  length_le : before.length ≤ after.length
  reason?_eq : ∀ {id}, id < before.length → after.reason? id = before.reason? id
  relays : ∀ {source target}, .relay target ∈ after.listenersOf source →
    .relay target ∈ before.listenersOf source ∨
      before.length ≤ target ∧ target < after.length ∧ source < target
  stays : ∀ {id listener}, listener ∈ before.listenersOf id →
    (∀ target, listener = .relay target → ¬ gone target) → listener ∈ after.listenersOf id

namespace Quiet

variable {before after : Signals} {gone : SignalId → Prop}

theorem refl (signals : Signals) (gone : SignalId → Prop) : Quiet signals signals gone where
  length_le := Nat.le_refl _
  reason?_eq _ := rfl
  relays member := .inl member
  stays member _ := member

theorem relay_old (quiet : Quiet before after gone) {source target : SignalId}
    (inside : target < before.length) (member : .relay target ∈ after.listenersOf source) :
    .relay target ∈ before.listenersOf source := by
  rcases quiet.relays member with old | ⟨new, -, -⟩
  · exact old
  · exact absurd inside (Nat.not_lt_of_le new)

theorem lt_length (quiet : Quiet before after gone) {id : SignalId} (inside : id < before.length) :
    id < after.length :=
  Nat.lt_of_lt_of_le inside quiet.length_le

theorem append (signals : Signals) (gone : SignalId → Prop) {signal : Signal}
    (plain : ∀ target, .relay target ∉ signal.listeners) :
    Quiet signals (signals ++ [signal]) gone where
  length_le := by simp
  reason?_eq inside := reason?_append_left [signal] inside
  relays := by
    intro source target member
    rcases Nat.lt_or_ge source signals.length with inside | outside
    · exact .inl (listenersOf_append_left [signal] inside ▸ member)
    · have last : source < signals.length + 1 := by
        simpa using lt_length_of_mem_listenersOf member
      obtain rfl : source = signals.length := Nat.le_antisymm (Nat.le_of_lt_succ last) outside
      rw [listenersOf_append_length] at member
      exact absurd member (plain target)
  stays := by
    intro id listener member _
    rwa [listenersOf_append_left [signal] (lt_length_of_mem_listenersOf member)]

theorem listen_transport (signals : Signals) (gone : SignalId → Prop) (id : SignalId)
    (call : CallId) : Quiet signals (signals.listen id (.transport call)) gone where
  length_le := by simp
  reason?_eq _ := reason?_listen _
  relays := by
    intro source target member
    rw [listenersOf_listen] at member
    split at member
    · exact .inl (by simpa using member)
    · exact .inl member
  stays := by
    intro other listener member _
    rw [listenersOf_listen]
    split
    · exact List.mem_append_left _ member
    · exact member

/-- The relays to one signal are taken away. -/
theorem detach (signals : Signals) (target : SignalId) :
    Quiet signals (signals.detach target) (· = target) where
  length_le := by simp
  reason?_eq _ := reason?_detach
  relays := by
    intro source goal member
    rw [listenersOf_detach] at member
    exact .inl (List.mem_filter.mp member).1
  stays := by
    intro id listener member others
    rw [listenersOf_detach, List.mem_filter]
    refine ⟨member, ?_⟩
    rw [bne_iff_ne]
    intro same
    exact others target same rfl

theorem trans {last : Signals} (first : Quiet before after gone) (second : Quiet after last gone) :
    Quiet before last gone where
  length_le := Nat.le_trans first.length_le second.length_le
  reason?_eq inside :=
    (second.reason?_eq (first.lt_length inside)).trans (first.reason?_eq inside)
  relays := by
    intro source target member
    rcases second.relays member with middle | ⟨new, inside, above⟩
    · rcases first.relays middle with old | ⟨new, inside, above⟩
      · exact .inl old
      · exact .inr ⟨new, second.lt_length inside, above⟩
    · exact .inr ⟨Nat.le_trans first.length_le new, inside, above⟩
  stays member others := second.stays (first.stays member others) others

theorem mono {wider : SignalId → Prop} (quiet : Quiet before after gone)
    (includes : ∀ {target}, gone target → wider target) : Quiet before after wider where
  length_le := quiet.length_le
  reason?_eq := quiet.reason?_eq
  relays := quiet.relays
  stays member others :=
    quiet.stays member fun target same away => others target same (includes away)

end Quiet

end Signals

end BlobStorage
