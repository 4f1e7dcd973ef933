import BlobStorage.Proofs.SignalTable

/-!
# How an abort spreads

An abort marks its signal and then tells the listeners of that signal one after another; a relay
among them aborts another signal in turn, and a merged signal that aborts takes its relays away from
all signals.  `Spread` says what has become of a table of signals when an abort has gone that far,
without mention of the order in which listeners were told.  `abort_aborts` is all that later modules
use of `abort`.
-/

namespace BlobStorage

namespace Signals

/-- Telling one listener of a signal that has aborted. -/
def tell (depth : Nat) (id : SignalId) (reason : Value) (signals : Signals) :
    Listener → Signals
  | .relay target => (signals.abortWithin depth target (relayedReason reason)).1
  | .release => signals.detach id
  | .transport _ => signals

theorem abortWithin_of_aborted {signals : Signals} {id : SignalId} {earlier : Value}
    (aborted : signals.reason? id = some earlier) (depth : Nat) (reason : Value) :
    (signals.abortWithin depth id reason).1 = signals := by
  obtain ⟨signal, present, own⟩ := Option.bind_eq_some_iff.mp aborted
  obtain ⟨earlier?, listeners⟩ := signal
  simp only at own
  subst own
  cases depth with
  | zero => rfl
  | succ depth => simp [abortWithin, present]

/-- An abort of a signal that has not aborted: it is marked, and its listeners are told in order. -/
theorem abortWithin_succ {signals : Signals} {id : SignalId} (inside : id < signals.length)
    (waiting : signals.reason? id = none) (depth : Nat) (reason : Value) :
    (signals.abortWithin (depth + 1) id reason).1 =
      (signals.listenersOf id).foldl (tell depth id reason)
        (signals.set id ⟨some reason, []⟩) := by
  obtain ⟨signal, present⟩ : ∃ signal, signals[id]? = some signal :=
    ⟨signals[id], List.getElem?_eq_getElem inside⟩
  obtain ⟨reason?, listeners⟩ := signal
  have unmarked : reason? = none := by
    simpa [Signals.reason?, present] using waiting
  subst unmarked
  simp only [abortWithin, present, listenersOf, Option.map_some, Option.getD_some]
  refine (List.foldl_hom Prod.fst fun state listener => ?_).symm
  cases listener <;> rfl

/-- A signal aborts between two tables. -/
def Newly (before after : Signals) (id : SignalId) : Prop :=
  before.reason? id = none ∧ after.isAborted id

theorem Newly.split {before current after : Signals} {id : SignalId}
    (newly : Newly before after id) : Newly before current id ∨ Newly current after id := by
  cases meanwhile : current.reason? id with
  | none => exact .inr ⟨meanwhile, newly.2⟩
  | some taken => exact .inl ⟨newly.1, isAborted_iff.mpr ⟨taken, meanwhile⟩⟩

theorem Newly.not_earlier {before current after : Signals} {id : SignalId}
    (later : Newly current after id) : ¬ Newly before current id := by
  intro earlier
  obtain ⟨taken, aborted⟩ := isAborted_iff.mp earlier.2
  cases later.1.symm.trans aborted

/-- Every relay stands on a signal that was made before the one that it aborts. -/
def Ascending (signals : Signals) : Prop :=
  ∀ ⦃source target⦄, .relay target ∈ signals.listenersOf source →
    source < target ∧ target < signals.length

/-- What an abort of a signal for a reason has come to between two tables, when of each signal that
aborts the listeners in `heard` were told.  Marks stay.  A signal that aborts is the first one, or
it was told by a relay on another that aborts, and it takes over the reason of that one.  Every
relay that was told has aborted its target.  Signals that abort lose their listeners; the others
keep all of theirs but relays of signals that abort, and those that are taken away are gone
everywhere. -/
structure Spread (before after : Signals) (heard : SignalId → List Listener) (first : SignalId)
    (reason : Value) : Prop where
  length_eq : after.length = before.length
  keeps : ∀ {id earlier}, before.reason? id = some earlier → after.reason? id = some earlier
  fresh : before.reason? first = none
  marks : after.reason? first = some reason
  traced : ∀ {id taken}, before.reason? id = none → after.reason? id = some taken →
    (id = first ∧ taken = reason) ∨
      ∃ source told, before.reason? source = none ∧ after.reason? source = some told ∧
        .relay id ∈ heard source ∧ taken = relayedReason told
  reaches : ∀ {source target}, Newly before after source → .relay target ∈ heard source →
    after.isAborted target
  emptied : ∀ {id}, Newly before after id → after.listenersOf id = []
  sublist : ∀ id, (after.listenersOf id).Sublist (before.listenersOf id)
  stays : ∀ {id listener}, ¬ Newly before after id → listener ∈ before.listenersOf id →
    (∀ target, listener = .relay target → ¬ Newly before after target) →
      listener ∈ after.listenersOf id
  leaves : ∀ {target}, Newly before after target → .release ∈ heard target →
    ∀ id, .relay target ∉ after.listenersOf id

/-- The listeners that were told when a signal has aborted and its own are told so far. -/
def heardUpTo (signals : Signals) (first : SignalId) (told : List Listener) (source : SignalId) :
    List Listener :=
  if source = first then told else signals.listenersOf source

theorem heardUpTo_all (signals : Signals) (first : SignalId) :
    signals.heardUpTo first (signals.listenersOf first) = signals.listenersOf := by
  funext source
  by_cases same : source = first
  · simp [heardUpTo, same]
  · simp [heardUpTo, same]

theorem mem_heardUpTo_append {signals : Signals} {first source : SignalId} {told : List Listener}
    {listener last : Listener}
    (member : listener ∈ signals.heardUpTo first (told ++ [last]) source) :
    listener ∈ signals.heardUpTo first told source ∨ source = first ∧ listener = last := by
  unfold heardUpTo at member ⊢
  split at member
  · rename_i same
    rcases List.mem_append.mp member with earlier | now
    · exact .inl (by simpa [same] using earlier)
    · exact .inr ⟨same, by simpa using now⟩
  · rename_i different
    exact .inl (by simpa [different] using member)

theorem mem_heardUpTo_of_mem {signals : Signals} {first source : SignalId} {told : List Listener}
    {listener : Listener} (last : Listener)
    (member : listener ∈ signals.heardUpTo first told source) :
    listener ∈ signals.heardUpTo first (told ++ [last]) source := by
  unfold heardUpTo at member ⊢
  split at member <;> rename_i same <;> simp [same, member]

theorem spread_set {signals : Signals} {first : SignalId} (inside : first < signals.length)
    (waiting : signals.reason? first = none) (reason : Value) :
    Spread signals (signals.set first ⟨some reason, []⟩) (signals.heardUpTo first []) first
      reason := by
  have unmoved : ∀ {id}, id ≠ first →
      reason? (signals.set first ⟨some reason, []⟩) id = signals.reason? id := by
    intro id different
    simp [reason?_set, different.symm]
  -- At first the only signal that has aborted is the first one, and nobody was told.
  have onlyFirst : ∀ {id}, Newly signals (signals.set first ⟨some reason, []⟩) id → id = first := by
    intro id newly
    refine Decidable.byContradiction fun different => ?_
    obtain ⟨taken, aborted⟩ := isAborted_iff.mp newly.2
    rw [unmoved different, newly.1] at aborted
    cases aborted
  have own : reason? (signals.set first ⟨some reason, []⟩) first = some reason := by
    simp [reason?_set, inside]
  have listeners : ∀ id, listenersOf (signals.set first ⟨some reason, []⟩) id =
      if id = first then [] else signals.listenersOf id := by
    intro id
    by_cases same : id = first
    · simp [listenersOf_set, same, inside]
    · simp [listenersOf_set, same, Ne.symm same]
  exact {
    length_eq := by simp
    keeps := by
      intro id earlier aborted
      have different : id ≠ first := by
        rintro rfl
        rw [waiting] at aborted
        cases aborted
      rw [unmoved different, aborted]
    fresh := waiting
    marks := own
    traced := by
      intro id taken before after
      obtain rfl := onlyFirst ⟨before, isAborted_iff.mpr ⟨taken, after⟩⟩
      exact .inl ⟨rfl, Option.some.inj (after.symm.trans own)⟩
    reaches := by
      intro source target newly member
      obtain rfl := onlyFirst newly
      simp [heardUpTo] at member
    emptied := by
      intro id newly
      rw [listeners, if_pos (onlyFirst newly)]
    sublist := by
      intro id
      rw [listeners]
      split
      · exact List.nil_sublist _
      · exact List.Sublist.refl _
    stays := by
      intro id listener remains member _
      have different : id ≠ first := by
        rintro rfl
        exact remains ⟨waiting, isAborted_iff.mpr ⟨reason, own⟩⟩
      rwa [listeners, if_neg different]
    leaves := by
      intro target newly member
      obtain rfl := onlyFirst newly
      simp [heardUpTo] at member }

namespace Spread

variable {before current after : Signals} {first target : SignalId} {reason : Value}
  {told : List Listener}

theorem subset (spread : Spread before current (before.heardUpTo first told) first reason)
    {id : SignalId} {listener : Listener} (member : listener ∈ current.listenersOf id) :
    listener ∈ before.listenersOf id :=
  (spread.sublist id).subset member

/-- Telling a listener that moves nothing: it is no merged signal, and if it is a relay, its target
has aborted before. -/
theorem tell_idle
    (spread : Spread before current (before.heardUpTo first told) first reason)
    {listener : Listener} (plain : listener ≠ .release)
    (settled : ∀ target, listener = .relay target → current.isAborted target) :
    Spread before current (before.heardUpTo first (told ++ [listener])) first reason := by
  exact { spread with
    traced := by
      intro id taken waiting aborted
      rcases spread.traced waiting aborted with atFirst | ⟨source, r, w, a, member, rest⟩
      · exact .inl atFirst
      · exact .inr ⟨source, r, w, a, mem_heardUpTo_of_mem _ member, rest⟩
    reaches := by
      intro source target newly member
      rcases mem_heardUpTo_append member with heard | ⟨-, same⟩
      · exact spread.reaches newly heard
      · exact settled target same.symm
    leaves := by
      intro target newly member
      rcases mem_heardUpTo_append member with heard | ⟨-, same⟩
      · exact spread.leaves newly heard
      · exact absurd same.symm plain }

theorem tell_release
    (spread : Spread before current (before.heardUpTo first told) first reason) :
    Spread before (current.detach first) (before.heardUpTo first (told ++ [.release])) first
      reason := by
  have same : ∀ {id}, Newly before (current.detach first) id ↔ Newly before current id := by
    simp [Newly, isAborted]
  have firstAborted : current.isAborted first := isAborted_iff.mpr ⟨reason, spread.marks⟩
  exact {
    length_eq := by simp [spread.length_eq]
    keeps := by
      intro id earlier aborted
      simp [spread.keeps aborted]
    fresh := spread.fresh
    marks := by simp [spread.marks]
    traced := by
      intro id taken waiting aborted
      rw [reason?_detach] at aborted
      rcases spread.traced waiting aborted with atFirst | ⟨source, r, w, a, member, rest⟩
      · exact .inl atFirst
      · exact .inr ⟨source, r, w, by simpa using a, mem_heardUpTo_of_mem _ member, rest⟩
    reaches := by
      intro source target newly member
      rcases mem_heardUpTo_append member with earlier | ⟨-, wrong⟩
      · simpa [isAborted] using spread.reaches (same.mp newly) earlier
      · cases wrong
    emptied := by
      intro id newly
      simp [spread.emptied (same.mp newly)]
    sublist := by
      intro id
      rw [listenersOf_detach]
      exact List.filter_sublist.trans (spread.sublist id)
    stays := by
      intro id listener remains member others
      have kept := spread.stays (fun newly => remains (same.mpr newly)) member
        fun target relay newly => others target relay (same.mpr newly)
      rw [listenersOf_detach, List.mem_filter]
      refine ⟨kept, ?_⟩
      rw [bne_iff_ne]
      rintro rfl
      exact others first rfl (same.mpr ⟨spread.fresh, firstAborted⟩)
    leaves := by
      intro target newly member id
      rw [listenersOf_detach, List.mem_filter]
      rcases mem_heardUpTo_append member with earlier | ⟨rfl, -⟩
      · exact fun found => spread.leaves (same.mp newly) earlier id found.1
      · simp }

section Further

variable {heard : SignalId → List Listener} {id : SignalId}

theorem isAborted (spread : Spread before after heard first reason)
    (aborted : before.isAborted id) : after.isAborted id := by
  obtain ⟨taken, aborted⟩ := isAborted_iff.mp aborted
  exact isAborted_iff.mpr ⟨taken, spread.keeps aborted⟩

theorem ne_first (spread : Spread before current heard first reason)
    (later : Newly current after id) : id ≠ first := by
  rintro rfl
  cases later.1.symm.trans spread.marks

theorem newly_of_later (spread : Spread before current heard first reason)
    (later : Newly current after id) : Newly before after id := by
  refine ⟨?_, later.2⟩
  cases before : before.reason? id with
  | none => rfl
  | some earlier => cases later.1.symm.trans (spread.keeps before)

theorem newly_of_earlier (onward : Spread current after heard first reason)
    (earlier : Newly before current id) : Newly before after id :=
  ⟨earlier.1, onward.isAborted earlier.2⟩

end Further

theorem tell_relay
    (spread : Spread before current (before.heardUpTo first told) first reason)
    (onward : Spread current after current.listenersOf target (relayedReason reason)) :
    Spread before after (before.heardUpTo first (told ++ [.relay target])) first reason := by
  -- Those that the relay aborts were waiting until now: all their listeners are still to be told.
  have heardLater : ∀ {source}, Newly current after source → ∀ told,
      before.heardUpTo first told source = before.listenersOf source := by
    intro source newly told
    rw [heardUpTo, if_neg (spread.ne_first newly)]
  exact {
    length_eq := onward.length_eq.trans spread.length_eq
    keeps := fun earlier => onward.keeps (spread.keeps earlier)
    fresh := spread.fresh
    marks := onward.keeps spread.marks
    traced := by
      intro id taken waiting aborted
      cases meanwhile : current.reason? id with
      | some earlier =>
          obtain rfl := Option.some.inj ((onward.keeps meanwhile).symm.trans aborted)
          rcases spread.traced waiting meanwhile with atFirst | ⟨source, r, w, a, member, rest⟩
          · exact .inl atFirst
          · exact .inr ⟨source, r, w, onward.keeps a, mem_heardUpTo_of_mem _ member, rest⟩
      | none =>
          right
          rcases onward.traced meanwhile aborted with ⟨rfl, rfl⟩ | ⟨source, r, w, a, member, rest⟩
          · exact ⟨first, reason, spread.fresh, onward.keeps spread.marks, by simp [heardUpTo], rfl⟩
          · have newly : Newly current after source := ⟨w, isAborted_iff.mpr ⟨r, a⟩⟩
            have heard :=
              (heardLater newly (told ++ [Listener.relay target])).symm ▸ spread.subset member
            exact ⟨source, r, (spread.newly_of_later newly).1, a, heard, rest⟩
    reaches := by
      intro source goal newly member
      rcases mem_heardUpTo_append member with earlier | ⟨-, same⟩
      · rcases newly.split with before | later
        · exact onward.isAborted (spread.reaches before earlier)
        · by_cases aborted : Newly before current goal
          · exact onward.isAborted aborted.2
          · have member := heardLater later told ▸ earlier
            refine onward.reaches later (spread.stays later.not_earlier member ?_)
            intro relayed same
            cases same
            exact aborted
      · cases same
        exact isAborted_iff.mpr ⟨_, onward.marks⟩
    emptied := by
      intro id newly
      rcases newly.split with earlier | later
      · exact List.eq_nil_of_sublist_nil (spread.emptied earlier ▸ onward.sublist id)
      · exact onward.emptied later
    sublist := fun id => (onward.sublist id).trans (spread.sublist id)
    stays := by
      intro id listener remains member others
      exact onward.stays (fun newly => remains (spread.newly_of_later newly))
        (spread.stays (fun newly => remains (onward.newly_of_earlier newly)) member
          fun goal relay newly => others goal relay (onward.newly_of_earlier newly))
        fun goal relay newly => others goal relay (spread.newly_of_later newly)
    leaves := by
      intro goal newly member id
      rcases newly.split with earlier | later
      · rcases mem_heardUpTo_append member with heard | ⟨-, same⟩
        · exact fun found => spread.leaves earlier heard id ((onward.sublist id).subset found)
        · cases same
      · have own := heardLater later (told ++ [Listener.relay target]) ▸ member
        refine onward.leaves later (spread.stays later.not_earlier own ?_) id
        intro relayed same
        cases same }

end Spread

/-- An abort that reaches far enough spreads over the whole table. -/
theorem abortWithin_spread {depth : Nat} {signals : Signals} {first : SignalId} (reason : Value)
    (ascending : signals.Ascending) (inside : first < signals.length)
    (waiting : signals.reason? first = none) (deep : signals.length ≤ first + depth) :
    Spread signals (signals.abortWithin depth first reason).1 signals.listenersOf first reason := by
  induction depth generalizing signals first reason with
  | zero => exact absurd (Nat.lt_of_lt_of_le inside deep) (Nat.lt_irrefl first)
  | succ depth induction =>
      -- The listeners are told one by one; `told` are those that were, `rest` those that were not.
      have telling : ∀ (rest told : List Listener) (current : Signals),
          signals.listenersOf first = told ++ rest →
          Spread signals current (signals.heardUpTo first told) first reason →
          Spread signals (rest.foldl (tell depth first reason) current)
            (signals.heardUpTo first (signals.listenersOf first)) first reason := by
        intro rest
        induction rest with
        | nil =>
            intro told current all spread
            rw [all, List.append_nil]
            exact spread
        | cons listener rest tellRest =>
            intro told current all spread
            refine tellRest (told ++ [listener]) _ (by simp [all]) ?_
            cases listener with
            | release => exact spread.tell_release
            | transport call => exact spread.tell_idle (by simp) (by simp)
            | relay target =>
                obtain ⟨later, targetInside⟩ : first < target ∧ target < signals.length :=
                  @ascending first target (by simp [all])
                cases aborted : current.reason? target with
                | some earlier =>
                    rw [tell, abortWithin_of_aborted aborted]
                    refine spread.tell_idle (by simp) ?_
                    rintro goal ⟨⟩
                    exact isAborted_iff.mpr ⟨earlier, aborted⟩
                | none =>
                    have shrunk : current.Ascending := by
                      intro source goal member
                      rw [spread.length_eq]
                      exact ascending (spread.subset member)
                    have near : current.length ≤ target + depth := by
                      calc
                        current.length = signals.length := spread.length_eq
                        _ ≤ first + 1 + depth := by rwa [Nat.add_right_comm]
                        _ ≤ target + depth := Nat.add_le_add_right later depth
                    rw [← spread.length_eq] at targetInside
                    exact spread.tell_relay (induction _ shrunk targetInside aborted near)
      rw [abortWithin_succ inside waiting]
      have whole := telling (signals.listenersOf first) [] _ rfl (spread_set inside waiting reason)
      rwa [heardUpTo_all] at whole

/-- What an abort of a signal comes to: nothing if it has aborted before, and else it spreads over
the table. -/
inductive Aborts (before : Signals) (first : SignalId) (reason : Value) : Signals → Prop where
  | already {earlier : Value} (aborted : before.reason? first = some earlier) :
      Aborts before first reason before
  | spread {after : Signals} (spread : Spread before after before.listenersOf first reason) :
      Aborts before first reason after

theorem abort_aborts {signals : Signals} {first : SignalId} (reason : Value)
    (ascending : signals.Ascending) (inside : first < signals.length) :
    Aborts signals first reason (signals.abort first reason).1 := by
  unfold abort
  cases earlier : signals.reason? first with
  | none => exact .spread (abortWithin_spread reason ascending inside earlier (Nat.le_add_left ..))
  | some taken =>
      rw [abortWithin_of_aborted earlier]
      exact .already earlier

namespace Aborts

variable {before after : Signals} {first : SignalId} {reason : Value}

theorem length_eq (abort : Aborts before first reason after) : after.length = before.length := by
  cases abort with
  | already => rfl
  | spread spread => exact spread.length_eq

theorem keeps (abort : Aborts before first reason after) {id : SignalId} {earlier : Value}
    (aborted : before.reason? id = some earlier) : after.reason? id = some earlier := by
  cases abort with
  | already => exact aborted
  | spread spread => exact spread.keeps aborted

theorem sublist (abort : Aborts before first reason after) (id : SignalId) :
    (after.listenersOf id).Sublist (before.listenersOf id) := by
  cases abort with
  | already => exact List.Sublist.refl _
  | spread spread => exact spread.sublist id

theorem marks (abort : Aborts before first reason after) :
    after.reason? first = some ((before.reason? first).getD reason) := by
  cases abort with
  | already aborted => simp [aborted]
  | spread spread => simp [spread.fresh, spread.marks]

theorem reason?_of_unrelayed (abort : Aborts before first reason after) {id : SignalId}
    (other : id ≠ first) (unrelayed : ∀ source, .relay id ∉ before.listenersOf source) :
    after.reason? id = before.reason? id := by
  cases abort with
  | already => rfl
  | spread spread =>
      cases earlier : before.reason? id with
      | some taken => exact spread.keeps earlier
      | none =>
          cases later : after.reason? id with
          | none => rfl
          | some taken =>
              rcases spread.traced earlier later with ⟨same, -⟩ | ⟨source, -, -, -, member, -⟩
              · exact absurd same other
              · exact absurd member (unrelayed source)

end Aborts

end Signals

end BlobStorage
