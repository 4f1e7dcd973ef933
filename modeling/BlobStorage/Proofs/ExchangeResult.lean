import BlobStorage.Proofs.ExchangeStop

/-!
# The result of an exchange

When its transport settles, an exchange ends with what the transport replied, or with a failure
whose cause is the abort that stopped the exchange first, if there was one, and else what the
transport threw.
-/

namespace BlobStorage

namespace World

theorem reason?_release (world : World) (release : Release) (id : SignalId) :
    (world.release release).signals.reason? id = world.signals.reason? id := by
  cases release with
  | detach target => exact Signals.reason?_detach
  | _ => rfl

end World

namespace Exchange

theorem abortReason?_release (exchange : Exchange) (world : World) :
    exchange.abortReason? (exchange.release world) = exchange.abortReason? world := by
  unfold abortReason?
  cases exchange.signal with
  | none => rfl
  | some signal =>
      exact view_release (fun world => world.signals.reason? signal) exchange
        (fun world release => world.reason?_release release signal) world

/-- What an exchange comes to when its transport settles, if its signal has aborted for a reason. -/
def conclusion (verb : Text) (aborted : Option Value) (completion : Completion Reply) :
    Conclusion :=
  match completion.guarded with
  | .ok reply => .replied reply
  | .error reason =>
      .failed (Failure.transport (failedMessage verb) (some ((aborted.map abortCause).getD reason)))

theorem causeOf_eq (exchange : Exchange) (world : World) (reason : Value) :
    exchange.causeOf world reason =
      ((exchange.abortReason? world).map abortCause).getD reason := by
  unfold causeOf abortReason?
  cases exchange.signal.bind world.signals.reason? <;> rfl

theorem conclude_eq (exchange : Exchange) (world : World) (completion : Completion Reply) :
    (exchange.conclude world completion).2.2 =
      conclusion exchange.verb (exchange.abortReason? world) completion := by
  unfold conclude conclusion
  cases completion.guarded with
  | ok reply => rfl
  | error reason => simp only [causeOf_eq, abortReason?_release]

end Exchange

/-- The cause that an exchange reports when its transport failed with an error: that error, if
nothing stopped the exchange before; a timeout of the client; the reason of the caller, if that is
an abort or a timeout of this library itself; or an abort that has the reason of the caller as its
cause, but for `null`. -/
inductive ReportedCause (error : Value) : Option Stop → Value → Prop where
  | unstopped : ReportedCause error none error
  | timeout (milliseconds : Text) :
      ReportedCause error (some (.timeout milliseconds)) (.failure (Failure.timeout milliseconds))
  | own {failure : Failure}
      (kind : failure.kind.isA (.request .abort) ∨ failure.kind.isA (.request .timeout)) :
      ReportedCause error (some (.caller (.failure failure))) (.failure failure)
  | foreign {reason : Value} {report : Failure}
      (other : ∀ failure, reason = .failure failure →
        ¬ failure.kind.isA (.request .abort) ∧ ¬ failure.kind.isA (.request .timeout))
      (kind : report.kind = .request .abort)
      (cause : reason ≠ .null → report.cause.getD .undefined = reason)
      (uncaused : reason = .null → (report.cause.getD .undefined).isPresent = false) :
      ReportedCause error (some (.caller reason)) (.failure report)

namespace Exchange

theorem isOwnReason_iff {reason : Value} :
    isOwnReason reason ↔ ∃ failure, reason = .failure failure ∧
      (failure.kind.isA (.request .abort) ∨ failure.kind.isA (.request .timeout)) := by
  cases reason <;> simp [isOwnReason, or_comm]

theorem eq_undefined_of_absent {reason : Value} (absent : reason.isPresent = false)
    (notNull : reason ≠ .null) : reason = .undefined := by
  cases reason with
  | undefined => rfl
  | null => exact absurd rfl notNull
  | _ => cases absent

theorem relayedReason_of_isPresent {reason : Value} (present : reason.isPresent) :
    Signals.relayedReason reason = reason := by
  simp [Signals.relayedReason, present]

theorem reportedCause (error : Value) (relayed : Bool) (stop? : Option Stop) :
    ReportedCause error stop? (((stop?.map (Stop.reason relayed)).map abortCause).getD error) := by
  cases stop? with
  | none => exact .unstopped
  | some stop =>
      cases stop with
      | timeout milliseconds => exact .timeout milliseconds
      | caller reason =>
          simp only [Option.map_some, Option.getD_some, Stop.reason]
          by_cases own : isOwnReason reason
          · obtain ⟨failure, rfl, kind⟩ := isOwnReason_iff.mp own
            have same : abortCause (.failure failure) = .failure failure := if_pos own
            rw [relayedReason_of_isPresent rfl, ite_self, same]
            exact .own kind
          · have other : ∀ failure, reason = .failure failure →
                ¬ failure.kind.isA (.request .abort) ∧ ¬ failure.kind.isA (.request .timeout) := by
              intro failure same
              rw [← not_or]
              exact fun kind => own (isOwnReason_iff.mpr ⟨failure, same, kind⟩)
            have direct : ReportedCause error (some (.caller reason)) (abortCause reason) := by
              rw [abortCause, if_neg own]
              exact .foreign other rfl (fun _ => rfl) (fun null => null ▸ rfl)
            cases relayed with
            | false => exact direct
            | true =>
                cases present : reason.isPresent with
                | true =>
                    rw [if_pos rfl, relayedReason_of_isPresent present]
                    exact direct
                | false =>
                    -- The relay makes an abort of this library of an absent reason.
                    have absent : Signals.relayedReason reason = .failure
                        (Failure.abort "error signal triggered with unknown reason" none) := by
                      simp [Signals.relayedReason, present]
                    rw [if_pos rfl, absent]
                    refine .foreign other rfl ?_ (fun _ => rfl)
                    exact fun notNull => (eq_undefined_of_absent present notNull).symm

end Exchange

theorem World.arm?_toValue (world : World) (setting : RequestTimeout) (caller : Option SignalId) :
    ∃ armed, world.arm? setting.toValue caller = some armed := by
  unfold World.arm? World.timeoutSignal?
  cases setting with
  | never => exact ⟨_, rfl⟩
  | milliseconds count =>
      by_cases truthy : (Value.number count).isTruthy
      · exact ⟨_, by rw [RequestTimeout.toValue, truthy]; rfl⟩
      · exact ⟨_, by rw [RequestTimeout.toValue, Bool.eq_false_iff.mpr truthy]; rfl⟩

/-- An exchange that is nothing but an exchange ends when its transport settles. -/
theorem Stage.isEnded_afterConclusion (conclusion : Conclusion) :
    (Stage.afterConclusion .exchange conclusion).isEnded := by
  cases conclusion <;> rfl

namespace Session

variable {κ : Type}

/-- What a session whose callers name only signals of their own can come to. -/
def Reachable (κ : Type) (session : Session) : Prop :=
  ∃ origin, ∃ events : List (Event κ),
    (start origin).AdmitsAll events ∧ session = (start origin).run events

theorem Reachable.sound {session : Session} (reachable : Reachable κ session) : session.Sound := by
  obtain ⟨origin, events, admitted, rfl⟩ := reachable
  exact (sound_start origin).run admitted

section Settled

variable {before : Session} {client : Client} {setting : RequestTimeout} {uri verb : Text}
  {mutator : Client.Mutator} {body : Value} {caller : Option SignalId} {headers : Headers}
  {completion : Completion Reply} {early later : List (Event κ)}

theorem exchange_waits (timeout : client.requestTimeout = setting.toValue)
    (assembled : client.assemble before.world.instant? mutator = .returned headers) :
    ∃ exchange : Exchange, exchange.verb = verb ∧
      (before.step (.exchange client uri verb mutator body caller : Event κ)).traffic.stage?
        before.traffic.calls.length = some (.exchanging .exchange exchange) := by
  obtain ⟨⟨next, timer, merged⟩, armed⟩ := before.world.arm?_toValue setting caller
  rw [← timeout] at armed
  have traffic : (before.step (.exchange client uri verb mutator body caller : Event κ)).traffic =
      { before.traffic with world := next }.add
        (Traffic.waitingCall .exchange verb uri timer merged) := by
    change (before.traffic.exchange client .exchange uri verb mutator body caller).1 = _
    rw [Traffic.exchange_eq, assembled, armed]
    rfl
  refine ⟨⟨verb, uri, merged.map Clearable.signal, timer, merged⟩, rfl, ?_⟩
  rw [traffic]
  simp [Traffic.stage?, Traffic.add, Traffic.waitingCall]

theorem exchange_ends (reachable : Reachable κ before)
    (admitted : before.AdmitsAll (.exchange client uri verb mutator body caller ::
      (early ++ .settle before.traffic.calls.length completion :: later)))
    (timeout : client.requestTimeout = setting.toValue)
    (assembled : client.assemble before.world.instant? mutator = .returned headers)
    (pending : ∀ other, .settle before.traffic.calls.length other ∉ early) :
    let opened := before.step (.exchange client uri verb mutator body caller : Event κ)
    let opening : Opening := ⟨caller, before.world.deadline? client.requestTimeout⟩
    let stop? := ((caller.bind before.world.signals.reason?).map .caller).or
      (opened.firstStop? opening early)
    (opened.run (early ++ .settle before.traffic.calls.length completion :: later)).traffic.stage?
        before.traffic.calls.length =
      some (.afterConclusion .exchange (Exchange.conclusion verb
        (stop?.map (Stop.reason opening.deadline.isSome)) completion)) := by
  intro opened opening stop?
  have sound := reachable.sound
  obtain ⟨exchange, rfl, waiting⟩ : ∃ exchange : Exchange, exchange.verb = verb ∧
      opened.traffic.stage? before.traffic.calls.length = some (.exchanging .exchange exchange) :=
    exchange_waits timeout assembled
  have openedAs : opened.openings[before.traffic.calls.length]? = some opening := by
    rw [← sound.length_eq]
    exact List.getElem?_concat_length
  have aborted := abortReason?_run (sound.step admitted.1) (admitsAll_append.mp admitted.2).1
    pending waiting openedAs
  rw [abortReason?_of_started sound admitted.1 (Traffic.exchange?_of_stage? waiting) openedAs]
    at aborted
  have waits : (opened.run early).traffic.stage? before.traffic.calls.length =
      some (.exchanging .exchange exchange) := by
    rw [toHistory_run]
    rcases History.stage?_run_of_exchanging waiting early with
      ⟨-, waits⟩ | ⟨other, _, _, _, settled, -⟩
    · exact waits
    · exact absurd (History.mem_of_answer?_eq_some settled) (pending other)
  have settled := History.stage?_step waits
    (.settle before.traffic.calls.length completion : Event κ)
  simp only [Stage.after, if_true, Exchange.conclude_eq] at settled
  have ended := History.stage?_run_of_isEnded settled (Stage.isEnded_afterConclusion _) later
  rw [show exchange.abortReason? (opened.run early).traffic.world = _ from aborted] at ended
  rw [run_append, run_cons, toHistory_run, Option.map_or, Option.map_map]
  exact ended

/-- Whatever the transport throws: what a condition sees is reported as a failure, and what none
sees as a missing reply. -/
theorem exchange_rejected {reason : Value} (reachable : Reachable κ before)
    (admitted : before.AdmitsAll (.exchange client uri verb mutator body caller ::
      (early ++ .settle before.traffic.calls.length (.threw reason) :: later)))
    (timeout : client.requestTimeout = setting.toValue)
    (assembled : client.assemble before.world.instant? mutator = .returned headers)
    (pending : ∀ other, .settle before.traffic.calls.length other ∉ early) :
    let opened := before.step (.exchange client uri verb mutator body caller : Event κ)
    let opening : Opening := ⟨caller, before.world.deadline? client.requestTimeout⟩
    let stop? := ((caller.bind before.world.signals.reason?).map .caller).or
      (opened.firstStop? opening early)
    let ended :=
      opened.run (early ++ .settle before.traffic.calls.length (.threw reason) :: later)
    (reason.isTruthy = true → ∃ cause, ReportedCause reason stop? cause ∧
      ended.traffic.stage? before.traffic.calls.length = some (.performed
        (.failed (Failure.transport (Exchange.failedMessage verb) (some cause))))) ∧
    (reason.isTruthy = false →
      ended.traffic.stage? before.traffic.calls.length = some (.performed (.ok none))) := by
  intro opened opening stop? ended
  have ends := exchange_ends reachable admitted timeout assembled pending
  constructor
  · intro seen
    refine ⟨_, Exchange.reportedCause reason opening.deadline.isSome stop?, ?_⟩
    simp only [Exchange.conclusion, Completion.guarded, seen, if_true] at ends
    exact ends
  · intro unseen
    simp only [Exchange.conclusion, Completion.guarded, unseen, Bool.false_eq_true, if_false]
      at ends
    exact ends

end Settled

/-- A client whose requests may take a second. -/
def sampleClient : Client where
  accountName := .string "account1"
  blobEndpoint := "https://account1.example"
  apiVersion := .string Config.defaultApiVersion
  requestTimeout := RequestTimeout.toValue (.milliseconds (Number.ofInt 1000))
  headers := .value .undefined

/-- A session in which a caller has made a signal. -/
def sampleSession : Session := (start .zero).run ([.signal] : List (Event Unit))

theorem reachable_sampleSession : Reachable Unit sampleSession :=
  ⟨.zero, [.signal], by simp [AdmitsAll, Admits, Event.named?], rfl⟩

theorem assemble_sampleClient : ∃ headers,
    sampleClient.assemble sampleSession.world.instant? .returned = .returned headers := by
  have base : (sampleClient.baseHeaders? sampleSession.world.instant?).isSome := by decide +kernel
  obtain ⟨headers, base⟩ := Option.isSome_iff_exists.mp base
  exact ⟨headers, by rw [Client.assemble, base]⟩

/-- A caller aborts for a text, and the transport fails with it. -/
theorem exchange_rejected_stopped :
    let early : List (Event Unit) := [.abort 0 (.string "stop")]
    let failed : Completion Reply := .threw (.string "stop")
    ∃ cause, ReportedCause (.string "stop") (some (.caller (.string "stop"))) cause ∧
      (sampleSession.run (.exchange sampleClient "https://account1.example" "GET" .returned .null
          (some 0) :: (early ++ .settle 0 failed :: []))).traffic.stage? 0 =
        some (.performed (.failed
          (Failure.transport "error performing GET request" (some cause)))) := by
  intro early failed
  obtain ⟨headers, assembled⟩ := assemble_sampleClient
  have made : sampleSession.made = [0] := rfl
  have timeout : sampleClient.requestTimeout =
      RequestTimeout.toValue (.milliseconds (Number.ofInt 1000)) := rfl
  have admitted : sampleSession.AdmitsAll
      (.exchange sampleClient "https://account1.example" "GET" .returned .null (some 0) ::
        (early ++ .settle 0 failed :: [])) := by
    simp [early, AdmitsAll, Admits, Event.named?, step, Event.made?, made]
  exact (exchange_rejected reachable_sampleSession admitted timeout assembled
    (by simp [early])).1 rfl

/-- A caller aborts for a reason that no condition sees, and the transport fails with that reason:
this passes for a reply. -/
theorem exchange_rejected_unseen :
    let early : List (Event Unit) := [.abort 0 (.boolean false)]
    let failed : Completion Reply := .threw (.boolean false)
    let ended := sampleSession.run (.exchange sampleClient "https://account1.example" "GET"
      .returned .null (some 0) :: (early ++ .settle 0 failed :: []))
    ended.world.signals.isAborted 0 ∧
      ended.traffic.stage? 0 = some (.performed (.ok none)) := ⟨rfl, rfl⟩

end Session

end BlobStorage
