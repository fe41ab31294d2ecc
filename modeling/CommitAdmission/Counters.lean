import CommitAdmission.Trace

/-! The counters of the server: sixty-four bits each, wrapping around. -/

namespace CommitAdmission

inductive Counter
  | runsStarted
  | runsRejected
  | validatorsExecuted
  | listenersFailed
  deriving DecidableEq, Repr

structure Counters where
  runsStarted : UInt64
  runsRejected : UInt64
  validatorsExecuted : UInt64
  listenersFailed : UInt64
  deriving DecidableEq, Repr

namespace Counters

def zero : Counters := ⟨0, 0, 0, 0⟩

def increment (counters : Counters) : Counter → Counters
  | .runsStarted => { counters with runsStarted := counters.runsStarted + 1 }
  | .runsRejected => { counters with runsRejected := counters.runsRejected + 1 }
  | .validatorsExecuted => { counters with validatorsExecuted := counters.validatorsExecuted + 1 }
  | .listenersFailed => { counters with listenersFailed := counters.listenersFailed + 1 }

def value (counters : Counters) : Counter → UInt64
  | .runsStarted => counters.runsStarted
  | .runsRejected => counters.runsRejected
  | .validatorsExecuted => counters.validatorsExecuted
  | .listenersFailed => counters.listenersFailed

theorem eq_of_value_eq {counters others : Counters}
    (same : ∀ counter, counters.value counter = others.value counter) : counters = others := by
  cases counters
  cases others
  rw [mk.injEq]
  exact ⟨same .runsStarted, same .runsRejected, same .validatorsExecuted, same .listenersFailed⟩

theorem value_increment (counters : Counters) (counter other : Counter) :
    (counters.increment other).value counter =
      counters.value counter + if other = counter then 1 else 0 := by
  cases counter <;> cases other <;> simp [increment, value]

theorem value_foldl_increment (counters : Counters) (counter : Counter)
    (increments : List Counter) :
    (increments.foldl increment counters).value counter =
      counters.value counter + UInt64.ofNat (increments.count counter) := by
  induction increments generalizing counters with
  | nil => simp
  | cons first rest ih =>
    rw [List.foldl_cons, ih, value_increment, List.count_cons]
    by_cases same : first = counter
    · have one : UInt64.ofNat (rest.count counter + 1) = UInt64.ofNat (rest.count counter) + 1 :=
        UInt64.ofNat_add _ 1
      simp only [same, beq_self_eq_true, if_true, one]
      ac_rfl
    · simp [same]

def flushed (counters : Counters) : TraceEvent :=
  ⟨.info, [], [("metric", .text "flush"),
    ("runs_started", .count counters.runsStarted.toNat),
    ("runs_rejected", .count counters.runsRejected.toNat),
    ("validators_executed", .count counters.validatorsExecuted.toNat),
    ("listeners_failed", .count counters.listenersFailed.toNat)]⟩

end Counters

end CommitAdmission
