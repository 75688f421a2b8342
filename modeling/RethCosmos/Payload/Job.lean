import Mathlib.Data.List.MinMax
import Mathlib.Order.Lattice.Nat
import RethCosmos.Payload.Build

/-!
# Payload jobs

Until its payload is asked for, a job builds for one configuration again and again. It keeps
the payload of a build and gives it to the next one, which goes on to the assembly only for
higher fees. What the job keeps is the payload that one would choose among all of them.
-/

namespace RethCosmos.Payload

open Encoding Rust Upstream Primitives CosmosAuth

variable {T H ε : Type}

/-- What one build of a job finds: the state root job, and the turns that a stream of the pool
goes through by then. -/
structure Attempt (T ε : Type) where
  stateRootHandle : Option (Except ε B256)
  bestTransactionsWithAttributes : BestTransactionsAttributes → List (Turn T ε)

/-- The pool has nothing to offer. -/
def Attempt.empty : Attempt T ε where
  stateRootHandle := none
  bestTransactionsWithAttributes _ := []

/-- The job takes over the payload that a build ends with. -/
def keep (best : Option (CosmosBuiltPayload T H)) :
    Outcome (PayloadBuilderError ε) (BuildOutcome T H) → Option (CosmosBuiltPayload T H)
  | .ok outcome => outcome.intoPayload.or best
  | .err _ => best
  | .panic _ => best

namespace CosmosPayloadBuilder

variable [TransactionAccessors T] [TxHashRef T] [Encodable2718 T] [RlpEncodable H] [BlockHeader H]
  [RlpBlockSize] (b : CosmosPayloadBuilder T H ε) (config : PayloadConfig H)

def attempt (best : Option (CosmosBuiltPayload T H)) (a : Attempt T ε) :
    Outcome (PayloadBuilderError ε) (BuildOutcome T H) :=
  CosmosPayloadBuilder.tryBuild
    { b with bestTransactionsWithAttributes := a.bestTransactionsWithAttributes }
    { stateRootHandle := a.stateRootHandle, config, bestPayload := best }

/-- What the job keeps after a series of builds. -/
def runJob (attempts : List (Attempt T ε)) : Option (CosmosBuiltPayload T H) :=
  attempts.foldl (fun best a => keep best (b.attempt config best a)) none

/-- The payload that a build ends with if the job has none so far. -/
def alone (a : Attempt T ε) : Option (CosmosBuiltPayload T H) :=
  keep none (b.attempt config none a)

end CosmosPayloadBuilder

/-! ## One build -/

section Build

variable [Encodable2718 T] [RlpEncodable H] [BlockHeader H] [RlpBlockSize]

/-- The best payload decides whether a block is assembled, and nothing else. -/
theorem assemble_eq_ite (spec : ChainSpec) (env : Env)
    (builder : BlockBuilder (CosmosEnvelope T) H ε) (builderConfig : EthereumBuilderConfig)
    (stateRootHandle : Option (Except ε B256)) (config : PayloadConfig H)
    (best : Option (CosmosBuiltPayload T H)) (state : State T ε) :
    assemble spec env builder builderConfig ⟨stateRootHandle, config, best⟩ state =
      if isBetterPayload best state.totals.totalFees then
        assemble spec env builder builderConfig ⟨stateRootHandle, config, none⟩ state
      else .ok (.aborted state.totals.totalFees) := by
  cases hbetter : isBetterPayload best state.totals.totalFees with
  | false => exact assemble_of_not_better hbetter
  | true =>
      have hfirst : isBetterPayload (none : Option (CosmosBuiltPayload T H))
        state.totals.totalFees = true := rfl
      simp only [assemble, hbetter, hfirst, if_true]
      rfl

theorem fees_of_assemble {spec : ChainSpec} {env : Env}
    {builder : BlockBuilder (CosmosEnvelope T) H ε} {args : BuildArguments T H ε}
    {state : State T ε} {outcome : BuildOutcome T H} {payload : CosmosBuiltPayload T H}
    (hassembled : assemble spec env builder builderConfig args state = .ok outcome)
    (hpayload : outcome.intoPayload = some payload) : payload.fees = state.totals.totalFees := by
  rcases assemble_cases spec env builder builderConfig args state with
    ⟨_, haborted⟩ | ⟨e, herror⟩ | ⟨_, _, ⟨_, hlarge⟩ | hbetter⟩
  · obtain rfl := Except.ok.inj (hassembled.symm.trans haborted)
    cases hpayload
  · simp [herror] at hassembled
  · simp [hlarge] at hassembled
  · obtain rfl := Except.ok.inj (hassembled.symm.trans hbetter)
    obtain rfl := Option.some.inj hpayload
    rfl

theorem keep_assemble (spec : ChainSpec) (env : Env)
    (builder : BlockBuilder (CosmosEnvelope T) H ε) (builderConfig : EthereumBuilderConfig)
    (stateRootHandle : Option (Except ε B256)) (config : PayloadConfig H)
    (best : Option (CosmosBuiltPayload T H)) (state : State T ε) :
    keep best (Outcome.ofExcept
        (assemble spec env builder builderConfig ⟨stateRootHandle, config, best⟩ state)) =
      match keep none (Outcome.ofExcept
          (assemble spec env builder builderConfig ⟨stateRootHandle, config, none⟩ state)) with
      | some payload => if isBetterPayload best payload.fees then some payload else best
      | none => best := by
  rw [assemble_eq_ite spec env builder builderConfig stateRootHandle config best state]
  cases hfirst : assemble spec env builder builderConfig ⟨stateRootHandle, config, none⟩ state with
  | error e =>
      -- a failed assembly keeps the best payload, and so does an abort
      have hbest : (keep best (Outcome.ofExcept
          (if isBetterPayload best state.totals.totalFees then .error e
            else .ok (.aborted state.totals.totalFees)))) = best := by
        split
        next => rfl
        next => rfl
      exact hbest
  | ok outcome =>
      have haborted : (BuildOutcome.aborted state.totals.totalFees :
        BuildOutcome T H).intoPayload = none := rfl
      cases hpayload : outcome.intoPayload with
      | none =>
          split
          next => simp [Outcome.ofExcept, keep, hpayload]
          next => simp [Outcome.ofExcept, keep, hpayload, haborted]
      | some payload =>
          have hfees := fees_of_assemble hfirst hpayload
          by_cases hbetter : isBetterPayload best state.totals.totalFees = true
          · simp [Outcome.ofExcept, keep, hpayload, hfees, hbetter]
          · simp [Outcome.ofExcept, keep, hpayload, hfees, hbetter, haborted]

variable [TransactionAccessors T] [TxHashRef T] (evmConfig : ConfigureEvm (CosmosEnvelope T) H ε)
  (client : Client ε)

/-- A build ends for the job as it would end without a payload to beat, if that is better. -/
theorem keep_defaultEthereumPayload (builderConfig : EthereumBuilderConfig)
    (stateRootHandle : Option (Except ε B256)) (config : PayloadConfig H)
    (best : Option (CosmosBuiltPayload T H))
    (bestTxs : BestTransactionsAttributes → List (Turn T ε)) :
    keep best (defaultEthereumPayload evmConfig client builderConfig
        ⟨stateRootHandle, config, best⟩ bestTxs) =
      match keep none (defaultEthereumPayload evmConfig client builderConfig
          ⟨stateRootHandle, config, none⟩ bestTxs) with
      | some payload => if isBetterPayload best payload.fees then some payload else best
      | none => best := by
  -- the best payload plays no part in the set-up
  have hother : ∀ {best best' : Option (CosmosBuiltPayload T H)} {builder},
      SetUp evmConfig client builderConfig ⟨stateRootHandle, config, best⟩ builder →
        SetUp evmConfig client builderConfig ⟨stateRootHandle, config, best'⟩ builder :=
    fun h => ⟨h.provider, h.nextBlock, h.preExecution⟩
  by_cases hexists : ∃ builder,
      SetUp evmConfig client builderConfig ⟨stateRootHandle, config, best⟩ builder
  · obtain ⟨builder, hsetUp⟩ := hexists
    rw [defaultEthereumPayload_of_setUp hsetUp, defaultEthereumPayload_of_setUp (hother hsetUp)]
    simp only [buildPayload]
    cases executeBest (buildEnv client.chainSpec builder builderConfig config.attributes)
        (bestTxs (bestTransactionsAttributes builder)) with
    | ok state =>
        exact keep_assemble client.chainSpec
          (buildEnv client.chainSpec builder builderConfig config.attributes) builder
          builderConfig stateRootHandle config best state
    | err stop =>
        cases stop with
        | cancelled => rfl
        | failed e => rfl
    | panic message => rfl
  · -- without a builder of the block, neither build gets as far as the best payload
    have hfails : ∀ best', (∃ builder,
        SetUp evmConfig client builderConfig ⟨stateRootHandle, config, best'⟩ builder) → False :=
      fun best' h => hexists (h.imp fun _ hsetUp => hother hsetUp)
    have hkept : ∀ best', keep best' (defaultEthereumPayload evmConfig client builderConfig
        ⟨stateRootHandle, config, best'⟩ bestTxs) = best' := by
      intro best'
      rcases setUp_cases evmConfig client builderConfig ⟨stateRootHandle, config, best'⟩
          bestTxs with hsetUp | ⟨e, hinternal⟩ | ⟨e, hupstream⟩
      · exact absurd hsetUp (hfails best')
      · rw [hinternal]
        rfl
      · rw [hupstream]
        rfl
    rw [hkept best, hkept none]

end Build

/-! ## A job -/

/-- What the job compares. -/
def CosmosBuiltPayload.worth (payload : CosmosBuiltPayload T H) : Nat := payload.fees.toNat

namespace CosmosPayloadBuilder

variable [TransactionAccessors T] [TxHashRef T] [Encodable2718 T] [RlpEncodable H] [BlockHeader H]
  [RlpBlockSize] (b : CosmosPayloadBuilder T H ε) (config : PayloadConfig H)

theorem keep_attempt (best : Option (CosmosBuiltPayload T H)) (a : Attempt T ε) :
    keep best (b.attempt config best a) =
      match b.alone config a with
      | some payload => if isBetterPayload best payload.fees then some payload else best
      | none => best :=
  keep_defaultEthereumPayload b.evmConfig b.client b.builderConfig a.stateRootHandle config best
    a.bestTransactionsWithAttributes

/-- Building one after the other comes to the same as choosing among all payloads. -/
theorem runJob_eq_argmax (attempts : List (Attempt T ε)) :
    b.runJob config attempts =
      (attempts.filterMap (b.alone config)).argmax CosmosBuiltPayload.worth := by
  -- both are folds, and agree attempt by attempt
  rw [List.argmax, List.foldl_filterMap]
  apply List.foldl_ext
  intro best a _
  apply (b.keep_attempt config best a).trans
  cases b.alone config a with
  | none => rfl
  | some payload =>
      cases best with
      | none => rfl
      | some best =>
          by_cases hless : best.fees.toNat < payload.fees.toNat
          · simp [isBetterPayload, List.argAux, CosmosBuiltPayload.worth, BitVec.lt_def, hless]
          · simp [isBetterPayload, List.argAux, CosmosBuiltPayload.worth, BitVec.lt_def, hless]

theorem worth_mono {before after : List (Attempt T ε)} {payload : CosmosBuiltPayload T H}
    (hkept : b.runJob config before = some payload) :
    ∃ payload', b.runJob config (before ++ after) = some payload' ∧
      payload.worth ≤ payload'.worth := by
  rw [runJob_eq_argmax] at hkept
  have hmem : payload ∈ (before ++ after).filterMap (b.alone config) := by
    rw [List.filterMap_append]
    exact List.mem_append_left _ (List.argmax_mem hkept)
  cases hlater : b.runJob config (before ++ after) with
  | none =>
      rw [runJob_eq_argmax, List.argmax_eq_none] at hlater
      rw [hlater] at hmem
      cases hmem
  | some payload' =>
      rw [runJob_eq_argmax] at hlater
      exact ⟨payload', rfl, List.le_of_mem_argmax hmem hlater⟩

/-- The empty payload is that of a build over an empty stream. -/
theorem buildEmptyPayload_eq_ok_iff {payload : CosmosBuiltPayload T H} :
    b.buildEmptyPayload config = .ok payload ↔ b.alone config .empty = some payload := by
  have halone : b.alone config .empty = keep none (defaultEthereumPayload b.evmConfig b.client
    b.builderConfig ⟨none, config, none⟩ fun _ => ([] : List (Turn T ε))) := rfl
  rw [halone, buildEmptyPayload]
  cases defaultEthereumPayload b.evmConfig b.client b.builderConfig ⟨none, config, none⟩
      fun _ => ([] : List (Turn T ε)) with
  | ok outcome =>
      cases hpayload : outcome.intoPayload with
      | none => simp [keep, hpayload, Outcome.okOr]
      | some payload' => simp [keep, hpayload, Outcome.okOr]
  | err e => simp [keep]
  | panic message => simp [keep]

/-- The builder never freezes a payload. -/
theorem attempt_of_alone {a : Attempt T ε} {payload : CosmosBuiltPayload T H}
    (halone : b.alone config a = some payload) :
    b.attempt config none a = .ok (.better payload) := by
  have hattempt : b.attempt config none a = defaultEthereumPayload b.evmConfig b.client
    b.builderConfig ⟨a.stateRootHandle, config, none⟩ a.bestTransactionsWithAttributes := rfl
  rw [alone, hattempt] at halone
  rw [hattempt]
  rcases defaultEthereumPayload_cases b.evmConfig b.client b.builderConfig
      ⟨a.stateRootHandle, config, none⟩ a.bestTransactionsWithAttributes with
    ⟨_, _, _, _, hbetter | ⟨_, hlarge⟩⟩ | hends
  · rw [hbetter] at halone ⊢
    obtain rfl := Option.some.inj halone
    rfl
  · simp [hlarge, keep] at halone
  · generalize defaultEthereumPayload b.evmConfig b.client b.builderConfig
      ⟨a.stateRootHandle, config, none⟩ a.bestTransactionsWithAttributes = ending at halone hends
    cases hends <;> cases halone

/-- Nothing was executed, so there are no fees. -/
theorem worth_of_empty {payload : CosmosBuiltPayload T H}
    (halone : b.alone config .empty = some payload) : payload.worth = 0 := by
  obtain ⟨builder, state, outcome, hassembles, rfl⟩ :=
    run_of_better (b.attempt_of_alone config halone)
  obtain rfl : State.start = state := Outcome.ok.inj hassembles.run
  rfl

end CosmosPayloadBuilder

end RethCosmos.Payload
