import Aico.Foundation.Transition
import Aico.GateSpike.Gate01Commits

/-!
# Histories of the gate

A history is a list of calls and of changes that others make. The calls of one company lock its row
first, so they run one after the other. Every call gets its own clock, failpoints and policy port.
In every state of a history the tables are a ledger of coherent entries with keys of their own.
-/

namespace Aico

namespace GateProof

structure GateState where
  db : ProofDb
  nextId : Uuid

/-- What a call finds outside of the tables. -/
structure CallEnvironment where
  policyDecision : JsString → Json → Except EvaluationError PolicyDecisionV1
  clock : ℕ → JsString
  databaseNow : Timestamp
  fails : Gate01Failpoint → Bool

inductive GateAction where
  | execute (r : Gate01CommandRequest) (env : CallEnvironment)
  | executeRedactedDenial (input : Gate01CommandService.RedactedDenialRequest)
      (env : CallEnvironment)
  | elsewhere (change : ProofDb → ProofDb) (drawn : ℕ)

/-- Others change the tables that a call only reads or moves, in whatever way. -/
def ProofDb.changedBy (db : ProofDb) (change : ProofDb → ProofDb) : ProofDb :=
  { change db with
    commandReceipts := db.commandReceipts
    policyDecisions := db.policyDecisions
    founderGateDecisions := db.founderGateDecisions
    approvedArtifactBindings := db.approvedArtifactBindings
    continuationIntents := db.continuationIntents
    domainEvents := db.domainEvents
    outboxMessages := db.outboxMessages }

namespace GateState

def world (s : GateState) (env : CallEnvironment) : GateWorld where
  db := s.db
  nextId := s.nextId
  clock := env.clock
  databaseNow := env.databaseNow
  fails := env.fails

def of (w : GateWorld) : GateState := ⟨w.db, w.nextId⟩

def step (platform : GatePlatform) (s : GateState) : GateAction → GateState
  | .execute r env =>
      of (Gate01CommandService.execute ⟨platform, env.policyDecision⟩ r (s.world env)).2
  | .executeRedactedDenial input env =>
      of (Gate01CommandService.executeRedactedDenial ⟨platform, env.policyDecision⟩ input
        (s.world env)).2
  | .elsewhere change drawn => ⟨s.db.changedBy change, s.nextId + drawn⟩

end GateState

/-- No two decisions of the policy, founders' decisions or receipts share a key. -/
structure Keyed (db : ProofDb) : Prop where
  policyDecisions : (db.policyDecisions.map (·.id)).Nodup
  commands : (db.policyDecisions.map fun p => (p.companyId, p.commandId)).Nodup
  gates : (db.founderGateDecisions.map fun d => (d.companyId, d.runId, d.gateInstanceId)).Nodup
  commandReceipts : (db.commandReceipts.map (·.key)).Nodup

section

variable {platform : GatePlatform} {w w' : GateWorld} {entry : Entry}

theorem nodup_map_append_toList {ρ κ : Type} {key : ρ → κ} {rows : List ρ} {row : Option ρ}
    (h : (rows.map key).Nodup) (hrow : ∀ r ∈ row, ∀ r' ∈ rows, key r' ≠ key r) :
    ((rows ++ row.toList).map key).Nodup := by
  cases row with
  | none => simpa using h
  | some r => exact Table.nodup_key_append h (hrow r rfl)

/-! ## The tables after a commit -/

theorem Entry.CommitsTo.policyDecisions (h : entry.CommitsTo w w') :
    w'.db.policyDecisions = w.db.policyDecisions ++ [entry.policy] := by
  obtain ⟨db₁, hstores, hdb⟩ := h.stores
  rw [hdb]
  exact hstores.policyDecisions

theorem Entry.CommitsTo.founderGateDecisions (h : entry.CommitsTo w w') :
    w'.db.founderGateDecisions = w.db.founderGateDecisions ++
      (entry.outcome.map Outcome.decision).toList := by
  obtain ⟨db₁, hstores, hdb⟩ := h.stores
  rw [hdb]
  exact hstores.founderGateDecisions

theorem Entry.CommitsTo.commandReceipts (h : entry.CommitsTo w w') :
    w'.db.commandReceipts = w.db.commandReceipts ++ [entry.receipt] := by
  obtain ⟨db₁, hstores, hdb⟩ := h.stores
  rw [hdb, ← hstores.commandReceipts]

theorem Keyed.commit (h : Keyed w.db) (hcommits : entry.CommitsTo w w') : Keyed w'.db := by
  have hpolicyFree := List.all_eq_true.mp hcommits.policyFree
  exact
    { policyDecisions := by
        rw [hcommits.policyDecisions]
        refine Table.nodup_key_append h.policyDecisions fun p hp hkey => ?_
        have hfree := hpolicyFree p hp
        simp [hkey] at hfree
      commands := by
        rw [hcommits.policyDecisions]
        refine Table.nodup_key_append h.commands fun p hp hkey => ?_
        have hfree := hpolicyFree p hp
        obtain ⟨hcompany, hcommand⟩ := Prod.mk.inj hkey
        simp [hcompany, hcommand] at hfree
      gates := by
        rw [hcommits.founderGateDecisions]
        refine nodup_map_append_toList h.gates fun d hd d' hd' hkey => ?_
        obtain ⟨o, ho, rfl⟩ := Option.mem_map.mp hd
        have hfree := List.all_eq_true.mp (hcommits.decisionFree o ho) d' hd'
        obtain ⟨hcompany, hrest⟩ := Prod.mk.inj hkey
        obtain ⟨hrun, hgate⟩ := Prod.mk.inj hrest
        simp [hcompany, hrun, hgate] at hfree
      commandReceipts := by
        rw [hcommits.commandReceipts]
        exact Table.nodup_key_append h.commandReceipts hcommits.keyFree }

/-! ## The ledger of a history -/

/-- The tables are the ledger of these entries, whose identifiers are drawn one after the other. -/
structure Accounted (entries : List Entry) (s : GateState) : Prop where
  records : Records entries s.db
  coherent : ∀ entry ∈ entries, entry.Coherent
  keyed : Keyed s.db
  drawn : Supply.Drawn 0 s.nextId (entries.flatMap Entry.ids)

namespace Accounted

variable {entries : List Entry} {s s' : GateState}

theorem empty (nextId : Uuid) : Accounted [] ⟨.empty, nextId⟩ where
  records := ⟨rfl, rfl, rfl, rfl, rfl, rfl, rfl⟩
  coherent _ h := by cases h
  keyed := ⟨List.nodup_nil, List.nodup_nil, List.nodup_nil, List.nodup_nil⟩
  drawn := .nil (Nat.zero_le _)

theorem commit (h : Accounted entries (.of w)) (hcommits : entry.CommitsTo w w') :
    Accounted (entries ++ [entry]) (.of w') where
  records := by
    obtain ⟨db₁, hstores, hdb⟩ := hcommits.stores
    change Records _ w'.db
    rw [hdb]
    exact h.records.append hstores
  coherent := List.forall_mem_append.mpr
    ⟨h.coherent, List.forall_mem_singleton.mpr hcommits.coherent⟩
  keyed := h.keyed.commit hcommits
  drawn := by
    rw [List.flatMap_append, List.flatMap_singleton]
    exact h.drawn.append hcommits.drawn

/-- Changes of other tables. -/
theorem changedBy (h : Accounted entries s) (change : ProofDb → ProofDb) (drawn : ℕ) :
    Accounted entries ⟨s.db.changedBy change, s.nextId + drawn⟩ where
  records := ⟨h.records.policyDecisions, h.records.founderGateDecisions,
    h.records.approvedArtifactBindings, h.records.continuationIntents, h.records.domainEvents,
    h.records.outboxMessages, h.records.commandReceipts⟩
  coherent := h.coherent
  keyed := ⟨h.keyed.policyDecisions, h.keyed.commands, h.keyed.gates, h.keyed.commandReceipts⟩
  drawn := h.drawn.mono (Nat.le_add_right _ _)

theorem lt_nextId (h : Accounted entries s) {d : FounderGateDecisionRow}
    (hd : d ∈ s.db.founderGateDecisions) : d.id < s.nextId := by
  rw [h.records.founderGateDecisions] at hd
  obtain ⟨entry, hentry, hd⟩ := List.mem_flatMap.mp hd
  obtain ⟨o, ho, rfl⟩ := Option.mem_map.mp (Option.mem_toList.mp hd)
  exact (h.drawn.within _ (List.mem_flatMap.mpr ⟨entry, hentry, entry.mem_ids ho⟩)).2

end Accounted

theorem GateState.step_cases (hreads : platform.ReadsUuids) (s : GateState) (a : GateAction) :
    (∃ change drawn, GateState.step platform s a = ⟨s.db.changedBy change, s.nextId + drawn⟩) ∨
      ∃ entry w w', s = .of w ∧ GateState.step platform s a = .of w' ∧ Entry.CommitsTo entry w w' ∧
        (entry.outcome = none ∨ ∃ r env, a = .execute r env ∧
          entry.toWork.DecidesLocked r w.db w'.db.gateInstances w'.db.runs) := by
  have hsame : ∀ w' : GateWorld, w'.db = s.db → s.nextId ≤ w'.nextId → ∃ change drawn,
      GateState.of w' = ⟨s.db.changedBy change, s.nextId + drawn⟩ := by
    intro w' hdb hnext
    refine ⟨id, w'.nextId - s.nextId, ?_⟩
    rw [GateState.of, hdb, Nat.add_sub_cancel' hnext]
    rfl
  cases a with
  | elsewhere change drawn => exact .inl ⟨change, drawn, rfl⟩
  | execute r env =>
      have hcall : Gate01CommandService.execute ⟨platform, env.policyDecision⟩ r (s.world env) =
        (_, _) := rfl
      rcases execute_cases hreads hcall with hdb | ⟨entry, hcommits, hdecides, -⟩
      · exact .inl (hsame _ hdb (Later.execute (s.world env)))
      · exact .inr ⟨entry, s.world env, _, rfl, rfl, hcommits, .inr ⟨r, env, rfl, hdecides⟩⟩
  | executeRedactedDenial input env =>
      rcases executeRedactedDenial_cases rfl with hdb | ⟨entry, hcommits, hnone, -⟩
      · exact .inl (hsame _ hdb (Later.executeRedactedDenial input (s.world env)))
      · exact .inr ⟨entry, s.world env, _, rfl, rfl, hcommits, .inl hnone⟩

end

end GateProof

end Aico
