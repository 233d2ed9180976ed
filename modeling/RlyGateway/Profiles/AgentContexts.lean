import RlyGateway.Core.CanonicalRequest
import RlyGateway.Library.OrderedMap
import RlyGateway.Routing.ModelIntent

/-!
# Agent execution contexts

`src/profiles/agent-contexts.ts`: the model that each agent of a client session was last resolved to,
for the subagents that inherit it. A context counts only while its lease is active.
-/

namespace RlyGateway

inductive ExecutionContextRole where
  | main
  | subagent
deriving DecidableEq, Repr

structure ExecutionContext where
  claudeSessionId : String
  agentId : String
  parentAgentId : Option String
  role : ExecutionContextRole
  leaseId : String
  profileId : String
  profileName : String
  accessProviderId : String
  resolvedModelId : String
  modelFamily : Option String
  effectiveTier : Option LogicalTier
  mappingRevision : Option ℕ
  registryRevision : Option ℕ
deriving DecidableEq, Repr

/-- The contexts by session and agent, and the leases that are active. -/
structure AgentExecutionContextRegistry where
  contexts : OrderedMap String ExecutionContext
  leaseActive : String → Bool

def agentSessionKey (leaseId claudeSessionId agentId : String) : String :=
  leaseId ++ "|" ++ claudeSessionId ++ "|" ++ agentId

namespace AgentExecutionContextRegistry

/-- A context is recorded under its own lease, session and agent. -/
def record (registry : AgentExecutionContextRegistry) (context : ExecutionContext) :
    AgentExecutionContextRegistry :=
  if context.agentId = "" ∨ context.claudeSessionId = "" then registry
  else if !registry.leaseActive context.leaseId then registry
  else { registry with
    contexts := registry.contexts.set
      (agentSessionKey context.leaseId context.claudeSessionId context.agentId) context }

/-- The context of one agent. -/
def resolve (registry : AgentExecutionContextRegistry) (leaseId claudeSessionId agentId : String) :
    Option ExecutionContext :=
  (registry.contexts.get? (agentSessionKey leaseId claudeSessionId agentId)).filter fun context =>
    registry.leaseActive context.leaseId

/-- The contexts of one client session, in the order in which they were first recorded. -/
def contextsForSession (registry : AgentExecutionContextRegistry)
    (leaseId claudeSessionId : String) : List ExecutionContext :=
  let start := (leaseId ++ "|" ++ claudeSessionId ++ "|").toList
  (registry.contexts.entries.filter fun entry =>
    start.isPrefixOf entry.1.toList && registry.leaseActive entry.2.leaseId).map (·.2)

/-- The context of the agent without a parent. -/
def mainContext (registry : AgentExecutionContextRegistry) (leaseId claudeSessionId : String) :
    Option ExecutionContext :=
  (registry.contextsForSession leaseId claudeSessionId).find? (·.role = .main)

end AgentExecutionContextRegistry

/-- The context that a subagent's request inherits: its parent's, else that of the main agent. -/
def resolveParentExecutionReference (agent : Option AgentContext) (leaseId : String)
    (registry : Option AgentExecutionContextRegistry) : Option ExecutionContext := do
  let agent ← agent
  let claudeSessionId ← agent.claudeSessionId
  let registry ← registry
  let parentAgentId ← agent.parentAgentId
  (registry.resolve leaseId claudeSessionId parentAgentId).or
    (registry.mainContext leaseId claudeSessionId)

end RlyGateway
