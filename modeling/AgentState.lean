import AgentState.Rule
import AgentState.Text.Places
import AgentState.Text.SpanText
import AgentState.Wire.Codec
import AgentState.Config.Document
import AgentState.Document.Report
import AgentState.Document.Cycle
import AgentState.Text.Serial
import AgentState.Toml.Config
import AgentState.Store.Gate
import AgentState.Cycle.Tick
import AgentState.Proofs.Store.Feed
import AgentState.Proofs.Store.Lineage
import AgentState.Proofs.Store.Accounts
import AgentState.Proofs.Store.Soundness
import AgentState.Proofs.Wire.Codec
import AgentState.Proofs.Wire.Frame
import AgentState.Proofs.Cycle.SoleWriter
import AgentState.Proofs.Store.Pruning
import AgentState.Proofs.Cycle.Undisturbed
import AgentState.Proofs.Wire.Gate
import AgentState.Proofs.Wire.Cut
import AgentState.Proofs.Cycle.Contest
import AgentState.Proofs.Store.Isolation
import AgentState.Proofs.Store.Effect
import AgentState.Proofs.Store.Publication
import AgentState.Proofs.Store.Balance
import AgentState.Proofs.Rule.Walk
import AgentState.Proofs.Cycle.ColdStart
import AgentState.Proofs.Cycle.Minutes
import AgentState.Proofs.Cycle.Statistics
import AgentState.Proofs.Store.Admission
import AgentState.Proofs.Elapsed
import AgentState.Proofs.Store.Findings
import AgentState.Proofs.Document.Apart
import AgentState.Proofs.Rule.Precedence
import AgentState.Proofs.Store.Numbering
import AgentState.Proofs.Config.Layers
