import SkillKit.Gauge.Coverage
import SkillKit.Gauge.Round
import SkillKit.Gauge.SelfCheck
import SkillKit.Gauge.TimeShare
import SkillKit.Main
import SkillKit.Proofs.Analysis.Connecting
import SkillKit.Proofs.Benchmark.Tokens
import SkillKit.Proofs.Connector.Dialect
import SkillKit.Proofs.Connector.Secrets
import SkillKit.Proofs.Connector.Status
import SkillKit.Proofs.Connector.Unresolved
import SkillKit.Proofs.Connector.Variables
import SkillKit.Proofs.Gauge.Reordered
import SkillKit.Proofs.Kernel.Listening
import SkillKit.Proofs.Knowledge.Counters
import SkillKit.Proofs.Knowledge.Crossing
import SkillKit.Proofs.Knowledge.Purge
import SkillKit.Proofs.Knowledge.Questions
import SkillKit.Proofs.Optimize.Success
import SkillKit.Proofs.Review.CarryOver
import SkillKit.Proofs.Review.EndTag
import SkillKit.Proofs.Review.RunIds
import SkillKit.Proofs.Skill.Check
import SkillKit.Proofs.Trigger.CleanUp
import SkillKit.Proofs.Trigger.History
import SkillKit.Proofs.Trigger.ToolCall
import SkillKit.Workload.All
