import SkillKit.Workload.Grading
import SkillKit.Workload.Kernels
import SkillKit.Workload.Learning
import SkillKit.Workload.Optimizing
import SkillKit.Workload.Pages
import SkillKit.Workload.Reviews
import SkillKit.Workload.Sessions
import SkillKit.Workload.Skills
import SkillKit.Workload.Streams
import SkillKit.Workload.Workflows

/-!
# All workloads
-/

namespace SkillKit.Workload

def all : List Workload := [
  grading, learning, connections, pages, reviews, optimizing, kernels, streams, skills, workflows,
  sessions]

def named? (name : String) : Option Workload :=
  all.find? (·.benchName == name)

end SkillKit.Workload
