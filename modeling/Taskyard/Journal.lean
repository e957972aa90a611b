/-
This file holds what the library writes into its journal: one note for every
event worth one, with a level and a text.
-/

import Taskyard.Backlog
import Taskyard.Options

namespace Taskyard

/-- How much a note matters. -/
inductive Level where
  | debug
  | info
  | warn
  | error
deriving DecidableEq, Repr

def Level.name : Level → String
  | .debug => "DEBUG"
  | .info => "INFO"
  | .warn => "WARN"
  | .error => "ERROR"

/-- An event worth a note. -/
inductive Note where
  | opened (options : Options)
  | pushed (scope : ScopeId) (task : TaskId) (count : Nat)
  | nothingPending (scope : ScopeId)
  | endedBefore (scope : ScopeId) (reason : EndReason) (count : Nat)
  | dispatched (scope : ScopeId) (count : Nat) (timeout : Duration)
  | notSubmitted (scope : ScopeId) (task : TaskId) (error : PoolError)
  | taskFailed (scope : ScopeId) (task : TaskId) (error : TaskError)
  | timedOut (scope : ScopeId) (timeout : Duration)
  | endedDuring (scope : ScopeId) (reason : EndReason)
  | finished (scope : ScopeId) (succeeded size : Nat) (elapsed : Duration)
  | bodyPanicked (message : String)
  | slotsClosed (running : Nat)
  | released (dropped running : Nat)
  /-- Said by a body or by the application. -/
  | said (level : Level) (text : String)
deriving DecidableEq, Repr

namespace Note

def level : Note → Level
  | .opened _ | .released _ _ => .info
  | .pushed _ _ _ | .nothingPending _ | .dispatched _ _ _ | .finished _ _ _ _ | .slotsClosed _ =>
    .debug
  | .endedBefore _ _ _ | .notSubmitted _ _ _ | .taskFailed _ _ _ | .timedOut _ _ |
    .endedDuring _ _ => .warn
  | .bodyPanicked _ => .error
  | .said level _ => level

def text : Note → String
  | .opened options =>
    "🚀 任务池已创建: 容量 " ++ toString options.capacity ++ " | " ++
      (if options.nonblocking then "非阻塞模式" else "阻塞模式") ++
      " | 默认超时 " ++ options.taskTimeout.text
  | .pushed scope task count =>
    scope.shown ++ " 追加任务 " ++ task.shown ++ " (当前 " ++ toString count ++ " 个)"
  | .nothingPending scope => scope.shown ++ " 没有待执行的任务"
  | .endedBefore scope reason count =>
    scope.shown ++ " 执行前作用域已结束: " ++ reason.message ++ "，" ++ toString count ++
      " 个任务未执行"
  | .dispatched scope count timeout =>
    "📦 " ++ scope.shown ++ " 开始执行 " ++ toString count ++ " 个任务 (超时 " ++ timeout.text ++ ")"
  | .notSubmitted scope task error =>
    scope.shown ++ " 任务 " ++ task.shown ++ " 提交失败: " ++ error.message
  | .taskFailed scope task error =>
    scope.shown ++ " 任务 " ++ task.shown ++ " 失败: " ++ error.message
  | .timedOut scope timeout => scope.shown ++ " 批量执行超时 (" ++ timeout.text ++ ")"
  | .endedDuring scope reason => scope.shown ++ " 等待期间作用域结束: " ++ reason.message
  | .finished scope succeeded size elapsed =>
    "✓ " ++ scope.shown ++ " 执行完成: 成功 " ++ toString succeeded ++ "/" ++ toString size ++
      " | 耗时 " ++ elapsed.text
  | .bodyPanicked message => "工作池任务 panic: " ++ message
  | .slotsClosed running => "工作池已关闭, 在途任务: " ++ toString running
  | .released dropped running =>
    "任务池已释放: 丢弃暂存任务 " ++ toString dropped ++ " 个, 在途任务 " ++ toString running ++ " 个"
  | .said _ text => text

end Note

end Taskyard
