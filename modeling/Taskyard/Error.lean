/-
This file holds the errors of the library: why a scope ended, why the pool
refused, why a task has no value, why the settings could not be read, and the
error of the application, which is one of these. Every error has a report; an
error that only passes another one on shows the other's message and the
other's causes.
-/

import Taskyard.Duration
import Taskyard.Report

namespace Taskyard

/-- Why a scope ended. -/
inductive EndReason where
  | cancelled
  | deadlineExceeded
deriving DecidableEq, Repr

/-- Why the pool refused. -/
inductive PoolError where
  | invalidCapacity (capacity : Nat)
  | saturated (capacity : Nat)
  | closed
  | releaseTimeout (timeout : Duration)
  | scope (reason : EndReason)
deriving DecidableEq, Repr

/-- Why a task has no value. A task that failed by itself is known by the report of its error. -/
inductive TaskError where
  | timeout (timeout : Duration)
  | scope (reason : EndReason)
  | submit (cause : PoolError)
  | panicked (message : String)
  | failed (cause : Report)
deriving DecidableEq, Repr

/-- The type that the text of an environment variable has to fit. -/
inductive Expected where
  | size
  | word
  | flag
  | other (name : String)
deriving DecidableEq, Repr

/-- Why the settings could not be read. -/
inductive ConfigError where
  | unreadable (path : String) (cause : Report)
  | malformed (path : String)
  | badVariable (name value : String) (expected : Expected)
deriving DecidableEq, Repr

/-- Why the application failed. -/
inductive AppError where
  | pool (cause : PoolError)
  | task (cause : TaskError)
  | config (cause : ConfigError)
deriving DecidableEq, Repr

namespace EndReason

def message : EndReason → String
  | .cancelled => "作用域已取消"
  | .deadlineExceeded => "作用域已超过截止时间"

def name : EndReason → String
  | .cancelled => "Cancelled"
  | .deadlineExceeded => "DeadlineExceeded"

def report (reason : EndReason) : Report := ⟨reason.message, [], reason.name⟩

end EndReason

/-- The detail of an error with one named part. -/
def detailOf (name part value : String) : String :=
  name ++ " \x7b " ++ part ++ ": " ++ value ++ " \x7d"

namespace PoolError

def message : PoolError → String
  | .invalidCapacity capacity => "协程池容量非法: " ++ toString capacity
  | .saturated capacity => "协程池已满 (容量: " ++ toString capacity ++ ")"
  | .closed => "协程池已关闭"
  | .releaseTimeout timeout => "释放协程池超时 (" ++ timeout.text ++ ")"
  | .scope reason => reason.message

def name : PoolError → String
  | .invalidCapacity _ => "InvalidCapacity"
  | .saturated _ => "Saturated"
  | .closed => "Closed"
  | .releaseTimeout _ => "ReleaseTimeout"
  | .scope _ => "Scope"

def detail : PoolError → String
  | .invalidCapacity capacity => detailOf "InvalidCapacity" "capacity" (toString capacity)
  | .saturated capacity => detailOf "Saturated" "capacity" (toString capacity)
  | .closed => "Closed"
  | .releaseTimeout timeout => detailOf "ReleaseTimeout" "timeout" timeout.text
  | .scope reason => "Scope(" ++ reason.name ++ ")"

/-- No error of the pool has a cause: one that passes on the end of a scope shows it as its own. -/
def report (error : PoolError) : Report := ⟨error.message, [], error.detail⟩

end PoolError

namespace TaskError

def message : TaskError → String
  | .timeout span => "任务超时 (" ++ span.text ++ ")"
  | .scope reason => reason.message
  | .submit cause => "提交任务失败: " ++ cause.message
  | .panicked message => "任务 panic: " ++ message
  | .failed cause => cause.message

def name : TaskError → String
  | .timeout _ => "Timeout"
  | .scope _ => "Scope"
  | .submit _ => "Submit"
  | .panicked _ => "Panicked"
  | .failed _ => "Failed"

/-- A refused submission is caused by the refusal; a failed task has the causes of its error. -/
def causes : TaskError → List String
  | .submit cause => cause.report.chain
  | .failed cause => cause.causes
  | .timeout _ | .scope _ | .panicked _ => []

def detail : TaskError → String
  | .timeout span => detailOf "Timeout" "timeout" span.text
  | .scope reason => "Scope(" ++ reason.name ++ ")"
  | .submit cause => "Submit(" ++ cause.detail ++ ")"
  | .panicked message => detailOf "Panicked" "message" (Text.quoted message)
  | .failed cause => "Failed(" ++ cause.detail ++ ")"

def report (error : TaskError) : Report := ⟨error.message, error.causes, error.detail⟩

def isTimeout : TaskError → Bool
  | .timeout _ => true
  | _ => false

/-- The end of the scope that left the task without a value, if that was the reason. -/
def endReason? : TaskError → Option EndReason
  | .scope reason => some reason
  | _ => none

end TaskError

namespace Expected

def name : Expected → String
  | .size => "usize"
  | .word => "u64"
  | .flag => "bool"
  | .other name => name

end Expected

namespace ConfigError

/-- The message of a malformed document ends where the wording of the fault would follow. -/
def message : ConfigError → String
  | .unreadable path cause => "读取配置文件失败 (" ++ path ++ "): " ++ cause.message
  | .malformed path => "TOML解析失败 (" ++ path ++ "): "
  | .badVariable name value expected =>
    "环境变量 " ++ name ++ " 解析失败: 值 '" ++ value ++ "' 无法转换为 " ++ expected.name

def name : ConfigError → String
  | .unreadable _ _ => "ReadFailed"
  | .malformed _ => "TomlParseFailed"
  | .badVariable _ _ _ => "EnvVarParseFailed"

def causes : ConfigError → List String
  | .unreadable _ cause => cause.chain
  | .malformed _ | .badVariable _ _ _ => []

def detail : ConfigError → String
  | .unreadable path cause =>
    "ReadFailed \x7b path: " ++ Text.quoted path ++ ", source: " ++ cause.detail ++ " \x7d"
  | .malformed path => "TomlParseFailed \x7b path: " ++ Text.quoted path ++ " \x7d"
  | .badVariable name value expected =>
    "EnvVarParseFailed \x7b var_name: " ++ Text.quoted name ++ ", value: " ++ Text.quoted value ++
      ", expected_type: " ++ Text.quoted expected.name ++ " \x7d"

def report (error : ConfigError) : Report := ⟨error.message, error.causes, error.detail⟩

end ConfigError

namespace AppError

/-- The report of the error behind the application's. -/
def cause : AppError → Report
  | .pool cause => cause.report
  | .task cause => cause.report
  | .config cause => cause.report

def message : AppError → String
  | .pool cause => "协程池错误: " ++ cause.message
  | .task cause => "任务错误: " ++ cause.message
  | .config cause => "配置错误: " ++ cause.message

def name : AppError → String
  | .pool cause => "Pool." ++ cause.name
  | .task cause => "Task." ++ cause.name
  | .config _ => "Config"

def detail : AppError → String
  | .pool cause => "Pool(" ++ cause.detail ++ ")"
  | .task cause => "Task(" ++ cause.detail ++ ")"
  | .config cause => "Config(" ++ cause.detail ++ ")"

def report (error : AppError) : Report := ⟨error.message, error.cause.chain, error.detail⟩

end AppError

end Taskyard
