import Mathlib.Init

namespace RabbitMediator

/-- The exception types the library throws itself or tells apart in a catch clause. -/
inductive ExceptionType
  | argument
  | argumentNull
  | argumentOutOfRange
  | invalidCast
  | invalidOperation
  | missingMethod
  | nullReference
  | objectDisposed
  | operationCanceled
  | taskCanceled
  | overflow
  | target
  | targetInvocation
  | timeout
  /-- Any class deriving from `RabbitMQClientException`. -/
  | rabbitMQClient (fullName : String)
  | mediatorSendFailure
  | mediatorTimeout
  | other (fullName : String)
deriving DecidableEq, Repr

def ExceptionType.fullName : ExceptionType → String
  | .argument => "System.ArgumentException"
  | .argumentNull => "System.ArgumentNullException"
  | .argumentOutOfRange => "System.ArgumentOutOfRangeException"
  | .invalidCast => "System.InvalidCastException"
  | .invalidOperation => "System.InvalidOperationException"
  | .missingMethod => "System.MissingMethodException"
  | .nullReference => "System.NullReferenceException"
  | .objectDisposed => "System.ObjectDisposedException"
  | .operationCanceled => "System.OperationCanceledException"
  | .taskCanceled => "System.Threading.Tasks.TaskCanceledException"
  | .overflow => "System.OverflowException"
  | .target => "System.Reflection.TargetException"
  | .targetInvocation => "System.Reflection.TargetInvocationException"
  | .timeout => "System.TimeoutException"
  | .rabbitMQClient fullName => fullName
  | .mediatorSendFailure => "Weltmeyer.RabbitMediator.RabbitMediatorSendFailureException"
  | .mediatorTimeout => "Weltmeyer.RabbitMediator.RabbitMediatorTimeoutException"
  | .other fullName => fullName

structure ExceptionHead where
  type : ExceptionType
  message : String
  source : Option String
  stackTrace : Option String
deriving DecidableEq, Repr

/-- An exception, with its inner exception if it has one. -/
inductive Exception
  | plain (head : ExceptionHead)
  | wrapping (head : ExceptionHead) (inner : Exception)
deriving DecidableEq, Repr

namespace Exception

def head : Exception → ExceptionHead
  | .plain h => h
  | .wrapping h _ => h

def innerException : Exception → Option Exception
  | .plain _ => none
  | .wrapping _ inner => some inner

def type (e : Exception) : ExceptionType := e.head.type

/-- `new T(message)`: neither source nor stack trace is set before it is thrown. -/
def new (type : ExceptionType) (message : String) : Exception := .plain ⟨type, message, none, none⟩

def isRabbitMQClientException (e : Exception) : Bool :=
  match e.type with
  | .rabbitMQClient _ => true
  | _ => false

def isOperationCanceledException (e : Exception) : Bool :=
  match e.type with
  | .operationCanceled | .taskCanceled => true
  | _ => false

/-- What reflection throws when the invoked method threw. -/
def invocation (inner : Exception) : Exception :=
  .wrapping ⟨.targetInvocation, "Exception has been thrown by the target of an invocation.", none, none⟩ inner

/-- The catch clauses around an invocation look through it. -/
def unwrapInvocation (e : Exception) : Exception :=
  match e.type, e.innerException with
  | .targetInvocation, some inner => inner
  | _, _ => e

/-- The exceptions inside each other. -/
def count : Exception → Nat
  | .plain _ => 1
  | .wrapping _ inner => inner.count + 1

end Exception

def nullReference : Exception :=
  .new .nullReference "Object reference not set to an instance of an object."

structure ExceptionDataHead where
  errorMessage : String
  stacktrace : Option String
  typeFullName : Option String
  source : Option String
deriving DecidableEq, Repr

/-- `ExceptionData`, with its `InnerException` if it has one. -/
inductive ExceptionData
  | plain (head : ExceptionDataHead)
  | wrapping (head : ExceptionDataHead) (innerException : ExceptionData)
deriving DecidableEq, Repr

def ExceptionHead.toData (h : ExceptionHead) : ExceptionDataHead :=
  ⟨h.message, h.stackTrace, some h.type.fullName, h.source⟩

def ExceptionData.fromException : Exception → ExceptionData
  | .plain h => .plain h.toData
  | .wrapping h inner => .wrapping h.toData (fromException inner)

def ExceptionData.head : ExceptionData → ExceptionDataHead
  | .plain h => h
  | .wrapping h _ => h

/-- The data of an exception names its type and its message. -/
theorem ExceptionData.head_fromException (e : Exception) :
    (fromException e).head = e.head.toData := by
  cases e <;> rfl

@[simp] theorem Exception.count_new (type : ExceptionType) (message : String) : (new type message).count = 1 := rfl

@[simp] theorem Exception.unwrapInvocation_invocation (e : Exception) :
    (invocation e).unwrapInvocation = e := rfl

/-- Code that goes on after a step has had a value from it. -/
theorem except_bind_eq_ok {α β : Type} {x : Except Exception α} {f : α → Except Exception β} {b : β} :
    (x >>= f) = .ok b ↔ ∃ a, x = .ok a ∧ f a = .ok b := by
  cases x with
  | error e => simp [bind, Except.bind]
  | ok a => simp [bind, Except.bind]

theorem except_bind_eq_error {α β : Type} {x : Except Exception α} {f : α → Except Exception β}
    {e : Exception} : (x >>= f) = .error e ↔ x = .error e ∨ ∃ a, x = .ok a ∧ f a = .error e := by
  cases x with
  | error e => simp [bind, Except.bind]
  | ok a => simp [bind, Except.bind]

/-- Each turn of a loop that has completed has completed. -/
theorem turn_of_foldlM {α β : Type} {f : β → α → Except Exception β} {xs : List α} {b b' : β}
    (h : xs.foldlM f b = .ok b') {a : α} (ha : a ∈ xs) : ∃ c c', f c a = .ok c' := by
  induction xs generalizing b with
  | nil => cases ha
  | cons x xs ih =>
    rw [List.foldlM_cons] at h
    obtain ⟨c, first, rest⟩ := except_bind_eq_ok.mp h
    rcases List.mem_cons.mp ha with rfl | ha
    · exact ⟨b, c, first⟩
    · exact ih rest ha

def brokerUnreachable : Exception :=
  .new (.rabbitMQClient "RabbitMQ.Client.Exceptions.BrokerUnreachableException")
    "None of the specified endpoints were reachable"

end RabbitMediator
