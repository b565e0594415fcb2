import RabbitMediator.Exceptions

namespace RabbitMediator

/-- A duration in ticks of 100 ns, held in 64 bits. -/
structure TimeSpan where
  ticks : Int
  lower : -9223372036854775808 ≤ ticks
  upper : ticks ≤ 9223372036854775807
deriving DecidableEq

namespace TimeSpan

def zero : TimeSpan := ⟨0, by decide, by decide⟩

/-- `Timeout.InfiniteTimeSpan`: minus one millisecond. -/
def infinite : TimeSpan := ⟨-10000, by decide, by decide⟩

def ofTicks (ticks : Int) : Except Exception TimeSpan :=
  if h : -9223372036854775808 ≤ ticks ∧ ticks ≤ 9223372036854775807 then .ok ⟨ticks, h.1, h.2⟩
  else .error (.new .overflow "TimeSpan overflowed because the duration is too long.")

def sub (a b : TimeSpan) : Except Exception TimeSpan := ofTicks (a.ticks - b.ticks)

/-- `TotalMilliseconds` cut off to a whole number, as the timers of the runtime read it. -/
def milliseconds (t : TimeSpan) : Int := t.ticks.tdiv 10000

/-- The range `Task.Delay` and `CancellationTokenSource.CancelAfter` accept. -/
def timerAccepts (t : TimeSpan) : Bool := -1 ≤ t.milliseconds && t.milliseconds ≤ 4294967294

def timer (t : TimeSpan) : Except Exception Unit :=
  if t.timerAccepts then .ok ()
  else .error (.new .argumentOutOfRange "The value needs to translate in milliseconds to -1 (signifying an infinite timeout), 0, or a positive integer less than or equal to the maximum allowed timer duration.")

/-- `TotalMilliseconds` under the format `0`: rounded to the nearest whole number, halves away
from zero. -/
def formatMilliseconds (t : TimeSpan) : String :=
  let rounded := toString ((t.ticks.natAbs + 5000) / 10000)
  if t.ticks < 0 then "-" ++ rounded else rounded

/-- `Convert.ToInt64` of `TotalMilliseconds`: rounded to the nearest whole number, halves to the even
one. -/
def toInt64Milliseconds (t : TimeSpan) : Int :=
  let whole := t.ticks / 10000
  let rest := t.ticks % 10000
  if rest < 5000 ∨ rest = 5000 ∧ whole % 2 = 0 then whole else whole + 1

theorem timer_ok_iff {t : TimeSpan} : t.timer = .ok () ↔ t.timerAccepts = true := by
  unfold timer
  split <;> simp_all

end TimeSpan

/-- `TimeSpan.FromSeconds(10)`, the default of both timeouts. -/
def tenSeconds : TimeSpan := ⟨100000000, by decide, by decide⟩

end RabbitMediator
