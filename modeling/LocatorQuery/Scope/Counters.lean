import LocatorQuery.Item.Status

/-! Counts of test runs by outcome. -/
namespace LocatorQuery

structure Counters where
  total : Nat := 0
  passed : Nat := 0
  /-- Failures that are not muted. -/
  failed : Nat := 0
  ignored : Nat := 0
  /-- Muted failures. -/
  muted : Nat := 0
  deriving DecidableEq, Repr

/-- Every run counts once in the total and once elsewhere. -/
def Counters.record (c : Counters) (status : Status) (muted : Bool) : Counters :=
  let c := { c with total := c.total + 1 }
  match status, muted with
  | .success, _ => { c with passed := c.passed + 1 }
  | .failure, false => { c with failed := c.failed + 1 }
  | .failure, true => { c with muted := c.muted + 1 }
  | .unknown, _ => { c with ignored := c.ignored + 1 }

inductive Counter
  | total
  | passed
  | failed
  | ignored
  | muted
  deriving DecidableEq, Repr

namespace Counter

def all : List Counter := [total, passed, failed, ignored, muted]

def name : Counter → String
  | total => "total"
  | passed => "passed"
  | failed => "failed"
  | ignored => "ignored"
  | muted => "muted"

def read : Counter → Counters → Nat
  | total, c => c.total
  | passed, c => c.passed
  | failed, c => c.failed
  | ignored, c => c.ignored
  | muted, c => c.muted

end Counter

end LocatorQuery
