/-! Pages: the window a query asks for and the slice of the matches that it gets. -/
namespace LocatorQuery

/-- The window of a query. No count means all matches, no limit means the whole source. -/
structure Window where
  start : Nat := 0
  count : Option Nat := none
  lookupLimit : Option Nat := none
  deriving DecidableEq, Repr

/-- Whether the `matched`-th match, counted from one, is kept after `kept` others. -/
def Window.accepts (w : Window) (matched kept : Nat) : Bool :=
  decide (w.start < matched) && w.count.all fun c => decide (kept < c)

/-- One page of the matches. Paging goes on with a window that starts at `nextStart`. -/
structure Page (α : Type) where
  entries : List α
  start : Nat
  count : Option Nat
  /-- Source items looked at. -/
  examined : Nat
  /-- Items that passed, before the window cut them. -/
  matched : Nat
  nextStart : Option Nat
  lookupLimit : Option Nat
  lookupLimitReached : Bool
  deriving DecidableEq, Repr

namespace Page

variable {α : Type}

/-- The page of a window over known counts; it continues when a match lies behind its end. -/
def ofCounts (entries : List α) (w : Window) (examined matched : Nat) : Page α where
  entries
  start := w.start
  count := w.count
  examined
  matched
  nextStart :=
    if w.start + entries.length < matched then some (w.start + entries.length) else none
  lookupLimit := w.lookupLimit
  lookupLimitReached := w.lookupLimit.any fun limit => decide (limit ≤ examined)

/-- The page that holds just the given items. -/
def ofItems (entries : List α) : Page α := ofCounts entries {} entries.length entries.length

def hasMore (p : Page α) : Bool := p.nextStart.isSome

end Page

/-- The counts of a scan and the items kept so far, latest first. -/
structure Scan (α : Type) where
  kept : List α := []
  keptCount : Nat := 0
  examined : Nat := 0
  matched : Nat := 0

namespace Scan

variable {α : Type}

def step (w : Window) (passes : α → Bool) (s : Scan α) (item : α) : Scan α :=
  let s := { s with examined := s.examined + 1 }
  if passes item then
    let s := { s with matched := s.matched + 1 }
    if w.accepts s.matched s.keptCount then
      { s with kept := item :: s.kept, keptCount := s.keptCount + 1 }
    else s
  else s

/-- One pass over the source up to the lookup limit. -/
def run (w : Window) (passes : α → Bool) (source : List α) : Scan α :=
  let seen := match w.lookupLimit with
    | some limit => source.take limit
    | none => source
  seen.foldl (step w passes) {}

end Scan

/-- The page of the matches in a source. -/
def Page.ofScan {α : Type} (w : Window) (passes : α → Bool) (source : List α) : Page α :=
  let s := Scan.run w passes source
  Page.ofCounts s.kept.reverse w s.examined s.matched

end LocatorQuery
