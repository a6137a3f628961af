import LocatorQuery.Text.Blank
import LocatorQuery.Text.Numeral
import LocatorQuery.Query.Finder

/-! Settings of a process, from variables of its environment. -/
namespace LocatorQuery

structure Environment where
  pageSize : Nat := 100
  lookupLimit : Option Nat := none
  strict : Bool := true
  logLevel : String := "info"
  deriving DecidableEq, Repr

namespace Environment

/-- The flag that a word stands for, in any case. -/
def switch? (raw : String) : Option Bool :=
  match (Text.trimmed raw).toLower with
  | "1" | "true" | "yes" | "on" => some true
  | "0" | "false" | "no" | "off" => some false
  | _ => none

def natural? (raw : String) : Option Nat := Text.natural? (Text.trim raw.toList)

/-- A variable that is not set or has no meaning leaves the default; a limit of zero is none. -/
def ofVariables (lookup : String → Option String) : Environment where
  pageSize := ((lookup "LOCQ_DEFAULT_PAGE_SIZE").bind natural?).getD 100
  lookupLimit := ((lookup "LOCQ_LOOKUP_LIMIT").bind natural?).filter (· != 0)
  strict := ((lookup "LOCQ_STRICT_LOCATORS").bind switch?).getD true
  logLevel := (((lookup "LOCQ_LOG").map Text.trimmed).filter (· != "")).getD "info"

def settings (e : Environment) : Settings where
  pageSize := some e.pageSize
  lookupLimit := e.lookupLimit
  strict := e.strict

end Environment

end LocatorQuery
