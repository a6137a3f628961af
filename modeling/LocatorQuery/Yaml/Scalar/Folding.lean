import LocatorQuery.Yaml.Cell

/-! How the ends of lines inside a scalar are joined. -/
namespace LocatorQuery.Yaml

/-- What blanks and breaks between two words stand for. One line feed is a blank and goes missing
ahead of further breaks; blanks around breaks do not count. -/
def folded (gap : List Char) : List Char :=
  match gap.filter isBreak with
  | [] => gap
  | '\n' :: [] => [' ']
  | '\n' :: breaks => breaks
  | breaks => breaks

end LocatorQuery.Yaml
