import TagLint.Command.Reader

/-! What the program relies on in the reader of its command line. -/
namespace TagLint.Command

namespace Reader

/-- The line was read with these options, each of which has a name of its own. -/
structure Reads (r : Reader) (specs : List OptionSpec) (line : r.Line) : Prop where
  names : (specs.map (·.name)).Nodup
  read : ∃ tree mixed args, r.read tree specs mixed args = .ok (.run line)

/-- The documented behaviour of the reader. -/
structure Lawful (r : Reader) : Prop where
  /-- A flag is on if it stands on the line, and off without it. -/
  flag {specs : List OptionSpec} {line : r.Line} {spec : OptionSpec} : r.Reads specs line →
    spec ∈ specs → spec.takes = none → r.flag line spec.name = r.has line spec.name
  /-- Without a default, a number is there if its option stands on the line. -/
  isSome_whole? {specs : List OptionSpec} {line : r.Line} {spec : OptionSpec} :
    r.Reads specs line → spec ∈ specs → spec.takes = some .positive →
    (r.whole? line spec.name).isSome = r.has line spec.name
  /-- A number out of the range is refused. -/
  positive {specs : List OptionSpec} {line : r.Line} {spec : OptionSpec} {n : Int} :
    r.Reads specs line → spec ∈ specs → spec.takes = some .positive →
    r.whole? line spec.name = some n → 1 ≤ n
  /-- Without a default, a choice is there if its option stands on the line. -/
  isSome_choice {specs : List OptionSpec} {line : r.Line} {spec : OptionSpec} {names : List Text} :
    r.Reads specs line → spec ∈ specs → spec.takes = some (.choice names) →
    (r.text? line spec.name).isSome = r.has line spec.name
  /-- What is none of the choices is refused. -/
  choice {specs : List OptionSpec} {line : r.Line} {spec : OptionSpec} {names : List Text}
    {t : Text} : r.Reads specs line → spec ∈ specs → spec.takes = some (.choice names) →
    r.text? line spec.name = some t → t ∈ names
  /-- Of two flags that overrule each other one counts if one stands on the line. -/
  isSome_either? {specs : List OptionSpec} {line : r.Line} {on off : OptionSpec} :
    r.Reads specs line → on ∈ specs → off ∈ specs → on.takes = none → off.takes = none →
    (r.either? line on.name off.name).isSome = (r.has line on.name || r.has line off.name)

end Reader
end TagLint.Command
