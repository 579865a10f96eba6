import RegisterMap.Cli.Table
import RegisterMap.Device.Basic

/-! # The list of registers

The registers of a device in a table: a line for each register, its fields with their bit ranges,
and its constants. -/

namespace RegisterMap.Cli

def fieldRows (d : Device) (f : Field) : List String :=
  (s!"  {f.name}\t{d.typeName f}\t{f.access.text}\t" ++ " ".intercalate f.doc)
    :: f.bits.map fun b => s!"    {b.text}\tmask 0x{Numeral.hex b.mask}\t\t"

def constantRow (c : Constant) : String :=
  s!"  const {c.name}\t{c.value.kind.name}\t{c.value.text}\t"

/-- The lines of the register at an index. -/
def registerRows (d : Device) (i : Nat) (r : Register) : List String :=
  (s!"{r.name}\t{Numeral.decimal r.id.toNat}\t{r.direction.text}\t"
      ++ s!"{Numeral.decimal (d.registerSize i)} bytes")
    :: r.fields.flatMap (fieldRows d) ++ r.constants.map constantRow

/-- The table of a device. -/
def listing (d : Device) : String :=
  let rows := d.registers.zipIdx.flatMap fun e => registerRows d e.2 e.1
  Table.layout (String.join ((s!"device {d.name}" :: rows).map (· ++ "\n")))

end RegisterMap.Cli
