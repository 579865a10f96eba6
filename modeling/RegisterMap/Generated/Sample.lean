import RegisterMap.Generated.Code

/-! # A generated package, written out

The package of a test device with one register of each direction and a block read, as the generator
writes it. It stands here as a value of its own, statement by statement, so that what was generated
once can be compared with the definition it came from. -/

namespace RegisterMap.Generated

/-- The definition the package was generated from. -/
def sampleDefinition : String :=
  "\n".intercalate
    ["// Test device with one register of each direction and a block read",
     "device test",
     "",
     "// Read-write register with mixed field types",
     "register RW(0) \x7b",
     "    rw_field1 uint8;",
     "    rw_field2 int16;",
     "    read_field1:r uint32;",
     "    write_field1:w uint16;",
     "\x7d;",
     "",
     "// Status register",
     "register R(1):r \x7b",
     "    status uint8;",
     "    counter int32; // free running",
     "    flags uint8\x7bbit0: 0, bit15: 1-5\x7d;",
     "\x7d;",
     "",
     "// Write-only register",
     "register W(2):w \x7b",
     "    const MAX_VALUE = int8(100);",
     "",
     "    command uint16;",
     "    value int8;",
     "    // configuration bits",
     "    config uint8\x7bbit0: 0, bit23: 2-3\x7d;",
     "\x7d;",
     "",
     "// Block read with the status in front",
     "register Block(3):r \x7b",
     "    status R;",
     "    samples [4]int16;",
     "    gains [2]float32;",
     "\x7d;",
     ""]

/-- The read-write register. -/
def sampleRW : TypeDef where
  register := "RW"
  name := "RW"
  id := 0
  size := 9
  doc := ["Read-write register with mixed field types"]
  members :=
    [⟨"RwField1", .word .uint8, []⟩, ⟨"RwField2", .word .int16, []⟩,
     ⟨"ReadField1", .word .uint32, []⟩, ⟨"WriteField1", .word .uint16, []⟩]
  methods :=
    [⟨.serialize .read, "writes the fields to buf for a read of the register",
      .run (some 9) [⟨"RwField1", .word .uint8⟩, ⟨"RwField2", .word .int16⟩,
        ⟨"ReadField1", .word .uint32⟩, ⟨"WriteField1", .word .uint16⟩]⟩,
     ⟨.serialize .write, "writes the fields to buf for a write to the register",
      .run (some 9) [⟨"RwField1", .word .uint8⟩, ⟨"RwField2", .word .int16⟩,
        ⟨"ReadField1", .word .uint32⟩, ⟨"WriteField1", .word .uint16⟩]⟩,
     ⟨.deserialize .read, "updates the fields from data read from the device",
      .run (some 9) [⟨"RwField1", .word .uint8⟩, ⟨"RwField2", .word .int16⟩,
        ⟨"ReadField1", .word .uint32⟩, ⟨"WriteField1", .word .uint16⟩]⟩,
     ⟨.deserialize .write, "updates the fields from a write command",
      .run (some 9) [⟨"RwField1", .word .uint8⟩, ⟨"RwField2", .word .int16⟩,
        ⟨"ReadField1", .word .uint32⟩, ⟨"WriteField1", .word .uint16⟩]⟩]

/-- The read-only register. -/
def sampleR : TypeDef where
  register := "R"
  name := "R"
  id := 1
  size := 6
  doc := ["Status register"]
  members :=
    [⟨"Status", .word .uint8, []⟩, ⟨"Counter", .word .int32, ["free running"]⟩,
     ⟨"Flags", .word .uint8, []⟩]
  masks :=
    [⟨"RFlagsBit0Mask", "uint8", "0x1", ["bit0 (bit 0)"]⟩,
     ⟨"RFlagsBit15Mask", "uint8", "0x3E", ["bit15 (bits 1-5)"]⟩]
  methods :=
    [⟨.serialize .read, "writes the fields to buf for a read of the register",
      .run (some 6) [⟨"Status", .word .uint8⟩, ⟨"Counter", .word .int32⟩,
        ⟨"Flags", .word .uint8⟩]⟩,
     ⟨.serialize .write, "always fails, register R is read-only",
      .reject "R" (.serialize .write)⟩,
     ⟨.deserialize .read, "updates the fields from data read from the device",
      .run (some 6) [⟨"Status", .word .uint8⟩, ⟨"Counter", .word .int32⟩,
        ⟨"Flags", .word .uint8⟩]⟩,
     ⟨.deserialize .write, "always fails, register R is read-only",
      .reject "R" (.deserialize .write)⟩]

/-- The write-only register. -/
def sampleW : TypeDef where
  register := "W"
  name := "W"
  id := 2
  size := 4
  doc := ["Write-only register"]
  members :=
    [⟨"Command", .word .uint16, []⟩, ⟨"Value", .word .int8, []⟩,
     ⟨"Config", .word .uint8, ["configuration bits"]⟩]
  constants := [⟨"WMaxValue", "int8", "100", []⟩]
  masks :=
    [⟨"WConfigBit0Mask", "uint8", "0x1", ["bit0 (bit 0)"]⟩,
     ⟨"WConfigBit23Mask", "uint8", "0xC", ["bit23 (bits 2-3)"]⟩]
  methods :=
    [⟨.serialize .read, "always fails, register W is write-only",
      .reject "W" (.serialize .read)⟩,
     ⟨.serialize .write, "writes the fields to buf for a write to the register",
      .run (some 4) [⟨"Command", .word .uint16⟩, ⟨"Value", .word .int8⟩,
        ⟨"Config", .word .uint8⟩]⟩,
     ⟨.deserialize .read, "always fails, register W is write-only",
      .reject "W" (.deserialize .read)⟩,
     ⟨.deserialize .write, "updates the fields from a write command",
      .run (some 4) [⟨"Command", .word .uint16⟩, ⟨"Value", .word .int8⟩,
        ⟨"Config", .word .uint8⟩]⟩]

/-- The block read, with the status register in front. -/
def sampleBlock : TypeDef where
  register := "Block"
  name := "Block"
  id := 3
  size := 22
  doc := ["Block read with the status in front"]
  members :=
    [⟨"Status", .nested "R", []⟩, ⟨"Samples", .words .int16 4, []⟩,
     ⟨"Gains", .floats .float32 2, []⟩]
  methods :=
    [⟨.serialize .read, "writes the fields to buf for a read of the register",
      .run (some 22) [⟨"Status", .nested "R"⟩, ⟨"Samples", .words .int16 4⟩,
        ⟨"Gains", .floats .float32 2⟩]⟩,
     ⟨.serialize .write, "always fails, register Block is read-only",
      .reject "Block" (.serialize .write)⟩,
     ⟨.deserialize .read, "updates the fields from data read from the device",
      .run (some 22) [⟨"Status", .nested "R"⟩, ⟨"Samples", .words .int16 4⟩,
        ⟨"Gains", .floats .float32 2⟩]⟩,
     ⟨.deserialize .write, "always fails, register Block is read-only",
      .reject "Block" (.deserialize .write)⟩]

/-- The whole package. -/
def samplePackage : Package where
  name := "testregs"
  doc := ["Test device with one register of each direction and a block read"]
  types := [sampleRW, sampleR, sampleW, sampleBlock]

end RegisterMap.Generated
